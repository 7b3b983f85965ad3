import Mathlib.Data.List.Sort

/-!
# Insertion-ordered dictionaries

`Dict κ α` is the list of the entries in insertion order, the order Python's `dict` keeps:
assigning to a present key keeps its place, a new key goes to the end.  A lookup reads the first
entry of a key, so an entry hidden behind another one of the same key is never seen.
-/

/-- A dictionary as the list of its entries, in insertion order. -/
abbrev Dict (κ α : Type) := List (κ × α)

namespace Dict

variable {κ α β : Type} [DecidableEq κ]

/-- `d.get(k)`. -/
def lookup (k : κ) : Dict κ α → Option α
  | [] => none
  | (k', v) :: d => if k' = k then some v else lookup k d

/-- `d[k] = v`. -/
def set (k : κ) (v : α) : Dict κ α → Dict κ α
  | [] => [(k, v)]
  | (k', v') :: d => if k' = k then (k', v) :: d else (k', v') :: set k v d

/-- `d.pop(k, None)`. -/
def erase (k : κ) (d : Dict κ α) : Dict κ α := d.filter (fun e => decide (e.1 ≠ k))

/-- `list(d)`. -/
def keys (d : Dict κ α) : List κ := d.map Prod.fst

/-- `d.update(e)`: the entries of `e` one after the other. -/
def update (d e : Dict κ α) : Dict κ α := e.foldl (fun d kv => d.set kv.1 kv.2) d

/-- `sorted(d.items())`: keys are unique, so the values are never compared. -/
def sorted [LE κ] [DecidableLE κ] (d : Dict κ α) : Dict κ α :=
  d.insertionSort (fun a b => a.1 ≤ b.1)

/-- `d.setdefault(k, v)`, the dictionary it leaves behind. -/
def setdefault (k : κ) (v : α) (d : Dict κ α) : Dict κ α :=
  match d.lookup k with
  | some _ => d
  | none => d.set k v

@[simp] theorem lookup_nil (k : κ) : lookup k ([] : Dict κ α) = none := rfl

theorem lookup_cons (k k' : κ) (v : α) (d : Dict κ α) :
    lookup k ((k', v) :: d) = if k' = k then some v else lookup k d := rfl

theorem set_nil (k : κ) (v : α) : set k v ([] : Dict κ α) = [(k, v)] := rfl

theorem set_cons (k k' : κ) (v v' : α) (d : Dict κ α) :
    set k v ((k', v') :: d) = if k' = k then (k', v) :: d else (k', v') :: set k v d := rfl

@[simp] theorem lookup_set_self (k : κ) (v : α) (d : Dict κ α) :
    lookup k (set k v d) = some v := by
  induction d with
  | nil => simp [set_nil, lookup_cons]
  | cons e d ih =>
    obtain ⟨k', v'⟩ := e
    by_cases h : k' = k
    · simp [set_cons, lookup_cons, h]
    · simp [set_cons, lookup_cons, h, ih]

theorem lookup_set_of_ne {k j : κ} (h : j ≠ k) (v : α) (d : Dict κ α) :
    lookup j (set k v d) = lookup j d := by
  induction d with
  | nil => simp [set_nil, lookup_cons, Ne.symm h]
  | cons e d ih =>
    obtain ⟨k', v'⟩ := e
    by_cases hk : k' = k
    · subst hk
      simp [set_cons, lookup_cons, Ne.symm h]
    · by_cases hj : k' = j
      · subst hj
        simp [set_cons, lookup_cons, hk]
      · simp [set_cons, lookup_cons, hk, hj, ih]

theorem lookup_set (k j : κ) (v : α) (d : Dict κ α) :
    lookup j (set k v d) = if j = k then some v else lookup j d := by
  by_cases h : j = k
  · subst h; simp
  · rw [if_neg h, lookup_set_of_ne h]

/-- Writing back the value a key already has changes nothing. -/
theorem set_eq_self {k : κ} {v : α} {d : Dict κ α} (h : lookup k d = some v) : set k v d = d := by
  induction d with
  | nil => simp at h
  | cons e d ih =>
    obtain ⟨k', v'⟩ := e
    by_cases hk : k' = k
    · simp only [lookup_cons, hk, if_true, Option.some.injEq] at h
      simp [set_cons, hk, h]
    · simp only [lookup_cons, hk, if_false] at h
      simp [set_cons, hk, ih h]

/-- Of two writes to one key the later one counts. -/
theorem set_set (k : κ) (v w : α) (d : Dict κ α) : set k w (set k v d) = set k w d := by
  induction d with
  | nil => simp [set_nil, set_cons]
  | cons e d ih =>
    obtain ⟨k', v'⟩ := e
    by_cases h : k' = k
    · simp [set_cons, h]
    · simp [set_cons, h, ih]

@[simp] theorem lookup_erase_self (k : κ) (d : Dict κ α) : lookup k (erase k d) = none := by
  induction d with
  | nil => rfl
  | cons e d ih =>
    obtain ⟨k', v'⟩ := e
    by_cases h : k' = k
    · simpa [erase, h] using ih
    · simpa [erase, h, lookup_cons] using ih

theorem lookup_erase_of_ne {k j : κ} (h : j ≠ k) (d : Dict κ α) :
    lookup j (erase k d) = lookup j d := by
  induction d with
  | nil => rfl
  | cons e d ih =>
    obtain ⟨k', v'⟩ := e
    by_cases hk : k' = k
    · subst hk
      simpa [erase, lookup_cons, Ne.symm h] using ih
    · by_cases hj : k' = j
      · subst hj
        simp [erase, hk, lookup_cons]
      · simpa [erase, hk, lookup_cons, hj] using ih

theorem lookup_setdefault_of_ne {k j : κ} (h : j ≠ k) (v : α) (d : Dict κ α) :
    lookup j (setdefault k v d) = lookup j d := by
  unfold setdefault
  cases lookup k d with
  | none => exact lookup_set_of_ne h v d
  | some w => rfl

@[simp] theorem lookup_setdefault_self (k : κ) (v : α) (d : Dict κ α) :
    lookup k (setdefault k v d) = some ((lookup k d).getD v) := by
  unfold setdefault
  cases h : lookup k d with
  | none => simp
  | some w => simp [h]

/-- A key that is present is not filled in. -/
theorem setdefault_eq_self {k : κ} {v w : α} {d : Dict κ α} (h : lookup k d = some w) :
    setdefault k v d = d := by
  unfold setdefault
  rw [h]

theorem lookup_update_of_notMem {j : κ} {e : Dict κ α} (h : j ∉ e.keys) (d : Dict κ α) :
    lookup j (update d e) = lookup j d := by
  induction e generalizing d with
  | nil => rfl
  | cons kv e ih =>
    simp only [keys, List.map_cons, List.mem_cons, not_or] at h
    show lookup j (update (d.set kv.1 kv.2) e) = _
    rw [ih h.2, lookup_set_of_ne h.1]

theorem lookup_eq_none_iff {k : κ} {d : Dict κ α} : lookup k d = none ↔ k ∉ d.keys := by
  induction d with
  | nil => simp [keys]
  | cons e d ih =>
    obtain ⟨k', v'⟩ := e
    by_cases h : k' = k
    · simp [lookup_cons, keys, h]
    · simp only [lookup_cons, h, if_false, ih, keys, List.map_cons, List.mem_cons, not_or]
      exact ⟨fun h' => ⟨Ne.symm h, h'⟩, fun h' => h'.2⟩

theorem mem_of_lookup {k : κ} {v : α} {d : Dict κ α} (h : lookup k d = some v) : (k, v) ∈ d := by
  induction d with
  | nil => simp at h
  | cons e d ih =>
    obtain ⟨k', v'⟩ := e
    by_cases hk : k' = k
    · simp only [lookup_cons, hk, if_true, Option.some.injEq] at h
      subst hk h
      exact List.mem_cons_self
    · simp only [lookup_cons, hk, if_false] at h
      exact List.mem_cons_of_mem _ (ih h)

theorem mem_set {k : κ} {v : α} {e : κ × α} : ∀ {d : Dict κ α}, e ∈ set k v d → e = (k, v) ∨ e ∈ d
  | [], h => Or.inl (by simpa [set_nil] using h)
  | (k', v') :: d, h => by
    rw [set_cons] at h
    split at h
    · next hk =>
      subst hk
      rcases List.mem_cons.mp h with h | h
      · exact Or.inl h
      · exact Or.inr (List.mem_cons_of_mem _ h)
    · rcases List.mem_cons.mp h with h | h
      · exact Or.inr (h ▸ List.mem_cons_self)
      · exact (mem_set h).imp_right (List.mem_cons_of_mem _)

/-- Where the keys are distinct, an entry is what a lookup finds. -/
theorem lookup_of_mem {k : κ} {v : α} : ∀ {d : Dict κ α}, d.keys.Nodup → (k, v) ∈ d →
    lookup k d = some v
  | (k', v') :: d, hd, h => by
    have hd : k' ∉ keys d ∧ (keys d).Nodup := by simpa [keys] using hd
    rw [lookup_cons]
    rcases List.mem_cons.mp h with h | h
    · obtain ⟨rfl, rfl⟩ := Prod.mk.inj h
      rw [if_pos rfl]
    · have hk : k' ≠ k := by
        rintro rfl
        exact hd.1 (List.mem_map_of_mem h)
      rw [if_neg hk]
      exact lookup_of_mem hd.2 h

theorem mem_keys_set {k j : κ} {v : α} : ∀ {d : Dict κ α}, j ∈ keys (set k v d) → j = k ∨ j ∈ keys d
  | d, h => by
    obtain ⟨e, he, rfl⟩ := List.mem_map.mp h
    rcases mem_set he with rfl | he
    · exact Or.inl rfl
    · exact Or.inr (List.mem_map_of_mem he)

/-- A new key goes to the end. -/
theorem set_of_notMem {k : κ} (v : α) : ∀ {d : Dict κ α}, k ∉ keys d → set k v d = d ++ [(k, v)]
  | [], _ => rfl
  | (k', v') :: d, h => by
    have h : ¬ k = k' ∧ k ∉ keys d := by simpa [keys] using h
    rw [set_cons, if_neg (Ne.symm h.1), set_of_notMem v h.2, List.cons_append]

theorem keys_set_of_mem {k : κ} (v : α) : ∀ {d : Dict κ α}, k ∈ keys d → keys (set k v d) = keys d
  | (k', v') :: d, h => by
    rw [set_cons]
    split
    · rfl
    · rename_i hne
      have h : k = k' ∨ k ∈ keys d := by simpa [keys] using h
      exact congrArg (k' :: ·) (keys_set_of_mem v (h.resolve_left (Ne.symm hne)))

theorem length_set_of_mem {k : κ} {d : Dict κ α} (v : α) (h : k ∈ keys d) : (set k v d).length = d.length := by
  have hkeys := congrArg List.length (keys_set_of_mem v h)
  rw [keys, keys, List.length_map, List.length_map] at hkeys
  exact hkeys

theorem length_set_le (k : κ) (v : α) (d : Dict κ α) : (set k v d).length ≤ d.length + 1 := by
  by_cases h : k ∈ keys d
  · rw [length_set_of_mem v h]
    omega
  · rw [set_of_notMem v h, List.length_append, List.length_singleton]

/-- Setting a key keeps the keys distinct. -/
theorem nodup_keys_set (k : κ) (v : α) : ∀ {d : Dict κ α}, (keys d).Nodup → (keys (set k v d)).Nodup
  | [], _ => by simp [set_nil, keys]
  | (k', v') :: d, hd => by
    have hd : k' ∉ keys d ∧ (keys d).Nodup := by simpa [keys] using hd
    rw [set_cons]
    split
    · exact List.nodup_cons.mpr hd
    · next hk =>
      refine List.nodup_cons.mpr ⟨fun hmem => ?_, nodup_keys_set k v hd.2⟩
      rcases mem_keys_set hmem with h | h
      · exact hk h
      · exact hd.1 h

omit [DecidableEq κ] in
theorem nodup_keys_filter (p : κ × α → Bool) {d : Dict κ α} (hd : (keys d).Nodup) :
    (keys (d.filter p)).Nodup :=
  hd.sublist (List.filter_sublist.map _)

/-- Of two dictionaries one behind the other the first one that has the key counts. -/
theorem lookup_append (k : κ) (e : Dict κ α) :
    ∀ d : Dict κ α, lookup k (d ++ e) = (lookup k d).or (lookup k e)
  | [] => rfl
  | (k', v) :: d => by
    have ih := lookup_append k e d
    rw [List.cons_append, lookup_cons, lookup_cons]
    split
    · rfl
    · exact ih

/-- Every value is changed alike. -/
theorem lookup_map_val (f : α → β) (k : κ) :
    ∀ d : Dict κ α, lookup k (d.map fun e => (e.1, f e.2)) = (lookup k d).map f
  | [] => rfl
  | (k', v) :: d => by
    have ih := lookup_map_val f k d
    rw [List.map_cons, lookup_cons, lookup_cons]
    split
    · rfl
    · exact ih

/-- Leaving out other keys makes no difference. -/
theorem lookup_filter_key {p : κ → Bool} {k : κ} (h : p k = true) :
    ∀ d : Dict κ α, lookup k (d.filter fun e => p e.1) = lookup k d
  | [] => rfl
  | (k', v) :: d => by
    have ih := lookup_filter_key h d
    rw [List.filter_cons]
    dsimp only
    split
    · rw [lookup_cons, lookup_cons, ih]
    · rename_i hdrop
      have hne : k' ≠ k := fun heq => hdrop (heq ▸ h)
      rw [lookup_cons, if_neg hne, ih]

/-- What a lookup finds in a part of a dictionary with distinct keys. -/
theorem lookup_of_filter {p : κ × α → Bool} {k : κ} {v : α} {d : Dict κ α} (hd : (keys d).Nodup)
    (h : lookup k (d.filter p) = some v) : lookup k d = some v ∧ p (k, v) = true := by
  obtain ⟨hmem, hp⟩ := List.mem_filter.mp (mem_of_lookup h)
  exact ⟨lookup_of_mem hd hmem, hp⟩

/-- Replacing the value of a present key, counted. -/
theorem countP_set {k : κ} {u : α} {d : Dict κ α} (h : lookup k d = some u) (v : α)
    (p : α → Bool) :
    (set k v d).countP (fun e => p e.2) + (p u).toNat = d.countP (fun e => p e.2) + (p v).toNat := by
  induction d with
  | nil => simp at h
  | cons e d ih =>
    obtain ⟨k', v'⟩ := e
    by_cases hk : k' = k
    · simp only [lookup_cons, hk, if_true, Option.some.injEq] at h
      subst h
      cases hv : p v <;> cases hv' : p v' <;> simp [set_cons, hk, hv, hv']
    · simp only [lookup_cons, hk, if_false] at h
      have hd := ih h
      simp only [set_cons, hk, if_false, List.countP_cons]
      omega

/-- A new key, counted. -/
theorem countP_set_of_none {k : κ} {d : Dict κ α} (h : lookup k d = none) (v : α) (p : α → Bool) :
    (set k v d).countP (fun e => p e.2) = d.countP (fun e => p e.2) + (p v).toNat := by
  induction d with
  | nil => cases hv : p v <;> simp [set_nil, hv]
  | cons e d ih =>
    obtain ⟨k', v'⟩ := e
    by_cases hk : k' = k
    · simp [lookup_cons, hk] at h
    · simp only [lookup_cons, hk, if_false] at h
      have hd := ih h
      simp only [set_cons, hk, if_false, List.countP_cons]
      omega

/-! ### Two dictionaries in parallel -/

/-- Dictionaries with the same keys in the same order are parallel where what their keys find is related. -/
theorem forall₂_of_keys {R : α → β → Prop} : ∀ {d : Dict κ α} {e : Dict κ β}, keys d = keys e → (keys d).Nodup →
    (∀ k x y, lookup k d = some x → lookup k e = some y → R x y) →
    List.Forall₂ (fun a b => a.1 = b.1 ∧ R a.2 b.2) d e
  | [], [], _, _, _ => .nil
  | (j, x) :: d, (k, y) :: e, hkeys, hnodup, h => by
    obtain ⟨rfl, hrest⟩ := List.cons.inj hkeys
    obtain ⟨hj, hd⟩ := List.nodup_cons.mp hnodup
    refine .cons ⟨rfl, h j x y ?_ ?_⟩ (forall₂_of_keys hrest hd fun k x' y' hx hy => ?_)
    · rw [lookup_cons, if_pos rfl]
    · rw [lookup_cons, if_pos rfl]
    · have hne : j ≠ k := by
        rintro rfl
        rw [lookup_eq_none_iff.mpr hj] at hx
        cases hx
      refine h k x' y' ?_ ?_
      · rw [lookup_cons, if_neg hne, hx]
      · rw [lookup_cons, if_neg hne, hy]

section Parallel

omit [DecidableEq κ]

variable [LE κ] [DecidableLE κ]

theorem forall₂_orderedInsert {R : α → β → Prop} {x : κ × α} {y : κ × β} {d : Dict κ α} {e : Dict κ β}
    (hxy : x.1 = y.1 ∧ R x.2 y.2) (h : List.Forall₂ (fun a b => a.1 = b.1 ∧ R a.2 b.2) d e) :
    List.Forall₂ (fun a b => a.1 = b.1 ∧ R a.2 b.2)
      (d.orderedInsert (fun a b => a.1 ≤ b.1) x) (e.orderedInsert (fun a b => a.1 ≤ b.1) y) := by
  induction h with
  | nil => exact .cons hxy .nil
  | @cons a b d e hab hde ih =>
    simp only [List.orderedInsert]
    by_cases hle : x.1 ≤ a.1
    · rw [if_pos hle, if_pos (hxy.1 ▸ hab.1 ▸ hle)]
      exact .cons hxy (.cons hab hde)
    · rw [if_neg hle, if_neg (hxy.1 ▸ hab.1 ▸ hle)]
      exact .cons hab ih

/-- Dictionaries with the same keys in the same order stay parallel when they are sorted. -/
theorem forall₂_sorted (R : α → β → Prop) {d : Dict κ α} {e : Dict κ β}
    (h : List.Forall₂ (fun a b => a.1 = b.1 ∧ R a.2 b.2) d e) :
    List.Forall₂ (fun a b => a.1 = b.1 ∧ R a.2 b.2) (sorted d) (sorted e) := by
  induction h with
  | nil => exact .nil
  | cons hab _ ih => exact forall₂_orderedInsert hab ih

theorem orderedInsert_inj {x y : κ × α} {d e : Dict κ α} (hxy : x.1 = y.1)
    (h : List.Forall₂ (fun a b => a.1 = b.1) d e)
    (heq : d.orderedInsert (fun a b => a.1 ≤ b.1) x = e.orderedInsert (fun a b => a.1 ≤ b.1) y) :
    x = y ∧ d = e := by
  induction h with
  | nil => exact ⟨by simpa using heq, rfl⟩
  | @cons a b d e hab hde ih =>
    simp only [List.orderedInsert] at heq
    by_cases hle : x.1 ≤ a.1
    · rw [if_pos hle, if_pos (hxy ▸ hab ▸ hle)] at heq
      have hcons := List.cons.inj heq
      exact ⟨hcons.1, hcons.2⟩
    · rw [if_neg hle, if_neg (hxy ▸ hab ▸ hle)] at heq
      have hcons := List.cons.inj heq
      obtain ⟨hx, hd⟩ := ih hcons.2
      exact ⟨hx, by rw [hcons.1, hd]⟩

/-- The keys alone decide how a dictionary is sorted. -/
theorem sorted_inj {d e : Dict κ α} (h : List.Forall₂ (fun a b => a.1 = b.1) d e)
    (heq : sorted d = sorted e) : d = e := by
  induction h with
  | nil => rfl
  | @cons a b d e hab hde ih =>
    have hs : List.Forall₂ (fun a b => a.1 = b.1) (sorted d) (sorted e) := by
      have hpar := forall₂_sorted (fun _ _ => True) (hde.imp fun _ _ h => ⟨h, trivial⟩)
      exact hpar.imp fun _ _ h => h.1
    obtain ⟨rfl, hde⟩ := orderedInsert_inj hab hs heq
    rw [ih hde]

end Parallel

end Dict
