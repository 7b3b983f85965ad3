import Sbegw.Configd.Diff

/-!
# Documents that differ in secrets

Two documents are veiled copies of each other when they differ only in strings under secret keys.
For two pairs of running and candidate that are veiled copies and in which the same secrets are
pending, the diffs have the same shape; they are the same exactly where the changed values are.
-/

namespace Sbegw.Configd

/-! ### Two documents that differ in secrets only -/

mutual
/-- The values differ only in strings under secret keys; `secret` when the key of the values is
one. -/
def veiled (secret : Bool) : Json → Json → Bool
  | .null, b => match b with | .null => true | _ => false
  | .bool a, b => match b with | .bool b => a == b | _ => false
  | .int a, b => match b with | .int b => a == b | _ => false
  | .float a, b => match b with | .float b => a == b | _ => false
  | .str a, b => match b with | .str b => secret || a == b | _ => false
  | .arr a, b => match b with | .arr b => veiledList a b | _ => false
  | .obj a, b => match b with | .obj b => veiledEntries a b | _ => false
def veiledList : List Json → List Json → Bool
  | [], bs => bs.isEmpty
  | a :: as, bs => match bs with | [] => false | b :: bs => veiled false a b && veiledList as bs
def veiledEntries : List (String × Json) → List (String × Json) → Bool
  | [], bs => bs.isEmpty
  | (k, a) :: as, bs =>
    match bs with
    | [] => false
    | (l, b) :: bs => (k == l && veiled (isSecretKey k) a b) && veiledEntries as bs
end

/-- A step into a value. -/
inductive Pos where
  | key (k : String)
  | index (i : ℕ)

/-- The value at a position. -/
def at? : List Pos → Json → Option Json
  | [], j => some j
  | .key k :: p, j => (j.get? k).bind (at? p)
  | .index i :: p, .arr xs => (xs[i]?).bind (at? p)
  | .index _ :: _, _ => none

/-- Where running and candidate both hold strings, these are equal in both sites or in neither. -/
def SamePattern (r₁ c₁ r₂ c₂ : Json) : Prop :=
  ∀ p x₁ y₁ x₂ y₂, at? p r₁ = some (.str x₁) → at? p c₁ = some (.str y₁) →
    at? p r₂ = some (.str x₂) → at? p c₂ = some (.str y₂) → (x₁ = y₁ ↔ x₂ = y₂)

theorem SamePattern.key {r₁ c₁ r₂ c₂ u₁ v₁ u₂ v₂ : Json} (h : SamePattern r₁ c₁ r₂ c₂) (k : String)
    (hr₁ : r₁.get? k = some u₁) (hc₁ : c₁.get? k = some v₁) (hr₂ : r₂.get? k = some u₂)
    (hc₂ : c₂.get? k = some v₂) : SamePattern u₁ v₁ u₂ v₂ := by
  intro p x₁ y₁ x₂ y₂ h₁ h₂ h₃ h₄
  refine h (.key k :: p) x₁ y₁ x₂ y₂ ?_ ?_ ?_ ?_
  · rw [at?, hr₁]; exact h₁
  · rw [at?, hc₁]; exact h₂
  · rw [at?, hr₂]; exact h₃
  · rw [at?, hc₂]; exact h₄

theorem SamePattern.head {u₁ v₁ u₂ v₂ : Json} {rs₁ cs₁ rs₂ cs₂ : List Json}
    (h : SamePattern (.arr (u₁ :: rs₁)) (.arr (v₁ :: cs₁)) (.arr (u₂ :: rs₂)) (.arr (v₂ :: cs₂))) :
    SamePattern u₁ v₁ u₂ v₂ := by
  intro p x₁ y₁ x₂ y₂ h₁ h₂ h₃ h₄
  refine h (.index 0 :: p) x₁ y₁ x₂ y₂ ?_ ?_ ?_ ?_
  all_goals simpa [at?]

theorem SamePattern.tail {u₁ v₁ u₂ v₂ : Json} {rs₁ cs₁ rs₂ cs₂ : List Json}
    (h : SamePattern (.arr (u₁ :: rs₁)) (.arr (v₁ :: cs₁)) (.arr (u₂ :: rs₂)) (.arr (v₂ :: cs₂))) :
    SamePattern (.arr rs₁) (.arr cs₁) (.arr rs₂) (.arr cs₂) := by
  rintro (_ | ⟨k | i, p⟩) x₁ y₁ x₂ y₂ h₁ h₂ h₃ h₄
  · simp [at?] at h₁
  · simp [at?, Json.get?, Json.entries] at h₁
  · refine h (.index (i + 1) :: p) x₁ y₁ x₂ y₂ ?_ ?_ ?_ ?_
    all_goals simpa [at?]

/-! ### Veiled values have the same shape -/

theorem veiled_lookup {a b : Obj} (h : veiledEntries a b = true) (k : String) :
    (Dict.lookup k a = none ∧ Dict.lookup k b = none) ∨
      ∃ u v, Dict.lookup k a = some u ∧ Dict.lookup k b = some v ∧
        veiled (isSecretKey k) u v = true := by
  induction a generalizing b with
  | nil =>
    have hb : b = [] := by simpa [veiledEntries] using h
    subst hb
    exact .inl ⟨rfl, rfl⟩
  | cons e a ih =>
    obtain ⟨j, u⟩ := e
    rcases b with _ | ⟨⟨l, v⟩, b⟩
    · simp [veiledEntries] at h
    · simp only [veiledEntries, Bool.and_eq_true, beq_iff_eq] at h
      obtain ⟨⟨rfl, huv⟩, hab⟩ := h
      by_cases hk : j = k
      · subst hk
        exact .inr ⟨u, v, by simp [Dict.lookup], by simp [Dict.lookup], huv⟩
      · simpa [Dict.lookup, hk] using ih hab

theorem veiled_isNone {a b : Obj} (h : veiledEntries a b = true) (k : String) :
    (Dict.lookup k a).isSome = (Dict.lookup k b).isSome := by
  rcases veiled_lookup h k with ⟨ha, hb⟩ | ⟨u, v, ha, hb, -⟩
  · rw [ha, hb]
  · rw [ha, hb]; rfl

theorem veiled_num {s : Bool} {a b : Json} (h : veiled s a b = true) : a.num? = b.num? := by
  cases a <;> cases b <;> simp_all [veiled, Json.num?]

theorem veiled_obj_left {s : Bool} {a : Obj} {b : Json} (h : veiled s (.obj a) b = true) :
    ∃ o, b = .obj o ∧ veiledEntries a o = true := by
  cases b with
  | obj o => exact ⟨o, rfl, by simpa [veiled] using h⟩
  | _ => simp [veiled] at h

/-! ### The values under the keys of four objects -/

/-- `P` holds of the four values under each key outside `seen` that all four objects have. -/
def Below (P : Json → Json → Json → Json → Prop) (seen : List String) (a₁ c₁ a₂ c₂ : Obj) : Prop :=
  ∀ k, k ∉ seen → ∀ u₁ v₁ u₂ v₂, Dict.lookup k a₁ = some u₁ → Dict.lookup k c₁ = some v₁ →
    Dict.lookup k a₂ = some u₂ → Dict.lookup k c₂ = some v₂ → P u₁ v₁ u₂ v₂

theorem Below.head {P : Json → Json → Json → Json → Prop} {seen : List String} {k : String}
    {u₁ u₂ v₁ v₂ : Json} {a₁ c₁ a₂ c₂ : Obj} (h : Below P seen ((k, u₁) :: a₁) c₁ ((k, u₂) :: a₂) c₂)
    (hk : k ∉ seen) (h₁ : Dict.lookup k c₁ = some v₁) (h₂ : Dict.lookup k c₂ = some v₂) :
    P u₁ v₁ u₂ v₂ :=
  h k hk u₁ v₁ u₂ v₂ (by simp [Dict.lookup]) h₁ (by simp [Dict.lookup]) h₂

theorem Below.tail {P : Json → Json → Json → Json → Prop} {seen : List String} {k : String}
    {u₁ u₂ : Json} {a₁ c₁ a₂ c₂ : Obj} (h : Below P seen ((k, u₁) :: a₁) c₁ ((k, u₂) :: a₂) c₂) :
    Below P (k :: seen) a₁ c₁ a₂ c₂ := by
  intro j hj w₁ x₁ w₂ x₂ h₁ h₂ h₃ h₄
  simp only [List.mem_cons, not_or] at hj
  refine h j hj.2 w₁ x₁ w₂ x₂ ?_ h₂ ?_ h₄
  · rw [Dict.lookup_cons, if_neg (Ne.symm hj.1)]; exact h₁
  · rw [Dict.lookup_cons, if_neg (Ne.symm hj.1)]; exact h₃

theorem SamePattern.below {a₁ c₁ a₂ c₂ : Obj}
    (h : SamePattern (.obj a₁) (.obj c₁) (.obj a₂) (.obj c₂)) :
    Below SamePattern [] a₁ c₁ a₂ c₂ :=
  fun k _ _ _ _ _ h₁ h₂ h₃ h₄ => h.key k h₁ h₂ h₃ h₄

/-! ### Equality of running and candidate is the same in both sites -/

theorem all_isSome_veiled {a₁ a₂ : Obj} (ha : veiledEntries a₁ a₂ = true) :
    ∀ {c₁ c₂ : Obj}, veiledEntries c₁ c₂ = true →
      (c₁.all fun e => (Dict.lookup e.1 a₁).isSome) = c₂.all fun e => (Dict.lookup e.1 a₂).isSome
  | [], c₂, hc => by
    have : c₂ = [] := by simpa [veiledEntries] using hc
    rw [this]; rfl
  | (k, v) :: c₁, [], hc => by simp [veiledEntries] at hc
  | (k, v) :: c₁, (l, w) :: c₂, hc => by
    simp only [veiledEntries, Bool.and_eq_true, beq_iff_eq] at hc
    obtain ⟨⟨rfl, -⟩, hc⟩ := hc
    simp only [List.all_cons]
    rw [veiled_isNone ha k, all_isSome_veiled ha hc]

mutual
theorem pyEq_veiled : ∀ {s t : Bool} (r₁ c₁ r₂ c₂ : Json), veiled s r₁ r₂ = true →
    veiled t c₁ c₂ = true → SamePattern r₁ c₁ r₂ c₂ → Json.pyEq r₁ c₁ = Json.pyEq r₂ c₂
  | s, t, .null, c₁, r₂, c₂, hr, hc, _ => by
    cases r₂ <;> cases c₁ <;> cases c₂ <;> simp_all [veiled, Json.pyEq]
  | s, t, .bool a, c₁, r₂, c₂, hr, hc, _ => by
    cases r₂ <;> simp_all [veiled, Json.pyEq, veiled_num hc]
  | s, t, .int a, c₁, r₂, c₂, hr, hc, _ => by
    cases r₂ <;> simp_all [veiled, Json.pyEq, veiled_num hc]
  | s, t, .float a, c₁, r₂, c₂, hr, hc, _ => by
    cases r₂ <;> simp_all [veiled, Json.pyEq, veiled_num hc]
  | s, t, .str a, c₁, r₂, c₂, hr, hc, hp => by
    cases r₂ with
    | str b =>
      cases c₁ <;> cases c₂ <;> simp_all [veiled, Json.pyEq]
      rename_i x y
      have := hp [] a x b y rfl rfl rfl rfl
      grind
    | _ => simp [veiled] at hr
  | s, t, .arr a, c₁, r₂, c₂, hr, hc, hp => by
    cases r₂ with
    | arr b =>
      cases c₁ <;> cases c₂ <;> simp [veiled] at hc <;> simp only [Json.pyEq]
      exact pyEqArr_veiled a _ b _ (by simpa [veiled] using hr) hc hp
    | _ => simp [veiled] at hr
  | s, t, .obj a, c₁, r₂, c₂, hr, hc, hp => by
    obtain ⟨b, rfl, hab⟩ := veiled_obj_left hr
    cases c₁ <;> cases c₂ <;> simp [veiled] at hc <;> simp only [Json.pyEq]
    rename_i x y
    rw [pyEqObj_veiled [] a x b y hab hc hp.below, all_isSome_veiled hab hc]
termination_by structural _ _ r₁ => r₁
theorem pyEqArr_veiled : ∀ (r₁ c₁ r₂ c₂ : List Json), veiledList r₁ r₂ = true →
    veiledList c₁ c₂ = true → SamePattern (.arr r₁) (.arr c₁) (.arr r₂) (.arr c₂) →
    Json.pyEqArr r₁ c₁ = Json.pyEqArr r₂ c₂
  | [], c₁, r₂, c₂, hr, hc, _ => by
    have hr₂ : r₂ = [] := by simpa [veiledList] using hr
    subst hr₂
    cases c₁ <;> cases c₂ <;> simp_all [veiledList, Json.pyEqArr]
  | u₁ :: r₁, c₁, [], c₂, hr, hc, _ => by simp [veiledList] at hr
  | u₁ :: r₁, [], u₂ :: r₂, c₂, hr, hc, _ => by
    have hc₂ : c₂ = [] := by simpa [veiledList] using hc
    rw [hc₂]; rfl
  | u₁ :: r₁, v₁ :: c₁, u₂ :: r₂, [], hr, hc, _ => by simp [veiledList] at hc
  | u₁ :: r₁, v₁ :: c₁, u₂ :: r₂, v₂ :: c₂, hr, hc, hp => by
    simp only [veiledList, Bool.and_eq_true] at hr hc
    simp only [Json.pyEqArr]
    rw [pyEq_veiled u₁ v₁ u₂ v₂ hr.1 hc.1 hp.head, pyEqArr_veiled r₁ c₁ r₂ c₂ hr.2 hc.2 hp.tail]
termination_by structural r₁ => r₁
theorem pyEqObj_veiled (seen : List String) : ∀ (a₁ c₁ a₂ c₂ : List (String × Json)),
    veiledEntries a₁ a₂ = true → veiledEntries c₁ c₂ = true → Below SamePattern seen a₁ c₁ a₂ c₂ →
    Json.pyEqObj seen a₁ c₁ = Json.pyEqObj seen a₂ c₂
  | [], c₁, a₂, c₂, ha, hc, _ => by
    have ha₂ : a₂ = [] := by simpa [veiledEntries] using ha
    rw [ha₂]; rfl
  | (k, u₁) :: a₁, c₁, [], c₂, ha, hc, _ => by simp [veiledEntries] at ha
  | (k, u₁) :: a₁, c₁, (l, u₂) :: a₂, c₂, ha, hc, hp => by
    simp only [veiledEntries, Bool.and_eq_true, beq_iff_eq] at ha
    obtain ⟨⟨rfl, hu⟩, ha⟩ := ha
    simp only [Json.pyEqObj]
    rw [pyEqObj_veiled (k :: seen) a₁ c₁ a₂ c₂ ha hc hp.tail]
    by_cases hk : k ∈ seen
    · simp [hk]
    · rcases veiled_lookup hc k with ⟨h₁, h₂⟩ | ⟨v₁, v₂, h₁, h₂, hv⟩
      · rw [h₁, h₂]
      · have huv := pyEq_veiled u₁ v₁ u₂ v₂ hu hv (hp.head hk h₁ h₂)
        simp only [h₁, h₂, huv]
termination_by structural a₁ => a₁
end

/-! ### The diff of running and candidate -/

/-- A path of keys. -/
def keyPath (p : List String) : List Pos := p.map .key

/-- At the path `p` running and candidate differ as a whole: one of them has no value there, or the
values are not both objects and not equal. -/
def changedAt (r c : Json) (p : List String) : Bool :=
  match at? (keyPath p) r, at? (keyPath p) c with
  | none, none => false
  | some u, some v => !(u.isObj && v.isObj) && !Json.pyEq u v
  | _, _ => true

/-- Where running and candidate differ, both sites hold the same. -/
def SameWhereChanged (r₁ c₁ r₂ c₂ : Json) : Prop :=
  ∀ p, changedAt r₁ c₁ p = true →
    at? (keyPath p) r₁ = at? (keyPath p) r₂ ∧ at? (keyPath p) c₁ = at? (keyPath p) c₂

theorem at?_keyPath_cons (k : String) (p : List String) (j : Json) :
    at? (keyPath (k :: p)) j = (j.get? k).bind (at? (keyPath p)) := rfl

theorem SameWhereChanged.below {a₁ c₁ a₂ c₂ : Obj}
    (h : SameWhereChanged (.obj a₁) (.obj c₁) (.obj a₂) (.obj c₂)) :
    Below SameWhereChanged [] a₁ c₁ a₂ c₂ := by
  intro k _ u₁ v₁ u₂ v₂ h₁ h₂ h₃ h₄ p hp
  have := h (k :: p)
  simp only [changedAt, at?_keyPath_cons, Json.get?_obj, h₁, h₂, h₃, h₄, Option.bind_some] at this
  exact this hp

theorem SameWhereChanged.removed {a₁ c₁ a₂ c₂ : Obj}
    (h : SameWhereChanged (.obj a₁) (.obj c₁) (.obj a₂) (.obj c₂)) {k : String} {u₁ u₂ : Json}
    (h₁ : Dict.lookup k a₁ = some u₁) (hc : Dict.lookup k c₁ = none)
    (h₂ : Dict.lookup k a₂ = some u₂) : u₁ = u₂ := by
  have := h [k]
  simp only [changedAt, at?_keyPath_cons, Json.get?_obj, h₁, hc, h₂] at this
  exact Option.some.inj (this rfl).1

theorem SameWhereChanged.added {a₁ c₁ a₂ c₂ : Obj}
    (h : SameWhereChanged (.obj a₁) (.obj c₁) (.obj a₂) (.obj c₂)) {k : String} {v₁ v₂ : Json}
    (ha : Dict.lookup k a₁ = none) (h₁ : Dict.lookup k c₁ = some v₁)
    (h₂ : Dict.lookup k c₂ = some v₂) : v₁ = v₂ := by
  have := h [k]
  simp only [changedAt, at?_keyPath_cons, Json.get?_obj, h₁, ha, h₂] at this
  exact Option.some.inj (this rfl).2

theorem veiled_isObj {s : Bool} {a b : Json} (h : veiled s a b = true) : a.isObj = b.isObj := by
  cases a <;> cases b <;> simp_all [veiled, Json.isObj]

/-! ### Diffs of veiled documents have the same length -/

/-- Two dictionaries of changes with the same keys and, under each key, the same number of
changes. -/
abbrev Parallel (d e : Dict String (List Change)) : Prop :=
  List.Forall₂ (fun x y => x.1 = y.1 ∧ x.2.length = y.2.length) d e

theorem Parallel.append {d e d' e' : Dict String (List Change)} (h : Parallel d e)
    (h' : Parallel d' e') : Parallel (d ++ d') (e ++ e') :=
  List.rel_append h h'

theorem Parallel.sorted {d e : Dict String (List Change)} (h : Parallel d e) :
    Parallel (Dict.sorted d) (Dict.sorted e) :=
  Dict.forall₂_sorted (fun x y : List Change => x.length = y.length) h

theorem Parallel.flatMap_length {d e : Dict String (List Change)} (h : Parallel d e) :
    (d.flatMap Prod.snd).length = (e.flatMap Prod.snd).length := by
  induction h with
  | nil => rfl
  | cons hxy _ ih => simp only [List.flatMap_cons, List.length_append, hxy.2, ih]

theorem Parallel.flatMap_inj {d e : Dict String (List Change)} (h : Parallel d e)
    (heq : d.flatMap Prod.snd = e.flatMap Prod.snd) : d = e := by
  induction h with
  | nil => rfl
  | @cons x y d e hxy _ ih =>
    simp only [List.flatMap_cons] at heq
    obtain ⟨hx, hd⟩ := List.append_inj heq hxy.2
    rw [ih hd, Prod.ext hxy.1 hx]

theorem parallel_diffAdded {a₁ a₂ : Obj} (ha : veiledEntries a₁ a₂ = true) (path : String) :
    ∀ (seen : List String) (c₁ c₂ : Obj), veiledEntries c₁ c₂ = true →
      Parallel (diffAdded seen a₁ path c₁) (diffAdded seen a₂ path c₂)
  | seen, [], c₂, hc => by
    have hc₂ : c₂ = [] := by simpa [veiledEntries] using hc
    rw [hc₂]; exact .nil
  | seen, (k, v) :: c₁, [], hc => by simp [veiledEntries] at hc
  | seen, (k, v) :: c₁, (l, w) :: c₂, hc => by
    simp only [veiledEntries, Bool.and_eq_true, beq_iff_eq] at hc
    obtain ⟨⟨rfl, -⟩, hc⟩ := hc
    have ih := parallel_diffAdded ha path (k :: seen) c₁ c₂ hc
    simp only [diffAdded, veiled_isNone ha k]
    by_cases h : (seen.contains k || (Dict.lookup k a₂).isSome) = true
    · rw [if_pos h, if_pos h]; exact ih
    · rw [if_neg h, if_neg h]; exact .cons ⟨rfl, rfl⟩ ih

mutual
theorem length_diffConfig : ∀ {s t : Bool} (r₁ c₁ r₂ c₂ : Json) (path : String),
    veiled s r₁ r₂ = true → veiled t c₁ c₂ = true → SamePattern r₁ c₁ r₂ c₂ →
    (diffConfig r₁ c₁ path).length = (diffConfig r₂ c₂ path).length
  | s, t, r₁, c₁, r₂, c₂, path, hr, hc, hp => by
    by_cases ho : (r₁.isObj && c₁.isObj) = true
    · match r₁, c₁ with
      | .obj a, .obj x =>
        obtain ⟨b, rfl, hab⟩ := veiled_obj_left hr
        obtain ⟨y, rfl, hxy⟩ := veiled_obj_left hc
        rw [diffConfig_objs, diffConfig_objs]
        have hkept := parallel_diffKept [] a x b y path hab hxy hp.below
        have hadded := parallel_diffAdded hab path [] x y hxy
        exact (Parallel.append hkept hadded).sorted.flatMap_length
    · rw [Bool.not_eq_true] at ho
      rw [diffConfig_of_not_objs ho, pyEq_veiled r₁ c₁ r₂ c₂ hr hc hp]
      rw [veiled_isObj hr, veiled_isObj hc] at ho
      rw [diffConfig_of_not_objs ho]
      by_cases he : Json.pyEq r₂ c₂ = true
      · rw [if_pos he, if_pos he]
      · rw [if_neg he, if_neg he]; rfl
termination_by structural _ _ r₁ => r₁
theorem parallel_diffKept (seen : List String) : ∀ (a₁ c₁ a₂ c₂ : List (String × Json))
    (path : String), veiledEntries a₁ a₂ = true → veiledEntries c₁ c₂ = true →
    Below SamePattern seen a₁ c₁ a₂ c₂ →
    Parallel (diffKept seen a₁ c₁ path) (diffKept seen a₂ c₂ path)
  | [], c₁, a₂, c₂, path, ha, hc, _ => by
    have ha₂ : a₂ = [] := by simpa [veiledEntries] using ha
    rw [ha₂]; exact .nil
  | (k, u₁) :: a₁, c₁, [], c₂, path, ha, hc, _ => by simp [veiledEntries] at ha
  | (k, u₁) :: a₁, c₁, (l, u₂) :: a₂, c₂, path, ha, hc, hp => by
    simp only [veiledEntries, Bool.and_eq_true, beq_iff_eq] at ha
    obtain ⟨⟨rfl, hu⟩, ha⟩ := ha
    have ih := parallel_diffKept (k :: seen) a₁ c₁ a₂ c₂ path ha hc hp.tail
    simp only [diffKept]
    by_cases hk : k ∈ seen
    · simpa [hk] using ih
    · simp only [List.contains_iff_mem, hk, if_false]
      refine .cons ⟨rfl, ?_⟩ ih
      rcases veiled_lookup hc k with ⟨h₁, h₂⟩ | ⟨v₁, v₂, h₁, h₂, hv⟩
      · simp only [h₁, h₂, List.length_singleton]
      · simp only [h₁, h₂]
        exact length_diffConfig u₁ v₁ u₂ v₂ _ hu hv (hp.head hk h₁ h₂)
termination_by structural a₁ => a₁
end

/-! ### The diffs of two sites are the same exactly where the changed values are -/

theorem not_isObj_of_pyEq {r c : Json} (h : Json.pyEq r c = true)
    (ho : (r.isObj && c.isObj) = false) : r.isObj = false ∧ c.isObj = false := by
  cases r <;> cases c <;> simp_all [Json.pyEq, Json.isObj, Json.num?]

theorem get?_of_not_isObj {j : Json} (h : j.isObj = false) (k : String) : j.get? k = none := by
  cases j with
  | obj kvs => simp [Json.isObj] at h
  | _ => rfl

/-- Equal diffs of two objects are made of equal diffs under each key. -/
theorem diffs_of_diffConfig_eq {a₁ c₁ a₂ c₂ : Obj} {path : String}
    (ha : veiledEntries a₁ a₂ = true) (hc : veiledEntries c₁ c₂ = true)
    (hp : SamePattern (.obj a₁) (.obj c₁) (.obj a₂) (.obj c₂))
    (h : diffConfig (.obj a₁) (.obj c₁) path = diffConfig (.obj a₂) (.obj c₂) path) :
    diffKept [] a₁ c₁ path = diffKept [] a₂ c₂ path ∧
      diffAdded [] a₁ path c₁ = diffAdded [] a₂ path c₂ := by
  rw [diffConfig_objs, diffConfig_objs] at h
  have hkept := parallel_diffKept [] a₁ c₁ a₂ c₂ path ha hc hp.below
  have hpar := Parallel.append hkept (parallel_diffAdded ha path [] c₁ c₂ hc)
  have hsorted := hpar.sorted.flatMap_inj h
  have happend := Dict.sorted_inj (hpar.imp fun _ _ hxy => hxy.1) hsorted
  exact List.append_inj happend hkept.length_eq

/-- Two sites with the same diff hold the same wherever running and candidate differ. -/
theorem sameWhereChanged_of_diff_eq : ∀ {s t : Bool} {r₁ c₁ r₂ c₂ : Json} {path : String},
    veiled s r₁ r₂ = true → veiled t c₁ c₂ = true → SamePattern r₁ c₁ r₂ c₂ →
    diffConfig r₁ c₁ path = diffConfig r₂ c₂ path → SameWhereChanged r₁ c₁ r₂ c₂ := by
  intro s t r₁ c₁ r₂ c₂ path hr hc hp h p
  induction p generalizing s t r₁ c₁ r₂ c₂ path with
  | nil =>
    intro hch
    simp only [changedAt, keyPath, List.map_nil, at?, Bool.and_eq_true, Bool.not_eq_true'] at hch
    have hne : ¬Json.pyEq r₂ c₂ = true := by
      rw [← pyEq_veiled r₁ c₁ r₂ c₂ hr hc hp, hch.2]; simp
    have ho := hch.1
    rw [veiled_isObj hr, veiled_isObj hc] at ho
    rw [diffConfig_of_not_objs hch.1, diffConfig_of_not_objs ho, hch.2, if_neg hne] at h
    simp only [Bool.false_eq_true, if_false, List.cons.injEq, Change.mk.injEq, true_and] at h
    simp only [keyPath, List.map_nil, at?, Option.some.injEq]
    exact h.1
  | cons k p ih =>
    intro hch
    by_cases ho : (r₁.isObj && c₁.isObj) = true
    · match r₁, c₁ with
      | .obj a₁, .obj x₁ =>
        obtain ⟨a₂, rfl, ha⟩ := veiled_obj_left hr
        obtain ⟨x₂, rfl, hx⟩ := veiled_obj_left hc
        obtain ⟨hkept, hadded⟩ := diffs_of_diffConfig_eq ha hx hp h
        simp only [changedAt, at?_keyPath_cons, Json.get?_obj] at hch ⊢
        have hkeptk := congrArg (Dict.lookup k) hkept
        have haddedk := congrArg (Dict.lookup k) hadded
        rw [lookup_diffKept (by simp), lookup_diffKept (by simp)] at hkeptk
        rcases veiled_lookup ha k with ⟨h₁, h₂⟩ | ⟨u₁, u₂, h₁, h₂, hu⟩ <;>
          rcases veiled_lookup hx k with ⟨h₃, h₄⟩ | ⟨v₁, v₂, h₃, h₄, hv⟩
        · simp [h₁, h₃] at hch
        · -- the key was added
          rw [lookup_diffAdded h₁ (by simp), lookup_diffAdded h₂ (by simp), h₃, h₄] at haddedk
          simp only [Option.map_some, Option.some.injEq, List.cons.injEq, Change.mk.injEq] at haddedk
          rw [h₁, h₂, h₃, h₄, haddedk.1.2.2]
          exact ⟨rfl, rfl⟩
        · -- the key was removed
          rw [h₁, h₂, h₃, h₄] at hkeptk
          simp only [Option.map_some, Option.some.injEq, List.cons.injEq, Change.mk.injEq] at hkeptk
          rw [h₁, h₂, h₃, h₄, hkeptk.1.2.1]
          exact ⟨rfl, rfl⟩
        · rw [h₁, h₂, h₃, h₄] at hkeptk
          simp only [Option.map_some, Option.some.injEq] at hkeptk
          simp only [h₁, h₂, h₃, h₄, Option.bind_some] at hch ⊢
          exact ih hu hv (hp.key k h₁ h₃ h₂ h₄) hkeptk hch
    · -- not both are objects, so the whole values are in the diff
      rw [Bool.not_eq_true] at ho
      have ho₂ := ho
      rw [veiled_isObj hr, veiled_isObj hc] at ho₂
      rw [diffConfig_of_not_objs ho, diffConfig_of_not_objs ho₂,
        pyEq_veiled r₁ c₁ r₂ c₂ hr hc hp] at h
      by_cases he : Json.pyEq r₂ c₂ = true
      · -- equal values that are no objects have nothing below them
        rw [← pyEq_veiled r₁ c₁ r₂ c₂ hr hc hp] at he
        obtain ⟨hr₀, hc₀⟩ := not_isObj_of_pyEq he ho
        simp [changedAt, at?_keyPath_cons, get?_of_not_isObj hr₀, get?_of_not_isObj hc₀] at hch
      · simp only [if_neg he, List.cons.injEq, Change.mk.injEq, true_and, and_true] at h
        rw [h.1, h.2]
        exact ⟨rfl, rfl⟩

/-- What `SameWhereChanged` says of the keys that only one of running and candidate has. -/
def SameUnpaired (seen : List String) (a₁ c₁ a₂ : Obj) : Prop :=
  ∀ k, k ∉ seen → ∀ u₁ u₂, Dict.lookup k a₁ = some u₁ → Dict.lookup k a₂ = some u₂ →
    Dict.lookup k c₁ = none → u₁ = u₂

theorem SameUnpaired.tail {seen : List String} {k : String} {u₁ u₂ : Json} {a₁ c₁ a₂ : Obj}
    (h : SameUnpaired seen ((k, u₁) :: a₁) c₁ ((k, u₂) :: a₂)) :
    SameUnpaired (k :: seen) a₁ c₁ a₂ := by
  intro j hj w₁ w₂ h₁ h₂ hc
  simp only [List.mem_cons, not_or] at hj
  refine h j hj.2 w₁ w₂ ?_ ?_ hc
  · rw [Dict.lookup_cons, if_neg (Ne.symm hj.1)]; exact h₁
  · rw [Dict.lookup_cons, if_neg (Ne.symm hj.1)]; exact h₂

theorem diffAdded_eq {a₁ a₂ : Obj} (ha : veiledEntries a₁ a₂ = true) (path : String) :
    ∀ (seen : List String) (c₁ c₂ : Obj), veiledEntries c₁ c₂ = true →
      SameUnpaired seen c₁ a₁ c₂ → diffAdded seen a₁ path c₁ = diffAdded seen a₂ path c₂
  | seen, [], c₂, hc, _ => by
    have hc₂ : c₂ = [] := by simpa [veiledEntries] using hc
    rw [hc₂]; rfl
  | seen, (k, v) :: c₁, [], hc, _ => by simp [veiledEntries] at hc
  | seen, (k, v) :: c₁, (l, w) :: c₂, hc, hs => by
    simp only [veiledEntries, Bool.and_eq_true, beq_iff_eq] at hc
    obtain ⟨⟨rfl, -⟩, hc⟩ := hc
    have ih := diffAdded_eq ha path (k :: seen) c₁ c₂ hc hs.tail
    simp only [diffAdded, veiled_isNone ha k, ih]
    by_cases h : (seen.contains k || (Dict.lookup k a₂).isSome) = true
    · rw [if_pos h, if_pos h]
    · rw [if_neg h, if_neg h]
      simp only [Bool.or_eq_true, not_or, List.contains_iff_mem] at h
      have hk₁ : Dict.lookup k a₁ = none := by
        have := veiled_isNone ha k
        rw [Bool.not_eq_true] at h
        rw [h.2] at this
        simpa using this
      rw [hs k h.1 v w (by simp [Dict.lookup]) (by simp [Dict.lookup]) hk₁]

mutual
/-- Two sites that hold the same wherever running and candidate differ have the same diff. -/
theorem diff_eq_of_sameWhereChanged : ∀ {s t : Bool} (r₁ c₁ r₂ c₂ : Json) (path : String),
    veiled s r₁ r₂ = true → veiled t c₁ c₂ = true → SamePattern r₁ c₁ r₂ c₂ →
    SameWhereChanged r₁ c₁ r₂ c₂ → diffConfig r₁ c₁ path = diffConfig r₂ c₂ path
  | s, t, r₁, c₁, r₂, c₂, path, hr, hc, hp, h => by
    by_cases ho : (r₁.isObj && c₁.isObj) = true
    · match r₁, c₁ with
      | .obj a, .obj x =>
        obtain ⟨b, rfl, hab⟩ := veiled_obj_left hr
        obtain ⟨y, rfl, hxy⟩ := veiled_obj_left hc
        have hkept := diffKept_eq [] a x b y path hab hxy hp.below h.below
          (fun k _ u₁ u₂ h₁ h₂ hn => h.removed h₁ hn h₂)
        have hadded := diffAdded_eq hab path [] x y hxy
          (fun k _ v₁ v₂ h₁ h₂ hn => h.added hn h₁ h₂)
        rw [diffConfig_objs, diffConfig_objs, hkept, hadded]
    · rw [Bool.not_eq_true] at ho
      have ho₂ := ho
      rw [veiled_isObj hr, veiled_isObj hc] at ho₂
      have hpe := pyEq_veiled r₁ c₁ r₂ c₂ hr hc hp
      rw [diffConfig_of_not_objs ho, diffConfig_of_not_objs ho₂, hpe]
      by_cases he : Json.pyEq r₂ c₂ = true
      · rw [if_pos he, if_pos he]
      · have hsame := h [] (by simp [changedAt, keyPath, at?, ho, hpe, he])
        simp only [keyPath, List.map_nil, at?, Option.some.injEq] at hsame
        rw [if_neg he, if_neg he, hsame.1, hsame.2]
termination_by structural _ _ r₁ => r₁
theorem diffKept_eq (seen : List String) : ∀ (a₁ c₁ a₂ c₂ : List (String × Json)) (path : String),
    veiledEntries a₁ a₂ = true → veiledEntries c₁ c₂ = true → Below SamePattern seen a₁ c₁ a₂ c₂ →
    Below SameWhereChanged seen a₁ c₁ a₂ c₂ → SameUnpaired seen a₁ c₁ a₂ →
    diffKept seen a₁ c₁ path = diffKept seen a₂ c₂ path
  | [], c₁, a₂, c₂, path, ha, hc, _, _, _ => by
    have ha₂ : a₂ = [] := by simpa [veiledEntries] using ha
    rw [ha₂]; rfl
  | (k, u₁) :: a₁, c₁, [], c₂, path, ha, hc, _, _, _ => by simp [veiledEntries] at ha
  | (k, u₁) :: a₁, c₁, (l, u₂) :: a₂, c₂, path, ha, hc, hp, hb, hs => by
    simp only [veiledEntries, Bool.and_eq_true, beq_iff_eq] at ha
    obtain ⟨⟨rfl, hu⟩, ha⟩ := ha
    have ih := diffKept_eq (k :: seen) a₁ c₁ a₂ c₂ path ha hc hp.tail hb.tail hs.tail
    simp only [diffKept, ih]
    by_cases hk : k ∈ seen
    · simp [hk]
    · rcases veiled_lookup hc k with ⟨h₁, h₂⟩ | ⟨v₁, v₂, h₁, h₂, hv⟩
      · have hu := hs k hk u₁ u₂ (by simp [Dict.lookup]) (by simp [Dict.lookup]) h₁
        simp only [h₁, h₂, hu]
      · have hd := diff_eq_of_sameWhereChanged u₁ v₁ u₂ v₂ (subPath path k) hu hv
          (hp.head hk h₁ h₂) (hb.head hk h₁ h₂)
        simp only [h₁, h₂, hd]
termination_by structural a₁ => a₁
end

theorem changesOf_eq_iff {r₁ c₁ r₂ c₂ : Obj} (hr : veiled false (.obj r₁) (.obj r₂) = true)
    (hc : veiled false (.obj c₁) (.obj c₂) = true)
    (hp : SamePattern (.obj r₁) (.obj c₁) (.obj r₂) (.obj c₂)) :
    changesOf r₁ c₁ = changesOf r₂ c₂ ↔
      SameWhereChanged (.obj r₁) (.obj c₁) (.obj r₂) (.obj c₂) :=
  ⟨sameWhereChanged_of_diff_eq hr hc hp, diff_eq_of_sameWhereChanged _ _ _ _ "" hr hc hp⟩

end Sbegw.Configd
