import Sbegw.Schema.Validate
import Sbegw.Rerun

/-!
# What an accepted document looks like

Validation leaves behind a document whose fields have passed their checks.  `Checked` says of an
editing program which keys it may write and what holds of them when it is done; it goes through a
sequence of steps, so that each section gives one statement about its result.
-/

namespace Sbegw

/-! ### Fields after a program -/

namespace EditM

variable {β γ σ : Type}

/-- The program does not write the key. -/
def Leaves (k : String) (m : EditM β) : Prop :=
  ∀ a w b a' w', m a w = .ok (b, a', w') → Dict.lookup k a' = Dict.lookup k a

/-- Keys, each with what holds of its value. -/
abbrev Facts : Type := List (String × (Option Json → Prop))

/-- The program writes at most the keys of `fs`, and leaves them as `fs` says. -/
def Checked (fs : Facts) (m : EditM β) : Prop :=
  ∀ a w b a' w', m a w = .ok (b, a', w') →
    (∀ j, j ∉ fs.map Prod.fst → Dict.lookup j a' = Dict.lookup j a) ∧
      ∀ f ∈ fs, f.2 (Dict.lookup f.1 a')

/-- No condition: a key that is written and not looked at. -/
def Anything (_ : Option Json) : Prop := True

variable {fs gs : Facts}

theorem Checked.pure (b : β) : Checked [] (pure b : EditM β) := by
  intro a w c a' w' h
  obtain ⟨-, rfl, -⟩ := pure_eq_ok.mp h
  exact ⟨fun _ _ => rfl, by simp⟩

theorem Checked.of_quiet {m : EditM β} (h : Quiet m) : Checked [] m := by
  intro a w b a' w' hm
  rw [h a w b a' w' hm]
  exact ⟨fun _ _ => rfl, by simp⟩

/-- **Sequence.** The second program writes none of the keys the first one has settled. -/
theorem Checked.bind {m : EditM β} {f : β → EditM γ} (hm : Checked fs m) (hf : ∀ b, Checked gs (f b))
    (hd : ∀ k ∈ fs.map Prod.fst, k ∉ gs.map Prod.fst) : Checked (fs ++ gs) (m >>= f) := by
  intro a w c a' w' h
  obtain ⟨b, a₁, w₁, h₁, h₂⟩ := bind_eq_ok.mp h
  obtain ⟨hframe₁, hfacts₁⟩ := hm a w b a₁ w₁ h₁
  obtain ⟨hframe₂, hfacts₂⟩ := hf b a₁ w₁ c a' w' h₂
  refine ⟨fun j hj => ?_, fun g hg => ?_⟩
  · rw [List.map_append, List.mem_append, not_or] at hj
    rw [hframe₂ j hj.2, hframe₁ j hj.1]
  · rcases List.mem_append.mp hg with hg | hg
    · rw [hframe₂ g.1 (hd g.1 (List.mem_map_of_mem hg))]
      exact hfacts₁ g hg
    · exact hfacts₂ g hg

/-- A step that writes nothing. -/
theorem Checked.quiet {m : EditM β} {f : β → EditM γ} (hm : Quiet m) (hf : ∀ b, Checked gs (f b)) :
    Checked gs (m >>= f) :=
  Checked.bind (Checked.of_quiet hm) hf (by simp)

/-- A step whose keys are settled later. -/
theorem Checked.absorb {m : EditM β} {f : β → EditM γ} (hm : Checked fs m)
    (hf : ∀ b, Checked gs (f b)) (hs : ∀ k ∈ fs.map Prod.fst, k ∈ gs.map Prod.fst) :
    Checked gs (m >>= f) := by
  intro a w c a' w' h
  obtain ⟨b, a₁, w₁, h₁, h₂⟩ := bind_eq_ok.mp h
  obtain ⟨hframe, hfacts⟩ := hf b a₁ w₁ c a' w' h₂
  refine ⟨fun j hj => ?_, hfacts⟩
  rw [hframe j hj, (hm a w b a₁ w₁ h₁).1 j fun hjs => hj (hs j hjs)]

/-- Fill in a key; the steps after it refuse a value that is not `P`. -/
theorem Checked.setdefault {k : String} {v : Json} {P : Option Json → Prop} {f : Json → EditM γ}
    (hf : ∀ x, Checked gs (f x)) (hP : ∀ x a w r, f x a w = .ok r → P (some x))
    (hk : k ∉ gs.map Prod.fst) : Checked ((k, P) :: gs) (setdefault k v >>= f) := by
  intro a w c a' w' h
  obtain ⟨x, a₁, w₁, h₁, h₂⟩ := bind_eq_ok.mp h
  obtain ⟨rfl, rfl, rfl⟩ := setdefault_eq_ok.mp h₁
  obtain ⟨hframe, hfacts⟩ := hf _ _ _ c a' w' h₂
  refine ⟨fun j hj => ?_, fun g hg => ?_⟩
  · rw [List.map_cons, List.mem_cons, not_or] at hj
    rw [hframe j hj.2, Dict.lookup_setdefault_of_ne hj.1]
  · rcases List.mem_cons.mp hg with rfl | hg
    · show P (Dict.lookup k a')
      rw [hframe k hk, Dict.lookup_setdefault_self]
      exact hP _ _ _ _ h₂
    · exact hfacts g hg

theorem Checked.ite {c : Prop} [Decidable c] {m₁ m₂ : EditM β} (h₁ : Checked fs m₁)
    (h₂ : Checked fs m₂) : Checked fs (if c then m₁ else m₂) := by
  split
  · exact h₁
  · exact h₂

theorem checked_anything {k : String} {m : EditM β}
    (h : ∀ a w b a' w', m a w = .ok (b, a', w') → ∀ j, j ≠ k → Dict.lookup j a' = Dict.lookup j a) :
    Checked [(k, Anything)] m :=
  fun a w b a' w' hm => ⟨fun j hj => h a w b a' w' hm j (by simpa using hj), fun g hg => by
    obtain rfl := List.mem_singleton.mp hg
    trivial⟩

theorem checked_setdefault (k : String) (v : Json) :
    Checked [(k, Anything)] (EditM.setdefault k v) := by
  refine checked_anything fun a w b a' w' h j hj => ?_
  obtain ⟨-, rfl, -⟩ := setdefault_eq_ok.mp h
  exact Dict.lookup_setdefault_of_ne hj v a

theorem checked_within (k : String) (d : Obj) (bad : Json → Exn) (p : EditM β) :
    Checked [(k, Anything)] (EditM.within k d bad p) := by
  refine checked_anything fun a w b a' w' h j hj => ?_
  obtain ⟨o, o', -, -, rfl⟩ := within_eq_ok.mp h
  exact Dict.lookup_set_of_ne hj _ _

theorem checked_pure (k : String) (b : β) : Checked [(k, Anything)] (Pure.pure b : EditM β) := by
  refine checked_anything fun a w c a' w' h j _ => ?_
  rw [Quiet.pure b a w c a' w' h]

/-- The section at a key, edited under a condition. -/
theorem checked_when_within {c : Prop} [Decidable c] (k : String) (d : Obj) (bad : Json → Exn)
    (p : EditM Unit) : Checked [(k, Anything)] (EditM.when c (EditM.within k d bad p)) :=
  Checked.ite (checked_within k d bad p) (checked_pure k ())

/-- Read a key; the steps after it refuse a value that is not `P`. -/
theorem Checked.get {k : String} {P : Option Json → Prop} {f : Json → EditM γ}
    (hf : ∀ x, Checked gs (f x))
    (hP : ∀ x a w r, f (x.getD .null) a w = .ok r → P x) (hk : k ∉ gs.map Prod.fst) :
    Checked ((k, P) :: gs) (get k >>= f) := by
  intro a w c a' w' h
  obtain ⟨x, a₁, w₁, h₁, h₂⟩ := bind_eq_ok.mp h
  simp only [EditM.get, Except.ok.injEq, Prod.mk.injEq] at h₁
  obtain ⟨rfl, rfl, rfl⟩ := h₁
  obtain ⟨hframe, hfacts⟩ := hf _ _ _ c a' w' h₂
  refine ⟨fun j hj => ?_, fun g hg => ?_⟩
  · rw [List.map_cons, List.mem_cons, not_or] at hj
    exact hframe j hj.2
  · rcases List.mem_cons.mp hg with rfl | hg
    · show P (Dict.lookup k a')
      rw [hframe k hk]
      exact hP _ _ _ _ h₂
    · exact hfacts g hg

/-- Take a key that must be there; the steps after it refuse a value that is not `P`. -/
theorem Checked.item {k : String} {P : Option Json → Prop} {f : Json → EditM γ}
    (hf : ∀ x, Checked gs (f x)) (hP : ∀ x a w r, f x a w = .ok r → P (some x))
    (hk : k ∉ gs.map Prod.fst) : Checked ((k, P) :: gs) (item k >>= f) := by
  intro a w c a' w' h
  obtain ⟨x, a₁, w₁, h₁, h₂⟩ := bind_eq_ok.mp h
  unfold EditM.item at h₁
  cases hl : Dict.lookup k a with
  | none => simp [hl] at h₁
  | some y =>
    simp only [hl, Except.ok.injEq, Prod.mk.injEq] at h₁
    obtain ⟨rfl, rfl, rfl⟩ := h₁
    obtain ⟨hframe, hfacts⟩ := hf _ _ _ c a' w' h₂
    refine ⟨fun j hj => ?_, fun g hg => ?_⟩
    · rw [List.map_cons, List.mem_cons, not_or] at hj
      exact hframe j hj.2
    · rcases List.mem_cons.mp hg with rfl | hg
      · show P (Dict.lookup k a')
        rw [hframe k hk, hl]
        exact hP _ _ _ _ h₂
      · exact hfacts g hg

/-- Edit the object at a key. -/
theorem Checked.within {k : String} {d : Obj} {bad : Json → Exn} {p : EditM β} {f : β → EditM γ}
    {P : Obj → Prop} (hp : ∀ a w b a' w', p a w = .ok (b, a', w') → P a') (hf : ∀ b, Checked gs (f b))
    (hk : k ∉ gs.map Prod.fst) :
    Checked ((k, fun x => ∃ o, x = some (.obj o) ∧ P o) :: gs) (within k d bad p >>= f) := by
  have hm : Checked [(k, fun x => ∃ o, x = some (.obj o) ∧ P o)] (EditM.within k d bad p) := by
    intro a w b a' w' h
    obtain ⟨o, o', -, ho, rfl⟩ := within_eq_ok.mp h
    refine ⟨fun j hj => Dict.lookup_set_of_ne (by simpa using hj) _ _, fun g hg => ?_⟩
    obtain rfl := List.mem_singleton.mp hg
    exact ⟨o', Dict.lookup_set_self _ _ _, hp o w b o' w' ho⟩
  exact Checked.bind hm hf (by simpa using hk)

/-- What holds of a key after a run. -/
theorem Checked.fact {m : EditM β} (hm : Checked fs m) {a a' : Obj} {w w' : List String} {b : β}
    (h : m a w = .ok (b, a', w')) {k : String} {P : Option Json → Prop} (hk : (k, P) ∈ fs) :
    P (Dict.lookup k a') :=
  (hm a w b a' w' h).2 (k, P) hk

/-! ### Loops -/

/-- The entries that a loop leaves: the keys are those it found. -/
theorem eachEntry_post {bad : String → Exn} {f : σ → String → EditM σ} {P : String → Obj → Prop}
    (hf : ∀ s k a w s' a' w', f s k a w = .ok (s', a', w') → P k a') :
    ∀ (a : Obj) {s t : σ} {w w' : List String} {a' : Obj}, eachEntry bad f s a w = .ok (t, a', w') →
      Dict.keys a' = Dict.keys a ∧ ∀ e ∈ a', ∃ o, e.2 = .obj o ∧ P e.1 o
  | [], s, t, w, w', a', h => by
    simp only [eachEntry, Except.ok.injEq, Prod.mk.injEq] at h
    obtain ⟨-, rfl, -⟩ := h
    exact ⟨rfl, by simp⟩
  | (k, v) :: rest, s, t, w, w', a', h => by
    cases v with
    | obj o =>
      obtain ⟨s₁, o', w₁, hs, s₂, rest', w₂, hr, rfl, rfl, rfl⟩ := eachEntry_cons_eq_ok.mp h
      obtain ⟨hkeys, hall⟩ := eachEntry_post hf rest hr
      refine ⟨by simpa [Dict.keys] using hkeys, fun e he => ?_⟩
      rcases List.mem_cons.mp he with rfl | he
      · exact ⟨o', rfl, hf s k o w s₁ o' w₁ hs⟩
      · exact hall e he
    | _ => simp [eachEntry] at h

/-- The elements that a loop leaves. -/
theorem eachElem_post {bad : ℕ → Exn} {f : σ → ℕ → EditM σ} {P : Obj → Prop}
    (hf : ∀ s i a w s' a' w', f s i a w = .ok (s', a', w') → P a') :
    ∀ (xs : List Json) {i : ℕ} {s t : σ} {w w' : List String} {xs' : List Json},
      eachElem bad f i s xs w = .ok (t, xs', w') → ∀ x ∈ xs', ∃ o, x = .obj o ∧ P o
  | [], i, s, t, w, w', xs', h => by
    simp only [eachElem, Except.ok.injEq, Prod.mk.injEq] at h
    obtain ⟨-, rfl, -⟩ := h
    simp
  | v :: rest, i, s, t, w, w', xs', h => by
    cases v with
    | obj o =>
      obtain ⟨s₁, o', w₁, hs, s₂, rest', w₂, hr, rfl, rfl, rfl⟩ := eachElem_cons_eq_ok.mp h
      intro x hx
      rcases List.mem_cons.mp hx with rfl | hx
      · exact ⟨o', rfl, hf s i o w s₁ o' w₁ hs⟩
      · exact eachElem_post hf rest hr x hx
    | _ => simp [eachElem] at h

/-- The value of a key is iterated over, and every element is an object that satisfies `P`. -/
def Elems (P : Obj → Prop) (x : Option Json) : Prop :=
  ∃ xs, pyIter (x.getD (.arr [])) = .ok xs ∧ ∀ y ∈ xs, ∃ o, y = .obj o ∧ P o

theorem elemsOf_post {k : String} {bad : ℕ → Exn} {f : σ → ℕ → EditM σ} {P : Obj → Prop}
    (hf : ∀ s i a w s' a' w', f s i a w = .ok (s', a', w') → P a') (s : σ) :
    Checked [(k, Elems P)] (elemsOf k bad f s) := by
  intro a w b a' w' h
  have hfact : (∀ j, j ≠ k → Dict.lookup j a' = Dict.lookup j a) ∧ Elems P (Dict.lookup k a') := by
    unfold elemsOf at h
    cases hl : (Dict.lookup k a).getD (.arr []) with
    | arr xs =>
      simp only [hl] at h
      cases he : eachElem bad f 0 s xs w with
      | error e => simp [he] at h
      | ok r =>
        obtain ⟨t, xs', w₁⟩ := r
        simp only [he, Except.ok.injEq, Prod.mk.injEq] at h
        obtain ⟨-, rfl, -⟩ := h
        refine ⟨fun j hj => Dict.lookup_set_of_ne hj _ _, ?_⟩
        rw [Dict.lookup_set_self]
        exact ⟨xs', rfl, eachElem_post hf xs he⟩
    | _ =>
      -- no list: the loop has found nothing in it
      simp only [hl] at h
      split at h
      · next hiter =>
        simp only [Except.ok.injEq, Prod.mk.injEq] at h
        obtain ⟨-, rfl, -⟩ := h
        exact ⟨fun _ _ => rfl, [], hl ▸ hiter, by simp⟩
      · simp at h
      · simp at h
  refine ⟨fun j hj => hfact.1 j (by simpa using hj), fun g hg => ?_⟩
  obtain rfl := List.mem_singleton.mp hg
  exact hfact.2

end EditM

namespace Schema

open EditM Text

/-! ### What a check accepts -/

def IsStr (x : Option Json) : Prop := ∃ s, x = some (.str s)

def IsBool (x : Option Json) : Prop := ∃ b, x = some (.bool b)

def IsInt (x : Option Json) : Prop := ∃ i, x = some (.int i)

/-- One of the texts of a vocabulary. -/
def OneOf (allowed : List String) (x : Option Json) : Prop := ∃ s ∈ allowed, x = some (.str s)

/-- `P` holds of the value, unless it is falsy. -/
def IfSet (P : Json → Prop) (x : Option Json) : Prop :=
  (x.getD .null).truthy = true → P (x.getD .null)

theorem needStr_eq_ok {y : Json} {path what s : String} (h : needStr y path what = .ok s) :
    y = .str s := by
  unfold needStr at h
  split at h
  · simpa using h
  · simp at h

theorem vId_eq_ok {y : Json} {path s : String} (h : vId y path = .ok s) :
    y = .str s ∧ idRe s = true := by
  unfold vId at h
  rw [except_bind_eq_ok] at h
  obtain ⟨r, hr, h⟩ := h
  split at h
  · next hre =>
    obtain rfl : r = s := Except.ok.inj h
    exact ⟨needStr_eq_ok hr, hre⟩
  · simp at h

theorem vEnum_eq_ok {y : Json} {path s : String} {allowed : List String}
    (h : vEnum y path allowed = .ok s) : y = .str s ∧ s ∈ allowed := by
  unfold vEnum at h
  split at h
  · next r =>
    split at h
    · next hin =>
      obtain rfl : r = s := by simpa using h
      exact ⟨rfl, by simpa using hin⟩
    · simp at h
  · simp at h

theorem vBool_eq_ok {y : Json} {path : String} {b : Bool} (h : vBool y path = .ok b) :
    y = .bool b := by
  unfold vBool at h
  split at h
  · simpa using h
  · simp at h

theorem vInt_eq_ok {y : Json} {path : String} {low high i : ℤ} (h : vInt y path low high = .ok i) :
    y = .int i ∧ low ≤ i ∧ i ≤ high := by
  unfold vInt at h
  split at h
  · next j =>
    split at h
    · next hle =>
      obtain rfl : j = i := by simpa using h
      exact ⟨rfl, hle⟩
    · simp at h
  · simp at h

end Schema

namespace EditM

open Schema

/-! ### Steps of a section -/

variable {β γ : Type} {gs : Facts}

/-- A field that is filled in and checked. -/
theorem Checked.field {k : String} {v : Json} {check : Json → Except Exn β} {P : Option Json → Prop}
    {f : β → EditM γ} (hf : ∀ b, Checked gs (f b)) (hP : ∀ x b, check x = .ok b → P (some x))
    (hk : k ∉ gs.map Prod.fst) : Checked ((k, P) :: gs) (Schema.field k v check >>= f) := by
  intro a w c a' w' h
  obtain ⟨b, a₂, w₂, h₁, h₂⟩ := bind_eq_ok.mp h
  obtain ⟨x, a₁, w₁, hx, hcheck⟩ := bind_eq_ok.mp h₁
  obtain ⟨rfl, rfl, rfl⟩ := setdefault_eq_ok.mp hx
  obtain ⟨hok, rfl, rfl⟩ := lift_eq_ok.mp hcheck
  obtain ⟨hframe, hfacts⟩ := hf b _ _ c a' w' h₂
  refine ⟨fun j hj => ?_, fun g hg => ?_⟩
  · rw [List.map_cons, List.mem_cons, not_or] at hj
    rw [hframe j hj.2, Dict.lookup_setdefault_of_ne hj.1]
  · rcases List.mem_cons.mp hg with rfl | hg
    · show P (Dict.lookup k a')
      rw [hframe k hk, Dict.lookup_setdefault_self]
      exact hP _ b hok
    · exact hfacts g hg

/-- The last field of a section. -/
theorem Checked.field_last {k : String} {v : Json} {check : Json → Except Exn β}
    {P : Option Json → Prop} (hP : ∀ x b, check x = .ok b → P (some x)) :
    Checked [(k, P)] (Schema.field k v check) := by
  have h : Checked [(k, P)] (Schema.field k v check >>= Pure.pure) :=
    Checked.field (fun b => Checked.pure b) hP (by simp)
  rwa [bind_pure_eq] at h

/-- A check of a value that is set. -/
theorem Checked.ifSet {k : String} {check : Json → Except Exn β} {P : Json → Prop}
    {f : Unit → EditM γ} (hf : ∀ u, Checked gs (f u)) (hP : ∀ x b, check x = .ok b → P x)
    (hk : k ∉ gs.map Prod.fst) : Checked ((k, IfSet P) :: gs) (Schema.ifSet k check >>= f) := by
  intro a w c a' w' h
  obtain ⟨u, a₁, w₁, h₁, h₂⟩ := bind_eq_ok.mp h
  obtain ⟨x, a₀, w₀, hx, hcheck⟩ := bind_eq_ok.mp h₁
  simp only [EditM.get, Except.ok.injEq, Prod.mk.injEq] at hx
  obtain ⟨rfl, rfl, rfl⟩ := hx
  have hset : a₁ = a ∧ IfSet P (Dict.lookup k a) := by
    split at hcheck
    · obtain ⟨hok, rfl, -⟩ := lift_eq_ok.mp hcheck
      refine ⟨rfl, fun _ => ?_⟩
      cases hc : check ((Dict.lookup k a).getD .null) with
      | error e => simp [hc, Except.map] at hok
      | ok b => exact hP _ b hc
    · next hfalsy =>
      obtain ⟨-, rfl, -⟩ := pure_eq_ok.mp hcheck
      exact ⟨rfl, fun ht => absurd ht hfalsy⟩
  obtain ⟨hframe, hfacts⟩ := hf u a₁ w₁ c a' w' h₂
  refine ⟨fun j hj => ?_, fun g hg => ?_⟩
  · rw [List.map_cons, List.mem_cons, not_or] at hj
    rw [hframe j hj.2, hset.1]
  · rcases List.mem_cons.mp hg with rfl | hg
    · show IfSet P (Dict.lookup k a')
      rw [hframe k hk, hset.1]
      exact hset.2
    · exact hfacts g hg

theorem quiet_ifSet (k : String) (check : Json → Except Exn β) : Quiet (Schema.ifSet k check) :=
  Quiet.bind (Quiet.get k) fun x => by
    by_cases hx : x.truthy = true
    · simpa [hx] using Quiet.lift _
    · simpa [hx] using Quiet.pure ()

end EditM

namespace Schema

open EditM Text

/-! ### A firewall rule -/

/-- A port or a port range. -/
def IsPorts (x : Json) : Prop := ∃ path s, vPortRange x path = .ok s

theorem isStr_of_checkAddressSpec {x : Json} {path : String} {u : Unit}
    (h : checkAddressSpec x path = .ok u) : ∃ s, x = .str s := by
  unfold checkAddressSpec at h
  rw [except_bind_eq_ok] at h
  obtain ⟨s, hs, -⟩ := h
  exact ⟨s, needStr_eq_ok hs⟩

theorem isPorts_of_checkRulePort {proto path s : String} {x : Json}
    (h : checkRulePort proto path x = .ok s) : IsPorts x := by
  unfold checkRulePort at h
  split at h
  · exact ⟨path, s, h⟩
  · simp at h

/-- The fields of an accepted rule. -/
def ruleFacts : Facts :=
  [("id", IsStr), ("name", Anything), ("action", OneOf fwActions), ("enabled", IsBool),
    ("log", IsBool), ("index", IsInt), ("family", OneOf ["ipv4", "ipv6", "both"]),
    ("src_zone", OneOf zones), ("dst_zone", OneOf zones), ("protocol", OneOf protocols),
    ("src_address", IfSet fun x => ∃ s, x = .str s), ("dst_address", IfSet fun x => ∃ s, x = .str s),
    ("src_port", IfSet IsPorts), ("dst_port", IfSet IsPorts)]

theorem checked_validateRule (schedules : Json) (seen : List String) (i : ℕ) :
    Checked ruleFacts (validateRule schedules seen i) := by
  unfold validateRule ruleFacts
  refine Checked.field (fun rid => ?_) (fun x b h => ⟨b, congrArg some (vId_eq_ok h).1⟩) (by simp)
  refine Checked.quiet (Quiet.raiseIf _ _) fun _ => ?_
  refine Checked.field (fun _ => ?_) (fun _ _ _ => trivial) (by simp)
  refine Checked.field (fun _ => ?_)
    (fun x b h => ⟨b, (vEnum_eq_ok h).2, congrArg some (vEnum_eq_ok h).1⟩) (by simp)
  refine Checked.field (fun _ => ?_) (fun x b h => ⟨b, congrArg some (vBool_eq_ok h)⟩) (by simp)
  refine Checked.field (fun _ => ?_) (fun x b h => ⟨b, congrArg some (vBool_eq_ok h)⟩) (by simp)
  refine Checked.field (fun _ => ?_) (fun x b h => ⟨b, congrArg some (vInt_eq_ok h).1⟩) (by simp)
  refine Checked.field (fun _ => ?_)
    (fun x b h => ⟨b, (vEnum_eq_ok h).2, congrArg some (vEnum_eq_ok h).1⟩) (by simp)
  refine Checked.field (fun _ => ?_)
    (fun x b h => ⟨b, (vEnum_eq_ok h).2, congrArg some (vEnum_eq_ok h).1⟩) (by simp)
  refine Checked.field (fun _ => ?_)
    (fun x b h => ⟨b, (vEnum_eq_ok h).2, congrArg some (vEnum_eq_ok h).1⟩) (by simp)
  refine Checked.field (fun proto => ?_)
    (fun x b h => ⟨b, (vEnum_eq_ok h).2, congrArg some (vEnum_eq_ok h).1⟩) (by simp)
  refine Checked.ifSet (fun _ => ?_) (fun x b h => isStr_of_checkAddressSpec h) (by simp)
  refine Checked.ifSet (fun _ => ?_) (fun x b h => isStr_of_checkAddressSpec h) (by simp)
  refine Checked.ifSet (fun _ => ?_) (fun x b h => isPorts_of_checkRulePort h) (by simp)
  refine Checked.ifSet (fun _ => ?_) (fun x b h => isPorts_of_checkRulePort h) (by simp)
  refine Checked.quiet (quiet_ifSet _ _) fun _ => ?_
  exact Checked.pure _

/-- The facts hold of an object. -/
def Holds (fs : Facts) (o : Obj) : Prop := ∀ f ∈ fs, f.2 (Dict.lookup f.1 o)

theorem Holds.get {fs : Facts} {o : Obj} (h : Holds fs o) {k : String} {P : Option Json → Prop}
    (hk : (k, P) ∈ fs) : P (Dict.lookup k o) :=
  h (k, P) hk

theorem holds_of_checked {β : Type} {fs : Facts} {m : EditM β} (hm : Checked fs m) {a a' : Obj}
    {w w' : List String} {b : β} (h : m a w = .ok (b, a', w')) : Holds fs a' :=
  (hm a w b a' w' h).2

/-! ### The firewall -/

theorem each_eq_ok {f : ℕ → Json → Except Exn Unit} : ∀ {xs : List Json} {i : ℕ} {u : Unit},
    forM_ f i xs = .ok u → ∀ x ∈ xs, ∃ j, f j x = .ok ()
  | [], i, u, _ => by simp
  | x :: xs, i, u, h => by
    simp only [forM_] at h
    split at h
    · next hx =>
      intro y hy
      rcases List.mem_cons.mp hy with rfl | hy
      · exact ⟨i, hx⟩
      · exact each_eq_ok h y hy
    · simp at h

/-- Interface names or patterns, none of them a bare wildcard. -/
def IsPatterns (x : Option Json) : Prop :=
  ∃ ps : List String, x = some (.arr (ps.map .str)) ∧ ∀ p ∈ ps, p ≠ "" ∧ p ≠ "*" ∧ '"' ∉ p.toList

theorem checkTunnel_eq_ok {i : ℕ} {x : Json} {u : Unit} (h : checkTunnel i x = .ok u) :
    ∃ p, x = .str p ∧ p ≠ "" ∧ p ≠ "*" ∧ '"' ∉ p.toList := by
  unfold checkTunnel at h
  rw [except_bind_eq_ok] at h
  obtain ⟨p, hp, h⟩ := h
  split at h
  · simp at h
  · next hne =>
    split at h
    · simp at h
    · next hquote =>
      rw [not_or] at hne
      exact ⟨p, needStr_eq_ok hp, hne.1, hne.2, by simpa using hquote⟩

theorem strings_of_forall {P : String → Prop} : ∀ {xs : List Json},
    (∀ x ∈ xs, ∃ p, x = .str p ∧ P p) → ∃ ps : List String, xs = ps.map .str ∧ ∀ p ∈ ps, P p
  | [], _ => ⟨[], rfl, by simp⟩
  | x :: xs, h => by
    obtain ⟨p, rfl, hp⟩ := h x List.mem_cons_self
    obtain ⟨ps, rfl, hps⟩ := strings_of_forall fun y hy => h y (List.mem_cons_of_mem _ hy)
    exact ⟨p :: ps, rfl, List.forall_mem_cons.mpr ⟨hp, hps⟩⟩

theorem isPatterns_of_check {x : Json} {u : Unit} (h : (do
      let _ ← needArr x "firewall.tunnel_interfaces" "a list of interface patterns"
      eachChecked x checkTunnel) = .ok u) : IsPatterns (some x) := by
  rw [except_bind_eq_ok] at h
  obtain ⟨xs, hxs, h⟩ := h
  unfold needArr at hxs
  split at hxs
  · next ys =>
    obtain rfl : ys = xs := Except.ok.inj hxs
    unfold eachChecked at h
    rw [except_bind_eq_ok] at h
    obtain ⟨zs, hzs, h⟩ := h
    obtain rfl : ys = zs := Except.ok.inj hzs
    have hall : ∀ x ∈ ys, ∃ p, x = .str p ∧ p ≠ "" ∧ p ≠ "*" ∧ '"' ∉ p.toList := by
      intro y hy
      obtain ⟨j, hj⟩ := each_eq_ok h y hy
      cases hc : checkTunnel j y with
      | error e => simp [hc, Except.map] at hj
      | ok v => exact checkTunnel_eq_ok hc
    obtain ⟨ps, rfl, hps⟩ := strings_of_forall hall
    exact ⟨ps, rfl, hps⟩
  · simp at hxs

/-- A default policy: two zones and an action. -/
structure IsPolicy (key : String) (action : Json) : Prop where
  ends : ∃ src dst, cut "->" key = some (src, dst) ∧ src ∈ zones ∧ dst ∈ zones
  action : ∃ a ∈ fwActions, action = .str a

/-- Default policies. -/
def IsPolicies (x : Option Json) : Prop :=
  ∃ kvs, x = some (.obj kvs) ∧ ∀ e ∈ kvs, IsPolicy e.1 e.2

theorem checkPolicy_eq_ok {key : String} {action : Json} {u : Unit}
    (h : checkPolicy key action = .ok u) : IsPolicy key action := by
  unfold checkPolicy at h
  split at h
  · simp at h
  · next src dst hcut =>
    rw [except_bind_eq_ok] at h
    obtain ⟨a, ha, h⟩ := h
    rw [except_bind_eq_ok] at h
    obtain ⟨b, hb, h⟩ := h
    rw [except_bind_eq_ok] at h
    obtain ⟨c, hc, -⟩ := h
    obtain ⟨hsrc, hin⟩ := vEnum_eq_ok ha
    obtain ⟨hdst, hin'⟩ := vEnum_eq_ok hb
    obtain ⟨hact, hin''⟩ := vEnum_eq_ok hc
    obtain rfl := Json.str.inj hsrc
    obtain rfl := Json.str.inj hdst
    exact ⟨⟨src, dst, hcut, hin, hin'⟩, c, hin'', hact⟩

theorem checkPolicies_eq_ok : ∀ {kvs : Obj} {u : Unit}, checkPolicies kvs = .ok u →
    ∀ e ∈ kvs, IsPolicy e.1 e.2
  | [], _, _ => by simp
  | (k, a) :: rest, u, h => by
    simp only [checkPolicies] at h
    split at h
    · next hp =>
      intro e he
      rcases List.mem_cons.mp he with rfl | he
      · exact checkPolicy_eq_ok hp
      · exact checkPolicies_eq_ok h e he
    · simp at h

/-- The fields of an accepted firewall section. -/
def firewallFacts : Facts :=
  [("hardware_offload", IsBool), ("tunnel_interfaces", IsPatterns),
    ("default_policies", IsPolicies), ("rules", Elems (Holds ruleFacts))]

theorem checked_validateFirewall : Checked firewallFacts validateFirewall := by
  unfold validateFirewall firewallFacts
  refine Checked.field (fun _ => ?_) (fun x b h => ⟨b, congrArg some (vBool_eq_ok h)⟩) (by simp)
  refine Checked.field (fun _ => ?_) (fun x b h => isPatterns_of_check h) (by simp)
  refine Checked.field (fun _ => ?_) (fun x b h => ?_) (by simp)
  · refine Checked.quiet Quiet.self fun fw => ?_
    refine Checked.absorb (checked_setdefault "rules" (.arr [])) (fun _ => ?_) (by simp)
    exact Checked.bind (elemsOf_post (fun s i a w s' a' w' h =>
      holds_of_checked (checked_validateRule _ s i) h) []) (fun _ => Checked.pure ()) (by simp)
  · split at h
    · next kvs => exact ⟨kvs, rfl, checkPolicies_eq_ok h⟩
    · simp at h

/-! ### Networks -/

/-- A VLAN id, or none. -/
def IsVlan (x : Option Json) : Prop :=
  x.getD .null = .null ∨ ∃ i, x = some (.int i) ∧ 1 ≤ i ∧ i ≤ 4094

theorem isVlan_of_vVlan {x : Option Json} {path : String} {v : Option ℤ}
    (h : vVlan (x.getD .null) path = .ok v) : IsVlan x := by
  unfold vVlan at h
  split at h
  · next hnull => exact .inl hnull
  · next hnull =>
    cases hv : vInt (x.getD .null) path 1 4094 with
    | error e => simp [hv, Except.map] at h
    | ok i =>
      obtain ⟨hx, hlow, hhigh⟩ := vInt_eq_ok hv
      cases x with
      | none => exact absurd rfl hnull
      | some y => exact .inr ⟨i, congrArg some hx, hlow, hhigh⟩

/-- The fields of an accepted network. -/
def networkFacts : Facts :=
  [("name", Anything), ("purpose", Anything), ("zone", OneOf zones), ("vlan", IsVlan),
    ("dhcp", Anything), ("isolation", IsBool), ("internet_access", IsBool), ("wan", Anything)]

theorem checked_validateNetwork (cfg : Obj) (seen : SeenNetworks) (nid : String) :
    Checked networkFacts (validateNetwork cfg seen nid) := by
  unfold validateNetwork networkFacts
  refine Checked.quiet (Quiet.lift _) fun _ => ?_
  refine Checked.field (fun _ => ?_) (fun _ _ _ => trivial) (by simp)
  refine Checked.field (fun _ => ?_) (fun _ _ _ => trivial) (by simp)
  refine Checked.field (fun _ => ?_)
    (fun x b h => ⟨b, (vEnum_eq_ok h).2, congrArg some (vEnum_eq_ok h).1⟩) (by simp)
  refine Checked.get (fun vlan => ?_) (fun x a w r h => ?_) (by simp)
  · refine Checked.quiet (Quiet.lift _) fun seen => ?_
    refine Checked.quiet (Quiet.get _) fun subnet => ?_
    refine Checked.bind (Checked.ite ?_ (checked_pure "dhcp" seen)) (fun seen => ?_) (by simp)
    · refine Checked.quiet (Quiet.lift _) fun iface => ?_
      refine Checked.quiet (Quiet.lift _) fun seen => ?_
      exact Checked.bind (checked_within "dhcp" _ _ _) (fun _ => Checked.pure seen) (by simp)
    · refine Checked.field (fun _ => ?_) (fun x b h => ⟨b, congrArg some (vBool_eq_ok h)⟩) (by simp)
      refine Checked.field (fun _ => ?_) (fun x b h => ⟨b, congrArg some (vBool_eq_ok h)⟩) (by simp)
      refine Checked.field (fun _ => ?_) (fun _ _ _ => trivial) (by simp)
      exact Checked.pure seen
  · obtain ⟨seen', a₁, w₁, hlift, -⟩ := bind_eq_ok.mp h
    obtain ⟨v, hv, -⟩ := except_bind_eq_ok.mp (lift_eq_ok.mp hlift).1
    exact isVlan_of_vVlan hv

theorem vId_of_validateNetwork {cfg : Obj} {seen seen' : SeenNetworks} {nid : String} {a a' : Obj}
    {w w' : List String} (h : validateNetwork cfg seen nid a w = .ok (seen', a', w')) :
    idRe nid = true := by
  unfold validateNetwork at h
  obtain ⟨s, a₁, w₁, hlift, -⟩ := bind_eq_ok.mp h
  obtain ⟨hid, hre⟩ := vId_eq_ok (lift_eq_ok.mp hlift).1
  rwa [Json.str.inj hid]

/-! ### WANs -/

/-- The fields of an accepted WAN. -/
def wanFacts : Facts :=
  [("name", Anything), ("mode", OneOf wanModes), ("enabled", IsBool), ("priority", IsInt),
    ("weight", IsInt), ("mtu", IsInt), ("vlan", IsVlan), ("port", IsStr), ("static", Anything),
    ("pppoe", Anything), ("ipv6", Anything), ("dns", Anything)]

theorem claimPort_eq_ok {ports : Obj} {used : Dict String String} {base p : String} {port : Json}
    (h : claimPort ports used base port = .ok p) : port = .str p := by
  unfold claimPort at h
  rw [except_bind_eq_ok] at h
  obtain ⟨b, -, h⟩ := h
  split at h
  · simp at h
  · split at h
    · split at h
      · simp at h
      · exact congrArg Json.str (Except.ok.inj h)
    · simp at h

theorem checked_settlePort (ports others : Obj) (used : Dict String String) (wid : String)
    (enabled : Bool) : Checked [("port", IsStr)] (settlePort ports others used wid enabled) := by
  intro a w b a' w' h
  unfold settlePort at h
  obtain ⟨named, a₁, w₁, hget, h⟩ := bind_eq_ok.mp h
  simp only [EditM.get, Except.ok.injEq, Prod.mk.injEq] at hget
  obtain ⟨rfl, rfl, rfl⟩ := hget
  obtain ⟨own, a₂, w₂, hown, h⟩ := bind_eq_ok.mp h
  obtain ⟨hclaim, rfl, rfl⟩ := lift_eq_ok.mp hown
  obtain ⟨port, a₃, w₃, hport, h⟩ := bind_eq_ok.mp h
  obtain ⟨-, rfl, rfl⟩ := lift_eq_ok.mp hport
  obtain ⟨u, a₄, w₄, hwhen, h⟩ := bind_eq_ok.mp h
  obtain ⟨-, rfl, -⟩ := pure_eq_ok.mp h
  unfold EditM.when at hwhen
  split at hwhen
  · -- moved to another port
    obtain ⟨u', a₅, w₅, hwarn, hput⟩ := bind_eq_ok.mp hwhen
    simp only [EditM.warn, Except.ok.injEq, Prod.mk.injEq] at hwarn
    simp only [EditM.put, Except.ok.injEq, Prod.mk.injEq] at hput
    obtain ⟨-, rfl, -⟩ := hwarn
    obtain ⟨-, rfl, -⟩ := hput
    refine ⟨fun j hj => Dict.lookup_set_of_ne (by simpa using hj) _ _, fun g hg => ?_⟩
    obtain rfl := List.mem_singleton.mp hg
    exact ⟨port, Dict.lookup_set_self _ _ _⟩
  · obtain ⟨-, rfl, -⟩ := pure_eq_ok.mp hwhen
    refine ⟨fun _ _ => rfl, fun g hg => ?_⟩
    obtain rfl := List.mem_singleton.mp hg
    have hstr := claimPort_eq_ok hclaim
    cases hl : Dict.lookup "port" a with
    | none => simp [hl] at hstr
    | some x => exact ⟨own, by simpa [hl] using hstr⟩

theorem checked_validateWan (ports others : Obj) (used : Dict String String) (wid : String) :
    Checked wanFacts (validateWan ports others used wid) := by
  unfold validateWan wanFacts
  refine Checked.quiet (Quiet.lift _) fun _ => ?_
  refine Checked.field (fun _ => ?_) (fun _ _ _ => trivial) (by simp)
  refine Checked.field (fun mode => ?_)
    (fun x b h => ⟨b, (vEnum_eq_ok h).2, congrArg some (vEnum_eq_ok h).1⟩) (by simp)
  refine Checked.field (fun enabled => ?_) (fun x b h => ⟨b, congrArg some (vBool_eq_ok h)⟩) (by simp)
  refine Checked.field (fun _ => ?_) (fun x b h => ⟨b, congrArg some (vInt_eq_ok h).1⟩) (by simp)
  refine Checked.field (fun _ => ?_) (fun x b h => ⟨b, congrArg some (vInt_eq_ok h).1⟩) (by simp)
  refine Checked.field (fun _ => ?_) (fun x b h => ⟨b, congrArg some (vInt_eq_ok h).1⟩) (by simp)
  refine Checked.get (fun vlan => ?_) (fun x a w r h => ?_) (by simp)
  · refine Checked.quiet (Quiet.lift _) fun _ => ?_
    refine Checked.bind (checked_settlePort ports others used wid enabled) (fun port => ?_) (by simp)
    refine Checked.bind (checked_when_within "static" _ _ _) (fun _ => ?_) (by simp)
    refine Checked.bind (checked_when_within "pppoe" _ _ _) (fun _ => ?_) (by simp)
    refine Checked.quiet (quiet_ifSet _ _) fun _ => ?_
    refine Checked.bind (checked_within "ipv6" _ _ _) (fun _ => ?_) (by simp)
    refine Checked.field (fun _ => ?_) (fun _ _ _ => trivial) (by simp)
    exact Checked.pure port
  · obtain ⟨v, a₁, w₁, hlift, -⟩ := bind_eq_ok.mp h
    exact isVlan_of_vVlan (lift_eq_ok.mp hlift).1

theorem validateWanList_post {ports : Obj} : ∀ {used : Dict String String} {before rest wans : Obj}
    {w w' : List String}, validateWanList ports used before rest w = .ok (wans, w') →
    (∀ e ∈ before, ∃ o, e.2 = .obj o ∧ Holds wanFacts o) →
    Dict.keys wans = Dict.keys before ++ Dict.keys rest ∧ ∀ e ∈ wans, ∃ o, e.2 = .obj o ∧ Holds wanFacts o
  | used, before, [], wans, w, w', h, hbefore => by
    simp only [validateWanList, Except.ok.injEq, Prod.mk.injEq] at h
    obtain ⟨rfl, -⟩ := h
    exact ⟨by simp [Dict.keys], hbefore⟩
  | used, before, (wid, wan) :: rest, wans, w, w', h, hbefore => by
    cases wan with
    | obj o =>
      simp only [validateWanList] at h
      split at h
      · next port o' w₁ hwan =>
        have hone : Holds wanFacts o' :=
          holds_of_checked (checked_validateWan ports (before ++ rest) used wid) hwan
        have hmore : ∀ e ∈ before ++ [(wid, Json.obj o')], ∃ q, e.2 = .obj q ∧ Holds wanFacts q := by
          intro e he
          rcases List.mem_append.mp he with he | he
          · exact hbefore e he
          · obtain rfl := List.mem_singleton.mp he
            exact ⟨o', rfl, hone⟩
        obtain ⟨hkeys, hall⟩ := validateWanList_post h hmore
        refine ⟨?_, hall⟩
        rw [hkeys]
        simp [Dict.keys]
      · simp at h
    | _ => simp [validateWanList] at h

/-! ### Port forwards -/

/-- A field that is there and satisfies `P`. -/
def There (P : Json → Prop) (x : Option Json) : Prop := ∃ y, x = some y ∧ P y

/-- `any`, or one of the WANs. -/
def IsWanOf (wans : Obj) (x : Option Json) : Prop :=
  x = some (.str "any") ∨ ∃ wid, x = some (.str wid) ∧ (Dict.lookup wid wans).isSome = true

/-- The fields of an accepted port forward. -/
def forwardFacts (wans : Obj) : Facts :=
  [("id", IsStr), ("name", Anything), ("enabled", IsBool), ("protocol", OneOf ["tcp", "udp", "tcp-udp"]),
    ("external_port", There IsPorts), ("internal_address", IsStr), ("internal_port", There IsPorts),
    ("wan", IsWanOf wans)]

theorem ipOf_eq_ok {y : Json} {path : String} {version : Option ℕ} {addr : Ip.Addr}
    (h : ipOf y path version = .ok addr) : ∃ s, y = .str s := by
  unfold ipOf at h
  rw [except_bind_eq_ok] at h
  obtain ⟨s, hs, -⟩ := h
  exact ⟨s, needStr_eq_ok hs⟩

theorem isWanOf_of_check {cfg wans : Obj} {wan : Json} {e : Exn}
    (hwans : Dict.lookup "wans" cfg = some (.obj wans))
    (h : (if wan = .str "any" then pure () else do
      if ← pyIn wan ((Dict.lookup "wans" cfg).getD (.obj [])) then pure () else .error e) = .ok ()) :
    IsWanOf wans (some wan) := by
  split at h
  · next hany => exact .inl (congrArg some hany)
  · rw [hwans, Option.getD_some, except_bind_eq_ok] at h
    obtain ⟨b, hin, h⟩ := h
    cases b with
    | false => simp at h
    | true =>
      cases wan with
      | str wid => exact .inr ⟨wid, rfl, by simpa [pyIn] using hin⟩
      | _ => simp [pyIn] at hin

theorem checked_validateForward {cfg wans : Obj} (hwans : Dict.lookup "wans" cfg = some (.obj wans))
    (seen : List (String × String × Json)) (i : ℕ) :
    Checked (forwardFacts wans) (validateForward cfg seen i) := by
  unfold validateForward forwardFacts
  refine Checked.field (fun fid => ?_) (fun x b h => ⟨b, congrArg some (vId_eq_ok h).1⟩) (by simp)
  refine Checked.field (fun _ => ?_) (fun _ _ _ => trivial) (by simp)
  refine Checked.field (fun _ => ?_) (fun x b h => ⟨b, congrArg some (vBool_eq_ok h)⟩) (by simp)
  refine Checked.field (fun proto => ?_)
    (fun x b h => ⟨b, (vEnum_eq_ok h).2, congrArg some (vEnum_eq_ok h).1⟩) (by simp)
  refine Checked.item (fun external => ?_) (fun x a w r h => ?_) (by simp)
  · refine Checked.quiet (Quiet.lift _) fun ext => ?_
    refine Checked.item (fun address => ?_) (fun x a w r h => ?_) (by simp)
    · refine Checked.quiet (Quiet.lift _) fun _ => ?_
      refine Checked.field (fun internal => ?_) (fun x b h => ⟨x, rfl, _, b, h⟩) (by simp)
      refine Checked.quiet (Quiet.lift _) fun _ => ?_
      refine Checked.setdefault (fun wan => ?_) (fun wan a w r h => ?_) (by simp)
      · refine Checked.quiet (Quiet.lift _) fun _ => ?_
        refine Checked.quiet (Quiet.raiseIf _ _) fun _ => ?_
        exact Checked.pure _
      · obtain ⟨u, a₁, w₁, hlift, -⟩ := bind_eq_ok.mp h
        exact isWanOf_of_check hwans (lift_eq_ok.mp hlift).1
    · obtain ⟨addr, a₁, w₁, hlift, -⟩ := bind_eq_ok.mp h
      obtain ⟨s, rfl⟩ := ipOf_eq_ok (lift_eq_ok.mp hlift).1
      exact ⟨s, rfl⟩
  · obtain ⟨ext, a₁, w₁, hlift, -⟩ := bind_eq_ok.mp h
    exact ⟨x, rfl, _, ext, (lift_eq_ok.mp hlift).1⟩

/-- The fields of an accepted NAT section. -/
def natFacts (wans : Obj) : Facts :=
  [("masquerade", IsBool), ("hairpin", IsBool), ("port_forwards", Elems (Holds (forwardFacts wans)))]

theorem checked_validateNat {cfg wans : Obj} (hwans : Dict.lookup "wans" cfg = some (.obj wans)) :
    Checked (natFacts wans) (validateNat cfg) := by
  unfold validateNat natFacts
  refine Checked.field (fun _ => ?_) (fun x b h => ⟨b, congrArg some (vBool_eq_ok h)⟩) (by simp)
  refine Checked.field (fun _ => ?_) (fun x b h => ⟨b, congrArg some (vBool_eq_ok h)⟩) (by simp)
  refine Checked.absorb (checked_setdefault "port_forwards" (.arr [])) (fun _ => ?_) (by simp)
  exact Checked.bind (elemsOf_post (fun s i a w s' a' w' h =>
    holds_of_checked (checked_validateForward hwans s i) h) []) (fun _ => Checked.pure ()) (by simp)

/-! ### The sections -/

/-- The check of a section writes the section only. -/
theorem checkSection_eq_ok {name : String} {bad : Json → Exn} {check : Obj → EditM Unit}
    {a a' : Obj} {w w' : List String} {u : Unit} :
    checkSection name bad check a w = .ok (u, a', w') ↔
      ∃ o o', (Dict.lookup name a).getD (.obj []) = .obj o ∧ check a o w = .ok (u, o', w') ∧
        a' = Dict.set name (.obj o') a := by
  unfold checkSection
  rw [bind_eq_ok]
  constructor
  · rintro ⟨b, a₁, w₁, hself, h⟩
    simp only [self, Except.ok.injEq, Prod.mk.injEq] at hself
    obtain ⟨rfl, rfl, rfl⟩ := hself
    exact within_eq_ok.mp h
  · intro h
    exact ⟨a, a, w, rfl, within_eq_ok.mpr h⟩

theorem leaves_checkSection {k name : String} (h : k ≠ name) (bad : Json → Exn)
    (check : Obj → EditM Unit) : Leaves k (checkSection name bad check) := by
  intro a w u a' w' hok
  obtain ⟨o, o', -, -, rfl⟩ := checkSection_eq_ok.mp hok
  exact Dict.lookup_set_of_ne h _ _

theorem lookup_of_checkSection {k name : String} {bad : Json → Exn} {check : Obj → EditM Unit}
    {a a' : Obj} {w w' : List String} {u : Unit}
    (h : checkSection name bad check a w = .ok (u, a', w')) (hne : k ≠ name) :
    Dict.lookup k a' = Dict.lookup k a :=
  leaves_checkSection hne bad check a w u a' w' h

/-- A section of the document: its key, what is raised where it is no object, and its check. -/
structure Section where
  name : String
  bad : Json → Exn
  check : Obj → EditM Unit

/-- The checks of sections, one after the other. -/
def runSections : List Section → EditM Unit
  | [] => pure ()
  | s :: rest => checkSection s.name s.bad s.check >>= fun _ => runSections rest

/-- The sections of the document in the order they are checked. -/
def sections (caps : Capabilities) : List Section :=
  [⟨"system", fun _ => .attribute, fun _ => validateSystem⟩,
    ⟨"ports", fun _ => .attribute, validatePorts⟩,
    ⟨"networks", badNetworks, validateNetworks⟩,
    ⟨"wans", fun _ => .attribute, validateWans⟩,
    ⟨"firewall", fun _ => .attribute, fun _ => validateFirewall⟩,
    ⟨"nat", fun _ => .attribute, validateNat⟩,
    ⟨"routing", fun _ => .attribute, fun _ => validateRouting⟩,
    ⟨"qos", fun _ => notObject "qos", validateQos⟩,
    ⟨"dns", fun _ => notObject "dns", fun _ => validateDns⟩,
    ⟨"dpi", fun _ => notObject "dpi", validateDpi⟩,
    ⟨"controller", fun _ => notObject "controller", fun _ => validateController⟩,
    ⟨"wifi", fun _ => .attribute, validateWifi caps⟩,
    ⟨"users", fun _ => .attribute, fun _ => validateUsers⟩]

theorem validateSections_eq (caps : Capabilities) :
    validateSections caps = runSections (sections caps) := by
  have hlast : ∀ m : EditM Unit, (m >>= fun _ => pure ()) = m := bind_pure_eq
  simp only [sections, runSections, hlast]
  rfl

theorem lookup_of_runSections {k : String} : ∀ {secs : List Section} {a a' : Obj} {w w' : List String}
    {u : Unit}, runSections secs a w = .ok (u, a', w') → k ∉ secs.map Section.name →
    Dict.lookup k a' = Dict.lookup k a
  | [], a, a', w, w', u, h, _ => by
    obtain ⟨-, rfl, -⟩ := pure_eq_ok.mp h
    rfl
  | s :: rest, a, a', w, w', u, h, hk => by
    rw [List.map_cons, List.mem_cons, not_or] at hk
    obtain ⟨v, a₁, w₁, h₁, h₂⟩ := bind_eq_ok.mp h
    rw [lookup_of_runSections h₂ hk.2, lookup_of_checkSection h₁ hk.1]

/-- The check of one section: it reads the document at its turn, in which the sections before it are
as they stay and everything else is as it was. -/
theorem section_of_run : ∀ {secs before after : List Section} {s : Section} {a a' : Obj}
    {w w' : List String} {u : Unit}, (secs.map Section.name).Nodup → secs = before ++ s :: after →
    runSections secs a w = .ok (u, a', w') →
    ∃ m o o' v v', (Dict.lookup s.name a).getD (.obj []) = .obj o ∧
      s.check m o v = .ok ((), o', v') ∧ Dict.lookup s.name a' = some (.obj o') ∧
      (∀ k ∈ before.map Section.name, Dict.lookup k m = Dict.lookup k a') ∧
      ∀ k, k ∉ before.map Section.name → Dict.lookup k m = Dict.lookup k a
  | _, [], after, s, a, a', w, w', u, hnodup, rfl, h => by
    obtain ⟨x, a₁, w₁, h₁, h₂⟩ := bind_eq_ok.mp h
    obtain ⟨o, o', ho, hcheck, rfl⟩ := checkSection_eq_ok.mp h₁
    rw [List.nil_append, List.map_cons, List.nodup_cons] at hnodup
    refine ⟨a, o, o', w, w₁, ho, hcheck, ?_, by simp, fun _ _ => rfl⟩
    rw [lookup_of_runSections h₂ hnodup.1, Dict.lookup_set_self]
  | _, b :: before, after, s, a, a', w, w', u, hnodup, rfl, h => by
    obtain ⟨x, a₁, w₁, h₁, h₂⟩ := bind_eq_ok.mp h
    rw [List.cons_append, List.map_cons, List.nodup_cons] at hnodup
    obtain ⟨m, o, o', v, v', ho, hcheck, hl, hbefore, hrest⟩ := section_of_run hnodup.2 rfl h₂
    have hb : b.name ∉ before.map Section.name := by
      intro hmem
      exact hnodup.1 (by simp only [List.map_append, List.mem_append]; exact .inl hmem)
    have hne : s.name ≠ b.name := by
      intro heq
      exact hnodup.1 (by simp [← heq])
    rw [lookup_of_checkSection h₁ hne] at ho
    refine ⟨m, o, o', v, v', ho, hcheck, hl, fun k hk => ?_, fun k hk => ?_⟩
    · rw [List.map_cons, List.mem_cons] at hk
      rcases hk with rfl | hk
      · rw [hrest _ hb, lookup_of_runSections h₂ hnodup.1]
      · exact hbefore k hk
    · rw [List.map_cons, List.mem_cons, not_or] at hk
      rw [hrest k hk.2, lookup_of_checkSection h₁ hk.1]

/-- The same for the whole document. -/
theorem section_of_validate {caps : Capabilities} {cfg t : Obj} {w : List String}
    (h : validate caps cfg = .ok (t, w)) (before : List Section) (s : Section) (after : List Section)
    (hsplit : sections caps = before ++ s :: after) :
    ∃ m o o' v v', (Dict.lookup s.name cfg).getD (.obj []) = .obj o ∧
      s.check m o v = .ok ((), o', v') ∧ Dict.lookup s.name t = some (.obj o') ∧
      (∀ k ∈ before.map Section.name, Dict.lookup k m = Dict.lookup k t) ∧
      ∀ k, k ∉ before.map Section.name → Dict.lookup k m = Dict.lookup k cfg := by
  unfold validate at h
  rw [validateSections_eq] at h
  cases hs : runSections (sections caps) cfg [] with
  | error e => simp [hs] at h
  | ok r =>
    obtain ⟨u, t', w'⟩ := r
    simp only [hs, Except.ok.injEq, Prod.mk.injEq] at h
    obtain ⟨rfl, rfl⟩ := h
    exact section_of_run (by simp [sections]) hsplit hs

/-! ### The document -/

/-- What validation leaves of the sections that the ruleset is made from. -/
structure Accepted (t : Obj) : Prop where
  networks : ∃ networks, Dict.lookup "networks" t = some (.obj networks) ∧
    ∀ e ∈ networks, idRe e.1 = true ∧ ∃ o, e.2 = .obj o ∧ Holds networkFacts o
  firewall : ∃ fw, Dict.lookup "firewall" t = some (.obj fw) ∧ Holds firewallFacts fw
  wans : ∃ wans, Dict.lookup "wans" t = some (.obj wans) ∧
    (∀ e ∈ wans, ∃ o, e.2 = .obj o ∧ Holds wanFacts o) ∧
    ∃ nat, Dict.lookup "nat" t = some (.obj nat) ∧ Holds (natFacts wans) nat

theorem networks_of_check {cfg a a' : Obj} {w w' : List String} {u : Unit}
    (h : validateNetworks cfg a w = .ok (u, a', w')) :
    ∀ e ∈ a', idRe e.1 = true ∧ ∃ o, e.2 = .obj o ∧ Holds networkFacts o := by
  unfold validateNetworks at h
  obtain ⟨networks, a₁, w₁, hself, h⟩ := bind_eq_ok.mp h
  obtain ⟨_, a₂, w₂, hraise, h⟩ := bind_eq_ok.mp h
  obtain ⟨s, a₃, w₃, hloop, h⟩ := bind_eq_ok.mp h
  obtain ⟨-, rfl, -⟩ := pure_eq_ok.mp h
  have hone : ∀ (s : SeenNetworks) k a w s' a' w', validateNetwork cfg s k a w = .ok (s', a', w') →
      idRe k = true ∧ Holds networkFacts a' := fun s k a w s' a' w' hk =>
    ⟨vId_of_validateNetwork hk, holds_of_checked (checked_validateNetwork cfg s k) hk⟩
  have hpost := (eachEntry_post hone _ hloop).2
  intro e he
  obtain ⟨o, ho, hid, hfacts⟩ := hpost e he
  exact ⟨hid, o, ho, hfacts⟩

theorem wans_of_check {cfg a a' : Obj} {w w' : List String} {u : Unit}
    (h : validateWans cfg a w = .ok (u, a', w')) : ∀ e ∈ a', ∃ o, e.2 = .obj o ∧ Holds wanFacts o := by
  unfold validateWans at h
  simp only at h
  split at h
  · next hlist =>
    simp only [Except.ok.injEq, Prod.mk.injEq] at h
    obtain ⟨-, rfl, -⟩ := h
    exact (validateWanList_post hlist (by simp)).2
  · simp at h

/-- **Accepted documents**: what validation answers with satisfies the checks of its sections. -/
theorem accepted_of_validate {caps : Capabilities} {cfg t : Obj} {w : List String}
    (h : validate caps cfg = .ok (t, w)) : Accepted t := by
  obtain ⟨_, _, net, _, _, -, hnet, hlnet, -, -⟩ := section_of_validate h [_, _] _ _ rfl
  obtain ⟨_, _, wans, _, _, -, hwans, hlwans, -, -⟩ := section_of_validate h [_, _, _] _ _ rfl
  obtain ⟨_, _, fw, _, _, -, hfw, hlfw, -, -⟩ := section_of_validate h [_, _, _, _] _ _ rfl
  obtain ⟨m, _, nat, _, _, -, hnat, hlnat, hearlier, -⟩ :=
    section_of_validate h [_, _, _, _, _] _ _ rfl
  have hm : Dict.lookup "wans" m = some (.obj wans) := by
    rw [hearlier "wans" (by simp)]
    exact hlwans
  exact ⟨⟨net, hlnet, networks_of_check hnet⟩,
    ⟨fw, hlfw, holds_of_checked checked_validateFirewall hfw⟩,
    ⟨wans, hlwans, wans_of_check hwans, nat, hlnat, holds_of_checked (checked_validateNat hm) hnat⟩⟩

end Schema

end Sbegw
