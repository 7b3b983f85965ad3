import Mathlib.Data.List.Basic
import Mathlib.Data.List.Sort

/-!
# Rule chains

A chain of a packet filter is a list of rules.  A rule applies to some packets, and has a verdict or
only does something on the side.  The first rule that applies and has a verdict decides; a packet that
no rule decides is left to what comes after the chain.
-/

namespace Chain

variable {R P V X : Type*} (applies : R → P → Bool) (verdict : R → Option V)

/-- The verdict of the first rule that applies and has one. -/
def first : List R → P → Option V
  | [], _ => none
  | r :: rs, p => if applies r p then (verdict r).or (first rs p) else first rs p

@[simp] theorem first_nil (p : P) : first applies verdict [] p = none := rfl

theorem first_cons (r : R) (rs : List R) (p : P) : first applies verdict (r :: rs) p =
    if applies r p then (verdict r).or (first applies verdict rs p)
    else first applies verdict rs p := rfl

variable {applies verdict}

/-- What comes first decides, and what follows decides the rest. -/
theorem first_append (rs ts : List R) (p : P) : first applies verdict (rs ++ ts) p =
    (first applies verdict rs p).or (first applies verdict ts p) := by
  induction rs with
  | nil => simp
  | cons r rs ih =>
    rw [List.cons_append, first_cons, first_cons, ih]
    split
    · rw [Option.or_assoc]
    · rfl

/-- No rule decides: those that apply have no verdict. -/
theorem first_eq_none {rs : List R} {p : P} : first applies verdict rs p = none ↔
    ∀ r ∈ rs, applies r p = true → verdict r = none := by
  induction rs with
  | nil => simp
  | cons r rs ih =>
    rw [first_cons, List.forall_mem_cons]
    split
    · next h => simp [h, ih]
    · next h => simp [h, ih]

/-- The rule that decides: it applies, and none before it decides. -/
theorem first_eq_some {rs : List R} {p : P} {v : V} : first applies verdict rs p = some v ↔
    ∃ before r after, rs = before ++ r :: after ∧ first applies verdict before p = none ∧
      applies r p = true ∧ verdict r = some v := by
  induction rs with
  | nil => simp
  | cons r rs ih =>
    constructor
    · intro h
      by_cases hr : applies r p = true ∧ verdict r = some v
      · exact ⟨[], r, rs, rfl, rfl, hr.1, hr.2⟩
      · have hrest : first applies verdict [r] p = none ∧ first applies verdict rs p = some v := by
          rw [first_cons] at h
          rw [first_cons]
          split at h
          · next ha =>
            cases hv : verdict r with
            | none => exact ⟨by simp [ha], by simpa [hv] using h⟩
            | some u =>
              rw [hv] at h
              exact absurd ⟨ha, hv.trans h⟩ hr
          · next ha => exact ⟨by simp [ha], h⟩
        obtain ⟨before, r', after, rfl, hnone, ha, hv⟩ := ih.mp hrest.2
        refine ⟨r :: before, r', after, rfl, ?_, ha, hv⟩
        rw [show r :: before = [r] ++ before from rfl, first_append, hrest.1, hnone]
        rfl
    · rintro ⟨before, r', after, hsplit, hnone, ha, hv⟩
      rw [hsplit, first_append, hnone, first_cons, if_pos ha, hv]
      rfl

theorem exists_of_first {rs : List R} {p : P} {v : V} (h : first applies verdict rs p = some v) :
    ∃ r ∈ rs, applies r p = true ∧ verdict r = some v := by
  obtain ⟨before, r, after, rfl, -, ha, hv⟩ := first_eq_some.mp h
  exact ⟨r, by simp, ha, hv⟩

/-- Rules none of which decides can be left out. -/
theorem first_append_of_none {rs ts : List R} {p : P} (h : first applies verdict rs p = none) :
    first applies verdict (rs ++ ts) p = first applies verdict ts p := by
  rw [first_append, h]
  rfl

/-- A chain put together block by block: the first block that decides does. -/
theorem first_flatMap (f : X → List R) (xs : List X) (p : P) :
    first applies verdict (xs.flatMap f) p = xs.findSome? fun x => first applies verdict (f x) p := by
  induction xs with
  | nil => rfl
  | cons x xs ih =>
    rw [List.flatMap_cons, first_append, ih, List.findSome?_cons]
    cases first applies verdict (f x) p with
    | none => rfl
    | some v => rfl

/-- Rules that agree on a packet, one by one. -/
theorem first_congr {rs : List R} {p q : P} (h : ∀ r ∈ rs, applies r p = applies r q) :
    first applies verdict rs p = first applies verdict rs q := by
  induction rs with
  | nil => rfl
  | cons r rs ih =>
    rw [List.forall_mem_cons] at h
    rw [first_cons, first_cons, h.1, ih h.2]

/-- One more rule in the middle matters to a packet only where it is reached, applies, and what
follows says something else. -/
theorem first_insert (before after : List R) (r : R) (p : P) :
    first applies verdict (before ++ r :: after) p = first applies verdict (before ++ after) p ↔
      (first applies verdict before p).isSome = true ∨ applies r p = false ∨ verdict r = none ∨
        first applies verdict after p = verdict r := by
  rw [first_append, first_append, first_cons]
  cases hb : first applies verdict before p with
  | some v => simp
  | none =>
    cases ha : applies r p with
    | false => simp
    | true =>
      cases hv : verdict r with
      | none => simp
      | some v => simp [eq_comm]

/-! ### Blocks of one verdict -/

/-- Rules that all say the same. -/
theorem first_of_verdict {rs : List R} {v : V} (hv : ∀ r ∈ rs, verdict r = some v) (p : P) :
    first applies verdict rs p = if rs.any (fun r => applies r p) then some v else none := by
  induction rs with
  | nil => rfl
  | cons r rs ih =>
    rw [List.forall_mem_cons] at hv
    rw [first_cons, ih hv.2, hv.1, List.any_cons]
    cases applies r p with
    | true => rfl
    | false => rfl

/-- Blocks each of which has one verdict: the first block with a rule that applies decides. -/
theorem first_flatMap_verdict {f : X → List R} {v : X → V} {xs : List X}
    (hv : ∀ x ∈ xs, ∀ r ∈ f x, verdict r = some (v x)) (p : P) :
    first applies verdict (xs.flatMap f) p =
      (xs.find? fun x => (f x).any fun r => applies r p).map v := by
  induction xs with
  | nil => rfl
  | cons x xs ih =>
    rw [List.forall_mem_cons] at hv
    rw [List.flatMap_cons, first_append, first_of_verdict hv.1, ih hv.2, List.find?_cons]
    cases (f x).any fun r => applies r p with
    | true => rfl
    | false => rfl

/-- The element satisfies `q`, and none before it does. -/
def Leads (q : X → Prop) (xs : List X) (x : X) : Prop :=
  ∃ before after, xs = before ++ x :: after ∧ q x ∧ ∀ y ∈ before, ¬ q y

theorem leads_iff_find? {q : X → Bool} {xs : List X} {x : X} :
    Leads (fun y => q y = true) xs x ↔ xs.find? q = some x := by
  rw [List.find?_eq_some_iff_append]
  constructor
  · rintro ⟨before, after, hsplit, hx, hbefore⟩
    exact ⟨hx, before, after, hsplit, fun y hy => by simpa using hbefore y hy⟩
  · rintro ⟨hx, before, after, hsplit, hbefore⟩
    exact ⟨before, after, hsplit, hx, fun y hy => by simpa using hbefore y hy⟩

theorem leads_map {Y : Type*} {q : Y → Prop} {f : X → Y} {xs : List X} {u : Y} :
    Leads q (xs.map f) u ↔ ∃ x, Leads (fun y => q (f y)) xs x ∧ f x = u := by
  constructor
  · rintro ⟨before, after, hsplit, hq, hbefore⟩
    obtain ⟨bs, rest, rfl, rfl, hrest⟩ := List.map_eq_append_iff.mp hsplit
    obtain ⟨x, as, rfl, rfl, rfl⟩ := List.map_eq_cons_iff.mp hrest
    exact ⟨x, ⟨bs, as, rfl, hq, fun y hy => hbefore _ (List.mem_map_of_mem hy)⟩, rfl⟩
  · rintro ⟨x, ⟨before, after, rfl, hq, hbefore⟩, rfl⟩
    refine ⟨before.map f, after.map f, by simp, hq, fun y hy => ?_⟩
    obtain ⟨z, hz, rfl⟩ := List.mem_map.mp hy
    exact hbefore z hz

/-- Blocks each of which has one verdict, which the first block with a rule that applies gives. -/
theorem first_flatMap_eq_some {f : X → List R} {v : X → V} {xs : List X} {q : X → Prop}
    (hv : ∀ x ∈ xs, ∀ r ∈ f x, verdict r = some (v x)) {p : P}
    (hq : ∀ x ∈ xs, (∃ r ∈ f x, applies r p = true) ↔ q x) {u : V} :
    first applies verdict (xs.flatMap f) p = some u ↔ ∃ x, Leads q xs x ∧ u = v x := by
  rw [first_flatMap_verdict hv, Option.map_eq_some_iff]
  refine exists_congr fun x => ?_
  rw [← leads_iff_find?, eq_comm (a := v x)]
  refine and_congr_left fun _ => ?_
  have hone : ∀ y ∈ xs, ((f y).any fun r => applies r p) = true ↔ q y := fun y hy => List.any_eq_true.trans (hq y hy)
  constructor
  · rintro ⟨before, after, rfl, hx, hbefore⟩
    exact ⟨before, after, rfl, (hone x (by simp)).mp hx,
      fun y hy hqy => hbefore y hy ((hone y (by simp [hy])).mpr hqy)⟩
  · rintro ⟨before, after, rfl, hx, hbefore⟩
    exact ⟨before, after, rfl, (hone x (by simp)).mpr hx,
      fun y hy hqy => hbefore y hy ((hone y (by simp [hy])).mp hqy)⟩

theorem first_flatMap_eq_none {f : X → List R} {v : X → V} {xs : List X}
    (hv : ∀ x ∈ xs, ∀ r ∈ f x, verdict r = some (v x)) {p : P} :
    first applies verdict (xs.flatMap f) p = none ↔ ∀ x ∈ xs, ¬ ∃ r ∈ f x, applies r p = true := by
  rw [first_flatMap_verdict hv, Option.map_eq_none_iff, List.find?_eq_none]
  exact forall₂_congr fun x _ => not_congr List.any_eq_true

theorem first_map_verdict {g : X → R} {v : X → V} {xs : List X}
    (hv : ∀ x ∈ xs, verdict (g x) = some (v x)) (p : P) :
    first applies verdict (xs.map g) p = (xs.find? fun x => applies (g x) p).map v := by
  induction xs with
  | nil => rfl
  | cons x xs ih =>
    rw [List.forall_mem_cons] at hv
    rw [List.map_cons, first_cons, ih hv.2, hv.1, List.find?_cons]
    cases applies (g x) p with
    | true => rfl
    | false => rfl

/-! ### Rules in the order of a key -/

section Ranked

variable {K : Type*} [LinearOrder K] (key : X → K) (q : X → Bool)

theorem find?_orderedInsert (a : X) {s : List X} (hs : s.Pairwise fun x y => key x ≤ key y) :
    (s.orderedInsert (fun x y => key x ≤ key y) a).find? q =
      if q a then
        match s.find? q with
        | none => some a
        | some y => if key a ≤ key y then some a else some y
      else s.find? q := by
  induction s with
  | nil => cases hq : q a <;> simp [hq]
  | cons b s ih =>
    rw [List.pairwise_cons] at hs
    by_cases hab : key a ≤ key b
    · rw [List.orderedInsert_cons, if_pos hab, List.find?_cons]
      cases hq : q a with
      | false => rfl
      | true =>
        cases hy : (b :: s).find? q with
        | none => rfl
        | some y =>
          -- whatever the rest finds is not below its head
          have hby : key b ≤ key y := by
            rcases List.mem_cons.mp (List.mem_of_find?_eq_some hy) with rfl | hmem
            · exact le_refl _
            · exact hs.1 y hmem
          simp [le_trans hab hby]
    · rw [List.orderedInsert_cons, if_neg hab, List.find?_cons, List.find?_cons, ih hs.2]
      cases hb : q b with
      | false => rfl
      | true => cases hq : q a <;> simp [hab]

/-- **The least rank wins**: in a list put in the order of a key, the first element that satisfies `q`
has the least key of those that do, and is the first of them in the list as it was. -/
theorem find?_insertionSort {xs : List X} {x : X}
    (h : (xs.insertionSort fun x y => key x ≤ key y).find? q = some x) :
    ∃ before after, xs = before ++ x :: after ∧ q x = true ∧
      (∀ y ∈ before, q y = true → key x < key y) ∧ ∀ y ∈ after, q y = true → key x ≤ key y := by
  induction xs generalizing x with
  | nil => simp at h
  | cons a l ih =>
    rw [List.insertionSort_cons, find?_orderedInsert key q a (List.pairwise_insertionSort _ l)] at h
    cases hq : q a with
    | false =>
      simp only [hq, Bool.false_eq_true, ↓reduceIte] at h
      obtain ⟨before, after, rfl, hx, hbefore, hafter⟩ := ih h
      refine ⟨a :: before, after, rfl, hx, ?_, hafter⟩
      intro y hy hqy
      rcases List.mem_cons.mp hy with rfl | hy
      · rw [hq] at hqy
        exact absurd hqy (by decide)
      · exact hbefore y hy hqy
    | true =>
      simp only [hq, ↓reduceIte] at h
      cases hf : (l.insertionSort fun x y => key x ≤ key y).find? q with
      | none =>
        rw [hf] at h
        obtain rfl : a = x := by simpa using h
        refine ⟨[], l, rfl, hq, by simp, ?_⟩
        intro y hy hqy
        rw [List.find?_eq_none] at hf
        exact absurd hqy (hf y ((List.mem_insertionSort _).mpr hy))
      | some z =>
        rw [hf] at h
        obtain ⟨before, after, rfl, hz, hbefore, hafter⟩ := ih hf
        by_cases haz : key a ≤ key z
        · obtain rfl : a = x := by simpa [haz] using h
          refine ⟨[], before ++ z :: after, rfl, hq, by simp, ?_⟩
          intro y hy hqy
          rcases List.mem_append.mp hy with hy | hy
          · exact le_trans haz (hbefore y hy hqy).le
          · rcases List.mem_cons.mp hy with rfl | hy
            · exact haz
            · exact le_trans haz (hafter y hy hqy)
        · obtain rfl : z = x := by simpa [haz] using h
          refine ⟨a :: before, after, rfl, hz, ?_, hafter⟩
          intro y hy hqy
          rcases List.mem_cons.mp hy with rfl | hy
          · exact not_le.mp haz
          · exact hbefore y hy hqy

end Ranked

end Chain
