import Sbegw.Json

/-!
# Values by their keys

Equality of objects key by key, and the value at a path of keys.
-/

namespace Sbegw.Json

/-! ### Objects key by key -/

/-- What a lookup finds is smaller than the object. -/
theorem sizeOf_of_lookup {k : String} {x : Json} : ∀ {o : Obj}, Dict.lookup k o = some x →
    sizeOf x < sizeOf (Json.obj o)
  | [], h => by cases h
  | (j, y) :: o, h => by
    rw [Dict.lookup_cons] at h
    simp only [Json.obj.sizeOf_spec, List.cons.sizeOf_spec, Prod.mk.sizeOf_spec]
    split at h
    · obtain rfl := Option.some.inj h
      omega
    · have ih := sizeOf_of_lookup h
      rw [Json.obj.sizeOf_spec] at ih
      omega

theorem pyEqObj_iff (b : Obj) : ∀ (seen : List String) (a : Obj), pyEqObj seen a b = true ↔
    ∀ k ∉ seen, ∀ x, Dict.lookup k a = some x → ∃ y, Dict.lookup k b = some y ∧ pyEq x y = true
  | seen, [] => by simp [pyEqObj]
  | seen, (j, z) :: a => by
    rw [pyEqObj, Bool.and_eq_true, pyEqObj_iff b (j :: seen) a]
    constructor
    · rintro ⟨hhead, htail⟩ k hk x hx
      rw [Dict.lookup_cons] at hx
      by_cases hjk : j = k
      · rw [if_pos hjk] at hx
        obtain rfl := Option.some.inj hx
        subst hjk
        rw [Bool.or_eq_true, List.contains_iff_mem] at hhead
        have hz := hhead.resolve_left hk
        cases hy : Dict.lookup j b with
        | none =>
          rw [hy] at hz
          cases hz
        | some y =>
          rw [hy] at hz
          exact ⟨y, rfl, hz⟩
      · rw [if_neg hjk] at hx
        refine htail k ?_ x hx
        rw [List.mem_cons, not_or]
        exact ⟨fun h => hjk h.symm, hk⟩
    · intro h
      constructor
      · rw [Bool.or_eq_true, List.contains_iff_mem]
        by_cases hj : j ∈ seen
        · exact .inl hj
        · obtain ⟨y, hy, hzy⟩ := h j hj z (by rw [Dict.lookup_cons, if_pos rfl])
          refine .inr ?_
          rw [hy]
          exact hzy
      · intro k hk x hx
        rw [List.mem_cons, not_or] at hk
        refine h k hk.2 x ?_
        rw [Dict.lookup_cons, if_neg fun hjk => hk.1 hjk.symm]
        exact hx

/-- Objects are equal when they have the same keys and equal values there. -/
theorem pyEq_obj_iff {a b : Obj} : pyEq (.obj a) (.obj b) = true ↔
    ∀ k, Option.Rel (fun x y => pyEq x y = true) (Dict.lookup k a) (Dict.lookup k b) := by
  rw [pyEq, Bool.and_eq_true, pyEqObj_iff, List.all_eq_true]
  constructor
  · rintro ⟨hvalues, hkeys⟩ k
    cases hx : Dict.lookup k a with
    | some x =>
      obtain ⟨y, hy, hxy⟩ := hvalues k List.not_mem_nil x hx
      rw [hy]
      exact .some hxy
    | none =>
      cases hy : Dict.lookup k b with
      | none => exact .none
      | some y =>
        have hsome := hkeys (k, y) (Dict.mem_of_lookup hy)
        rw [hx] at hsome
        cases hsome
  · intro h
    constructor
    · intro k _ x hx
      have hk := h k
      rw [hx] at hk
      cases hy : Dict.lookup k b with
      | none =>
        rw [hy] at hk
        cases hk
      | some y =>
        rw [hy] at hk
        cases hk with
        | some hxy => exact ⟨y, rfl, hxy⟩
    · intro e he
      have hmem : e.1 ∈ Dict.keys b := List.mem_map_of_mem he
      have hk := h e.1
      cases hx : Dict.lookup e.1 a with
      | some x => rfl
      | none =>
        rw [hx] at hk
        cases hy : Dict.lookup e.1 b with
        | none => exact absurd hmem (Dict.lookup_eq_none_iff.mp hy)
        | some y =>
          rw [hy] at hk
          cases hk

theorem pyEqArr_iff : ∀ {xs ys : List Json}, pyEqArr xs ys = true ↔ List.Forall₂ (fun x y => pyEq x y = true) xs ys
  | [], ys => by
    rw [pyEqArr, List.isEmpty_iff, List.forall₂_nil_left_iff]
  | x :: xs, [] => by simp [pyEqArr]
  | x :: xs, y :: ys => by
    rw [pyEqArr, Bool.and_eq_true, List.forall₂_cons, pyEqArr_iff]

/-- Lists are equal when they are as long as each other and equal place by place. -/
theorem pyEq_arr_iff {xs ys : List Json} : pyEq (.arr xs) (.arr ys) = true ↔
    ∀ i : ℕ, Option.Rel (fun x y => pyEq x y = true) xs[i]? ys[i]? := by
  rw [pyEq, pyEqArr_iff]
  constructor
  · intro h i
    induction h generalizing i with
    | nil => exact .none
    | cons hxy _ ih =>
      cases i with
      | zero => exact .some hxy
      | succ i => exact ih i
  · intro h
    induction xs generalizing ys with
    | nil =>
      cases ys with
      | nil => exact .nil
      | cons y ys => cases h 0
    | cons x xs ih =>
      cases ys with
      | nil => cases h 0
      | cons y ys =>
        cases h 0 with
        | some hxy => exact .cons hxy (ih fun i => h (i + 1))

/-! ### Paths -/

/-- The value at a path of keys. -/
def valueAt : Json → List String → Option Json
  | j, [] => some j
  | .obj o, k :: ks => (Dict.lookup k o).bind fun x => valueAt x ks
  | _, _ :: _ => none

theorem valueAt_nil (j : Json) : valueAt j [] = some j := by
  cases j <;> rfl

theorem valueAt_obj (o : Obj) (k : String) (ks : List String) :
    valueAt (.obj o) (k :: ks) = (Dict.lookup k o).bind fun x => valueAt x ks := rfl

theorem valueAt_of_not_isObj {j : Json} (h : j.isObj = false) (k : String) (ks : List String) :
    valueAt j (k :: ks) = none := by
  cases j with
  | obj o => cases h
  | _ => rfl

/-- What holds of every object that the keys of a document lead to. -/
def EveryObj (P : Obj → Prop) (j : Json) : Prop := ∀ p o, valueAt j p = some (.obj o) → P o

section EveryObj

variable {P : Obj → Prop}

theorem EveryObj.here {o : Obj} (h : EveryObj P (.obj o)) : P o := h [] o rfl

theorem EveryObj.lookup {o : Obj} (h : EveryObj P (.obj o)) {k : String} {x : Json}
    (hx : Dict.lookup k o = some x) : EveryObj P x := by
  intro p o' hp
  refine h (k :: p) o' ?_
  rw [valueAt_obj, hx]
  exact hp

theorem everyObj_of_not_isObj {j : Json} (h : j.isObj = false) : EveryObj P j := by
  intro p o hp
  cases p with
  | nil =>
    rw [valueAt_nil] at hp
    obtain rfl := Option.some.inj hp
    cases h
  | cons k ks =>
    rw [valueAt_of_not_isObj h] at hp
    cases hp

theorem everyObj_obj {o : Obj} (here : P o) (h : ∀ e ∈ o, EveryObj P e.2) : EveryObj P (.obj o) := by
  intro p o' hp
  cases p with
  | nil =>
    obtain rfl := Json.obj.inj (Option.some.inj hp)
    exact here
  | cons k ks =>
    rw [valueAt_obj] at hp
    obtain ⟨x, hx, hpx⟩ := Option.bind_eq_some_iff.mp hp
    exact h (k, x) (Dict.mem_of_lookup hx) ks o' hpx

end EveryObj

/-- Every object along the keys has its keys once, as a `dict` has. -/
def Distinct (j : Json) : Prop := EveryObj (fun o => (Dict.keys o).Nodup) j

theorem Distinct.nodup {o : Obj} (h : Distinct (.obj o)) : (Dict.keys o).Nodup := EveryObj.here h

theorem Distinct.lookup {o : Obj} (h : Distinct (.obj o)) {k : String} {x : Json}
    (hx : Dict.lookup k o = some x) : Distinct x :=
  EveryObj.lookup h hx

end Sbegw.Json
