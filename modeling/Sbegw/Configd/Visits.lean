import Sbegw.Configd.Diff
import Sbegw.Json.Paths
import Mathlib.Data.List.Dedup
import Mathlib.Data.List.Sort
import Mathlib.Data.String.Basic

/-!
# The positions that a diff compares

`diff_config` goes down the keys that both objects have, in the order of the keys, and compares what it
finds where one side is no object.  The positions are listed here by their keys, with what the
comparison said; the diff is what is left of them once the equal ones are dropped.
-/

namespace Sbegw.Configd

open Json (valueAt)

/-! ### Positions -/

/-- One comparison. -/
structure Visit where
  path : List String
  same : Bool
  old : Json
  new : Json

/-- The position as seen from above the key. -/
def Visit.under (k : String) (v : Visit) : Visit := { v with path := k :: v.path }

/-- `sorted(set(old) | set(new))` -/
def unionKeys (a b : Obj) : List String := ((Dict.keys a ++ Dict.keys b).dedup).insertionSort (· ≤ ·)

/-- The comparisons that `diff_config(old, new)` makes, in their order. -/
def visits : Json → Json → List Visit
  | .obj a, .obj b => (unionKeys a b).flatMap fun k =>
    match _hx : Dict.lookup k a with
    | some x =>
      match Dict.lookup k b with
      | some y => (visits x y).map (Visit.under k)
      | none => [⟨[k], false, x, .null⟩]
    | none =>
      match Dict.lookup k b with
      | some y => [⟨[k], false, .null, y⟩]
      | none => []
  | x, y => [⟨[], Json.pyEq x y, x, y⟩]
termination_by x => sizeOf x
decreasing_by exact Json.sizeOf_of_lookup ‹_›

/-- The comparisons under a key that holds `x` on the old and `y` on the new side. -/
def visitsBelow (k : String) : Option Json → Option Json → List Visit
  | some x, some y => (visits x y).map (Visit.under k)
  | some x, none => [⟨[k], false, x, .null⟩]
  | none, some y => [⟨[k], false, .null, y⟩]
  | none, none => []

theorem visits_obj (a b : Obj) : visits (.obj a) (.obj b) =
    (unionKeys a b).flatMap fun k => visitsBelow k (Dict.lookup k a) (Dict.lookup k b) := by
  rw [visits]
  refine congrArg (fun f => (unionKeys a b).flatMap f) (funext fun k => ?_)
  split
  · rename_i x hx
    rw [hx]
    cases Dict.lookup k b <;> rfl
  · rename_i hx
    rw [hx]
    cases Dict.lookup k b <;> rfl

/-- Only two objects are gone into. -/
theorem visits_value {x y : Json} (h : ¬ (x.isObj = true ∧ y.isObj = true)) :
    visits x y = [⟨[], Json.pyEq x y, x, y⟩] := by
  cases x with
  | obj a =>
    cases y with
    | obj b => exact absurd ⟨rfl, rfl⟩ h
    | _ => rw [visits]; simp
  | _ => rw [visits]; simp

/-! ### The keys of both sides -/

theorem mem_unionKeys {a b : Obj} {k : String} :
    k ∈ unionKeys a b ↔ (Dict.lookup k a).isSome = true ∨ (Dict.lookup k b).isSome = true := by
  rw [unionKeys, List.mem_insertionSort, List.mem_dedup, List.mem_append, ← not_iff_not, not_or, not_or,
    ← Dict.lookup_eq_none_iff, ← Dict.lookup_eq_none_iff, Bool.not_eq_true, Bool.not_eq_true,
    Option.isSome_eq_false_iff, Option.isSome_eq_false_iff, Option.isNone_iff_eq_none,
    Option.isNone_iff_eq_none]

theorem nodup_unionKeys (a b : Obj) : (unionKeys a b).Nodup :=
  (List.perm_insertionSort _ _).nodup_iff.mpr (List.nodup_dedup _)

theorem sorted_unionKeys (a b : Obj) : (unionKeys a b).Pairwise (· < ·) := by
  have hle : (unionKeys a b).Pairwise (· ≤ ·) := List.pairwise_insertionSort _ _
  exact hle.imp₂ (fun _ _ h hne => lt_of_le_of_ne h hne) (nodup_unionKeys a b)

/-- A sorted dictionary is read in the order of its keys. -/
theorem flatMap_sorted {α : Type} {d : Dict String (List α)} {ks : List String} (hd : (Dict.keys d).Nodup)
    (hperm : (Dict.keys d).Perm ks) :
    (Dict.sorted d).flatMap Prod.snd =
      (ks.insertionSort (· ≤ ·)).flatMap fun k => (Dict.lookup k d).getD [] := by
  have hmap : (Dict.sorted d).map Prod.fst = (Dict.keys d).insertionSort (· ≤ ·) :=
    List.map_insertionSort _ _ _ _ fun _ _ _ _ => Iff.rfl
  have hkeys : (Dict.sorted d).map Prod.fst = ks.insertionSort (· ≤ ·) := by
    rw [hmap]
    have hsorted := (List.perm_insertionSort (· ≤ ·) (Dict.keys d)).trans
      (hperm.trans (List.perm_insertionSort (· ≤ ·) ks).symm)
    exact hsorted.eq_of_pairwise' (List.pairwise_insertionSort _ _) (List.pairwise_insertionSort _ _)
  rw [← hkeys, List.flatMap_map]
  refine List.flatMap_congr fun e he => ?_
  rw [Dict.lookup_of_mem hd (mem_sorted.mp he)]
  rfl

/-! ### The diff by its positions -/

/-- The entry of a diff for a comparison below `path`. -/
def Visit.change (path : String) (v : Visit) : Change := ⟨v.path.foldl subPath path, v.old, v.new⟩

/-- The entries of a diff. -/
def reported (path : String) (vs : List Visit) : List Change :=
  (vs.filter fun v => !v.same).map (Visit.change path)

theorem reported_under (path k : String) (vs : List Visit) :
    reported path (vs.map (Visit.under k)) = reported (subPath path k) vs := by
  rw [reported, reported, List.filter_map, List.map_map]
  rfl

theorem reported_flatMap (path : String) (ks : List String) (f : String → List Visit) :
    reported path (ks.flatMap f) = ks.flatMap fun k => reported path (f k) := by
  rw [reported, List.filter_flatMap, List.map_flatMap]
  rfl

/-- Hidden keys are not reported. -/
theorem keys_diffKept (b : Obj) (path : String) : ∀ (seen : List String) (a : Obj),
    (Dict.keys (diffKept seen a b path)).Nodup ∧ ∀ k ∈ Dict.keys (diffKept seen a b path), k ∉ seen
  | _, [] => ⟨List.nodup_nil, by simp [diffKept, Dict.keys]⟩
  | seen, (j, x) :: a => by
    obtain ⟨hnodup, hnew⟩ := keys_diffKept b path (j :: seen) a
    rw [diffKept]
    split
    · exact ⟨hnodup, fun k hk hmem => hnew k hk (List.mem_cons_of_mem j hmem)⟩
    · rename_i hj
      rw [List.contains_iff_mem] at hj
      refine ⟨List.nodup_cons.mpr ⟨fun hmem => hnew j hmem List.mem_cons_self, hnodup⟩, fun k hk => ?_⟩
      rcases List.mem_cons.mp hk with rfl | hk
      · exact hj
      · exact fun hmem => hnew k hk (List.mem_cons_of_mem j hmem)

theorem keys_diffAdded (a : Obj) (path : String) : ∀ (seen : List String) (b : Obj),
    (Dict.keys (diffAdded seen a path b)).Nodup ∧
      ∀ k ∈ Dict.keys (diffAdded seen a path b), k ∉ seen ∧ Dict.lookup k a = none
  | _, [] => ⟨List.nodup_nil, by simp [diffAdded, Dict.keys]⟩
  | seen, (j, y) :: b => by
    obtain ⟨hnodup, hnew⟩ := keys_diffAdded a path (j :: seen) b
    have hrest : ∀ k ∈ Dict.keys (diffAdded (j :: seen) a path b), k ∉ seen ∧ Dict.lookup k a = none :=
      fun k hk => ⟨fun hmem => (hnew k hk).1 (List.mem_cons_of_mem j hmem), (hnew k hk).2⟩
    rw [diffAdded]
    split
    · exact ⟨hnodup, hrest⟩
    · rename_i hj
      rw [Bool.or_eq_true, not_or, List.contains_iff_mem, Option.not_isSome_iff_eq_none] at hj
      refine ⟨List.nodup_cons.mpr ⟨fun hmem => (hnew j hmem).1 List.mem_cons_self, hnodup⟩, fun k hk => ?_⟩
      rcases List.mem_cons.mp hk with rfl | hk
      · exact hj
      · exact hrest k hk

/-- The entries that `diff_config` collects for each key. -/
def keyedChanges (a b : Obj) (path : String) : Dict String (List Change) :=
  diffKept [] a b path ++ diffAdded [] a path b

theorem lookup_keyedChanges (a b : Obj) (path k : String) : Dict.lookup k (keyedChanges a b path) =
    ((Dict.lookup k a).map fun x => ((Dict.lookup k b).map fun y => diffConfig x y (subPath path k)).getD
      [⟨subPath path k, x, .null⟩]).or ((Dict.lookup k b).map fun y => [⟨subPath path k, .null, y⟩]) := by
  rw [keyedChanges, Dict.lookup_append, lookup_diffKept List.not_mem_nil]
  cases hx : Dict.lookup k a with
  | none => exact lookup_diffAdded hx List.not_mem_nil
  | some x => cases Dict.lookup k b <;> rfl

theorem nodup_keyedChanges (a b : Obj) (path : String) : (Dict.keys (keyedChanges a b path)).Nodup := by
  rw [keyedChanges, Dict.keys, List.map_append, List.nodup_append']
  refine ⟨(keys_diffKept b path [] a).1, (keys_diffAdded a path [] b).1, fun k hkept hadded => ?_⟩
  have hold := ((keys_diffAdded a path [] b).2 k hadded).2
  have hnone : Dict.lookup k (diffKept [] a b path) = none := by
    rw [lookup_diffKept List.not_mem_nil, hold]
    rfl
  exact Dict.lookup_eq_none_iff.mp hnone hkept

theorem keys_keyedChanges (a b : Obj) (path : String) :
    (Dict.keys (keyedChanges a b path)).Perm (Dict.keys a ++ Dict.keys b).dedup := by
  rw [List.perm_ext_iff_of_nodup (nodup_keyedChanges a b path) (List.nodup_dedup _)]
  intro k
  rw [List.mem_dedup, List.mem_append, ← not_iff_not, not_or, ← Dict.lookup_eq_none_iff,
    ← Dict.lookup_eq_none_iff, ← Dict.lookup_eq_none_iff, lookup_keyedChanges]
  cases Dict.lookup k a <;> cases Dict.lookup k b <;> simp

theorem diffConfig_obj (a b : Obj) (path : String) : diffConfig (.obj a) (.obj b) path =
    (unionKeys a b).flatMap fun k => (Dict.lookup k (keyedChanges a b path)).getD [] := by
  rw [diffConfig_objs]
  exact flatMap_sorted (nodup_keyedChanges a b path) (keys_keyedChanges a b path)

/-- **The diff of two values is what their positions report.** -/
theorem diffConfig_eq (x y : Json) (path : String) : diffConfig x y path = reported path (visits x y) := by
  by_cases hobj : x.isObj = true ∧ y.isObj = true
  · cases x with
    | obj a =>
      cases y with
      | obj b =>
        rw [visits_obj, reported_flatMap, diffConfig_obj]
        refine List.flatMap_congr fun k _ => ?_
        rw [lookup_keyedChanges]
        cases hx : Dict.lookup k a with
        | none => cases Dict.lookup k b <;> rfl
        | some v =>
          cases Dict.lookup k b with
          | none => rfl
          | some w =>
            have hsmall := Json.sizeOf_of_lookup hx
            rw [visitsBelow, reported_under, ← diffConfig_eq v w (subPath path k)]
            rfl
      | _ => exact absurd hobj.2 (by simp [Json.isObj])
    | _ => exact absurd hobj.1 (by simp [Json.isObj])
  · rw [visits_value hobj, diffConfig_of_not_objs (by rwa [Bool.eq_false_iff, ne_eq, Bool.and_eq_true]), reported,
      List.filter_cons]
    cases Json.pyEq x y <;> rfl
termination_by sizeOf x
decreasing_by
  rw [Json.obj.sizeOf_spec] at hsmall
  simp only [Json.obj.sizeOf_spec]
  omega

/-! ### The order of the positions -/

/-- Two positions part at a key, and the first one goes to the smaller key. -/
inductive Before : List String → List String → Prop
  | here {k l : String} (p q : List String) : k < l → Before (k :: p) (l :: q)
  | under (k : String) {p q : List String} : Before p q → Before (k :: p) (k :: q)

theorem Before.irrefl {p : List String} (h : Before p p) : False := by
  induction p with
  | nil => cases h
  | cons k p ih =>
    cases h with
    | here _ _ hk => exact lt_irrefl k hk
    | under _ hp => exact ih hp

theorem Before.asymm {p q : List String} (h : Before p q) (h' : Before q p) : False := by
  induction h with
  | here p q hkl =>
    cases h' with
    | here _ _ hlk => exact lt_asymm hkl hlk
    | under _ hp => exact lt_irrefl _ hkl
  | under k h ih =>
    cases h' with
    | here _ _ hk => exact lt_irrefl k hk
    | under _ hp => exact ih hp

/-- Neither of them leads to the other. -/
theorem Before.not_prefix {p q : List String} (h : Before p q) : ¬ p <+: q ∧ ¬ q <+: p := by
  induction h with
  | here p q hkl =>
    rw [List.cons_prefix_cons, List.cons_prefix_cons]
    exact ⟨fun h => absurd h.1 hkl.ne, fun h => absurd h.1 hkl.ne'⟩
  | under k h ih =>
    rw [List.cons_prefix_cons, List.cons_prefix_cons]
    exact ⟨fun h => ih.1 h.2, fun h => ih.2 h.2⟩

instance : Std.Irrefl Before := ⟨fun _ => Before.irrefl⟩
instance : Std.Antisymm Before := ⟨fun _ _ h h' => (h.asymm h').elim⟩

theorem path_of_visitsBelow {k : String} {x y : Option Json} {v : Visit} (h : v ∈ visitsBelow k x y) :
    ∃ p, v.path = k :: p := by
  cases x with
  | none =>
    cases y with
    | none => cases h
    | some y => exact ⟨[], by rw [List.mem_singleton.mp h]⟩
  | some x =>
    cases y with
    | none => exact ⟨[], by rw [List.mem_singleton.mp h]⟩
    | some y =>
      obtain ⟨w, -, rfl⟩ := List.mem_map.mp h
      exact ⟨w.path, rfl⟩

/-- Every position is compared once, and none lies below another one. -/
theorem pairwise_visits (x y : Json) : (visits x y).Pairwise fun v w => Before v.path w.path := by
  by_cases hobj : x.isObj = true ∧ y.isObj = true
  · cases x with
    | obj a =>
      cases y with
      | obj b =>
        rw [visits_obj, List.pairwise_flatMap]
        constructor
        · intro k _
          cases hx : Dict.lookup k a with
          | none =>
            cases Dict.lookup k b with
            | none => exact .nil
            | some w => exact List.pairwise_singleton _ _
          | some v =>
            cases Dict.lookup k b with
            | none => exact List.pairwise_singleton _ _
            | some w =>
              have hsmall := Json.sizeOf_of_lookup hx
              rw [visitsBelow, List.pairwise_map]
              exact (pairwise_visits v w).imp fun h => h.under k
        · refine (sorted_unionKeys a b).imp fun {k l} hkl v hv w hw => ?_
          obtain ⟨p, hp⟩ := path_of_visitsBelow hv
          obtain ⟨q, hq⟩ := path_of_visitsBelow hw
          rw [hp, hq]
          exact .here p q hkl
      | _ => exact absurd hobj.2 (by simp [Json.isObj])
    | _ => exact absurd hobj.1 (by simp [Json.isObj])
  · rw [visits_value hobj]
    exact List.pairwise_singleton _ _
termination_by sizeOf x
decreasing_by
  rw [Json.obj.sizeOf_spec] at hsmall
  simp only [Json.obj.sizeOf_spec]
  omega

/-! ### The values at the positions -/

/-- What a property of comparisons needs to hold of all that `visits` makes. -/
theorem visits_induction {P : Json → Json → Visit → Prop}
    (value : ∀ x y, ¬ (x.isObj = true ∧ y.isObj = true) → P x y ⟨[], Json.pyEq x y, x, y⟩)
    (removed : ∀ a b k x, Dict.lookup k a = some x → Dict.lookup k b = none →
      P (.obj a) (.obj b) ⟨[k], false, x, .null⟩)
    (added : ∀ a b k y, Dict.lookup k a = none → Dict.lookup k b = some y →
      P (.obj a) (.obj b) ⟨[k], false, .null, y⟩)
    (below : ∀ a b k x y v, Dict.lookup k a = some x → Dict.lookup k b = some y → P x y v →
      P (.obj a) (.obj b) (v.under k)) (x y : Json) : ∀ v ∈ visits x y, P x y v := by
  by_cases hobj : x.isObj = true ∧ y.isObj = true
  · cases x with
    | obj a =>
      cases y with
      | obj b =>
        intro v hv
        rw [visits_obj] at hv
        obtain ⟨k, -, hv⟩ := List.mem_flatMap.mp hv
        cases hx : Dict.lookup k a with
        | none =>
          cases hy : Dict.lookup k b with
          | none =>
            rw [hx, hy] at hv
            cases hv
          | some d =>
            rw [hx, hy] at hv
            rw [List.mem_singleton.mp hv]
            exact added a b k d hx hy
        | some c =>
          cases hy : Dict.lookup k b with
          | none =>
            rw [hx, hy] at hv
            rw [List.mem_singleton.mp hv]
            exact removed a b k c hx hy
          | some d =>
            rw [hx, hy] at hv
            obtain ⟨w, hw, rfl⟩ := List.mem_map.mp hv
            have hsmall := Json.sizeOf_of_lookup hx
            exact below a b k c d w hx hy (visits_induction value removed added below c d w hw)
      | _ => exact absurd hobj.2 (by simp [Json.isObj])
    | _ => exact absurd hobj.1 (by simp [Json.isObj])
  · intro v hv
    rw [visits_value hobj] at hv
    rw [List.mem_singleton.mp hv]
    exact value x y hobj
termination_by sizeOf x
decreasing_by
  rw [Json.obj.sizeOf_spec] at hsmall
  simp only [Json.obj.sizeOf_spec]
  omega

theorem valueAt_under {o : Obj} {k : String} {x : Json} (hx : Dict.lookup k o = some x) (p : List String) :
    valueAt (.obj o) (k :: p) = valueAt x p := by
  rw [Json.valueAt_obj, hx]
  rfl

theorem valueAt_absent {o : Obj} {k : String} (h : Dict.lookup k o = none) (p : List String) :
    valueAt (.obj o) (k :: p) = none := by
  rw [Json.valueAt_obj, h]
  rfl

/-- A comparison holds the values at its position, `None` for an absent one. -/
theorem values_of_visits (x y : Json) : ∀ v ∈ visits x y,
    v.old = (valueAt x v.path).getD .null ∧ v.new = (valueAt y v.path).getD .null := by
  refine visits_induction (P := fun x y v => v.old = (valueAt x v.path).getD .null ∧
    v.new = (valueAt y v.path).getD .null) ?_ ?_ ?_ ?_ x y
  · intro x y _
    rw [Json.valueAt_nil, Json.valueAt_nil]
    exact ⟨rfl, rfl⟩
  · intro a b k x hx hy
    rw [valueAt_under hx, valueAt_absent hy, Json.valueAt_nil]
    exact ⟨rfl, rfl⟩
  · intro a b k y hx hy
    rw [valueAt_under hy, valueAt_absent hx, Json.valueAt_nil]
    exact ⟨rfl, rfl⟩
  · intro a b k x y v hx hy ih
    show v.old = (valueAt (.obj a) (k :: v.path)).getD .null ∧ v.new = (valueAt (.obj b) (k :: v.path)).getD .null
    rw [valueAt_under hx, valueAt_under hy]
    exact ih

/-- Equal values are equal wherever they are compared. -/
theorem same_of_pyEq (x y : Json) : ∀ v ∈ visits x y, Json.pyEq x y = true → v.same = true := by
  refine visits_induction (P := fun x y v => Json.pyEq x y = true → v.same = true) ?_ ?_ ?_ ?_ x y
  · exact fun x y _ h => h
  · intro a b k x hx hy h
    have hk := Json.pyEq_obj_iff.mp h k
    rw [hx, hy] at hk
    cases hk
  · intro a b k y hx hy h
    have hk := Json.pyEq_obj_iff.mp h k
    rw [hx, hy] at hk
    cases hk
  · intro a b k x y v hx hy ih h
    have hk := Json.pyEq_obj_iff.mp h k
    rw [hx, hy] at hk
    cases hk with
    | some hxy => exact ih hxy

end Sbegw.Configd
