import Sbegw.Configd.Veil
import Sbegw.Configd.Visits
import Sbegw.Lib.Pieces

/-!
# The audit trail and the secrets

What `_redact` leaves of a diff does not depend on the values under secret keys, at whatever depth and in
whatever lists they stand, and it still shows every other value that changed.
-/

namespace Sbegw.Configd

open Text
open Json (valueAt)

/-! ### Secret paths -/

theorem lower_append (s t : String) : (lower (s ++ t)).toList = (lower s).toList ++ (lower t).toList := by
  rw [lower, String.toList_ofList, String.toList_append, List.map_append, lower, lower, String.toList_ofList,
    String.toList_ofList]

theorem isSecretKey_iff {key : String} :
    isSecretKey key = true ↔ ∃ s ∈ secretKeys, s.toList <:+: (lower key).toList := by
  rw [isSecretKey, List.any_eq_true]
  exact exists_congr fun s => and_congr_right fun _ => isInfixOf_iff

/-- No secret word reaches over a dot. -/
theorem isSecretKey_append (s t : String) : isSecretKey (s ++ "." ++ t) = (isSecretKey s || isSecretKey t) := by
  have hdots : ∀ w ∈ secretKeys, '.' ∉ w.toList := by decide
  have hdot : (lower ".").toList = ['.'] := by decide
  rw [Bool.eq_iff_iff, Bool.or_eq_true, isSecretKey_iff, isSecretKey_iff, isSecretKey_iff, ← exists_or]
  refine exists_congr fun w => ?_
  rw [← and_or_left]
  refine and_congr_right fun hw => ?_
  rw [lower_append, lower_append, hdot, List.append_assoc, List.singleton_append]
  exact infix_append_cons (hdots w hw)

theorem isSecretKey_subPath (path key : String) :
    isSecretKey (subPath path key) = (isSecretKey path || isSecretKey key) := by
  rw [subPath]
  split
  · rename_i hempty
    rw [hempty, show isSecretKey "" = false from by decide, Bool.false_or]
  · exact isSecretKey_append path key

/-- A path is secret just when one of its keys is. -/
theorem isSecretKey_foldl (p : List String) : isSecretKey (p.foldl subPath "") = p.any isSecretKey := by
  induction p using List.reverseRecOn with
  | nil => decide
  | append_singleton p k ih =>
    rw [List.foldl_append, List.foldl_cons, List.foldl_nil, isSecretKey_subPath, ih, List.any_append,
      List.any_cons, List.any_nil, Bool.or_false]

/-- The last key of a path is no more secret than the path. -/
theorem isSecretKey_of_leafOf {path : String} (h : isSecretKey (leafOf path) = true) : isSecretKey path = true := by
  have hinfix : (leafOf path).toList <:+: path.toList := by
    rw [leafOf, split, List.getLast?_map]
    cases hq : (splitChars '.' path.toList).getLast? with
    | none => exact List.infix_rfl
    | some q =>
      show (String.ofList q).toList <:+: _
      rw [String.toList_ofList]
      exact infix_of_mem_splitChars _ (List.mem_of_getLast? hq)
  obtain ⟨w, hw, hin⟩ := isSecretKey_iff.mp h
  refine isSecretKey_iff.mpr ⟨w, hw, hin.trans ?_⟩
  rw [lower, lower, String.toList_ofList, String.toList_ofList]
  exact hinfix.map lowerChar

/-- `_redact` of one entry. -/
def redactChange (c : Change) : Change :=
  if isSecretKey c.path then ⟨c.path, .str "***", .str "***"⟩
  else ⟨c.path, redactValue c.old, redactValue c.new⟩

theorem redact_eq (changes : List Change) : redact changes = changes.map redactChange := by
  refine List.map_congr_left fun c _ => ?_
  rw [redactChange]
  by_cases h : isSecretKey c.path = true
  · rw [h, Bool.or_true]
  · rw [Bool.not_eq_true] at h
    have hleaf : isSecretKey (leafOf c.path) = false := by
      by_contra hleaf
      rw [Bool.not_eq_false] at hleaf
      rw [isSecretKey_of_leafOf hleaf] at h
      cases h
    rw [h, hleaf, Bool.or_false]

/-! ### Documents that agree but for secrets -/

/-- Neither an object nor a list. -/
def isLeaf : Json → Bool
  | .obj _ => false
  | .arr _ => false
  | _ => true

/-- The values are equal but for what stands under secret keys. -/
inductive Agree : Json → Json → Prop
  | leaf {x y : Json} : isLeaf x = true → Json.pyEq x y = true → Agree x y
  | arr {xs ys : List Json} : xs.length = ys.length →
      (∀ (i : ℕ) (x y : Json), xs[i]? = some x → ys[i]? = some y → Agree x y) → Agree (.arr xs) (.arr ys)
  | obj {a b : Obj} : (∀ k, (Dict.lookup k a).isSome = (Dict.lookup k b).isSome) →
      (∀ k x y, isSecretKey k = false → Dict.lookup k a = some x → Dict.lookup k b = some y → Agree x y) →
      Agree (.obj a) (.obj b)

theorem redactValue_of_isLeaf {x : Json} (h : isLeaf x = true) : redactValue x = x := by
  cases x with
  | obj o => cases h
  | arr xs => cases h
  | _ => rfl

theorem isLeaf_of_pyEq {x y : Json} (hx : isLeaf x = true) (h : Json.pyEq x y = true) : isLeaf y = true := by
  cases y with
  | obj o => cases x <;> simp [Json.pyEq, Json.num?, isLeaf] at h hx
  | arr ys => cases x <;> simp [Json.pyEq, Json.num?, isLeaf] at h hx
  | _ => rfl

theorem getElem?_redactList (i : ℕ) (xs : List Json) : (redactList xs)[i]? = (xs[i]?).map redactValue := by
  induction xs generalizing i with
  | nil => rfl
  | cons x xs ih =>
    cases i with
    | zero => rfl
    | succ i =>
      rw [redactList, List.getElem?_cons_succ, List.getElem?_cons_succ]
      exact ih i

/-- What stands under a key of a redacted object. -/
def redactUnder (k : String) (x : Json) : Json := if isSecretKey k then .str "***" else redactValue x

theorem lookup_redactEntries (k : String) :
    ∀ o : Obj, Dict.lookup k (redactEntries o) = (Dict.lookup k o).map (redactUnder k)
  | [] => rfl
  | (j, x) :: o => by
    rw [redactEntries, Dict.lookup_cons, Dict.lookup_cons]
    by_cases hjk : j = k
    · subst hjk
      rw [if_pos rfl, if_pos rfl]
      rfl
    · rw [if_neg hjk, if_neg hjk]
      exact lookup_redactEntries k o

/-- Redacted values that agreed but for secrets are equal. -/
theorem Agree.redacted {x y : Json} (h : Agree x y) : Json.pyEq (redactValue x) (redactValue y) = true := by
  induction h with
  | leaf hleaf heq => rwa [redactValue_of_isLeaf hleaf, redactValue_of_isLeaf (isLeaf_of_pyEq hleaf heq)]
  | @arr xs ys hlength _ ih =>
    rw [redactValue, redactValue, Json.pyEq_arr_iff]
    intro i
    rw [getElem?_redactList, getElem?_redactList]
    by_cases hi : i < xs.length
    · have hx := List.getElem?_eq_getElem hi
      have hy := List.getElem?_eq_getElem (hlength ▸ hi)
      rw [hx, hy]
      exact .some (ih i _ _ hx hy)
    · rw [List.getElem?_eq_none (not_lt.mp hi), List.getElem?_eq_none (hlength ▸ not_lt.mp hi)]
      exact .none
  | @obj a b hkeys _ ih =>
    rw [redactValue, redactValue, Json.pyEq_obj_iff]
    intro k
    rw [lookup_redactEntries, lookup_redactEntries]
    have hk := hkeys k
    cases hx : Dict.lookup k a with
    | none =>
      rw [hx] at hk
      rw [Option.isSome_eq_false_iff.mp hk.symm |> Option.isNone_iff_eq_none.mp]
      exact .none
    | some x =>
      rw [hx] at hk
      obtain ⟨y, hy⟩ := Option.isSome_iff_exists.mp hk.symm
      rw [hy, Option.map_some, Option.map_some, redactUnder, redactUnder]
      by_cases hsecret : isSecretKey k = true
      · rw [if_pos hsecret, if_pos hsecret]
        exact .some (pyEq_self _)
      · rw [if_neg hsecret, if_neg hsecret]
        rw [Bool.not_eq_true] at hsecret
        exact .some (ih k x y hsecret hx hy)

/-- They agree as well where a path without secret keys leads. -/
theorem Agree.valueAt {x y : Json} (h : Agree x y) {p : List String} (hp : ∀ k ∈ p, isSecretKey k = false) :
    Agree ((Json.valueAt x p).getD .null) ((Json.valueAt y p).getD .null) := by
  induction p generalizing x y with
  | nil =>
    rw [Json.valueAt_nil, Json.valueAt_nil]
    exact h
  | cons k p ih =>
    have hnull : Agree .null .null := .leaf rfl rfl
    cases h with
    | @leaf x y hleaf heq =>
      have hobj : ∀ z : Json, isLeaf z = true → z.isObj = false := by
        intro z hz
        cases z with
        | obj o => cases hz
        | _ => rfl
      rw [Json.valueAt_of_not_isObj (hobj x hleaf), Json.valueAt_of_not_isObj (hobj y (isLeaf_of_pyEq hleaf heq))]
      exact hnull
    | arr _ _ => exact hnull
    | @obj a b hkeys hvalues =>
      have hk := hkeys k
      cases hx : Dict.lookup k a with
      | none =>
        rw [hx] at hk
        have hy := Option.isNone_iff_eq_none.mp (Option.isSome_eq_false_iff.mp hk.symm)
        rw [valueAt_absent hx, valueAt_absent hy]
        exact hnull
      | some x =>
        rw [hx] at hk
        obtain ⟨y, hy⟩ := Option.isSome_iff_exists.mp hk.symm
        rw [valueAt_under hx, valueAt_under hy]
        exact ih (hvalues k x y (hp k List.mem_cons_self) hx hy) fun j hj => hp j (List.mem_cons_of_mem k hj)

/-! ### The same comparisons -/

/-- The diff of the documents compares at the position, and finds this. -/
def Compares (old new : Json) (p : List String) (same : Bool) : Prop :=
  ∃ v ∈ visits old new, v.path = p ∧ v.same = same

/-- Python's `==` of two entries of a diff. -/
def SameChange (c d : Change) : Prop :=
  c.path = d.path ∧ Json.pyEq c.old d.old = true ∧ Json.pyEq c.new d.new = true

/-- Comparisons at the same positions with the same outcomes are made in the same order. -/
theorem visits_parallel {old new old' new' : Json}
    (h : ∀ p same, Compares old new p same ↔ Compares old' new' p same) :
    List.Forall₂ (fun v w => v.path = w.path ∧ v.same = w.same) (visits old new) (visits old' new') := by
  let r : List String × Bool → List String × Bool → Prop := fun a b => Before a.1 b.1
  have hirrefl : Std.Irrefl r := ⟨fun _ => Before.irrefl⟩
  have hantisymm : Std.Antisymm r := ⟨fun _ _ hab hba => (Before.asymm hab hba).elim⟩
  have hsorted : ∀ x y, ((visits x y).map fun v => (v.path, v.same)).Pairwise r := by
    intro x y
    rw [List.pairwise_map]
    exact pairwise_visits x y
  have hmem : ∀ x y (e : List String × Bool),
      e ∈ (visits x y).map (fun v => (v.path, v.same)) ↔ Compares x y e.1 e.2 := by
    intro x y e
    rw [List.mem_map]
    exact exists_congr fun v => and_congr_right fun _ => Prod.ext_iff
  have heq := (hsorted old new).eq_of_mem_iff (hsorted old' new') fun e => by
    rw [hmem, hmem]
    exact h e.1 e.2
  rw [← List.forall₂_eq_eq_eq, List.forall₂_map_left_iff, List.forall₂_map_right_iff] at heq
  exact heq.imp fun _ _ hvw => Prod.ext_iff.mp hvw

/-- Entries at the same position of documents that agree are redacted to the same. -/
theorem sameChange_redacted {old new old' new' : Json} (hold : Agree old old') (hnew : Agree new new') {v w : Visit}
    (hv : v ∈ visits old new) (hw : w ∈ visits old' new') (hpath : v.path = w.path) :
    SameChange (redactChange (v.change "")) (redactChange (w.change "")) := by
  have hsame : (v.change "").path = (w.change "").path := congrArg (List.foldl subPath "") hpath
  rw [redactChange, redactChange, ← hsame]
  by_cases hsecret : isSecretKey (v.change "").path = true
  · rw [if_pos hsecret, if_pos hsecret]
    exact ⟨rfl, pyEq_self _, pyEq_self _⟩
  · rw [if_neg hsecret, if_neg hsecret]
    have hkeys : ∀ k ∈ v.path, isSecretKey k = false := by
      rw [Visit.change, isSecretKey_foldl, List.any_eq_true] at hsecret
      intro k hk
      rw [← Bool.not_eq_true]
      exact fun h => hsecret ⟨k, hk, h⟩
    have hfirst := values_of_visits old new v hv
    have hsecond := values_of_visits old' new' w hw
    rw [← hpath] at hsecond
    refine ⟨rfl, ?_, ?_⟩
    · show Json.pyEq (redactValue v.old) (redactValue w.old) = true
      rw [hfirst.1, hsecond.1]
      exact (hold.valueAt hkeys).redacted
    · show Json.pyEq (redactValue v.new) (redactValue w.new) = true
      rw [hfirst.2, hsecond.2]
      exact (hnew.valueAt hkeys).redacted

/-- What holds of comparisons at the same position holds of the entries that are left of them. -/
theorem forall₂_differing {Q : Visit → Visit → Prop} {vs ws : List Visit}
    (h : List.Forall₂ (fun v w => v.path = w.path ∧ v.same = w.same) vs ws)
    (hQ : ∀ v ∈ vs, ∀ w ∈ ws, v.path = w.path → Q v w) :
    List.Forall₂ Q (vs.filter fun v => !v.same) (ws.filter fun v => !v.same) := by
  induction h with
  | nil => exact .nil
  | @cons v w vs ws hvw _ ih =>
    have htail := ih fun v hv w hw => hQ v (List.mem_cons_of_mem _ hv) w (List.mem_cons_of_mem _ hw)
    rw [List.filter_cons, List.filter_cons, hvw.2]
    split
    · exact .cons (hQ v List.mem_cons_self w List.mem_cons_self hvw.1) htail
    · exact htail

theorem redact_independent {old new old' new' : Json} (hold : Agree old old') (hnew : Agree new new')
    (h : ∀ p same, Compares old new p same ↔ Compares old' new' p same) :
    List.Forall₂ SameChange (redact (diffConfig old new "")) (redact (diffConfig old' new' "")) := by
  have hentries := forall₂_differing (visits_parallel h) fun v hv w hw hvw =>
    sameChange_redacted hold hnew hv hw hvw
  rw [redact_eq, redact_eq, diffConfig_eq, diffConfig_eq, reported, reported, List.forall₂_map_left_iff,
    List.forall₂_map_right_iff, List.forall₂_map_left_iff, List.forall₂_map_right_iff]
  exact hentries

/-! ### What is still shown -/

/-- No key of the position is secret. -/
def Unmasked (q : List Pos) : Prop := ∀ k, Pos.key k ∈ q → isSecretKey k = false

/-- The documents hold different values at the position, and not two objects, whose keys are compared. -/
def ChangedLeaf (old new : Json) (q : List Pos) : Prop :=
  ¬ Option.Rel (fun x y => Json.pyEq x y = true) (at? q old) (at? q new) ∧
    ¬ ((∃ a, at? q old = some (.obj a)) ∧ ∃ b, at? q new = some (.obj b))

theorem at?_index_of_not_arr {x : Json} (h : ∀ xs, x ≠ .arr xs) (i : ℕ) (q : List Pos) :
    at? (.index i :: q) x = none := by
  cases x with
  | arr xs => exact absurd rfl (h xs)
  | _ => rfl

theorem at?_key_of_not_isObj {x : Json} (h : x.isObj = false) (k : String) (q : List Pos) :
    at? (.key k :: q) x = none := by
  rw [at?, get?_of_not_isObj h]
  rfl

/-- Equal values are equal at every position. -/
theorem rel_at? {x y : Json} (h : Json.pyEq x y = true) (q : List Pos) :
    Option.Rel (fun x y => Json.pyEq x y = true) (at? q x) (at? q y) := by
  induction q generalizing x y with
  | nil => exact .some h
  | cons s q ih =>
    cases s with
    | key k =>
      by_cases hobj : (x.isObj && y.isObj) = true
      · rw [Bool.and_eq_true] at hobj
        cases x with
        | obj a =>
          cases y with
          | obj b =>
            have hk := Json.pyEq_obj_iff.mp h k
            rw [at?, at?, Json.get?_obj, Json.get?_obj]
            cases hx : Dict.lookup k a with
            | none =>
              rw [hx] at hk
              generalize Dict.lookup k b = z at hk
              cases hk
              exact .none
            | some x =>
              rw [hx] at hk
              generalize Dict.lookup k b = z at hk
              cases hk with
              | some hxy => exact ih hxy
          | _ => cases hobj.2
        | _ => cases hobj.1
      · rw [Bool.not_eq_true] at hobj
        obtain ⟨hx, hy⟩ := not_isObj_of_pyEq h hobj
        rw [at?_key_of_not_isObj hx, at?_key_of_not_isObj hy]
        exact .none
    | index i =>
      by_cases harr : ∃ xs, x = .arr xs
      · obtain ⟨xs, rfl⟩ := harr
        cases y with
        | arr ys =>
          have hi := Json.pyEq_arr_iff.mp h i
          rw [at?, at?]
          generalize xs[i]? = v at hi
          generalize ys[i]? = w at hi
          cases hi with
          | none => exact .none
          | some hvw => exact ih hvw
        | _ => cases h
      · have hy : ∀ ys, y ≠ .arr ys := by
          rintro ys rfl
          cases x with
          | arr xs => exact harr ⟨xs, rfl⟩
          | _ => simp [Json.pyEq, Json.num?] at h
        rw [at?_index_of_not_arr fun xs hxs => harr ⟨xs, hxs⟩, at?_index_of_not_arr hy]
        exact .none

theorem mem_visits_of_below {a b : Obj} {k : String} {v : Visit}
    (hv : v ∈ visitsBelow k (Dict.lookup k a) (Dict.lookup k b)) : v ∈ visits (.obj a) (.obj b) := by
  rw [visits_obj, List.mem_flatMap]
  refine ⟨k, mem_unionKeys.mpr ?_, hv⟩
  cases hx : Dict.lookup k a with
  | some x => exact .inl rfl
  | none =>
    cases hy : Dict.lookup k b with
    | some y => exact .inr rfl
    | none =>
      rw [hx, hy] at hv
      cases hv

theorem at?_null (q : List Pos) : (at? q .null).getD .null = .null := by
  cases q with
  | nil => rfl
  | cons s q => cases s <;> rfl

/-- A change at a position is found by a comparison on the way to it. -/
theorem exists_visit {q : List Pos} {old new : Json} (h : ChangedLeaf old new q) :
    ∃ v ∈ visits old new, v.same = false ∧ ∃ r, q = keyPath v.path ++ r ∧
      (at? r v.old).getD .null = (at? q old).getD .null ∧ (at? r v.new).getD .null = (at? q new).getD .null := by
  induction q generalizing old new with
  | nil =>
    have hobj : ¬ (old.isObj = true ∧ new.isObj = true) := by
      rintro ⟨hold, hnew⟩
      cases old with
      | obj a =>
        cases new with
        | obj b => exact h.2 ⟨⟨a, rfl⟩, b, rfl⟩
        | _ => cases hnew
      | _ => cases hold
    refine ⟨⟨[], Json.pyEq old new, old, new⟩, ?_, ?_, [], rfl, rfl, rfl⟩
    · rw [visits_value hobj]
      exact List.mem_singleton_self _
    · by_contra heq
      rw [Bool.not_eq_false] at heq
      exact h.1 (.some heq)
  | cons s q ih =>
    by_cases hobj : old.isObj = true ∧ new.isObj = true
    · cases old with
      | obj a =>
        cases new with
        | obj b =>
          cases s with
          | index i => exact absurd .none h.1
          | key k =>
            rw [ChangedLeaf, at?, at?, Json.get?_obj, Json.get?_obj] at h
            have hbelow : ∀ v ∈ visitsBelow k (Dict.lookup k a) (Dict.lookup k b), v ∈ visits (.obj a) (.obj b) :=
              fun v hv => mem_visits_of_below hv
            rw [at?, at?, Json.get?_obj, Json.get?_obj]
            cases hx : Dict.lookup k a with
            | none =>
              cases hy : Dict.lookup k b with
              | none =>
                rw [hx, hy] at h
                exact absurd .none h.1
              | some y =>
                rw [hx, hy] at hbelow
                exact ⟨_, hbelow _ List.mem_cons_self, rfl, q, rfl, at?_null q, rfl⟩
            | some x =>
              cases hy : Dict.lookup k b with
              | none =>
                rw [hx, hy] at hbelow
                exact ⟨_, hbelow _ List.mem_cons_self, rfl, q, rfl, rfl, at?_null q⟩
              | some y =>
                rw [hx, hy] at h hbelow
                obtain ⟨v, hv, hsame, r, hr, hold, hnew⟩ := ih h
                refine ⟨v.under k, hbelow _ (List.mem_map_of_mem hv), hsame, r, ?_, hold, hnew⟩
                rw [hr]
                rfl
        | _ => cases hobj.2
      | _ => cases hobj.1
    · refine ⟨⟨[], Json.pyEq old new, old, new⟩, ?_, ?_, s :: q, rfl, rfl, rfl⟩
      · rw [visits_value hobj]
        exact List.mem_singleton_self _
      · by_contra heq
        rw [Bool.not_eq_false] at heq
        exact h.1 (rel_at? heq (s :: q))

/-- Redacting shows all that no secret key hides. -/
theorem at?_redactValue {q : List Pos} (hq : Unmasked q) (x : Json) :
    at? q (redactValue x) = (at? q x).map redactValue := by
  induction q generalizing x with
  | nil => rfl
  | cons s q ih =>
    have hrest : Unmasked q := fun k hk => hq k (List.mem_cons_of_mem s hk)
    cases s with
    | key k =>
      have hk : isSecretKey k = false := hq k List.mem_cons_self
      cases x with
      | obj o =>
        rw [redactValue, at?, at?, Json.get?_obj, Json.get?_obj, lookup_redactEntries]
        cases Dict.lookup k o with
        | none => rfl
        | some x =>
          rw [Option.map_some, redactUnder, hk]
          exact ih hrest x
      | _ => rfl
    | index i =>
      cases x with
      | arr xs =>
        rw [redactValue, at?, at?, getElem?_redactList]
        cases xs[i]? with
        | none => rfl
        | some x => exact ih hrest x
      | _ => rfl

/-- The entry shows, at the rest `r` of the position, what the documents hold there. -/
def Shows (c : Change) (r q : List Pos) (old new : Json) : Prop :=
  (at? r c.old).getD .null = redactValue ((at? q old).getD .null) ∧
    (at? r c.new).getD .null = redactValue ((at? q new).getD .null)

theorem getD_map_redactValue (x : Option Json) : (x.map redactValue).getD .null = redactValue (x.getD .null) := by
  cases x <;> rfl

/-- What changed under no secret key is still shown. -/
theorem shown_of_changed {old new : Json} {q : List Pos} (h : ChangedLeaf old new q) (hq : Unmasked q) :
    ∃ c ∈ redact (diffConfig old new ""), ∃ p r, q = keyPath p ++ r ∧ c.path = p.foldl subPath "" ∧
      Shows c r q old new := by
  obtain ⟨v, hv, hsame, r, rfl, hold, hnew⟩ := exists_visit h
  have hr : Unmasked r := fun k hk => hq k (List.mem_append_right _ hk)
  have hpath : isSecretKey (v.change "").path = false := by
    rw [Visit.change, isSecretKey_foldl, List.any_eq_false]
    intro k hk
    rw [hq k (List.mem_append_left r (List.mem_map_of_mem hk))]
    exact Bool.false_ne_true
  have hentry : redactChange (v.change "") = ⟨v.path.foldl subPath "", redactValue v.old, redactValue v.new⟩ := by
    rw [redactChange, hpath]
    rfl
  refine ⟨redactChange (v.change ""), ?_, v.path, r, rfl, by rw [hentry], ?_⟩
  · rw [redact_eq, diffConfig_eq]
    refine List.mem_map_of_mem (List.mem_map_of_mem (List.mem_filter.mpr ⟨hv, ?_⟩))
    rw [hsame]
    rfl
  · rw [hentry, Shows, at?_redactValue hr, at?_redactValue hr, getD_map_redactValue, getD_map_redactValue, hold, hnew]
    exact ⟨rfl, rfl⟩

/-- **The audit trail does not depend on the secrets, and shows every other change.** -/
theorem audit_independent (old new : Json) :
    (∀ old' new', Agree old old' → Agree new new' →
      (∀ p same, Compares old new p same ↔ Compares old' new' p same) →
      List.Forall₂ SameChange (redact (diffConfig old new "")) (redact (diffConfig old' new' ""))) ∧
    ∀ q, ChangedLeaf old new q → Unmasked q → ∃ c ∈ redact (diffConfig old new ""), ∃ p r,
      q = keyPath p ++ r ∧ c.path = p.foldl subPath "" ∧ Shows c r q old new :=
  ⟨fun _ _ hold hnew h => redact_independent hold hnew h, fun _ h hq => shown_of_changed h hq⟩

/-- A network with a name and a pre-shared key. -/
def wifiDoc (name psk : String) : Json := .obj [("name", .str name), ("psk", .str psk)]

theorem agree_wifiDoc (name psk psk' : String) : Agree (wifiDoc name psk) (wifiDoc name psk') := by
  refine .obj (fun k => ?_) fun k x y hk hx hy => ?_
  · rw [Dict.lookup_cons, Dict.lookup_cons, Dict.lookup_cons, Dict.lookup_cons]
    by_cases hname : "name" = k
    · rw [if_pos hname, if_pos hname]
    · rw [if_neg hname, if_neg hname]
      split <;> rfl
  · have hpsk : "psk" ≠ k := by
      rintro rfl
      exact absurd hk (by decide)
    rw [Dict.lookup_cons, Dict.lookup_cons, if_neg hpsk] at hx hy
    split at hx
    · rw [if_pos ‹_›] at hy
      obtain rfl := Option.some.inj hx
      obtain rfl := Option.some.inj hy
      exact .leaf rfl (pyEq_self _)
    · cases hx

theorem visits_wifiDoc (name psk name' psk' : String) : visits (wifiDoc name psk) (wifiDoc name' psk') =
    [⟨["name"], name == name', .str name, .str name'⟩, ⟨["psk"], psk == psk', .str psk, .str psk'⟩] := by
  have hkeys : unionKeys [("name", .str name), ("psk", .str psk)] [("name", .str name'), ("psk", .str psk')] =
      ["name", "psk"] := by
    show (["name", "psk", "name", "psk"].dedup).insertionSort (· ≤ ·) = _
    decide
  have hleaf : ∀ s t : String, visits (.str s) (.str t) = [⟨[], s == t, .str s, .str t⟩] :=
    fun s t => visits_value (by simp [Json.isObj])
  rw [wifiDoc, wifiDoc, visits_obj, hkeys]
  simp [visitsBelow, Dict.lookup_cons, hleaf, Visit.under]

theorem audit_independent_wifi :
    List.Forall₂ SameChange (redact (diffConfig (wifiDoc "home" "alpha") (wifiDoc "lab" "beta") ""))
        (redact (diffConfig (wifiDoc "home" "gamma") (wifiDoc "lab" "delta") "")) ∧
      ∃ c ∈ redact (diffConfig (wifiDoc "home" "alpha") (wifiDoc "lab" "beta") ""), ∃ p r,
        [Pos.key "name"] = keyPath p ++ r ∧ c.path = p.foldl subPath "" ∧
        Shows c r [.key "name"] (wifiDoc "home" "alpha") (wifiDoc "lab" "beta") := by
  have haudit := audit_independent (wifiDoc "home" "alpha") (wifiDoc "lab" "beta")
  refine ⟨haudit.1 _ _ (agree_wifiDoc _ _ _) (agree_wifiDoc _ _ _) ?_, haudit.2 _ ⟨?_, ?_⟩ ?_⟩
  · intro p same
    simp [Compares, visits_wifiDoc]
  · intro h
    cases h with
    | some heq => exact absurd heq (by decide)
  · rintro ⟨⟨a, ha⟩, -⟩
    cases ha
  · intro k hk
    rw [List.mem_singleton, Pos.key.injEq] at hk
    rw [hk]
    decide

end Sbegw.Configd
