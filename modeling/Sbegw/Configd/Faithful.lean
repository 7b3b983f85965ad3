import Sbegw.Configd.Visits
import Sbegw.Lib.Pieces

/-!
# What a diff is worth

The empty diff is the gate of a commit.  A diff that is not empty says where the documents part and what
they hold there, and writing its new values into the old document gives the new one.
-/

namespace Sbegw.Configd

open Text
open Json (valueAt)

/-! ### Paths as texts -/

/-- The keys of a path. -/
def keysOf (path : String) : List String := if path = "" then [] else split '.' path

/-- A key that a path can be taken apart at. -/
def PlainKey (k : String) : Prop := k ≠ "" ∧ '.' ∉ k.toList

instance (k : String) : Decidable (PlainKey k) := inferInstanceAs (Decidable (_ ∧ _))

theorem foldl_subPath_eq_empty {p : List String} (hp : ∀ k ∈ p, PlainKey k) :
    p.foldl subPath "" = "" ↔ p = [] := by
  induction p using List.reverseRecOn with
  | nil => exact iff_of_true rfl rfl
  | append_singleton p k ih =>
    have hk : PlainKey k := hp k (List.mem_append_right p List.mem_cons_self)
    rw [List.foldl_append, List.foldl_cons, List.foldl_nil, subPath]
    refine iff_of_false ?_ (by simp)
    split
    · exact hk.1
    · intro h
      have hlength := congrArg (fun s : String => s.toList.length) h
      rw [String.toList_append, String.toList_append, List.length_append, List.length_append] at hlength
      have hdot : (".".toList).length = 1 := rfl
      have hempty : ("".toList).length = 0 := rfl
      omega

/-- Under plain keys a path says which keys it was made of. -/
theorem keysOf_foldl {p : List String} (hp : ∀ k ∈ p, PlainKey k) : keysOf (p.foldl subPath "") = p := by
  induction p using List.reverseRecOn with
  | nil => rfl
  | append_singleton p k ih =>
    have hk : PlainKey k := hp k (List.mem_append_right p List.mem_cons_self)
    have hp' : ∀ j ∈ p, PlainKey j := fun j hj => hp j (List.mem_append_left [k] hj)
    have hne := (foldl_subPath_eq_empty hp).not.mpr (by simp)
    have ih := ih hp'
    rw [keysOf, if_neg hne, List.foldl_append, List.foldl_cons, List.foldl_nil, subPath]
    split
    · rename_i hempty
      rw [(foldl_subPath_eq_empty hp').mp hempty, split_of_notMem hk.2]
      rfl
    · rename_i hfull
      rw [keysOf, if_neg hfull] at ih
      rw [split_append rfl, ih, split_of_notMem hk.2]

/-- All keys of the objects in a document are plain. -/
def PlainKeys (j : Json) : Prop := Json.EveryObj (fun o => ∀ k ∈ Dict.keys o, PlainKey k) j

theorem PlainKeys.key {o : Obj} (h : PlainKeys (.obj o)) {k : String} {x : Json} (hx : Dict.lookup k o = some x) :
    PlainKey k :=
  Json.EveryObj.here h k (List.mem_map_of_mem (Dict.mem_of_lookup hx))

theorem PlainKeys.lookup {o : Obj} (h : PlainKeys (.obj o)) {k : String} {x : Json}
    (hx : Dict.lookup k o = some x) : PlainKeys x :=
  Json.EveryObj.lookup h hx

theorem plainKey_of_visits (x y : Json) : ∀ v ∈ visits x y, PlainKeys x → PlainKeys y →
    ∀ k ∈ v.path, PlainKey k := by
  refine visits_induction (P := fun x y v => PlainKeys x → PlainKeys y → ∀ k ∈ v.path, PlainKey k) ?_ ?_ ?_ ?_ x y
  · intro x y _ _ _ k hk
    cases hk
  · intro a b k x hx _ ha _ j hj
    rw [List.mem_singleton.mp hj]
    exact ha.key hx
  · intro a b k y _ hy _ hb j hj
    rw [List.mem_singleton.mp hj]
    exact hb.key hy
  · intro a b k x y v hx hy ih ha hb j hj
    rcases List.mem_cons.mp hj with rfl | hj
    · exact ha.key hx
    · exact ih (ha.lookup hx) (hb.lookup hy) j hj

/-! ### Writing a diff -/

/-- The document with `v` at the path; where the path leads through no object there is no place for it. -/
def writeAt : List String → Json → Json → Json
  | [], v, _ => v
  | k :: ks, v, .obj o => .obj (Dict.set k (writeAt ks v ((Dict.lookup k o).getD .null)) o)
  | _ :: _, _, j => j

/-- The new value of every entry, one after the other. -/
def written (changes : List Change) (j : Json) : Json :=
  changes.foldl (fun j c => writeAt (keysOf c.path) c.new j) j

/-- Equal up to keys that are absent on one side and `None` on the other. -/
inductive Alike : Json → Json → Prop
  | equal {x y : Json} : Json.pyEq x y = true → Alike x y
  | obj {a b : Obj} :
      (∀ k, Alike ((Dict.lookup k a).getD .null) ((Dict.lookup k b).getD .null)) → Alike (.obj a) (.obj b)

/-- The values of the comparisons that found a difference, one after the other. -/
def settle (vs : List Visit) (j : Json) : Json :=
  vs.foldl (fun j v => if v.same then j else writeAt v.path v.new j) j

theorem settle_cons (v : Visit) (vs : List Visit) (j : Json) :
    settle (v :: vs) j = settle vs (if v.same then j else writeAt v.path v.new j) := rfl

theorem settle_append (vs ws : List Visit) (j : Json) : settle (vs ++ ws) j = settle ws (settle vs j) :=
  List.foldl_append

/-- The object differs at the key alone. -/
def SameBut (k : String) (o o' : Obj) : Prop := ∀ j, j ≠ k → Dict.lookup j o' = Dict.lookup j o

/-- What is written below a key is written into the value there. -/
theorem settle_under (k : String) : ∀ (vs : List Visit) (o : Obj) (x : Json), Dict.lookup k o = some x →
    ∃ o', settle (vs.map (Visit.under k)) (.obj o) = .obj o' ∧
      Dict.lookup k o' = some (settle vs x) ∧ SameBut k o o'
  | [], o, x, hx => ⟨o, rfl, hx, fun _ _ => rfl⟩
  | v :: vs, o, x, hx => by
    rw [List.map_cons, settle_cons, settle_cons]
    show ∃ o', settle _ (if v.same then .obj o else writeAt (k :: v.path) v.new (.obj o)) = .obj o' ∧ _
    cases v.same with
    | true => exact settle_under k vs o x hx
    | false =>
      have hset := Dict.lookup_set_self k (writeAt v.path v.new x) o
      obtain ⟨o', ho', hlookup, hrest⟩ := settle_under k vs _ _ hset
      refine ⟨o', ?_, hlookup, fun j hj => ?_⟩
      · rw [← ho', if_neg Bool.false_ne_true, writeAt, hx]
        rfl
      · rw [hrest j hj, Dict.lookup_set_of_ne hj]

/-- The comparisons under one key settle that key and leave the others alone. -/
theorem settle_visitsBelow {k : String} {x y : Option Json} {o : Obj} (hx : Dict.lookup k o = x)
    (ih : ∀ v w, x = some v → y = some w → Alike (settle (visits v w) v) w) :
    ∃ o', settle (visitsBelow k x y) (.obj o) = .obj o' ∧
      Alike ((Dict.lookup k o').getD .null) (y.getD .null) ∧ SameBut k o o' := by
  have hwrite : ∀ z, writeAt [k] z (.obj o) = .obj (Dict.set k z o) := fun _ => rfl
  cases x with
  | none =>
    cases y with
    | none =>
      refine ⟨o, rfl, ?_, fun _ _ => rfl⟩
      rw [hx]
      exact .equal rfl
    | some w =>
      refine ⟨Dict.set k w o, hwrite w, ?_, fun j hj => Dict.lookup_set_of_ne hj w o⟩
      rw [Dict.lookup_set_self]
      exact .equal (pyEq_self w)
  | some v =>
    cases y with
    | none =>
      refine ⟨Dict.set k .null o, hwrite .null, ?_, fun j hj => Dict.lookup_set_of_ne hj .null o⟩
      rw [Dict.lookup_set_self]
      exact .equal rfl
    | some w =>
      obtain ⟨o', ho', hlookup, hrest⟩ := settle_under k (visits v w) o v hx
      refine ⟨o', ho', ?_, hrest⟩
      rw [hlookup]
      exact ih v w rfl rfl

/-- The comparisons under distinct keys settle each of them. -/
theorem settle_keys {a b : Obj} : ∀ (ks : List String) (o : Obj), ks.Nodup →
    (∀ k ∈ ks, Dict.lookup k o = Dict.lookup k a) →
    (∀ k v w, Dict.lookup k a = some v → Dict.lookup k b = some w → Alike (settle (visits v w) v) w) →
    ∃ o', settle (ks.flatMap fun k => visitsBelow k (Dict.lookup k a) (Dict.lookup k b)) (.obj o) = .obj o' ∧
      (∀ k ∈ ks, Alike ((Dict.lookup k o').getD .null) ((Dict.lookup k b).getD .null)) ∧
      ∀ k ∉ ks, Dict.lookup k o' = Dict.lookup k o
  | [], o, _, _, _ => ⟨o, rfl, by simp, fun _ _ => rfl⟩
  | k :: ks, o, hnodup, ho, ih => by
    obtain ⟨hk, hks⟩ := List.nodup_cons.mp hnodup
    obtain ⟨o₁, ho₁, halike, hrest⟩ := settle_visitsBelow (ho k List.mem_cons_self) (ih k)
    have hsame : ∀ j ∈ ks, Dict.lookup j o₁ = Dict.lookup j a := by
      intro j hj
      rw [hrest j fun hjk => hk (hjk ▸ hj), ho j (List.mem_cons_of_mem k hj)]
    obtain ⟨o₂, ho₂, hall, hother⟩ := settle_keys ks o₁ hks hsame ih
    refine ⟨o₂, ?_, ?_, ?_⟩
    · rw [List.flatMap_cons, settle_append, ho₁, ho₂]
    · intro j hj
      rcases List.mem_cons.mp hj with rfl | hj
      · rw [hother j hk]
        exact halike
      · exact hall j hj
    · intro j hj
      rw [List.mem_cons, not_or] at hj
      rw [hother j hj.2, hrest j hj.1]

/-- Writing what the comparisons found into the old value gives the new one. -/
theorem alike_settle (x y : Json) : Alike (settle (visits x y) x) y := by
  by_cases hobj : x.isObj = true ∧ y.isObj = true
  · cases x with
    | obj a =>
      cases y with
      | obj b =>
        have hbelow : ∀ k v w, Dict.lookup k a = some v → Dict.lookup k b = some w →
            Alike (settle (visits v w) v) w := by
          intro k v w hv _
          have hsmall := Json.sizeOf_of_lookup hv
          exact alike_settle v w
        obtain ⟨o, ho, hin, hout⟩ := settle_keys (unionKeys a b) a (nodup_unionKeys a b) (fun _ _ => rfl) hbelow
        rw [visits_obj, ho]
        refine .obj fun k => ?_
        by_cases hk : k ∈ unionKeys a b
        · exact hin k hk
        · have hnone := mem_unionKeys.not.mp hk
          rw [not_or, Option.not_isSome_iff_eq_none, Option.not_isSome_iff_eq_none] at hnone
          rw [hout k hk, hnone.1, hnone.2]
          exact .equal rfl
      | _ => exact absurd hobj.2 (by simp [Json.isObj])
    | _ => exact absurd hobj.1 (by simp [Json.isObj])
  · rw [visits_value hobj, settle_cons]
    show Alike (if Json.pyEq x y then x else y) y
    split
    · exact .equal ‹_›
    · exact .equal (pyEq_self y)
termination_by sizeOf x
decreasing_by
  rw [Json.obj.sizeOf_spec] at hsmall
  simp only [Json.obj.sizeOf_spec]
  omega

/-- Under plain keys the entries of the diff write just that. -/
theorem written_reported : ∀ (vs : List Visit) (j : Json), (∀ v ∈ vs, ∀ k ∈ v.path, PlainKey k) →
    written (reported "" vs) j = settle vs j
  | [], _, _ => rfl
  | v :: vs, j, h => by
    have ih := fun j => written_reported vs j fun w hw => h w (List.mem_cons_of_mem v hw)
    have hkeys : keysOf (v.path.foldl subPath "") = v.path := keysOf_foldl (h v List.mem_cons_self)
    rw [settle_cons, ← ih, reported, List.filter_cons]
    cases v.same with
    | true => rfl
    | false =>
      show written (reported "" vs) (writeAt (keysOf (v.path.foldl subPath "")) v.new j) = _
      rw [hkeys]
      rfl

/-! ### What a diff says -/

/-- What a reader may take from the diff of two documents whose keys are plain. -/
structure Faithful (old new : Json) (changes : List Change) : Prop where
  /-- no path is the path of another entry, or leads to it -/
  apart : changes.Pairwise fun c d => ¬ keysOf c.path <+: keysOf d.path ∧ ¬ keysOf d.path <+: keysOf c.path
  values : ∀ c ∈ changes, c.old = (valueAt old (keysOf c.path)).getD .null ∧
    c.new = (valueAt new (keysOf c.path)).getD .null
  written : Alike (written changes old) new

theorem faithful_diffConfig {old new : Json} (hold : PlainKeys old) (hnew : PlainKeys new) :
    Faithful old new (diffConfig old new "") := by
  have hplain : ∀ v ∈ visits old new, ∀ k ∈ v.path, PlainKey k :=
    fun v hv => plainKey_of_visits old new v hv hold hnew
  have hkeys : ∀ v ∈ (visits old new).filter fun v => !v.same, keysOf (v.change "").path = v.path :=
    fun v hv => keysOf_foldl (hplain v (List.mem_of_mem_filter hv))
  rw [diffConfig_eq]
  refine ⟨?_, ?_, ?_⟩
  · rw [reported, List.pairwise_map]
    refine ((pairwise_visits old new).filter _).imp_of_mem fun {v w} hv hw h => ?_
    rw [hkeys v hv, hkeys w hw]
    exact h.not_prefix
  · intro c hc
    obtain ⟨v, hv, rfl⟩ := List.mem_map.mp hc
    rw [hkeys v hv]
    exact values_of_visits old new v (List.mem_of_mem_filter hv)
  · rw [written_reported _ _ hplain]
    exact alike_settle old new

/-- Equal documents have no differences. -/
theorem diffConfig_eq_nil {old new : Json} (h : Json.pyEq old new = true) (path : String) :
    diffConfig old new path = [] := by
  rw [diffConfig_eq, reported, List.map_eq_nil_iff, List.filter_eq_nil_iff]
  intro v hv
  rw [same_of_pyEq old new v hv h]
  exact Bool.false_ne_true

/-- **A diff is empty just for equal documents, and faithful for documents with plain keys.** -/
theorem diffConfig_faithful (old new : Json) :
    (diffConfig old new "" = [] ↔ Json.pyEq old new = true) ∧
      (PlainKeys old → PlainKeys new → Faithful old new (diffConfig old new "")) :=
  ⟨⟨pyEq_of_diffConfig_nil old new "", fun h => diffConfig_eq_nil h ""⟩, faithful_diffConfig⟩

/-- A network whose lease time is changed, with a note added and its gateway removed. -/
def lanBefore : Obj := [("gateway", .str "10.0.0.1"), ("dhcp", .obj [("lease", .int 60)])]
def lanAfter : Obj := [("dhcp", .obj [("lease", .int 90)]), ("note", .null)]

theorem plainKeys_lanBefore : PlainKeys (.obj lanBefore) := by
  refine Json.everyObj_obj (by decide) ?_
  rw [lanBefore, List.forall_mem_cons, List.forall_mem_singleton]
  refine ⟨Json.everyObj_of_not_isObj rfl, Json.everyObj_obj (by decide) ?_⟩
  rw [List.forall_mem_singleton]
  exact Json.everyObj_of_not_isObj rfl

theorem plainKeys_lanAfter : PlainKeys (.obj lanAfter) := by
  refine Json.everyObj_obj (by decide) ?_
  rw [lanAfter, List.forall_mem_cons, List.forall_mem_singleton]
  refine ⟨Json.everyObj_obj (by decide) ?_, Json.everyObj_of_not_isObj rfl⟩
  rw [List.forall_mem_singleton]
  exact Json.everyObj_of_not_isObj rfl

theorem diffConfig_faithful_lan :
    Faithful (.obj lanBefore) (.obj lanAfter) (diffConfig (.obj lanBefore) (.obj lanAfter) "") :=
  (diffConfig_faithful (.obj lanBefore) (.obj lanAfter)).2 plainKeys_lanBefore plainKeys_lanAfter

end Sbegw.Configd
