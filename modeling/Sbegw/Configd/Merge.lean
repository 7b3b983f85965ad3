import Sbegw.Configd.Submit
import Sbegw.Configd.Diff
import Sbegw.Json.Paths

/-!
# Partial updates

`_deep_update` merges where both sides have objects and replaces where one has none.  What it leaves alone,
what it puts where, and when two updates can change places is read off key by key.
-/

namespace Sbegw.Configd

open Json (Distinct valueAt)

/-! ### The laws -/

/-- A path of keys of an object. -/
def KeyPath (j : Json) (p : List String) : Prop := p ≠ [] ∧ (valueAt j p).isSome = true

/-- A path to a value that is no object. -/
def LeafPath (j : Json) (p : List String) : Prop := ∃ x, valueAt j p = some x ∧ x.isObj = false

/-- There is an object at the path. -/
def ObjectAt (j : Json) (p : List String) : Prop := ∃ o, valueAt j p = some (.obj o)

/-- No path of `u` is a prefix of a leaf path of `v`, except at keys where all three hold objects. -/
def Clear (t u v : Json) : Prop :=
  ∀ p q, KeyPath u p → LeafPath v q → p <+: q → ObjectAt t p ∧ ObjectAt u p ∧ ObjectAt v p

/-- What `_deep_update` promises of an update. -/
structure UpdateLaws (t u : Obj) : Prop where
  /-- a value at a path that is no path of the update, nor below one of its leaves -/
  frame : ∀ p x, p ≠ [] → valueAt (.obj t) p = some x → ¬ KeyPath (.obj u) p →
    (∀ q, q <+: p → ¬ LeafPath (.obj u) q) → valueAt (.obj (deepUpdate u t)) p = some x
  leaves : ∀ p x, valueAt (.obj u) p = some x → x.isObj = false →
    valueAt (.obj (deepUpdate u t)) p = some x
  again : deepUpdate u (deepUpdate u t) = deepUpdate u t

/-! ### One key -/

/-- What an update that holds `v` at a key makes of `x` there. -/
def merged : Option Json → Option Json → Option Json
  | none, x => x
  | some v, none => some v
  | some v, some x => some (deepValue v x)

theorem deepValue_obj (u t : Obj) : deepValue (.obj u) (.obj t) = .obj (deepUpdate u t) := rfl

/-- An object does not merge with anything else. -/
theorem deepValue_of_right {x : Json} (h : x.isObj = false) (v : Json) : deepValue v x = v := by
  cases v with
  | obj u =>
    cases x with
    | obj t => cases h
    | _ => rfl
  | _ => rfl

theorem deepValue_of_left {v : Json} (h : v.isObj = false) (x : Json) : deepValue v x = v := by
  cases v with
  | obj u => cases h
  | _ => rfl

theorem merged_of_left {v : Json} (h : v.isObj = false) (x : Option Json) : merged (some v) x = some v := by
  cases x with
  | none => rfl
  | some x => exact congrArg some (deepValue_of_left h x)

/-- The update acts on every key by itself. -/
theorem lookup_deepUpdate {u : Obj} (h : (Dict.keys u).Nodup) (k : String) (t : Obj) :
    Dict.lookup k (deepUpdate u t) = merged (Dict.lookup k u) (Dict.lookup k t) := by
  induction u generalizing t with
  | nil => rfl
  | cons e u ih =>
    obtain ⟨j, v⟩ := e
    rw [Dict.keys, List.map_cons, List.nodup_cons] at h
    rw [deepUpdate, ih h.2, Dict.lookup_cons]
    by_cases hjk : j = k
    · subst hjk
      rw [if_pos rfl, Dict.lookup_eq_none_iff.mpr h.1, Dict.lookup_set_self]
      cases Dict.lookup j t <;> rfl
    · rw [if_neg hjk, Dict.lookup_set_of_ne fun hkj => hjk hkj.symm]

/-! ### Frame and leaves -/

theorem frame_deepUpdate {u t : Obj} (hu : Distinct (.obj u)) : ∀ (p : List String) (x : Json), p ≠ [] →
    valueAt (.obj t) p = some x → ¬ KeyPath (.obj u) p → (∀ q, q <+: p → ¬ LeafPath (.obj u) q) →
    valueAt (.obj (deepUpdate u t)) p = some x
  | [], _, hp, _, _, _ => absurd rfl hp
  | k :: ks, x, _, hx, hkey, hleaf => by
    rw [Json.valueAt_obj] at hx ⊢
    rw [lookup_deepUpdate hu.nodup]
    obtain ⟨y, hy, hyx⟩ := Option.bind_eq_some_iff.mp hx
    rw [hy]
    cases hv : Dict.lookup k u with
    | none => exact hyx
    | some v =>
      have hvalue : ∀ q, valueAt (.obj u) (k :: q) = valueAt v q := by
        intro q
        rw [Json.valueAt_obj, hv]
        rfl
      have hobj : v.isObj = true := by
        by_contra hnot
        rw [Bool.not_eq_true] at hnot
        exact hleaf [k] ⟨ks, rfl⟩ ⟨v, by rw [hvalue, Json.valueAt_nil], hnot⟩
      -- the path goes on below the key, where both sides have objects
      cases ks with
      | nil => exact absurd ⟨List.cons_ne_nil k [], by rw [hvalue, Json.valueAt_nil]; rfl⟩ hkey
      | cons k' ks =>
        cases y with
        | obj t' =>
          cases v with
          | obj u' =>
            refine frame_deepUpdate (hu.lookup hv) (k' :: ks) x (List.cons_ne_nil k' ks) hyx ?_ ?_
            · rintro ⟨-, hsome⟩
              exact hkey ⟨List.cons_ne_nil _ _, by rwa [hvalue]⟩
            · rintro q ⟨rest, hq⟩ ⟨z, hz, hleafz⟩
              exact hleaf (k :: q) ⟨rest, by rw [List.cons_append, hq]⟩ ⟨z, by rwa [hvalue], hleafz⟩
          | _ => cases hobj
        | _ => cases hyx

theorem leaves_deepUpdate {u t : Obj} (hu : Distinct (.obj u)) : ∀ (p : List String) (x : Json),
    valueAt (.obj u) p = some x → x.isObj = false → valueAt (.obj (deepUpdate u t)) p = some x
  | [], x, hx, hleaf => by
    rw [Json.valueAt_nil] at hx
    obtain rfl := Option.some.inj hx
    cases hleaf
  | k :: ks, x, hx, hleaf => by
    rw [Json.valueAt_obj] at hx ⊢
    rw [lookup_deepUpdate hu.nodup]
    obtain ⟨v, hv, hvx⟩ := Option.bind_eq_some_iff.mp hx
    rw [hv]
    cases hy : Dict.lookup k t with
    | none => exact hvx
    | some y =>
      show valueAt (deepValue v y) ks = some x
      cases v with
      | obj u' =>
        cases y with
        | obj t' => exact leaves_deepUpdate (hu.lookup hv) ks x hvx hleaf
        | _ => exact hvx
      | _ => exact hvx

/-! ### Twice the same -/

/-- An update that finds every key as it leaves it changes nothing. -/
theorem deepUpdate_of_settled : ∀ {u t : Obj},
    (∀ e ∈ u, ∃ x, Dict.lookup e.1 t = some x ∧ deepValue e.2 x = x) → deepUpdate u t = t
  | [], _, _ => rfl
  | (k, v) :: u, t, h => by
    obtain ⟨x, hx, hfix⟩ := h (k, v) List.mem_cons_self
    have hset : Dict.set k (deepValue v x) t = t := by
      rw [hfix]
      exact Dict.set_eq_self hx
    rw [deepUpdate, hx]
    show deepUpdate u (Dict.set k (deepValue v x) t) = t
    rw [hset]
    exact deepUpdate_of_settled fun e he => h e (List.mem_cons_of_mem _ he)

/-- A value merged into itself, and merged a second time. -/
theorem deepValue_again (v : Json) (hv : Distinct v) :
    deepValue v v = v ∧ ∀ x, deepValue v (deepValue v x) = deepValue v x := by
  by_cases hobj : v.isObj = false
  · refine ⟨deepValue_of_left hobj v, fun x => ?_⟩
    rw [deepValue_of_left hobj, deepValue_of_left hobj]
  · cases v with
    | obj u =>
      have hnested : ∀ e ∈ u, deepValue e.2 e.2 = e.2 ∧ ∀ x, deepValue e.2 (deepValue e.2 x) = deepValue e.2 x := by
        intro e he
        have hlookup : Dict.lookup e.1 u = some e.2 := Dict.lookup_of_mem hv.nodup he
        have hsmall := Json.sizeOf_of_lookup hlookup
        exact deepValue_again e.2 (hv.lookup hlookup)
      have hself : deepUpdate u u = u := by
        refine deepUpdate_of_settled fun e he => ⟨e.2, Dict.lookup_of_mem hv.nodup he, (hnested e he).1⟩
      refine ⟨congrArg Json.obj hself, fun x => ?_⟩
      cases x with
      | obj t =>
        rw [deepValue_obj, deepValue_obj]
        refine congrArg Json.obj (deepUpdate_of_settled fun e he => ?_)
        rw [lookup_deepUpdate hv.nodup, Dict.lookup_of_mem hv.nodup (show (e.1, e.2) ∈ u from he)]
        cases Dict.lookup e.1 t with
        | none => exact ⟨e.2, rfl, (hnested e he).1⟩
        | some x => exact ⟨deepValue e.2 x, rfl, (hnested e he).2 x⟩
      | _ => exact congrArg Json.obj hself
    | _ => exact absurd rfl hobj
termination_by sizeOf v

theorem deepUpdate_again {u : Obj} (hu : Distinct (.obj u)) (t : Obj) :
    deepUpdate u (deepUpdate u t) = deepUpdate u t :=
  Json.obj.inj ((deepValue_again (.obj u) hu).2 (.obj t))

/-! ### Two updates -/

theorem leafPath_cons {o : Obj} {k : String} {x : Json} (hx : Dict.lookup k o = some x) {q : List String} :
    LeafPath (.obj o) (k :: q) ↔ LeafPath x q := by
  unfold LeafPath
  rw [Json.valueAt_obj, hx]
  rfl

theorem objectAt_cons {o : Obj} {k : String} {x : Json} (hx : Dict.lookup k o = some x) {p : List String} :
    ObjectAt (.obj o) (k :: p) ↔ ObjectAt x p := by
  unfold ObjectAt
  rw [Json.valueAt_obj, hx]
  rfl

theorem isObj_of_objectAt {o : Obj} {k : String} {x : Json} (hx : Dict.lookup k o = some x)
    (h : ObjectAt (.obj o) [k]) : x.isObj = true := by
  obtain ⟨o', ho'⟩ := (objectAt_cons hx).mp h
  rw [Json.valueAt_nil] at ho'
  rw [Option.some.inj ho']
  rfl

/-- A value without leaves is an object. -/
theorem isObj_of_leafless {x : Json} (h : ∀ q, ¬ LeafPath x q) : x.isObj = true := by
  by_contra hnot
  rw [Bool.not_eq_true] at hnot
  exact h [] ⟨x, Json.valueAt_nil x, hnot⟩

/-- Objects made of nothing but objects merge either way. -/
theorem merge_leafless (u v : Obj) (hu : Distinct (.obj u)) (hv : Distinct (.obj v))
    (hleafu : ∀ q, ¬ LeafPath (.obj u) q) (hleafv : ∀ q, ¬ LeafPath (.obj v) q) :
    Json.pyEq (.obj (deepUpdate u v)) (.obj (deepUpdate v u)) = true := by
  rw [Json.pyEq_obj_iff]
  intro k
  rw [lookup_deepUpdate hu.nodup, lookup_deepUpdate hv.nodup]
  cases hx : Dict.lookup k u with
  | none =>
    cases Dict.lookup k v with
    | none => exact .none
    | some y => exact .some (pyEq_self y)
  | some x =>
    cases hy : Dict.lookup k v with
    | none => exact .some (pyEq_self x)
    | some y =>
      have hleafx : ∀ q, ¬ LeafPath x q := fun q hq => hleafu (k :: q) ((leafPath_cons hx).mpr hq)
      have hleafy : ∀ q, ¬ LeafPath y q := fun q hq => hleafv (k :: q) ((leafPath_cons hy).mpr hq)
      have hobjx := isObj_of_leafless hleafx
      have hobjy := isObj_of_leafless hleafy
      have hsmall := Json.sizeOf_of_lookup hx
      cases x with
      | obj u' =>
        cases y with
        | obj v' => exact .some (merge_leafless u' v' (hu.lookup hx) (hv.lookup hy) hleafx hleafy)
        | _ => cases hobjy
      | _ => cases hobjx
termination_by sizeOf u
decreasing_by
  rw [Json.obj.sizeOf_spec, Json.obj.sizeOf_spec] at hsmall
  omega

/-- Below a key where all three hold objects the updates are clear of each other as well. -/
theorem Clear.below {t u v t' u' v' : Obj} {k : String} (h : Clear (.obj t) (.obj u) (.obj v))
    (ht : Dict.lookup k t = some (.obj t')) (hu : Dict.lookup k u = some (.obj u'))
    (hv : Dict.lookup k v = some (.obj v')) : Clear (.obj t') (.obj u') (.obj v') := by
  rintro p q ⟨-, hpath⟩ hleaf hprefix
  have hkey : KeyPath (.obj u) (k :: p) := by
    refine ⟨List.cons_ne_nil k p, ?_⟩
    rw [Json.valueAt_obj, hu]
    exact hpath
  obtain ⟨hat, hau, hav⟩ := h (k :: p) (k :: q) hkey ((leafPath_cons hv).mpr hleaf) (by
    obtain ⟨rest, rfl⟩ := hprefix
    exact ⟨rest, rfl⟩)
  exact ⟨(objectAt_cons ht).mp hat, (objectAt_cons hu).mp hau, (objectAt_cons hv).mp hav⟩

/-- Updates are clear of each other when at every key they share all three sides go on with objects. -/
theorem clear_obj {t u v : Obj} (h : ∀ k x y, Dict.lookup k u = some x → Dict.lookup k v = some y →
    ∃ t' u' v', Dict.lookup k t = some (.obj t') ∧ x = .obj u' ∧ y = .obj v' ∧
      Clear (.obj t') (.obj u') (.obj v')) : Clear (.obj t) (.obj u) (.obj v) := by
  rintro p q ⟨hne, hpath⟩ ⟨z, hz, hleaf⟩ ⟨rest, rfl⟩
  cases p with
  | nil => exact absurd rfl hne
  | cons k p =>
    rw [Json.valueAt_obj] at hpath
    obtain ⟨w, hw⟩ := Option.isSome_iff_exists.mp hpath
    obtain ⟨x, hx, hxw⟩ := Option.bind_eq_some_iff.mp hw
    rw [List.cons_append, Json.valueAt_obj] at hz
    obtain ⟨y, hy, hyz⟩ := Option.bind_eq_some_iff.mp hz
    obtain ⟨t', u', v', ht', rfl, rfl, hclear⟩ := h k x y hx hy
    rw [objectAt_cons ht', objectAt_cons hx, objectAt_cons hy]
    cases p with
    | nil => exact ⟨⟨t', rfl⟩, ⟨u', rfl⟩, ⟨v', rfl⟩⟩
    | cons k' p =>
      refine hclear (k' :: p) (k' :: p ++ rest) ⟨List.cons_ne_nil k' p, ?_⟩ ⟨z, hyz, hleaf⟩ ⟨rest, rfl⟩
      rw [hxw]
      rfl

/-- At a key of both updates there is a leaf of neither, or an object on all three sides. -/
theorem Clear.at_key {t u v : Obj} {k : String} {x y : Json} (h : Clear (.obj t) (.obj u) (.obj v))
    (hx : Dict.lookup k u = some x) (hy : Dict.lookup k v = some y) :
    (∀ q, ¬ LeafPath y q) ∨ ObjectAt (.obj t) [k] ∧ x.isObj = true ∧ y.isObj = true := by
  by_cases hleaf : ∃ q, LeafPath y q
  · obtain ⟨q, hq⟩ := hleaf
    have hkey : KeyPath (.obj u) [k] := by
      refine ⟨List.cons_ne_nil k [], ?_⟩
      rw [Json.valueAt_obj, hx]
      exact congrArg Option.isSome (Json.valueAt_nil x)
    obtain ⟨hat, hau, hav⟩ := h [k] (k :: q) hkey ((leafPath_cons hy).mpr hq) ⟨q, rfl⟩
    exact .inr ⟨hat, isObj_of_objectAt hx hau, isObj_of_objectAt hy hav⟩
  · exact .inl fun q hq => hleaf ⟨q, hq⟩

/-- **Two updates that are clear of each other change places.** -/
theorem deepUpdate_comm (t u v : Obj) (hu : Distinct (.obj u)) (hv : Distinct (.obj v))
    (huv : Clear (.obj t) (.obj u) (.obj v)) (hvu : Clear (.obj t) (.obj v) (.obj u)) :
    Json.pyEq (.obj (deepUpdate v (deepUpdate u t))) (.obj (deepUpdate u (deepUpdate v t))) = true := by
  rw [Json.pyEq_obj_iff]
  intro k
  rw [lookup_deepUpdate hv.nodup, lookup_deepUpdate hu.nodup, lookup_deepUpdate hu.nodup,
    lookup_deepUpdate hv.nodup]
  have hrefl : ∀ o : Option Json, Option.Rel (fun x y => Json.pyEq x y = true) o o := by
    intro o
    cases o with
    | none => exact .none
    | some x => exact .some (pyEq_self x)
  cases hx : Dict.lookup k u with
  | none => exact hrefl _
  | some x =>
    cases hy : Dict.lookup k v with
    | none => exact hrefl _
    | some y =>
      have hsmall := Json.sizeOf_of_lookup hx
      by_cases hall : ObjectAt (.obj t) [k] ∧ x.isObj = true ∧ y.isObj = true
      · obtain ⟨⟨t', ht'⟩, hobjx, hobjy⟩ := hall
        rw [Json.valueAt_obj] at ht'
        obtain ⟨z, hz, hzt⟩ := Option.bind_eq_some_iff.mp ht'
        rw [Json.valueAt_nil] at hzt
        obtain rfl := Option.some.inj hzt
        rw [hz]
        cases x with
        | obj u' =>
          cases y with
          | obj v' =>
            exact .some (deepUpdate_comm t' u' v' (hu.lookup hx) (hv.lookup hy) (huv.below hz hx hy)
              (hvu.below hz hy hx))
          | _ => cases hobjy
        | _ => cases hobjx
      · have hleafy := (huv.at_key hx hy).resolve_right hall
        have hleafx := (hvu.at_key hy hx).resolve_right fun h => hall ⟨h.1, h.2.2, h.2.1⟩
        have hobjx := isObj_of_leafless hleafx
        have hobjy := isObj_of_leafless hleafy
        -- the target has no object at the key, so the first update replaces what is there
        have hfirst : ∀ w : Json, merged (some w) (Dict.lookup k t) = some w := by
          intro w
          cases hz : Dict.lookup k t with
          | none => rfl
          | some z =>
            have hobjz : z.isObj = false := by
              by_contra hobj
              rw [Bool.not_eq_false] at hobj
              refine hall ⟨?_, hobjx, hobjy⟩
              cases z with
              | obj o => exact ⟨o, by rw [Json.valueAt_obj, hz]; rfl⟩
              | _ => cases hobj
            exact congrArg some (deepValue_of_right hobjz w)
        rw [hfirst, hfirst]
        cases x with
        | obj u' =>
          cases y with
          | obj v' => exact .some (merge_leafless v' u' (hv.lookup hy) (hu.lookup hx) hleafy hleafx)
          | _ => cases hobjy
        | _ => cases hobjx
termination_by sizeOf u
decreasing_by
  rw [Json.obj.sizeOf_spec, Json.obj.sizeOf_spec] at hsmall
  omega

/-- **The laws of partial updates.** -/
theorem deepUpdate_laws {u : Obj} (hu : Distinct (.obj u)) (t : Obj) :
    UpdateLaws t u ∧ ∀ v : Obj, Distinct (.obj v) → Clear (.obj t) (.obj u) (.obj v) →
      Clear (.obj t) (.obj v) (.obj u) →
      Json.pyEq (.obj (deepUpdate v (deepUpdate u t))) (.obj (deepUpdate u (deepUpdate v t))) = true := by
  refine ⟨⟨fun p x => frame_deepUpdate hu p x, fun p x => leaves_deepUpdate hu p x, deepUpdate_again hu t⟩, ?_⟩
  intro v hv huv hvu
  exact deepUpdate_comm t u v hu hv huv hvu

/-- A network whose DHCP range and lease time are edited one after the other. -/
def lanEdited : Obj := [("name", .str "lan"), ("dhcp", .obj [("start", .int 10), ("lease", .int 60)])]
def startEdit : Obj := [("dhcp", .obj [("start", .int 20)])]
def leaseEdit : Obj := [("dhcp", .obj [("lease", .int 90)]), ("mtu", .int 1400)]

theorem distinct_startEdit : Distinct (.obj startEdit) := by
  refine Json.everyObj_obj (by decide) ?_
  rw [startEdit, List.forall_mem_singleton]
  refine Json.everyObj_obj (by decide) ?_
  rw [List.forall_mem_singleton]
  exact Json.everyObj_of_not_isObj rfl

theorem distinct_leaseEdit : Distinct (.obj leaseEdit) := by
  refine Json.everyObj_obj (by decide) ?_
  rw [leaseEdit, List.forall_mem_cons, List.forall_mem_singleton]
  refine ⟨Json.everyObj_obj (by decide) ?_, Json.everyObj_of_not_isObj rfl⟩
  rw [List.forall_mem_singleton]
  exact Json.everyObj_of_not_isObj rfl

theorem deepUpdate_laws_lan : UpdateLaws lanEdited startEdit ∧
    Json.pyEq (.obj (deepUpdate leaseEdit (deepUpdate startEdit lanEdited)))
      (.obj (deepUpdate startEdit (deepUpdate leaseEdit lanEdited))) = true := by
  have hlaws := deepUpdate_laws distinct_startEdit lanEdited
  refine ⟨hlaws.1, hlaws.2 leaseEdit distinct_leaseEdit (clear_obj ?_) (clear_obj ?_)⟩
  · intro k x y hx hy
    have hin := Dict.mem_of_lookup hx
    simp only [startEdit, List.mem_singleton, Prod.mk.injEq] at hin
    obtain ⟨rfl, rfl⟩ := hin
    obtain rfl := Option.some.inj hy
    refine ⟨_, _, _, rfl, rfl, rfl, clear_obj fun k x y hx hy => ?_⟩
    have hk := Dict.mem_of_lookup hx
    have hl := Dict.mem_of_lookup hy
    simp only [List.mem_singleton, Prod.mk.injEq] at hk hl
    exact absurd (hk.1.symm.trans hl.1) (by decide)
  · intro k x y hx hy
    have hin := Dict.mem_of_lookup hy
    simp only [startEdit, List.mem_singleton, Prod.mk.injEq] at hin
    obtain ⟨rfl, rfl⟩ := hin
    obtain rfl := Option.some.inj hx
    refine ⟨_, _, _, rfl, rfl, rfl, clear_obj fun k x y hx hy => ?_⟩
    have hk := Dict.mem_of_lookup hx
    have hl := Dict.mem_of_lookup hy
    simp only [List.mem_singleton, Prod.mk.injEq] at hk hl
    exact absurd (hk.1.symm.trans hl.1) (by decide)

end Sbegw.Configd
