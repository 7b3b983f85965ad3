import Sbegw.Configd.Atomicity

/-!
# What comes back from disk and from a revision

Loading merges the default document into whatever was stored.  A stored document comes back as it is
exactly when it has every key of the defaults.
-/

namespace Sbegw.Configd

/-! ### Merging the defaults -/

mutual
/-- `v` has the keys of the default `d` wherever both are objects. -/
def hasValue : Json → Json → Bool
  | .obj src, v =>
    match v with
    | .obj dst => hasKeys src dst
    | _ => true
  | _, _ => true
/-- `dst` has every key of `src`, at every depth where both are objects. -/
def hasKeys : List (String × Json) → Obj → Bool
  | [], _ => true
  | (k, v) :: src, dst =>
    (match Dict.lookup k dst with | none => false | some u => hasValue v u) && hasKeys src dst
end

mutual
theorem mergeValue_of_hasValue : ∀ v u : Json, hasValue v u = true → mergeValue v u = u
  | .obj src, .obj dst, h => by
    rw [mergeValue, merge_of_hasKeys src dst (by simpa [hasValue] using h)]
  | .obj _, .null, _ | .obj _, .bool _, _ | .obj _, .int _, _ | .obj _, .float _, _
  | .obj _, .str _, _ | .obj _, .arr _, _ => rfl
  | .null, _, _ | .bool _, _, _ | .int _, _, _ | .float _, _, _ | .str _, _, _ | .arr _, _, _ => rfl
/-- A document with every default key is left alone. -/
theorem merge_of_hasKeys : ∀ (src : List (String × Json)) (dst : Obj),
    hasKeys src dst = true → merge src dst = dst
  | [], _, _ => rfl
  | (k, v) :: src, dst, h => by
    rw [hasKeys, Bool.and_eq_true] at h
    cases hl : Dict.lookup k dst with
    | none => simp [hl] at h
    | some u =>
      rw [hl] at h
      rw [merge, hl]
      dsimp only
      rw [mergeValue_of_hasValue v u h.1, Dict.set_eq_self hl, merge_of_hasKeys src dst h.2]
end

mutual
/-- The number of entries at all depths. -/
def sizeValue : Json → ℕ
  | .obj kvs => sizeObj kvs
  | _ => 0
def sizeObj : List (String × Json) → ℕ
  | [] => 0
  | (_, v) :: d => sizeValue v + 1 + sizeObj d
end

theorem sizeObj_set_of_none {k : String} {d : Obj} (h : Dict.lookup k d = none) (v : Json) :
    sizeObj (Dict.set k v d) = sizeObj d + sizeValue v + 1 := by
  induction d with
  | nil => simp [Dict.set, sizeObj]
  | cons e d ih =>
    obtain ⟨k', v'⟩ := e
    by_cases hk : k' = k
    · simp [Dict.lookup, hk] at h
    · simp only [Dict.lookup, hk, if_false] at h
      simp only [Dict.set, hk, if_false, sizeObj, ih h]
      omega

theorem sizeObj_set_of_some {k : String} {d : Obj} {u : Json} (h : Dict.lookup k d = some u)
    (v : Json) : sizeObj (Dict.set k v d) + sizeValue u = sizeObj d + sizeValue v := by
  induction d with
  | nil => simp at h
  | cons e d ih =>
    obtain ⟨k', v'⟩ := e
    by_cases hk : k' = k
    · simp only [Dict.lookup, hk, if_true, Option.some.injEq] at h
      subst h
      simp only [Dict.set, hk, if_true, sizeObj]
      omega
    · simp only [Dict.lookup, hk, if_false] at h
      have := ih h
      simp only [Dict.set, hk, if_false, sizeObj]
      omega

mutual
theorem size_mergeValue : ∀ v u : Json, sizeValue u ≤ sizeValue (mergeValue v u) ∧
    (sizeValue (mergeValue v u) = sizeValue u → hasValue v u = true)
  | .obj src, .obj dst => by
    have h := size_merge src dst
    simpa [mergeValue, sizeValue, hasValue] using h
  | .obj _, .null | .obj _, .bool _ | .obj _, .int _ | .obj _, .float _
  | .obj _, .str _ | .obj _, .arr _ => ⟨le_rfl, fun _ => rfl⟩
  | .null, _ | .bool _, _ | .int _, _ | .float _, _ | .str _, _ | .arr _, _ =>
    ⟨le_rfl, fun _ => rfl⟩
/-- Merging loses no entry, and where it adds none the document has every default key. -/
theorem size_merge : ∀ (src : List (String × Json)) (dst : Obj),
    sizeObj dst ≤ sizeObj (merge src dst) ∧
      (sizeObj (merge src dst) = sizeObj dst → hasKeys src dst = true)
  | [], _ => ⟨le_rfl, fun _ => rfl⟩
  | (k, v) :: src, dst => by
    cases hl : Dict.lookup k dst with
    | none =>
      have hset := sizeObj_set_of_none hl v
      have h := size_merge src (Dict.set k v dst)
      rw [merge, hl]
      dsimp only
      exact ⟨by omega, fun he => by omega⟩
    | some u =>
      have hset := sizeObj_set_of_some hl (mergeValue v u)
      have hv := size_mergeValue v u
      have h := size_merge src (Dict.set k (mergeValue v u) dst)
      rw [merge, hl]
      dsimp only
      refine ⟨by omega, fun he => ?_⟩
      have hval : hasValue v u = true := hv.2 (by omega)
      have hsame : Dict.set k (mergeValue v u) dst = dst := by
        rw [mergeValue_of_hasValue v u hval, Dict.set_eq_self hl]
      have hkeys := h.2 (by omega)
      rw [hsame] at hkeys
      rw [hasKeys, hl, Bool.and_eq_true]
      exact ⟨hval, hkeys⟩
end

/-- The document is of the current schema version. -/
def Current (d : Obj) : Prop :=
  Json.pyEq ((Dict.lookup "schema_version" d).getD (.int 0)) (.int Schema.schemaVersion) = true

instance (d : Obj) : Decidable (Current d) := inferInstanceAs (Decidable (_ = true))

theorem migrate_of_current {d : Obj} (h : Current d) : migrate d = merge Schema.defaultEntries d := by
  unfold migrate
  exact if_pos h

/-- **Loading** leaves a current document as it is exactly when it has every default key. -/
theorem migrate_eq_self_iff {d : Obj} (h : Current d) :
    migrate d = d ↔ hasKeys Schema.defaultEntries d = true := by
  rw [migrate_of_current h]
  exact ⟨fun he => (size_merge _ d).2 (by rw [he]), merge_of_hasKeys _ d⟩

/-! ### Restart and revision rollback -/

/-- A stored document comes back as it was: a restart with `d` in `running.json` runs `d`, and a
rollback to a revision that holds `d`, when it succeeds, leaves a running configuration equal to
`d`. -/
structure Restores (d : Obj) : Prop where
  restart : ∀ s : Store, s.disk = some d → s.restart.running = d
  rollback : ∀ (env : Env) (user sourceIp txid : String) (s : Store) (row : Revision)
    (c : CommitReturn) (t : Store),
    (s.revisions.find? fun r => r.id = row.id) = some row → row.config = d →
    rollbackToRevision env user sourceIp txid row.id s = (.ok c, t) →
    Json.pyEq (.obj t.running) (.obj d) = true

/-- Validating `d` again, as a rollback does, leaves a document equal to `d`. -/
def Stable (d : Obj) : Prop :=
  ∀ caps new warnings, Schema.validate caps d = .ok (new, warnings) →
    Json.pyEq (.obj new) (.obj d) = true

theorem restart_running {s : Store} {d : Obj} (h : s.disk = some d) :
    s.restart.running = migrate d := by
  simp [Store.restart, h]

theorem Restores.of_stable {d : Obj} (hmig : migrate d = d) (hst : Stable d) : Restores d := by
  refine ⟨fun s hs => (restart_running hs).trans hmig, ?_⟩
  intro env user sourceIp txid s row c t hfind hcfg hroll
  unfold rollbackToRevision loadRevision at hroll
  rw [hfind] at hroll
  dsimp only at hroll
  rw [hcfg, hmig] at hroll
  have he := commit_effect env { CommitArgs.default with
    user, sourceIp, summary := "rollback to revision " ++ Text.ofNat row.id } txid
    { s with candidate := d }
  rw [hroll] at he
  cases he with
  | kept hs hr =>
    -- nothing to commit: the running configuration equals the revision
    have hnil := (hr c rfl).2.1
    rw [hs.running]
    exact pyEq_of_diffConfig_nil _ _ _ hnil
  | installed hpend hval hgate he =>
    cases he with
    | plain hrun => rw [hrun]; exact hst _ _ _ hval
    | armed _ hrun => rw [hrun]; exact hst _ _ _ hval

/-- A store that holds `d` as its only revision and runs nothing. -/
def storing (d : Obj) : Store :=
  { Store.blank with revisions := [⟨1, "t0", 0, "system", "commit", "", d⟩], lastRevision := 1 }

/-- The environment of a working store without hooks that reports `caps`. -/
def Env.probed (caps : Schema.Capabilities) : Env := { Env.quiet with capabilities := caps }

/-- An empty document differs from one with a version. -/
theorem changesOf_nil_ne {d : Obj} (h : Current d) : changesOf [] d ≠ [] := by
  intro hnil
  have heq := pyEq_of_diffConfig_nil _ _ _ hnil
  simp only [Json.pyEq, Bool.and_eq_true, List.all_eq_true, Dict.lookup_nil, Option.isSome_none]
    at heq
  cases hl : Dict.lookup "schema_version" d with
  | none =>
    rw [Current, hl] at h
    revert h
    decide
  | some v =>
    have := heq.2 _ (Dict.mem_of_lookup hl)
    cases this

/-- Without hooks and with storage that works a valid candidate with changes is installed. -/
theorem commit_installs {caps : Schema.Capabilities} {args : CommitArgs} {txid : String} {s : Store}
    {new : Obj} {warnings : List String} (hpend : s.pending = none)
    (hch : changesOf s.running s.candidate ≠ [])
    (hval : Schema.validate caps s.candidate = .ok (new, warnings)) :
    ∃ c t, commit (.probed caps) args txid s = (.ok c, t) ∧ t.running = new := by
  have happ : Applies (.probed caps) args s new :=
    ⟨hpend, Or.inl hch, ⟨warnings, hval⟩, rfl, Or.inr rfl⟩
  obtain ⟨w, s', messages, needs, checkpoint, -, hs', hacc, -⟩ :=
    @commit_of_applies _ args txid s new happ
  obtain ⟨r, t, ht, he, hok⟩ := install_effect (.probed caps) args txid s.running new
    (changesOf s.running s.candidate) w messages needs checkpoint (hs'.same.pending.trans hpend)
  obtain ⟨c, rfl⟩ := hok rfl
  refine ⟨c, t, (hacc ⟨rfl, rfl⟩).trans ht, ?_⟩
  cases he with
  | plain hrun => exact hrun
  | armed _ hrun => exact hrun

theorem Restores.stable {d : Obj} (hcur : Current d) (hmig : migrate d = d) (h : Restores d) :
    Stable d := by
  intro caps new warnings hval
  let args : CommitArgs := { CommitArgs.default with summary := "rollback to revision 1" }
  obtain ⟨c, t, hc, hrun⟩ := @commit_installs caps args "t1" { storing d with candidate := d } new
    warnings rfl (changesOf_nil_ne hcur) hval
  have hroll : rollbackToRevision (.probed caps) "system" "local" "t1" 1 (storing d) =
      (.ok c, t) := by
    rw [← hc]
    unfold rollbackToRevision loadRevision
    simp only [storing, List.find?_cons, decide_true, hmig]
    rfl
  rw [← hrun]
  exact h.rollback (.probed caps) "system" "local" "t1" (storing d)
    ⟨1, "t0", 0, "system", "commit", "", d⟩ c t rfl rfl hroll

/-- **What comes back**: a stored document of the current version is restored as it was exactly when
it has every default key and validating it again leaves it as it is. -/
theorem restores_iff (d : Obj) (hcur : Current d) :
    Restores d ↔ hasKeys Schema.defaultEntries d = true ∧ Stable d := by
  constructor
  · intro h
    let s : Store := { Store.blank with disk := some d }
    have hdisk : s.disk = some d := rfl
    have hmig : migrate d = d := (restart_running hdisk).symm.trans (h.restart s hdisk)
    exact ⟨(migrate_eq_self_iff hcur).mp hmig, h.stable hcur hmig⟩
  · rintro ⟨hkeys, hst⟩
    exact .of_stable ((migrate_eq_self_iff hcur).mpr hkeys) hst

theorem restores_iff_default : Current Schema.defaultEntries ∧
    (Restores Schema.defaultEntries ↔
      hasKeys Schema.defaultEntries Schema.defaultEntries = true ∧ Stable Schema.defaultEntries) :=
  ⟨by decide, restores_iff Schema.defaultEntries (by decide)⟩

/-- Every port on the network `lab`, and no other network. -/
def onlyLab : Mutation := fun cfg =>
  let ports := ((Dict.lookup "ports" cfg).getD (.obj [])).entries
  let lab : Json := .obj [("name", .str "Lab"), ("subnet", .str "192.168.7.1/24")]
  .ok (Dict.set "networks" (.obj [("lab", lab)])
    (Dict.set "ports" (.obj (ports.map fun e => (e.1, e.2.put "network" (.str "lab")))) cfg))

/-- A store on which the default network has been deleted for another one. -/
def withoutDefault : Store :=
  (commit .quiet .plain "t1" (stage .quiet onlyLab Store.blank.restart).2).2

/-- The default network of a committed configuration that deleted it comes back after a restart. -/
theorem deleted_network_returns :
    withoutDefault.lastRevision = 2 ∧ Current withoutDefault.running ∧
      withoutDefault.disk = some withoutDefault.running ∧ ¬ Restores withoutDefault.running := by
  refine ⟨by decide +kernel, by decide +kernel, by decide +kernel, fun h => ?_⟩
  have hdisk : withoutDefault.disk = some withoutDefault.running := by decide +kernel
  have hne : withoutDefault.restart.running ≠ withoutDefault.running := by decide +kernel
  exact hne (h.restart withoutDefault hdisk)

end Sbegw.Configd
