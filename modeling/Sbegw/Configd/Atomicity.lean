import Sbegw.Configd.Effect

/-!
# Atomicity of a commit

What a commit leaves behind when a hook or a storage step fails, at whichever point.
-/

namespace Sbegw.Configd

/-- Whenever an applier was called with another configuration than `old`, every registered applier
was afterwards called with `old` as its target. -/
def Reapplied (appliers : List Applier) (old : Obj) (calls : List Call) : Prop :=
  ∀ l₁ call l₂, calls = l₁ ++ call :: l₂ → call.new ≠ old →
    ∀ a ∈ appliers, ∃ c ∈ l₂, c.applier = a.name ∧ c.new = old

/-- After a commit that raised, everything still describes the configuration before it: memory, disk,
the newest revision and the system. -/
structure Undone (env : Env) (s t : Store) : Prop where
  running : t.running = s.running
  disk : t.disk = s.disk ∨ t.disk = some s.running
  revision : t.revisions = s.revisions ∨
    ∃ r, t.revisions.getLast? = some r ∧ r.config = s.running
  system : ∃ calls, t.calls = s.calls ++ calls ∧ Reapplied env.appliers s.running calls

/-- After a commit that returned, memory, disk and the newest commit revision are the new
configuration. -/
def Done (env : Env) (s t : Store) : Prop :=
  ∃ new warnings, Schema.validate env.capabilities s.candidate = .ok (new, warnings) ∧
    t.running = new ∧ t.disk = some new ∧
    ∃ r, (t.revisions.filter fun r => r.source = "commit").getLast? = some r ∧ r.config = new

/-- **Atomicity** of one commit. -/
def Atomic (env : Env) (args : CommitArgs) (txid : String) (s : Store) : Prop :=
  (∀ e, (commit env args txid s).1 = .error e → Undone env s (commit env args txid s).2) ∧
  ∀ c, (commit env args txid s).1 = .ok c → c.changes ≠ [] → Done env s (commit env args txid s).2

/-- The commit gets as far as its apply loop, with the configuration `new`. -/
structure Applies (env : Env) (args : CommitArgs) (s : Store) (new : Obj) : Prop where
  pending : s.pending = none
  gate : changesOf s.running s.candidate ≠ [] ∨ args.force = true
  valid : ∃ warnings, Schema.validate env.capabilities s.candidate = .ok (new, warnings)
  preflight : preflightProblems s.running new env.appliers = []
  checkpoint : changesOf s.running s.candidate = [] ∨ env.faults.checkpoint = false

/-- The appliers and the health checks accept `new`. -/
def Accepted (env : Env) (s : Store) (new : Obj) : Prop :=
  (applyAll s.running new env.appliers).failed = none ∧ unhealthy new env.healthChecks = []

/-- Storage works where it counts: a commit that gets as far as its apply loop with a new
configuration can write `running.json`, its revision and its audit row when the hooks accept it, and
can write `running.json` back before it calls the appliers again when they do not. -/
def StorageHolds (env : Env) (args : CommitArgs) (s : Store) : Prop :=
  ∀ new, Applies env args s new → new ≠ s.running →
    (Accepted env s new → (env.faults.running = false ∨ s.disk = some new) ∧
      (changesOf s.running s.candidate = [] ∨ env.faults.revision = false) ∧
      env.faults.audit = false) ∧
    (¬ Accepted env s new →
      env.faults.rollback = false ∨ s.disk = some s.running ∨ env.appliers = [])

/-! ### Records -/

/-- The newest rows of a table: the row just added is among them, as the last one. -/
theorem getLast?_drop_snoc {α : Type} (rows : List α) (row : α) (n : ℕ) (hn : 0 < n) :
    ((rows ++ [row]).drop ((rows ++ [row]).length - n)).getLast? = some row := by
  rw [List.getLast?_drop, if_neg (by simp; omega)]
  simp

theorem getLast?_saveRevision (s : Store) (txid user source summary : String) (cfg : Obj) :
    ∃ r, (s.saveRevision txid user source summary cfg).revisions.getLast? = some r ∧
      r.config = cfg ∧ r.source = source := by
  refine ⟨⟨s.lastRevision + 1, txid, s.clock, user, source, summary, cfg⟩, ?_, rfl, rfl⟩
  unfold Store.saveRevision
  exact getLast?_drop_snoc _ _ 60 (by omega)

/-- The last row is the last one of those that a test keeps, when it keeps it. -/
theorem getLast?_filter_of_last {α : Type} {rows : List α} {row : α} {p : α → Bool}
    (h : rows.getLast? = some row) (hp : p row = true) : (rows.filter p).getLast? = some row := by
  obtain ⟨init, rfl⟩ := List.getLast?_eq_some_iff.mp h
  simp [List.filter_append, hp]

/-! ### Calls -/

/-- The apply loop calls appliers with the new configuration only. -/
theorem new_of_mem_applyAll {old new : Obj} {appliers : List Applier} {call : Call}
    (h : call ∈ (applyAll old new appliers).calls) : call.new = new := by
  induction appliers with
  | nil => cases h
  | cons a rest ih =>
    unfold applyAll at h
    dsimp only at h
    split at h
    · rcases List.mem_cons.mp h with rfl | h
      · rfl
      · exact ih h
    · rw [List.mem_singleton] at h
      subst h
      rfl

/-- Where there are appliers the loop calls the first one. -/
theorem applyAll_calls_ne_nil {old new : Obj} {appliers : List Applier} (h : appliers ≠ []) :
    (applyAll old new appliers).calls ≠ [] := by
  cases appliers with
  | nil => exact absurd rfl h
  | cons a rest =>
    unfold applyAll
    dsimp only
    split <;> simp

theorem reapplied_of_forall {appliers : List Applier} {old : Obj} {calls : List Call}
    (h : ∀ c ∈ calls, c.new = old) : Reapplied appliers old calls := by
  rintro l₁ call l₂ rfl hne
  exact absurd (h call (by simp)) hne

/-- The calls of `_rollback_to` make up for all calls before them. -/
theorem reapplied_append_rollbackCalls (appliers : List Applier) (current old : Obj)
    (calls : List Call) : Reapplied appliers old (calls ++ rollbackCalls appliers current old) := by
  intro l₁ call l₂ hl hne a ha
  rcases List.append_eq_append_iff.mp hl with ⟨k, rfl, hk⟩ | ⟨k, rfl, hk⟩
  · -- the call is one of `_rollback_to` itself
    have hmem : call ∈ rollbackCalls appliers current old := by rw [hk]; simp
    obtain ⟨b, -, rfl⟩ := List.mem_map.mp hmem
    exact absurd rfl hne
  · cases k with
    | nil =>
      have hmem : call ∈ rollbackCalls appliers current old := by
        rw [List.nil_append] at hk
        rw [← hk]
        simp
      obtain ⟨b, -, rfl⟩ := List.mem_map.mp hmem
      exact absurd rfl hne
    | cons c k =>
      simp only [List.cons_append, List.cons.injEq] at hk
      obtain ⟨-, rfl⟩ := hk
      exact ⟨⟨a.name, current, old⟩, List.mem_append_right _ (List.mem_map.mpr ⟨a, ha, rfl⟩), rfl,
        rfl⟩

/-- Without calls to make up for them, calls with another configuration are not made up for. -/
theorem not_reapplied {appliers : List Applier} {old new : Obj} {calls : List Call}
    (happ : appliers ≠ []) (hcalls : calls ≠ []) (h : ∀ c ∈ calls, c.new = new) (hne : new ≠ old) :
    ¬ Reapplied appliers old calls := by
  intro hr
  obtain ⟨a, ha⟩ := List.exists_mem_of_ne_nil appliers happ
  have hlast := List.dropLast_append_getLast hcalls
  obtain ⟨c, hc, -⟩ := hr calls.dropLast (calls.getLast hcalls) [] hlast.symm
    (by rw [h _ (List.getLast_mem hcalls)]; exact hne) a ha
  cases hc

/-! ### The parts of a commit -/

/-- `AtomicResult`: what atomicity asks of the result of a part of the commit. -/
def AtomicResult (env : Env) (s : Store) (x : Except Exn CommitReturn × Store) : Prop :=
  (∀ e, x.1 = .error e → Undone env s x.2) ∧
  ∀ c, x.1 = .ok c → c.changes ≠ [] → Done env s x.2

theorem atomicResult_error {env : Env} {s t : Store} {e : Exn} :
    AtomicResult env s (.error e, t) ↔ Undone env s t := by
  simp [AtomicResult]

theorem atomicResult_ok {env : Env} {s t : Store} {c : CommitReturn} :
    AtomicResult env s (.ok c, t) ↔ (c.changes ≠ [] → Done env s t) := by
  simp [AtomicResult]

theorem Undone.of_same {env : Env} {s t : Store} (hs : Same s t) (hcalls : t.calls = s.calls)
    (hrev : t.revisions = s.revisions) : Undone env s t :=
  ⟨hs.running, Or.inl hs.disk, Or.inl hrev, [], by simp [hcalls], reapplied_of_forall (by simp)⟩

section

variable {env : Env} {args : CommitArgs} {txid : String} {s : Store}

theorem refuse_atomic (stage message detail : String) (details : List String)
    (changes : List Change) :
    AtomicResult env s (refuse env args txid stage message detail details changes s) := by
  obtain ⟨e, t, ht, hs, hcalls, hrev⟩ :=
    refuse_cases env args txid stage message detail details changes s
  rw [ht, atomicResult_error]
  exact .of_same hs hcalls hrev

/-- The store at the end of the apply loop: as before the commit but for the checkpoint and the
calls. -/
structure AfterApply (s s' : Store) (calls : List Call) : Prop where
  same : Same s s'
  calls : s'.calls = s.calls ++ calls
  revision : s'.revisions = s.revisions ∨
    ∃ r, s'.revisions.getLast? = some r ∧ r.config = s.running

/-- A store with the new configuration in memory is undone only when that is the old one. -/
theorem undone_iff_of_new {s t : Store} {new : Obj} {calls : List Call} (hrun : t.running = new)
    (hdisk : t.disk = s.disk ∨ t.disk = some new)
    (hrev : t.revisions = s.revisions ∨
      ∃ r, t.revisions.getLast? = some r ∧ (r.config = s.running ∨ r.config = new))
    (hcalls : t.calls = s.calls ++ calls) (hnew : ∀ c ∈ calls, c.new = new) :
    Undone env s t ↔ new = s.running := by
  constructor
  · exact fun h => hrun.symm.trans h.running
  · rintro rfl
    refine ⟨hrun, hdisk, ?_, calls, hcalls, reapplied_of_forall hnew⟩
    rcases hrev with hrev | ⟨r, hr, hc | hc⟩
    · exact Or.inl hrev
    · exact Or.inr ⟨r, hr, hc⟩
    · exact Or.inr ⟨r, hr, hc⟩

/-- A failed commit is undone unless `running.json` cannot be written back. -/
theorem backOut_atomic {s' : Store} {new : Obj} {calls : List Call} (h : AfterApply s s' calls)
    (hnew : ∀ c ∈ calls, c.new = new) (hcalls : env.appliers ≠ [] → calls ≠ [])
    (stage message detail : String) (details : List String) (changes : List Change) :
    AtomicResult env s
        (backOut env args txid s.running stage message detail details changes s') ↔
      (new ≠ s.running →
        env.faults.rollback = false ∨ s.disk = some s.running ∨ env.appliers = []) := by
  unfold backOut rollbackTo
  rcases resetTo_cases env.faults.rollback s.running s' with hr | ⟨hf, hd, hr⟩
  · rw [hr]
    dsimp only
    have hfine : env.faults.rollback = false ∨ s'.disk = some s.running := by
      by_contra hcon
      rw [not_or] at hcon
      unfold resetTo writeRunning at hr
      rw [if_neg hcon.2, if_pos (by simpa using hcon.1)] at hr
      cases hr
    rw [h.same.disk] at hfine
    refine iff_of_true ?_ fun _ => hfine.elim Or.inl fun hd => Or.inr (Or.inl hd)
    obtain ⟨e, t, ht, hs, hc, hrev⟩ := refuse_cases env args txid stage message detail details
      changes { s' with
        running := s.running
        candidate := s.running
        disk := some s.running
        calls := s'.calls ++ rollbackCalls env.appliers s'.running s.running }
    rw [ht, atomicResult_error]
    refine ⟨hs.running, Or.inr hs.disk, hrev ▸ h.revision,
      calls ++ rollbackCalls env.appliers s'.running s.running, ?_,
      reapplied_append_rollbackCalls _ _ _ _⟩
    rw [hc, h.calls, List.append_assoc]
  · -- the write fails, and the appliers are not called again
    rw [hr, atomicResult_error]
    rw [h.same.disk] at hd
    constructor
    · rintro hu hne
      by_contra hcon
      rw [not_or, not_or] at hcon
      obtain ⟨calls', hc, hre⟩ := hu.system
      have : calls' = calls := List.append_cancel_left (hc.symm.trans h.calls)
      subst this
      exact not_reapplied hcon.2.2 (hcalls hcon.2.2) hnew hne hre
    · intro himp
      refine ⟨rfl, Or.inl h.same.disk, h.revision, calls, h.calls, ?_⟩
      by_cases hne : new = s.running
      · exact reapplied_of_forall fun c hc => (hnew c hc).trans hne
      · rcases himp hne with hf' | hd' | happ
        · rw [hf] at hf'
          cases hf'
        · exact absurd hd' hd
        · rw [happ]
          exact fun _ _ _ _ _ a ha => absurd ha (by simp)

/-- The end of a commit, with the new configuration in memory and on disk. -/
theorem conclude_atomic {s' : Store} {new : Obj} {warnings : List String} {calls : List Call}
    (h : AfterApply s s' calls) (hnew : ∀ c ∈ calls, c.new = new)
    (hval : Schema.validate env.capabilities s.candidate = .ok (new, warnings))
    (changes : List Change) (ws messages : List String) (needsConfirm : Bool) (revision : ℕ)
    {u : Store} (hrun : u.running = new) (hdisk : u.disk = some new) (hcalls : u.calls = s'.calls)
    (hrev : u.revisions = s'.revisions ∧ changes = [] ∨
      ∃ r, u.revisions.getLast? = some r ∧ r.config = new ∧ r.source = "commit") :
    AtomicResult env s
        (conclude env args txid s.running changes ws messages needsConfirm revision u) ↔
      (new ≠ s.running → env.faults.audit = false) := by
  have hlast : u.revisions = s.revisions ∨
      ∃ r, u.revisions.getLast? = some r ∧ (r.config = s.running ∨ r.config = new) := by
    rcases hrev with ⟨hrev, -⟩ | ⟨r, hr, hc, -⟩
    · rw [hrev]
      exact h.revision.imp id fun ⟨r, hr, hc⟩ => ⟨r, hr, Or.inl hc⟩
    · exact Or.inr ⟨r, hr, Or.inr hc⟩
  let u' := if awaits args needsConfirm then arm args txid s.running revision u else u
  have hu' : u'.running = new ∧ u'.disk = some new ∧ u'.calls = s.calls ++ calls ∧
      u'.revisions = u.revisions := by
    have hc := hcalls.trans h.calls
    cases ha : awaits args needsConfirm <;> simp [u', ha, arm, hrun, hdisk, hc]
  unfold conclude
  by_cases hf : env.faults.audit = true
  · rw [if_pos hf, atomicResult_error,
      undone_iff_of_new hu'.1 (Or.inr hu'.2.1) (hu'.2.2.2 ▸ hlast) hu'.2.2.1 hnew]
    simp [hf]
  · rw [if_neg hf, atomicResult_ok]
    refine iff_of_true (fun hch => ?_) fun _ => by simpa using hf
    rcases hrev with ⟨-, hch'⟩ | ⟨r, hr, hc, hsrc⟩
    · exact absurd hch' hch
    · refine ⟨new, warnings, hval, (same_addAudit _ _ _ _ _ _ _ _).running.trans hu'.1,
        (same_addAudit _ _ _ _ _ _ _ _).disk.trans hu'.2.1, r, ?_, hc⟩
      rw [revisions_addAudit]
      exact getLast?_filter_of_last (hu'.2.2.2 ▸ hr) (by simp [hsrc])

/-- The commit proper is done, or raises with the new configuration in memory. -/
theorem install_atomic {s' : Store} {new : Obj} {warnings : List String} {calls : List Call}
    (h : AfterApply s s' calls) (hnew : ∀ c ∈ calls, c.new = new)
    (hval : Schema.validate env.capabilities s.candidate = .ok (new, warnings))
    (changes : List Change) (ws messages : List String) (needsConfirm : Bool) (checkpoint : ℕ) :
    AtomicResult env s (install env args txid s.running new changes ws messages needsConfirm
        checkpoint s') ↔
      (new ≠ s.running → (env.faults.running = false ∨ s.disk = some new) ∧
        (changes = [] ∨ env.faults.revision = false) ∧ env.faults.audit = false) := by
  have hrev' : s'.revisions = s.revisions ∨
      ∃ r, s'.revisions.getLast? = some r ∧ (r.config = s.running ∨ r.config = new) :=
    h.revision.imp id fun ⟨r, hr, hc⟩ => ⟨r, hr, Or.inl hc⟩
  unfold install
  rcases writeRunning_cases env.faults.running new { s' with running := new } with hw | ⟨hf, hd, hw⟩
  · have hfine : env.faults.running = false ∨ s.disk = some new := by
      by_contra hcon
      rw [not_or, ← h.same.disk] at hcon
      unfold writeRunning at hw
      rw [if_neg hcon.2, if_pos (by simpa using hcon.1)] at hw
      cases hw
    rw [hw]
    dsimp only
    by_cases hrev : (!changes.isEmpty && env.faults.revision) = true
    · -- the commit revision cannot be stored
      rw [if_pos hrev, atomicResult_error]
      refine @Iff.trans _ (new = s.running) _
        (undone_iff_of_new rfl (Or.inr rfl) hrev' h.calls hnew) ?_
      simp only [Bool.and_eq_true, Bool.not_eq_true', List.isEmpty_eq_false_iff] at hrev
      simp [hrev.1, hrev.2]
    · rw [if_neg hrev]
      have hrevfine : changes = [] ∨ env.faults.revision = false := by
        by_contra hcon
        rw [not_or] at hcon
        exact hrev (by simp [hcon.1, hcon.2])
      simp only [hfine, hrevfine, true_and]
      by_cases hch : changes.isEmpty = true
      · simp only [hch, if_true]
        exact conclude_atomic h hnew hval changes ws messages needsConfirm _ rfl rfl rfl
          (Or.inl ⟨rfl, List.isEmpty_iff.mp hch⟩)
      · simp only [hch]
        let s₁ : Store := { s' with running := new, candidate := new, disk := some new }
        have hsave := same_saveRevision s₁ txid args.user "commit" (args.text changes) new
        exact conclude_atomic h hnew hval changes ws messages needsConfirm _ hsave.running
          hsave.disk (calls_saveRevision s₁ _ _ _ _ _)
          (Or.inr (getLast?_saveRevision s₁ txid args.user "commit" (args.text changes) new))
  · -- `running.json` cannot be written
    rw [hw, atomicResult_error]
    refine @Iff.trans _ (new = s.running) _
      (undone_iff_of_new rfl (Or.inl h.same.disk) hrev' h.calls hnew) ?_
    have hd : ¬ s.disk = some new := h.same.disk ▸ hd
    simp [hf, hd]

/-- A commit that does not get as far as its apply loop changes nothing. -/
theorem atomic_of_not_applies (h : ∀ new, ¬ Applies env args s new) : Atomic env args txid s := by
  show AtomicResult env s (commit env args txid s)
  have untouched : ∀ {e : Exn}, AtomicResult env s (.error e, s) := fun {e} =>
    atomicResult_error.mpr (.of_same (Same.refl s) rfl rfl)
  unfold commit
  cases hpend : s.pending with
  | some p => exact untouched
  | none =>
    dsimp only
    by_cases hgate : ((changesOf s.running s.candidate).isEmpty && !args.force) = true
    · rw [if_pos hgate, atomicResult_ok]
      exact fun hch => absurd rfl hch
    · rw [if_neg hgate]
      have hgate : changesOf s.running s.candidate ≠ [] ∨ args.force = true := by
        by_contra hn
        rw [not_or] at hn
        exact hgate (by simp [not_not.mp hn.1, hn.2])
      cases hval : Schema.validate env.capabilities s.candidate with
      | error e =>
        cases e with
        | validation path message => exact refuse_atomic _ _ _ _ _
        | _ => exact untouched
      | ok v =>
        obtain ⟨new, warnings⟩ := v
        dsimp only
        split
        · rename_i hpre
          unfold applyNew
          rw [if_pos]
          · exact untouched
          · by_contra hc
            refine h new ⟨hpend, hgate, ⟨_, hval⟩, hpre, ?_⟩
            by_contra hcon
            rw [not_or] at hcon
            exact hc (by simp [hcon.1, hcon.2])
        · exact refuse_atomic _ _ _ _ _

/-- A commit that gets as far as its apply loop. -/
theorem commit_of_applies {new : Obj} (h : Applies env args s new) : ∃ warnings s' messages needs
    checkpoint, Schema.validate env.capabilities s.candidate = .ok (new, warnings) ∧
      AfterApply s s' (applyAll s.running new env.appliers).calls ∧
      ((Accepted env s new → commit env args txid s = install env args txid s.running new
          (changesOf s.running s.candidate) warnings messages needs checkpoint s') ∧
        (¬ Accepted env s new → ∃ stage message detail details, commit env args txid s =
          backOut env args txid s.running stage message detail details
            (changesOf s.running s.candidate) s')) := by
  obtain ⟨warnings, hval⟩ := h.valid
  have hgate : ((changesOf s.running s.candidate).isEmpty && !args.force) ≠ true := by
    rcases h.gate with hg | hg <;> simp [hg]
  have hcheck : (!(changesOf s.running s.candidate).isEmpty && env.faults.checkpoint) ≠ true := by
    rcases h.checkpoint with hc | hc <;> simp [hc]
  let s₁ := if (changesOf s.running s.candidate).isEmpty then s
    else s.saveRevision txid args.user "checkpoint"
      (if args.summary = "" then "pre-apply checkpoint" else args.summary) s.running
  have hs₁ : Same s s₁ := same_ite_saveRevision _ _ _ _ _ _ _
  let s₂ : Store := { s₁ with calls := s₁.calls ++ (applyAll s.running new env.appliers).calls }
  have hs₂ : AfterApply s s₂ (applyAll s.running new env.appliers).calls := by
    refine ⟨hs₁.trans ⟨rfl, rfl, rfl, rfl, rfl, rfl, rfl⟩, ?_, ?_⟩
    · show s₁.calls ++ _ = _
      by_cases hch : (changesOf s.running s.candidate).isEmpty = true
      · simp [s₁, hch]
      · simp [s₁, hch]
    · show s₁.revisions = _ ∨ _
      by_cases hch : (changesOf s.running s.candidate).isEmpty = true
      · exact Or.inl (by simp [s₁, hch])
      · obtain ⟨r, hr, hc, -⟩ := getLast?_saveRevision s txid args.user "checkpoint"
          (if args.summary = "" then "pre-apply checkpoint" else args.summary) s.running
        exact Or.inr ⟨r, by simpa [s₂, s₁, hch] using hr, hc⟩
  have hcommit : commit env args txid s = applyNew env args txid s.running new
      (changesOf s.running s.candidate) warnings s := by
    unfold commit
    simp only [h.pending, if_neg hgate, hval, h.preflight]
  refine ⟨warnings, s₂, (applyAll s.running new env.appliers).messages,
    (applyAll s.running new env.appliers).needsConfirm,
    if (changesOf s.running s.candidate).isEmpty then s₁.latestRevision else s₁.lastRevision,
    hval, hs₂, fun hacc => ?_, fun hacc => ?_⟩
  · rw [hcommit]
    unfold applyNew
    rw [if_neg hcheck]
    simp only [hacc.1, hacc.2]
    rfl
  · rw [hcommit]
    unfold applyNew
    rw [if_neg hcheck]
    dsimp only
    cases hfail : (applyAll s.running new env.appliers).failed with
    | some name => exact ⟨_, _, _, _, rfl⟩
    | none =>
      cases hun : unhealthy new env.healthChecks with
      | nil => exact absurd ⟨hfail, hun⟩ hacc
      | cons p ps => exact ⟨_, _, _, _, rfl⟩

end

/-- **Atomicity of a commit**, for every candidate, every behaviour of the hooks and every storage
step that raises: it holds exactly when storage holds where it counts. -/
theorem commit_atomic_iff (env : Env) (args : CommitArgs) (txid : String) (s : Store) :
    Atomic env args txid s ↔ StorageHolds env args s := by
  by_cases happ : ∃ new, Applies env args s new
  · obtain ⟨new, h⟩ := happ
    obtain ⟨warnings, s', messages, needs, checkpoint, hval, hs', hacc, hrej⟩ :=
      @commit_of_applies env args txid s new h
    have hunique : ∀ new', Applies env args s new' → new' = new := by
      rintro new' ⟨-, -, ⟨_, hval'⟩, -, -⟩
      rw [hval] at hval'
      cases hval'
      rfl
    have hnew : ∀ c ∈ (applyAll s.running new env.appliers).calls, c.new = new :=
      fun c hc => new_of_mem_applyAll hc
    show AtomicResult env s (commit env args txid s) ↔ _
    by_cases ha : Accepted env s new
    · rw [hacc ha, install_atomic hs' hnew hval]
      constructor
      · intro hstore new' h' hne
        rw [hunique new' h'] at hne ⊢
        exact ⟨fun _ => hstore hne, fun hn => absurd ha hn⟩
      · exact fun hstore hne => (hstore new h hne).1 ha
    · obtain ⟨stage, message, detail, details, hb⟩ := hrej ha
      rw [hb, backOut_atomic hs' hnew applyAll_calls_ne_nil]
      constructor
      · intro hstore new' h' hne
        rw [hunique new' h'] at hne ⊢
        exact ⟨fun hacc => absurd hacc ha, fun _ => hstore hne⟩
      · exact fun hstore hne => (hstore new h hne).2 ha
  · rw [not_exists] at happ
    exact iff_of_true (atomic_of_not_applies happ) fun new h => absurd h (happ new)

/-- A fresh store with a new host name staged. -/
def renamed : Store := (stage .quiet (setHostname "gw-a") Store.blank.restart).2

/-- An environment in which the audit row cannot be written. -/
def Env.noAudit : Env := { Env.quiet with faults := { Faults.none with audit := true } }

/-- A commit whose audit row cannot be written raises, and the new configuration stays. -/
theorem commit_not_atomic : ¬ Atomic .noAudit .plain "t1" renamed := by
  have hraise : (commit .noAudit .plain "t1" renamed).1.toOption.isNone = true := by decide +kernel
  have hrun : (commit .noAudit .plain "t1" renamed).2.running ≠ renamed.running := by
    decide +kernel
  intro h
  cases he : (commit .noAudit .plain "t1" renamed).1 with
  | error e => exact hrun (h.1 e he).running
  | ok r =>
    rw [he] at hraise
    cases hraise

end Sbegw.Configd
