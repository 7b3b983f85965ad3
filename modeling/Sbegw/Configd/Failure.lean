import Sbegw.Configd.Atomicity
import Sbegw.Configd.Submit

/-!
# Where a change can fail

The points at which a change that is staged and committed can stop, and the documents each of them
leaves behind.  A guarded caller discards the candidate on `CommitError`; the others pass it on.
-/

namespace Sbegw.Configd

/-- The documents of a store. -/
structure Docs where
  running : Obj
  candidate : Obj
  disk : Option Obj
deriving DecidableEq

def Store.docs (s : Store) : Docs := ⟨s.running, s.candidate, s.disk⟩

/-- The store with other documents. -/
def Store.holding (s : Store) (ds : Docs) : Store :=
  { s with running := ds.running, candidate := ds.candidate, disk := ds.disk }

/-- `t` holds the documents `ds`, with the same commit pending as in `s`. -/
structure Holds (s t : Store) (ds : Docs) : Prop where
  docs : t.docs = ds
  pending : t.pending = s.pending

/-- A guarded caller discards the candidate on `CommitError`. -/
def afterError (guarded : Bool) (e : Exn) (s : Store) : Store :=
  match e with
  | .commit _ _ _ _ => if guarded then discardCandidate s else s
  | _ => s

/-! ### The commit -/

/-- `running.json` can be written, or already holds the document. -/
def Written (env : Env) (s : Store) (new : Obj) : Prop :=
  env.faults.running = false ∨ s.disk = some new

/-- The commit revision and the audit row can be stored. -/
def Recorded (env : Env) (s : Store) : Prop :=
  (changesOf s.running s.candidate = [] ∨ env.faults.revision = false) ∧ env.faults.audit = false

/-- The candidate after a refusal, which a guarded caller sees as `CommitError` when it can be
recorded. -/
def refusedCandidate (guarded : Bool) (env : Env) (s : Store) : Obj :=
  if guarded && !env.faults.audit then s.running else s.candidate

/-- `running.json` after `_rollback_to` the running configuration. -/
def restoredDisk (env : Env) (s : Store) : Option Obj :=
  if env.faults.rollback then s.disk else some s.running

/-- A commit that returns, and the documents it leaves. -/
inductive CommitSettles (env : Env) (args : CommitArgs) (s : Store) : Docs → Prop
  /-- there is nothing to commit -/
  | idle (hp : s.pending = none) (hc : changesOf s.running s.candidate = [])
      (hf : args.force = false) : CommitSettles env args s s.docs
  | installed {new : Obj} (h : Applies env args s new) (ha : Accepted env s new)
      (hw : Written env s new) (hr : Recorded env s) :
      CommitSettles env args s ⟨new, new, some new⟩

/-- The points at which a commit raises, and the documents each leaves. -/
inductive CommitFails (guarded : Bool) (env : Env) (args : CommitArgs) (s : Store) : Docs → Prop
  | locked {p : Pending} (hp : s.pending = some p) : CommitFails guarded env args s
      ⟨s.running, if guarded then s.running else s.candidate, s.disk⟩
  | invalid {path message : String} (hp : s.pending = none)
      (hg : changesOf s.running s.candidate ≠ [] ∨ args.force = true)
      (hv : Schema.validate env.capabilities s.candidate = .error (.validation path message)) :
      CommitFails guarded env args s ⟨s.running, refusedCandidate guarded env s, s.disk⟩
  | broken {e : Exn} (hp : s.pending = none)
      (hg : changesOf s.running s.candidate ≠ [] ∨ args.force = true)
      (hv : Schema.validate env.capabilities s.candidate = .error e)
      (he : ∀ path message, e ≠ .validation path message) :
      CommitFails guarded env args s ⟨s.running, (afterError guarded e s).candidate, s.disk⟩
  | preflight {new : Obj} {warnings : List String} (hp : s.pending = none)
      (hg : changesOf s.running s.candidate ≠ [] ∨ args.force = true)
      (hv : Schema.validate env.capabilities s.candidate = .ok (new, warnings))
      (hpre : preflightProblems s.running new env.appliers ≠ []) :
      CommitFails guarded env args s ⟨s.running, refusedCandidate guarded env s, s.disk⟩
  | checkpoint {new : Obj} {warnings : List String} (hp : s.pending = none)
      (hc : changesOf s.running s.candidate ≠ [])
      (hv : Schema.validate env.capabilities s.candidate = .ok (new, warnings))
      (hpre : preflightProblems s.running new env.appliers = [])
      (hf : env.faults.checkpoint = true) : CommitFails guarded env args s s.docs
  | backedOut {new : Obj} (h : Applies env args s new) (ha : ¬ Accepted env s new) :
      CommitFails guarded env args s ⟨s.running, s.running, restoredDisk env s⟩
  | unwritten {new : Obj} (h : Applies env args s new) (ha : Accepted env s new)
      (hw : ¬ Written env s new) : CommitFails guarded env args s ⟨new, s.candidate, s.disk⟩
  | unrecorded {new : Obj} (h : Applies env args s new) (ha : Accepted env s new)
      (hw : Written env s new) (hr : ¬ Recorded env s) :
      CommitFails guarded env args s ⟨new, new, some new⟩

section

variable {env : Env} {args : CommitArgs} {txid : String} {s : Store}

theorem docs_of_same {s t : Store} (h : Same s t) : t.docs = s.docs := by
  simp [Store.docs, h.running, h.candidate, h.disk]

/-- A refusal leaves the documents, with the candidate discarded where the caller does that. -/
theorem refuse_docs (guarded : Bool) (stage message detail : String) (details : List String)
    (changes : List Change) :
    ∃ e t, refuse env args txid stage message detail details changes s = (.error e, t) ∧
      Holds s (afterError guarded e t) ⟨s.running, refusedCandidate guarded env s, s.disk⟩ := by
  unfold refuse refusedCandidate
  by_cases hf : env.faults.audit = true
  · rw [if_pos hf]
    refine ⟨_, _, rfl, ?_, rfl⟩
    simp [afterError, Store.docs, hf]
  · rw [if_neg hf]
    have hs := same_addAudit s txid args.user args.sourceIp "commit" false detail changes
    cases guarded with
    | false =>
      refine ⟨_, _, rfl, ?_, hs.pending⟩
      simp [afterError, Store.docs, hs.running, hs.candidate, hs.disk]
    | true =>
      refine ⟨_, _, rfl, ?_, ?_⟩
      · simp [afterError, discardCandidate, Store.docs, hs.running, hs.disk, hf]
      · simp [afterError, discardCandidate, hs.pending]

theorem not_idle (hg : changesOf s.running s.candidate ≠ [] ∨ args.force = true) :
    ((changesOf s.running s.candidate).isEmpty && !args.force) ≠ true := by
  rcases hg with hg | hg <;> simp [hg]

/-- The end of a commit raises exactly when the audit row cannot be stored. -/
theorem conclude_docs (old : Obj) (changes : List Change) (warnings messages : List String)
    (needsConfirm : Bool) (revision : ℕ) (u : Store) :
    ∃ r t, conclude env args txid old changes warnings messages needsConfirm revision u = (r, t) ∧
      t.docs = u.docs ∧ (args.confirmRequired = some false → t.pending = u.pending) ∧
      (env.faults.audit = false → ∃ c, r = .ok c) ∧
      (env.faults.audit = true → r = .error (.storage "audit")) := by
  let u' := if awaits args needsConfirm then arm args txid old revision u else u
  have hdocs : u'.docs = u.docs := by
    cases ha : awaits args needsConfirm <;> simp [u', ha, arm, Store.docs]
  have hpend : args.confirmRequired = some false → u'.pending = u.pending := by
    intro hn
    have ha : awaits args needsConfirm = false := by simp [awaits, hn]
    simp [u', ha]
  unfold conclude
  by_cases hf : env.faults.audit = true
  · rw [if_pos hf]
    exact ⟨_, _, rfl, hdocs, hpend, fun h => absurd (h.symm.trans hf) (by simp), fun _ => rfl⟩
  · rw [if_neg hf]
    have hs := fun detail changes =>
      same_addAudit u' txid args.user args.sourceIp "commit" true detail changes
    refine ⟨_, _, rfl, (docs_of_same (hs _ _)).trans hdocs, fun hn => ?_, fun _ => ⟨_, rfl⟩,
      fun h => absurd h hf⟩
    exact (hs _ _).pending.trans (hpend hn)

/-- The commit proper: it raises when `running.json` cannot be written, or when the revision or the
audit row cannot be stored. -/
theorem install_docs {s' : Store} (hs : Same s s') (new : Obj) (warnings messages : List String)
    (needsConfirm : Bool) (checkpoint : ℕ) :
    ∃ r t, install env args txid s.running new (changesOf s.running s.candidate) warnings messages
        needsConfirm checkpoint s' = (r, t) ∧
      (args.confirmRequired = some false → t.pending = s.pending) ∧
      (¬ Written env s new → r = .error (.storage "running.json") ∧
        t.docs = ⟨new, s.candidate, s.disk⟩) ∧
      (Written env s new → t.docs = ⟨new, new, some new⟩ ∧
        (Recorded env s → ∃ c, r = .ok c) ∧
        (¬ Recorded env s → ∃ what, r = .error (.storage what))) := by
  unfold install
  by_cases hw : Written env s new
  · have hwrite : writeRunning env.faults.running new { s' with running := new } =
        (.ok (), { s' with running := new, disk := some new }) := by
      rcases writeRunning_cases env.faults.running new { s' with running := new } with h | ⟨hf, hd, -⟩
      · exact h
      · rcases hw with hw | hw
        · rw [hw] at hf
          cases hf
        · exact absurd (hs.disk.trans hw) hd
    rw [hwrite]
    dsimp only
    by_cases hrev : (!(changesOf s.running s.candidate).isEmpty && env.faults.revision) = true
    · rw [if_pos hrev]
      simp only [Bool.and_eq_true, Bool.not_eq_true', List.isEmpty_eq_false_iff] at hrev
      have hnr : ¬ Recorded env s := by
        rintro ⟨hn | hn, -⟩
        · exact hrev.1 hn
        · rw [hn] at hrev
          cases hrev.2
      exact ⟨_, _, rfl, fun _ => hs.pending, fun h => absurd hw h,
        fun _ => ⟨rfl, fun h => absurd h hnr, fun _ => ⟨_, rfl⟩⟩⟩
    · rw [if_neg hrev]
      have hrev : changesOf s.running s.candidate = [] ∨ env.faults.revision = false := by
        by_contra hn
        rw [not_or] at hn
        exact hrev (by simp [hn.1, hn.2])
      let u : Store := { s' with running := new, candidate := new, disk := some new }
      have hu := same_ite_saveRevision u (changesOf s.running s.candidate).isEmpty txid args.user
        "commit" (args.text (changesOf s.running s.candidate)) new
      obtain ⟨r, t, ht, hdocs, hpend, hok, herr⟩ := @conclude_docs env args txid s.running
        (changesOf s.running s.candidate) warnings messages needsConfirm
        (if (changesOf s.running s.candidate).isEmpty then checkpoint else
          (if (changesOf s.running s.candidate).isEmpty then u else u.saveRevision txid args.user
            "commit" (args.text (changesOf s.running s.candidate)) new).lastRevision)
        (if (changesOf s.running s.candidate).isEmpty then u else u.saveRevision txid args.user
          "commit" (args.text (changesOf s.running s.candidate)) new)
      refine ⟨r, t, ht, fun hn => (hpend hn).trans (hu.pending.trans hs.pending),
        fun h => absurd hw h, fun _ => ⟨hdocs.trans (docs_of_same hu), ?_, ?_⟩⟩
      · exact fun hrec => hok hrec.2
      · intro hnr
        refine ⟨"audit", herr ?_⟩
        by_contra hn
        exact hnr ⟨hrev, by simpa using hn⟩
  · have hwrite : writeRunning env.faults.running new { s' with running := new } =
        (.error (.storage "running.json"), { s' with running := new }) := by
      rcases writeRunning_cases env.faults.running new { s' with running := new } with h | ⟨-, -, h⟩
      · exfalso
        apply hw
        unfold writeRunning at h
        by_cases hd : s'.disk = some new
        · exact Or.inr (hs.disk.symm.trans hd)
        · rw [if_neg hd] at h
          cases hf : env.faults.running with
          | false => exact Or.inl hf
          | true => simp [hf] at h
      · exact h
    rw [hwrite]
    refine ⟨_, _, rfl, fun _ => hs.pending, fun _ => ⟨rfl, ?_⟩, fun h => absurd h hw⟩
    simp [Store.docs, hs.candidate, hs.disk]

/-- The rollback of a failed commit leaves the configuration before it. -/
theorem backOut_docs (guarded : Bool) {s' : Store} (hs : Same s s')
    (stage message detail : String) (details : List String) (changes : List Change) :
    ∃ e t, backOut env args txid s.running stage message detail details changes s' = (.error e, t) ∧
      Holds s (afterError guarded e t) ⟨s.running, s.running, restoredDisk env s⟩ := by
  have hrefuse : ∀ u : Store, u.running = s.running → u.candidate = s.running →
      u.pending = s.pending → ∃ e t, refuse env args txid stage message detail details changes u =
        (.error e, t) ∧ Holds s (afterError guarded e t) ⟨s.running, s.running, u.disk⟩ := by
    intro u hrun hcand hpend
    obtain ⟨e, t, ht, hh⟩ :=
      @refuse_docs env args txid u guarded stage message detail details changes
    refine ⟨e, t, ht, ?_, hh.pending.trans hpend⟩
    rw [hh.docs]
    simp [refusedCandidate, hrun, hcand]
  unfold backOut rollbackTo restoredDisk
  rcases resetTo_cases env.faults.rollback s.running s' with h | ⟨hf, -, h⟩
  · rw [h]
    dsimp only
    obtain ⟨e, t, ht, hh⟩ := hrefuse { s' with
      running := s.running
      candidate := s.running
      disk := some s.running
      calls := s'.calls ++ rollbackCalls env.appliers s'.running s.running } rfl rfl hs.pending
    refine ⟨e, t, ht, ?_⟩
    by_cases hfault : env.faults.rollback = true
    · -- the write has nothing to do
      have hd : s.disk = some s.running := by
        unfold resetTo writeRunning at h
        by_cases hd : s'.disk = some s.running
        · exact hs.disk.symm.trans hd
        · simp [hd, hfault] at h
      rw [if_pos hfault, hd]
      exact hh
    · rw [if_neg hfault]
      exact hh
  · rw [h]
    refine ⟨_, _, rfl, ?_, hs.pending⟩
    simp [afterError, Store.docs, hf, hs.disk]

/-- A commit that settles returns. -/
theorem commit_settles {ds : Docs} (h : CommitSettles env args s ds) :
    ∃ r t, commit env args txid s = (.ok r, t) ∧ t.docs = ds ∧
      (args.confirmRequired = some false → t.pending = s.pending) := by
  cases h with
  | idle hp hc hf =>
    unfold commit
    rw [hp]
    dsimp only
    rw [if_pos (by simp [hc, hf])]
    exact ⟨_, _, rfl, rfl, fun _ => hp⟩
  | @installed new h ha hw hr =>
    obtain ⟨warnings, s', messages, needs, checkpoint, -, hs, hacc, -⟩ :=
      @commit_of_applies env args txid s new h
    obtain ⟨r, t, ht, hpend, -, hok⟩ := @install_docs env args txid s s' hs.same new warnings
      messages needs checkpoint
    obtain ⟨hdocs, hret, -⟩ := hok hw
    obtain ⟨c, rfl⟩ := hret hr
    exact ⟨c, t, (hacc ha).trans ht, hdocs, hpend⟩

/-- Each point of failure is one: the commit raises and leaves the documents it says. -/
theorem commit_fails {guarded : Bool} {ds : Docs} (h : CommitFails guarded env args s ds) :
    ∃ e t, commit env args txid s = (.error e, t) ∧ (afterError guarded e t).docs = ds ∧
      (args.confirmRequired = some false → (afterError guarded e t).pending = s.pending) := by
  cases h with
  | @locked p hp =>
    refine ⟨.commit "another commit is awaiting confirmation" "lock" p.txid [], s, ?_, ?_, ?_⟩
    · unfold commit
      rw [hp]
    · cases guarded <;> rfl
    · intro _
      cases guarded <;> rfl
  | @invalid path message hp hg hv =>
    obtain ⟨e, t, ht, hh⟩ := @refuse_docs env args txid s guarded "validate"
      (path ++ ": " ++ message) ("validation failed: " ++ (path ++ ": " ++ message)) []
      (changesOf s.running s.candidate)
    refine ⟨e, t, ?_, hh.docs, fun _ => hh.pending⟩
    unfold commit
    simp only [hp, if_neg (not_idle hg), hv]
    exact ht
  | @broken e hp hg hv he =>
    have hcommit : commit env args txid s = (.error e, s) := by
      unfold commit
      simp only [hp, if_neg (not_idle hg), hv]
    refine ⟨e, s, hcommit, ?_, ?_⟩
    · cases e <;> cases guarded <;> rfl
    · intro _
      cases e <;> cases guarded <;> rfl
  | @preflight new warnings hp hg hv hpre =>
    obtain ⟨e, t, ht, hh⟩ := @refuse_docs env args txid s guarded "preflight" "preflight failed"
      (Text.join "; " (preflightProblems s.running new env.appliers))
      (preflightProblems s.running new env.appliers) (changesOf s.running s.candidate)
    refine ⟨e, t, ?_, hh.docs, fun _ => hh.pending⟩
    unfold commit
    simp only [hp, if_neg (not_idle hg), hv]
    exact ht
  | @checkpoint new warnings hp hc hv hpre hf =>
    have hcommit : commit env args txid s = (.error (.storage "revisions"), s) := by
      unfold commit
      simp only [hp, if_neg (not_idle (Or.inl hc)), hv, hpre]
      unfold applyNew
      rw [if_pos (by simp [hc, hf])]
    exact ⟨_, _, hcommit, rfl, fun _ => rfl⟩
  | @backedOut new h ha =>
    obtain ⟨warnings, s', messages, needs, checkpoint, -, hs, -, hrej⟩ :=
      @commit_of_applies env args txid s new h
    obtain ⟨stage, message, detail, details, hb⟩ := hrej ha
    obtain ⟨e, t, ht, hh⟩ := @backOut_docs env args txid s guarded s' hs.same stage message detail
      details (changesOf s.running s.candidate)
    exact ⟨e, t, hb.trans ht, hh.docs, fun _ => hh.pending⟩
  | @unwritten new h ha hw =>
    obtain ⟨warnings, s', messages, needs, checkpoint, -, hs, hacc, -⟩ :=
      @commit_of_applies env args txid s new h
    obtain ⟨r, t, ht, hpend, herr, -⟩ := @install_docs env args txid s s' hs.same new warnings
      messages needs checkpoint
    obtain ⟨rfl, hdocs⟩ := herr hw
    exact ⟨_, t, (hacc ha).trans ht, hdocs, hpend⟩
  | @unrecorded new h ha hw hr =>
    obtain ⟨warnings, s', messages, needs, checkpoint, -, hs, hacc, -⟩ :=
      @commit_of_applies env args txid s new h
    obtain ⟨r, t, ht, hpend, -, hok⟩ := @install_docs env args txid s s' hs.same new warnings
      messages needs checkpoint
    obtain ⟨hdocs, -, herr⟩ := hok hw
    obtain ⟨what, rfl⟩ := herr hr
    exact ⟨_, t, (hacc ha).trans ht, hdocs, hpend⟩

/-- Every commit settles or meets a point of failure. -/
theorem commit_ends (guarded : Bool) (env : Env) (args : CommitArgs) (s : Store) :
    (∃ ds, CommitSettles env args s ds) ∨ ∃ ds, CommitFails guarded env args s ds := by
  cases hp : s.pending with
  | some p => exact Or.inr ⟨_, .locked hp⟩
  | none =>
    by_cases hg : changesOf s.running s.candidate ≠ [] ∨ args.force = true
    · cases hv : Schema.validate env.capabilities s.candidate with
      | error e =>
        by_cases he : ∃ path message, e = .validation path message
        · obtain ⟨path, message, rfl⟩ := he
          exact Or.inr ⟨_, .invalid hp hg hv⟩
        · exact Or.inr ⟨_, .broken hp hg hv fun path message h => he ⟨path, message, h⟩⟩
      | ok v =>
        obtain ⟨new, warnings⟩ := v
        by_cases hpre : preflightProblems s.running new env.appliers = []
        · by_cases hck : changesOf s.running s.candidate = [] ∨ env.faults.checkpoint = false
          · have happ : Applies env args s new := ⟨hp, hg, ⟨warnings, hv⟩, hpre, hck⟩
            by_cases ha : Accepted env s new
            · by_cases hw : Written env s new
              · by_cases hr : Recorded env s
                · exact Or.inl ⟨_, .installed happ ha hw hr⟩
                · exact Or.inr ⟨_, .unrecorded happ ha hw hr⟩
              · exact Or.inr ⟨_, .unwritten happ ha hw⟩
            · exact Or.inr ⟨_, .backedOut happ ha⟩
          · rw [not_or] at hck
            exact Or.inr ⟨_, .checkpoint hp hck.1 hv hpre (by simpa using hck.2)⟩
        · exact Or.inr ⟨_, .preflight hp hg hv hpre⟩
    · rw [not_or, not_not] at hg
      exact Or.inl ⟨_, .idle hp hg.1 (by simpa using hg.2)⟩

end

/-! ### Staging and committing -/

/-- The store with another candidate. -/
def Store.staged (s : Store) (t : Obj) : Store := { s with candidate := t }

/-- `stage` takes the change into the candidate `t`. -/
def Stages (env : Env) (d : Draft) (s : Store) (t : Obj) : Prop :=
  ∃ trial warnings, d.mutate s.candidate = .ok trial ∧
    Schema.validate env.capabilities trial = .ok (t, warnings)

/-- A change that is staged and committed, and the documents it leaves. -/
inductive Succeeds (env : Env) (d : Draft) (s : Store) : Docs → Prop
  | staged {t : Obj} {ds : Docs} (h : Stages env d s t) (hf : env.faults.candidate = false)
      (hc : CommitSettles env d.args (s.staged t) ds) : Succeeds env d s ds

/-- The points at which a change can fail, and the documents each leaves. -/
inductive Fails (guarded : Bool) (env : Env) (d : Draft) (s : Store) : Docs → Prop
  /-- the change does not apply, or does not validate -/
  | refused (h : ∀ t, ¬ Stages env d s t) : Fails guarded env d s s.docs
  /-- `candidate.json` cannot be written -/
  | unsaved {t : Obj} (h : Stages env d s t) (hf : env.faults.candidate = true) :
      Fails guarded env d s ⟨s.running, t, s.disk⟩
  | committing {t : Obj} {ds : Docs} (h : Stages env d s t) (hf : env.faults.candidate = false)
      (hc : CommitFails guarded env d.args (s.staged t) ds) : Fails guarded env d s ds

theorem Stages.unique {env : Env} {d : Draft} {s : Store} {t u : Obj} (h : Stages env d s t)
    (h' : Stages env d s u) : t = u := by
  obtain ⟨trial, warnings, hm, hv⟩ := h
  obtain ⟨trial', warnings', hm', hv'⟩ := h'
  rw [hm, Except.ok.injEq] at hm'
  rw [hm'] at hv
  rw [hv, Except.ok.injEq, Prod.mk.injEq] at hv'
  exact hv'.1

/-- What `stage` does. -/
theorem stage_cases (env : Env) (d : Draft) (s : Store) :
    ((∀ t, ¬ Stages env d s t) ∧ ∃ e, stage env d.mutate s = (.error e, s)) ∨
      ∃ t, Stages env d s t ∧
        ((env.faults.candidate = true ∧
            stage env d.mutate s = (.error (.storage "candidate.json"), s.staged t)) ∨
          (env.faults.candidate = false ∧
            ∃ warnings, stage env d.mutate s = (.ok warnings, s.staged t))) := by
  unfold stage
  cases hm : d.mutate s.candidate with
  | error e =>
    refine Or.inl ⟨?_, e, rfl⟩
    rintro t ⟨trial, warnings, hm', -⟩
    rw [hm] at hm'
    cases hm'
  | ok trial =>
    cases hv : Schema.validate env.capabilities trial with
    | error e =>
      refine Or.inl ⟨?_, e, by simp [hv]⟩
      rintro t ⟨trial', warnings, hm', hv'⟩
      rw [hm, Except.ok.injEq] at hm'
      rw [← hm', hv] at hv'
      cases hv'
    | ok v =>
      obtain ⟨t, warnings⟩ := v
      refine Or.inr ⟨t, ⟨trial, warnings, hm, hv⟩, ?_⟩
      cases hf : env.faults.candidate with
      | true => exact Or.inl ⟨rfl, by simp [hv, Store.staged]⟩
      | false => exact Or.inr ⟨rfl, warnings, by simp [hv, Store.staged]⟩

/-- Every change settles or meets a point of failure. -/
theorem draft_ends (guarded : Bool) (env : Env) (d : Draft) (s : Store) :
    (∃ ds, Succeeds env d s ds) ∨ ∃ ds, Fails guarded env d s ds := by
  rcases stage_cases env d s with ⟨h, -⟩ | ⟨t, h, ⟨hf, -⟩ | ⟨hf, -⟩⟩
  · exact Or.inr ⟨_, .refused h⟩
  · exact Or.inr ⟨_, .unsaved h hf⟩
  · rcases commit_ends guarded env d.args (s.staged t) with ⟨ds, hc⟩ | ⟨ds, hc⟩
    · exact Or.inl ⟨ds, .staged h hf hc⟩
    · exact Or.inr ⟨ds, .committing h hf hc⟩

section

variable {env : Env} {d : Draft} {txid : String} {s : Store} {ds : Docs}

/-- The staging of a change that settles. -/
theorem Succeeds.stage (h : Succeeds env d s ds) : ∃ t warnings, Stages env d s t ∧
    stage env d.mutate s = (.ok warnings, s.staged t) ∧
      CommitSettles env d.args (s.staged t) ds := by
  obtain ⟨ht, hf, hc⟩ := h
  rcases stage_cases env d s with ⟨hn, -⟩ | ⟨t, hs, ⟨hf', -⟩ | ⟨-, warnings, hw⟩⟩
  · exact absurd ht (hn _)
  · exact absurd (hf.symm.trans hf') (by simp)
  · obtain rfl := hs.unique ht
    exact ⟨t, warnings, hs, hw, hc⟩

/-- The staging of a change that fails: it raises itself, or the commit after it. -/
theorem Fails.stage {guarded : Bool} (h : Fails guarded env d s ds) :
    (∃ e t, stage env d.mutate s = (.error e, t) ∧ t.docs = ds ∧ t.pending = s.pending) ∨
      ∃ t warnings, stage env d.mutate s = (.ok warnings, s.staged t) ∧
        CommitFails guarded env d.args (s.staged t) ds := by
  rcases stage_cases env d s with ⟨hn, e, he⟩ | ⟨t, hs, ⟨hf, he⟩ | ⟨hf, warnings, hw⟩⟩
  · cases h with
    | refused h => exact Or.inl ⟨e, s, he, rfl, rfl⟩
    | unsaved h _ => exact absurd h (hn _)
    | committing h _ _ => exact absurd h (hn _)
  · cases h with
    | refused h => exact absurd hs (h t)
    | unsaved h _ =>
      obtain rfl := hs.unique h
      exact Or.inl ⟨_, _, he, rfl, rfl⟩
    | committing _ hf' _ => exact absurd (hf.symm.trans hf') (by simp)
  · cases h with
    | refused h => exact absurd hs (h t)
    | unsaved _ hf' => exact absurd (hf.symm.trans hf') (by simp)
    | committing h _ hc =>
      obtain rfl := hs.unique h
      exact Or.inr ⟨t, warnings, hw, hc⟩

theorem submit_settles (h : Succeeds env d s ds) : ∃ r t, submit env txid d s = (.ok r, t) ∧
    t.docs = ds ∧ (d.args.confirmRequired = some false → t.pending = s.pending) := by
  obtain ⟨t, warnings, -, hst, hc⟩ := h.stage
  obtain ⟨r, u, hu, hdocs, hpend⟩ := @commit_settles env d.args txid (s.staged t) ds hc
  refine ⟨(r, warnings), u, ?_, hdocs, hpend⟩
  unfold submit
  simp only [hst, hu]

theorem submit_fails (h : Fails false env d s ds) : ∃ e t, submit env txid d s = (.error e, t) ∧
    t.docs = ds ∧ (d.args.confirmRequired = some false → t.pending = s.pending) := by
  unfold submit
  rcases h.stage with ⟨e, t, hst, hdocs, hpend⟩ | ⟨t, warnings, hst, hc⟩
  · exact ⟨e, t, by simp only [hst], hdocs, fun _ => hpend⟩
  · obtain ⟨e, u, hu, hdocs, hpend⟩ := @commit_fails env d.args txid (s.staged t) false ds hc
    have hplain : afterError false e u = u := by cases e <;> rfl
    rw [hplain] at hdocs hpend
    exact ⟨e, u, by simp only [hst, hu], hdocs, hpend⟩

end

/-! ### What the outcome depends on -/

/-- The part of a store that a change looks at. -/
def Store.core (s : Store) : Store :=
  { Store.blank with
    running := s.running, candidate := s.candidate, pending := s.pending, disk := s.disk }

section

variable {env : Env} {args : CommitArgs} {d : Draft} {s s' : Store} {ds : Docs}

theorem commitSettles_core :
    CommitSettles env args s.core ds ↔ CommitSettles env args s ds := by
  constructor
  · intro h
    cases h with
    | idle hp hc hf => exact .idle hp hc hf
    | installed h ha hw hr =>
      exact .installed ⟨h.pending, h.gate, h.valid, h.preflight, h.checkpoint⟩ ha hw hr
  · intro h
    cases h with
    | idle hp hc hf => exact @CommitSettles.idle env args s.core hp hc hf
    | installed h ha hw hr =>
      exact .installed ⟨h.pending, h.gate, h.valid, h.preflight, h.checkpoint⟩ ha hw hr

theorem candidate_afterError_core (guarded : Bool) (e : Exn) (s : Store) :
    (afterError guarded e s.core).candidate = (afterError guarded e s).candidate := by
  cases e <;> cases guarded <;> rfl

theorem commitFails_core {guarded : Bool} :
    CommitFails guarded env args s.core ds ↔ CommitFails guarded env args s ds := by
  constructor
  · intro h
    cases h with
    | locked hp => exact .locked hp
    | invalid hp hg hv => exact .invalid hp hg hv
    | broken hp hg hv he =>
      rw [candidate_afterError_core]
      exact .broken hp hg hv he
    | preflight hp hg hv hpre => exact .preflight hp hg hv hpre
    | checkpoint hp hc hv hpre hf => exact .checkpoint hp hc hv hpre hf
    | backedOut h ha =>
      exact .backedOut ⟨h.pending, h.gate, h.valid, h.preflight, h.checkpoint⟩ ha
    | unwritten h ha hw =>
      exact .unwritten ⟨h.pending, h.gate, h.valid, h.preflight, h.checkpoint⟩ ha hw
    | unrecorded h ha hw hr =>
      exact .unrecorded ⟨h.pending, h.gate, h.valid, h.preflight, h.checkpoint⟩ ha hw hr
  · intro h
    cases h with
    | locked hp => exact @CommitFails.locked guarded env args s.core _ hp
    | invalid hp hg hv => exact @CommitFails.invalid guarded env args s.core _ _ hp hg hv
    | broken hp hg hv he =>
      rw [← candidate_afterError_core]
      exact @CommitFails.broken guarded env args s.core _ hp hg hv he
    | preflight hp hg hv hpre =>
      exact @CommitFails.preflight guarded env args s.core _ _ hp hg hv hpre
    | checkpoint hp hc hv hpre hf =>
      exact @CommitFails.checkpoint guarded env args s.core _ _ hp hc hv hpre hf
    | @backedOut new h ha =>
      exact @CommitFails.backedOut guarded env args s.core new
        ⟨h.pending, h.gate, h.valid, h.preflight, h.checkpoint⟩ ha
    | @unwritten new h ha hw =>
      exact @CommitFails.unwritten guarded env args s.core new
        ⟨h.pending, h.gate, h.valid, h.preflight, h.checkpoint⟩ ha hw
    | @unrecorded new h ha hw hr =>
      exact @CommitFails.unrecorded guarded env args s.core new
        ⟨h.pending, h.gate, h.valid, h.preflight, h.checkpoint⟩ ha hw hr

theorem settles_core : Succeeds env d s.core ds ↔ Succeeds env d s ds := by
  constructor
  · rintro ⟨h, hf, hc⟩
    exact ⟨h, hf, commitSettles_core.mp hc⟩
  · rintro ⟨h, hf, hc⟩
    exact ⟨h, hf, commitSettles_core.mpr hc⟩

theorem fails_core {guarded : Bool} : Fails guarded env d s.core ds ↔ Fails guarded env d s ds := by
  constructor
  · intro h
    cases h with
    | refused h => exact .refused h
    | unsaved h hf => exact .unsaved h hf
    | committing h hf hc => exact .committing h hf (commitFails_core.mp hc)
  · intro h
    cases h with
    | refused h => exact @Fails.refused guarded env d s.core h
    | unsaved h hf => exact @Fails.unsaved guarded env d s.core _ h hf
    | committing h hf hc => exact .committing h hf (commitFails_core.mpr hc)

theorem Holds.core {t : Store} (h : Holds s t ds) : t.core = (s.holding ds).core := by
  obtain ⟨rfl, hp⟩ := h
  simp only [Store.core, Store.holding, Store.docs, hp]

/-- A change settles on a store as it does on any store with these documents and nothing else
pending. -/
theorem settles_of_holds {t : Store} {ds' : Docs} (h : Holds s t ds) :
    Succeeds env d t ds' ↔ Succeeds env d (s.holding ds) ds' := by
  rw [← settles_core, h.core, settles_core]

theorem fails_of_holds {t : Store} {guarded : Bool} {ds' : Docs} (h : Holds s t ds) :
    Fails guarded env d t ds' ↔ Fails guarded env d (s.holding ds) ds' := by
  rw [← fails_core, h.core, fails_core]

end

end Sbegw.Configd
