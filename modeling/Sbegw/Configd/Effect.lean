import Sbegw.Configd.System

/-!
# What a step can do

One inversion lemma for the commit and one for the transition function: everything a step can do to
the configurations, to the pending commit and to the timers.  The invariants are derived from these.
-/

namespace Sbegw.Configd

open Machine

/-- `t` differs from `s` in its records only: revisions, audit rows, applier calls. -/
structure Same (s t : Store) : Prop where
  running : t.running = s.running
  candidate : t.candidate = s.candidate
  pending : t.pending = s.pending
  rollbackTimer : t.rollbackTimer = s.rollbackTimer
  timers : t.timers = s.timers
  disk : t.disk = s.disk
  clock : t.clock = s.clock

theorem Same.refl (s : Store) : Same s s := ⟨rfl, rfl, rfl, rfl, rfl, rfl, rfl⟩

theorem Same.trans {s t u : Store} (h : Same s t) (h' : Same t u) : Same s u :=
  ⟨h'.running.trans h.running, h'.candidate.trans h.candidate, h'.pending.trans h.pending,
    h'.rollbackTimer.trans h.rollbackTimer, h'.timers.trans h.timers, h'.disk.trans h.disk,
    h'.clock.trans h.clock⟩

theorem same_addAudit (s : Store) (txid user sourceIp action : String) (success : Bool)
    (detail : String) (changes : List Change) :
    Same s (s.addAudit txid user sourceIp action success detail changes) := by
  unfold Store.addAudit
  exact ⟨rfl, rfl, rfl, rfl, rfl, rfl, rfl⟩

@[simp] theorem calls_addAudit (s : Store) (txid user sourceIp action : String) (success : Bool)
    (detail : String) (changes : List Change) :
    (s.addAudit txid user sourceIp action success detail changes).calls = s.calls := by
  unfold Store.addAudit
  rfl

@[simp] theorem revisions_addAudit (s : Store) (txid user sourceIp action : String)
    (success : Bool) (detail : String) (changes : List Change) :
    (s.addAudit txid user sourceIp action success detail changes).revisions = s.revisions := by
  unfold Store.addAudit
  rfl

@[simp] theorem calls_saveRevision (s : Store) (txid user source summary : String) (cfg : Obj) :
    (s.saveRevision txid user source summary cfg).calls = s.calls := by
  unfold Store.saveRevision
  rfl

theorem same_saveRevision (s : Store) (txid user source summary : String) (cfg : Obj) :
    Same s (s.saveRevision txid user source summary cfg) := by
  unfold Store.saveRevision
  exact ⟨rfl, rfl, rfl, rfl, rfl, rfl, rfl⟩

theorem same_ite_saveRevision (s : Store) (c : Bool) (txid user source summary : String)
    (cfg : Obj) :
    Same s (if c then s else s.saveRevision txid user source summary cfg) := by
  cases c
  · exact same_saveRevision s txid user source summary cfg
  · exact Same.refl s

/-! ### Storage -/

/-- Writing `running.json` puts the document on disk, or raises with the disk as it was. -/
theorem writeRunning_cases (fault : Bool) (cfg : Obj) (s : Store) :
    writeRunning fault cfg s = (.ok (), { s with disk := some cfg }) ∨
      (fault = true ∧ s.disk ≠ some cfg ∧
        writeRunning fault cfg s = (.error (.storage "running.json"), s)) := by
  unfold writeRunning
  by_cases hd : s.disk = some cfg
  · left
    rw [if_pos hd, ← hd]
  · cases fault with
    | false => left; simp [hd]
    | true => right; simp [hd]

/-- The locked section of `_rollback_to` resets both configurations, whether the write works or
not. -/
theorem resetTo_cases (fault : Bool) (config : Obj) (s : Store) :
    resetTo fault config s =
        (.ok (), { s with running := config, candidate := config, disk := some config }) ∨
      (fault = true ∧ s.disk ≠ some config ∧ resetTo fault config s =
        (.error (.storage "running.json"), { s with running := config, candidate := config })) :=
  writeRunning_cases fault config { s with running := config, candidate := config }

/-! ### Commit -/

section

variable (env : Env) (args : CommitArgs) (txid : String)

theorem refuse_cases (stage message detail : String) (details : List String)
    (changes : List Change) (s : Store) :
    ∃ e t, refuse env args txid stage message detail details changes s = (.error e, t) ∧
      Same s t ∧ t.calls = s.calls ∧ t.revisions = s.revisions := by
  unfold refuse
  split
  · exact ⟨_, _, rfl, Same.refl s, rfl, rfl⟩
  · exact ⟨_, _, rfl, same_addAudit _ _ _ _ _ _ _ _, by simp, by simp⟩

/-- A failed commit raises, with both configurations reset to the one before it. -/
theorem backOut_cases (old : Obj) (stage message detail : String) (details : List String)
    (changes : List Change) (s : Store) :
    ∃ e t, backOut env args txid old stage message detail details changes s = (.error e, t) ∧
      t.running = old ∧ t.candidate = old ∧ t.pending = s.pending ∧
      t.rollbackTimer = s.rollbackTimer ∧ t.timers = s.timers ∧
      (t.disk = s.disk ∨ t.disk = some old) ∧ t.clock = s.clock := by
  unfold backOut rollbackTo
  rcases resetTo_cases env.faults.rollback old s with h | ⟨-, -, h⟩
  · rw [h]
    obtain ⟨e, t, ht, hs, -⟩ := refuse_cases env args txid stage message detail details changes
      { s with
        running := old
        candidate := old
        disk := some old
        calls := s.calls ++ rollbackCalls env.appliers s.running old }
    exact ⟨e, t, ht, hs.running, hs.candidate, hs.pending, hs.rollbackTimer, hs.timers,
      Or.inr hs.disk, hs.clock⟩
  · rw [h]
    exact ⟨_, _, rfl, rfl, rfl, rfl, rfl, rfl, Or.inl rfl, rfl⟩

/-- The end of a commit arms the timer or leaves the store as it is, but for the records. -/
theorem conclude_cases (old : Obj) (changes : List Change) (warnings messages : List String)
    (needsConfirm : Bool) (revision : ℕ) {s : Store} (hpend : s.pending = none) :
    ∃ r t, conclude env args txid old changes warnings messages needsConfirm revision s = (r, t) ∧
      (env.faults = Faults.none → ∃ c, r = .ok c) ∧
      ((awaits args needsConfirm = false ∧ Same s t ∧
          ∀ c, r = .ok c → c.changes = changes ∧ c.confirmPending = false ∧ c.revision ≠ none) ∨
        (awaits args needsConfirm = true ∧ Same (arm args txid old revision s) t ∧
          ∀ c, r = .ok c → c.changes = changes ∧ c.confirmPending = true ∧
            c.rollbackDeadline = some (s.clock + args.rollbackSeconds.toNat))) := by
  unfold conclude
  by_cases hf : env.faults.audit = true
  · -- the audit row cannot be stored; the timer is armed all the same
    rw [if_pos hf]
    refine ⟨_, _, rfl, fun hn => ?_, ?_⟩
    · rw [hn] at hf
      cases hf
    · cases ha : awaits args needsConfirm with
      | false => exact Or.inl ⟨rfl, Same.refl s, by simp⟩
      | true => exact Or.inr ⟨rfl, Same.refl _, by simp⟩
  · rw [if_neg hf]
    refine ⟨_, _, rfl, fun _ => ⟨_, rfl⟩, ?_⟩
    cases ha : awaits args needsConfirm with
    | false =>
      refine Or.inl ⟨rfl, same_addAudit s _ _ _ _ _ _ _, ?_⟩
      rintro c ⟨rfl⟩
      exact ⟨rfl, by simp [hpend], by simp⟩
    | true =>
      refine Or.inr ⟨rfl, same_addAudit _ _ _ _ _ _ _ _, ?_⟩
      rintro c ⟨rfl⟩
      exact ⟨rfl, rfl, rfl⟩

/-- What the commit proper can do, from the store `s` after the health checks. -/
inductive InstallEffect (old new : Obj) (changes : List Change) (needsConfirm : Bool) (s : Store) :
    Except Exn CommitReturn → Store → Prop
  | plain {r : Except Exn CommitReturn} {t : Store} (hrun : t.running = new)
      (hpend : t.pending = none) (htimer : t.rollbackTimer = s.rollbackTimer)
      (htimers : t.timers = s.timers) (hdisk : t.disk = s.disk ∨ t.disk = some new)
      (hclock : t.clock = s.clock)
      (hr : ∀ c, r = .ok c → c.changes = changes ∧ c.confirmPending = false ∧
        t.candidate = new ∧ t.disk = some new ∧ awaits args needsConfirm = false ∧
        c.revision ≠ none)
      (hfault : env.faults = Faults.none → ∃ c, r = .ok c) :
      InstallEffect old new changes needsConfirm s r t
  | armed {r : Except Exn CommitReturn} {t : Store} {revision : ℕ}
      (hawaits : awaits args needsConfirm = true) (hrun : t.running = new)
      (hcand : t.candidate = new) (hdisk : t.disk = some new)
      (hpend : t.pending = some
        ⟨txid, old, revision, s.clock + args.rollbackSeconds.toNat, args.user⟩)
      (htimer : t.rollbackTimer = some txid)
      (htimers : t.timers = Dict.set txid
        (.sleeping (s.clock + args.rollbackSeconds.toNat)) s.timers)
      (hclock : t.clock = s.clock)
      (hr : ∀ c, r = .ok c → c.changes = changes ∧ c.confirmPending = true ∧
        c.rollbackDeadline = some (s.clock + args.rollbackSeconds.toNat)) :
      InstallEffect old new changes needsConfirm s r t

theorem install_effect {s : Store} (old new : Obj) (changes : List Change)
    (warnings messages : List String) (needsConfirm : Bool) (checkpoint : ℕ)
    (hpend : s.pending = none) :
    ∃ r t, install env args txid old new changes warnings messages needsConfirm checkpoint s =
      (r, t) ∧ InstallEffect env args txid old new changes needsConfirm s r t ∧
      (env.faults = Faults.none → ∃ c, r = .ok c) := by
  unfold install
  rcases writeRunning_cases env.faults.running new { s with running := new } with h | ⟨hf, -, h⟩
  · rw [h]
    dsimp only
    by_cases hrev : (!changes.isEmpty && env.faults.revision) = true
    · -- the commit revision cannot be stored
      rw [if_pos hrev]
      have hfault : env.faults ≠ Faults.none := by
        intro hn
        simp [hn, Faults.none] at hrev
      exact ⟨_, _, rfl, .plain rfl hpend rfl rfl (Or.inr rfl) rfl (by simp)
        (fun hn => absurd hn hfault), fun hn => absurd hn hfault⟩
    · rw [if_neg hrev]
      let s' : Store := { s with running := new, candidate := new, disk := some new }
      have hs := same_ite_saveRevision s' changes.isEmpty txid args.user "commit"
        (args.text changes) new
      have hp := hs.pending.trans hpend
      obtain ⟨r, t, ht, hok, h | h⟩ := conclude_cases env args txid old changes warnings messages
        needsConfirm (if changes.isEmpty then checkpoint else (if changes.isEmpty then s' else
          s'.saveRevision txid args.user "commit" (args.text changes) new).lastRevision) hp
      · obtain ⟨ha, hst, hr⟩ := h
        have h := hs.trans hst
        refine ⟨r, t, ht, .plain h.running (h.pending.trans hpend) h.rollbackTimer h.timers
          (Or.inr h.disk) h.clock ?_ hok, hok⟩
        exact fun c hc => ⟨(hr c hc).1, (hr c hc).2.1, h.candidate, h.disk, ha, (hr c hc).2.2⟩
      · obtain ⟨ha, hst, hr⟩ := h
        rw [hs.clock] at hr
        have hp' := hst.pending
        have ht' := hst.timers
        simp only [arm, hs.clock, hs.timers] at hp' ht'
        exact ⟨r, t, ht, .armed ha (hst.running.trans hs.running)
          (hst.candidate.trans hs.candidate) (hst.disk.trans hs.disk) hp' hst.rollbackTimer ht'
          (hst.clock.trans hs.clock) hr, hok⟩
  · rw [h]
    have hfault : env.faults ≠ Faults.none := by
      intro hn
      simp [hn, Faults.none] at hf
    exact ⟨_, _, rfl, .plain rfl hpend rfl rfl (Or.inl rfl) rfl (by simp)
      (fun hn => absurd hn hfault), fun hn => absurd hn hfault⟩

/-- What a commit can do. -/
inductive CommitEffect (s : Store) : Except Exn CommitReturn → Store → Prop
  /-- refused before anything moved, or nothing to commit -/
  | kept {r : Except Exn CommitReturn} {t : Store} (hs : Same s t)
      (hr : ∀ c, r = .ok c → s.pending = none ∧ changesOf s.running s.candidate = [] ∧
        c.changes = [] ∧ c.confirmPending = false) : CommitEffect s r t
  /-- failed in an applier or a health check -/
  | backedOut {e : Exn} {t : Store} (hpend : s.pending = none) (hrun : t.running = s.running)
      (hcand : t.candidate = s.running) (hpend' : t.pending = none)
      (htimer : t.rollbackTimer = s.rollbackTimer) (htimers : t.timers = s.timers)
      (hdisk : t.disk = s.disk ∨ t.disk = some s.running) (hclock : t.clock = s.clock) :
      CommitEffect s (.error e) t
  /-- the new configuration runs, for good or until its timer restores the old one -/
  | installed {r : Except Exn CommitReturn} {t : Store} {new : Obj} {warnings : List String}
      (hpend : s.pending = none)
      (hval : Schema.validate env.capabilities s.candidate = .ok (new, warnings))
      (hgate : changesOf s.running s.candidate ≠ [] ∨ args.force = true)
      (h : InstallEffect env args txid s.running new (changesOf s.running s.candidate)
        (applyAll s.running new env.appliers).needsConfirm s r t) : CommitEffect s r t

end

/-- The state the store is in may be replaced by one that differs in its records only. -/
theorem InstallEffect.congr {env : Env} {args : CommitArgs} {txid : String} {old new : Obj}
    {changes : List Change} {needsConfirm : Bool} {s s' : Store} (hs : Same s s')
    {r : Except Exn CommitReturn} {t : Store}
    (h : InstallEffect env args txid old new changes needsConfirm s' r t) :
    InstallEffect env args txid old new changes needsConfirm s r t := by
  cases h with
  | plain hrun hpend htimer htimers hdisk hclock hr hfault =>
    rw [hs.rollbackTimer] at htimer
    rw [hs.timers] at htimers
    rw [hs.disk] at hdisk
    rw [hs.clock] at hclock
    exact .plain hrun hpend htimer htimers hdisk hclock hr hfault
  | armed ha hrun hcand hdisk hpend htimer htimers hclock hr =>
    rw [hs.clock] at hpend htimers hclock hr
    rw [hs.timers] at htimers
    exact .armed ha hrun hcand hdisk hpend htimer htimers hclock hr

/-- The commit from the checkpoint on. -/
theorem applyNew_effect {env : Env} {args : CommitArgs} {txid : String} {s : Store} {new : Obj}
    {warnings : List String} (hpend : s.pending = none)
    (hval : Schema.validate env.capabilities s.candidate = .ok (new, warnings))
    (hgate : changesOf s.running s.candidate ≠ [] ∨ args.force = true) :
    CommitEffect env args txid s
      (applyNew env args txid s.running new (changesOf s.running s.candidate) warnings s).1
      (applyNew env args txid s.running new (changesOf s.running s.candidate) warnings s).2 := by
  unfold applyNew
  split
  · exact .kept (Same.refl s) (by simp)
  · have hs := same_ite_saveRevision s (changesOf s.running s.candidate).isEmpty txid args.user
      "checkpoint" (if args.summary = "" then "pre-apply checkpoint" else args.summary) s.running
    dsimp only
    generalize (if (changesOf s.running s.candidate).isEmpty then s else _) = s₁ at hs ⊢
    let s₂ : Store :=
      { s₁ with calls := s₁.calls ++ (applyAll s.running new env.appliers).calls }
    have hs₂ : Same s s₂ := hs.trans ⟨rfl, rfl, rfl, rfl, rfl, rfl, rfl⟩
    have back : ∀ stage message detail details,
        CommitEffect env args txid s
          (backOut env args txid s.running stage message detail details
            (changesOf s.running s.candidate) s₂).1
          (backOut env args txid s.running stage message detail details
            (changesOf s.running s.candidate) s₂).2 := by
      intro stage message detail details
      obtain ⟨e, t, ht, hrun, hcand, hp, htimer, htimers, hdisk, hclock⟩ :=
        backOut_cases env args txid s.running stage message detail details
          (changesOf s.running s.candidate) s₂
      rw [ht]
      rw [hs₂.disk] at hdisk
      exact .backedOut hpend hrun hcand (hp.trans (hs₂.pending.trans hpend))
        (htimer.trans hs₂.rollbackTimer) (htimers.trans hs₂.timers) hdisk
        (hclock.trans hs₂.clock)
    split
    · exact back _ _ _ _
    · split
      · obtain ⟨r, t, ht, h, -⟩ := install_effect env args txid s.running new
          (changesOf s.running s.candidate) warnings
          (applyAll s.running new env.appliers).messages
          (applyAll s.running new env.appliers).needsConfirm
          (if (changesOf s.running s.candidate).isEmpty then s₁.latestRevision
            else s₁.lastRevision) (hs₂.pending.trans hpend)
        rw [show install _ _ _ _ _ _ _ _ _ _ _ = (r, t) from ht]
        exact CommitEffect.installed hpend hval hgate (h.congr hs₂)
      · exact back _ _ _ _

/-- **The effect of a commit.** -/
theorem commit_effect (env : Env) (args : CommitArgs) (txid : String) (s : Store) :
    CommitEffect env args txid s (commit env args txid s).1 (commit env args txid s).2 := by
  have kept : ∀ {e : Exn} {t : Store}, Same s t → CommitEffect env args txid s (.error e) t :=
    fun hs => .kept hs (by simp)
  unfold commit
  cases hpend : s.pending with
  | some p => exact kept (Same.refl s)
  | none =>
    dsimp only
    by_cases hgate : ((changesOf s.running s.candidate).isEmpty && !args.force) = true
    · rw [if_pos hgate]
      simp only [Bool.and_eq_true, List.isEmpty_iff] at hgate
      exact .kept (Same.refl s) (by rintro c ⟨rfl⟩; exact ⟨hpend, hgate.1, rfl, rfl⟩)
    · rw [if_neg hgate]
      have hgate : changesOf s.running s.candidate ≠ [] ∨ args.force = true := by
        by_contra hn
        rw [not_or] at hn
        exact hgate (by simp [not_not.mp hn.1, hn.2])
      cases hval : Schema.validate env.capabilities s.candidate with
      | error e =>
        cases e with
        | validation path message =>
          obtain ⟨e, t, ht, hs, -⟩ := refuse_cases env args txid "validate" (path ++ ": " ++ message)
            ("validation failed: " ++ (path ++ ": " ++ message)) []
            (changesOf s.running s.candidate) s
          dsimp only
          rw [ht]
          exact kept hs
        | _ => exact kept (Same.refl s)
      | ok v =>
        obtain ⟨new, warnings⟩ := v
        dsimp only
        split
        · exact applyNew_effect hpend hval hgate
        · obtain ⟨e, t, ht, hs, -⟩ := refuse_cases env args txid "preflight" "preflight failed"
            (Text.join "; " (preflightProblems s.running new env.appliers))
            (preflightProblems s.running new env.appliers) (changesOf s.running s.candidate) s
          rw [ht]
          exact kept hs

/-! ### Steps -/

/-- The steps of clients that touch neither the running configuration nor a pending commit. -/
def Action.isAside : Action → Bool
  | .stage _ _ | .discard | .loadRevision _ | .tick => true
  | _ => false

/-- The thread of `txid` has gone, or has only applier calls left. -/
def Spent (txid : String) (timers : Dict String TimerPhase) : Prop :=
  Dict.lookup txid timers = none ∨ ∃ calls, Dict.lookup txid timers = some (.reapplying calls)

/-- `timers'` agrees with `timers` but for the thread of `txid`. -/
def AgreeBut (txid : String) (timers timers' : Dict String TimerPhase) : Prop :=
  ∀ k, k ≠ txid → Dict.lookup k timers' = Dict.lookup k timers

/-- What a step can do. -/
inductive Effect (s : Sys) : Action → Answer → Sys → Prop
  | aside {a : Action} {o : Answer} {t : Store} (ha : a.isAside = true)
      (hrun : t.running = s.store.running) (hpend : t.pending = s.store.pending)
      (htimer : t.rollbackTimer = s.store.rollbackTimer) (htimers : t.timers = s.store.timers)
      (hdisk : t.disk = s.store.disk) (hclock : s.store.clock ≤ t.clock) :
      Effect s a o ⟨t, s.issued⟩
  | committed {env : Env} {args : CommitArgs} {txid : String} {r : Except Exn CommitReturn}
      {t : Store} (hfresh : txid ∉ s.issued) (h : CommitEffect env args txid s.store r t) :
      Effect s (.commit env args txid) (.commit r) ⟨t, txid :: s.issued⟩
  | declined {fault : Bool} {txid user : String}
      (h : ∀ p, s.store.pending = some p → p.txid ≠ txid) :
      Effect s (.confirm fault txid user) (.confirm (.ok false)) s
  | confirmed {fault : Bool} {txid user : String} {p : Pending} {r : Except Exn Bool} {t : Store}
      (hp : s.store.pending = some p) (hid : p.txid = txid) (hr : r ≠ .ok false)
      (hrun : t.running = s.store.running) (hpend : t.pending = none)
      (htimers : ∀ k ph, Dict.lookup k t.timers = some ph →
        Dict.lookup k s.store.timers = some ph)
      (hkept : ∀ k ph, Dict.lookup k s.store.timers = some ph → (∀ d, ph ≠ .sleeping d) →
        Dict.lookup k t.timers = some ph)
      (hdisk : t.disk = s.store.disk) (hclock : t.clock = s.store.clock) :
      Effect s (.confirm fault txid user) (.confirm r) ⟨t, s.issued⟩
  | fired {txid : String} {deadline : ℕ}
      (h : Dict.lookup txid s.store.timers = some (.sleeping deadline))
      (hdue : deadline ≤ s.store.clock) :
      Effect s (.fire txid) (.unit (.ok ()))
        ⟨{ s.store with timers := Dict.set txid .waiting s.store.timers }, s.issued⟩
  | expired {txid : String} {p : Pending} (h : Dict.lookup txid s.store.timers = some .waiting)
      (hp : s.store.pending = some p) (hid : p.txid = txid) :
      Effect s (.expire txid) (.unit (.ok ()))
        ⟨{ s.store with
            pending := none
            rollbackTimer := none
            timers := Dict.set txid (.restoring p.previous) s.store.timers }, s.issued⟩
  | lapsed {txid : String} (h : Dict.lookup txid s.store.timers = some .waiting)
      (hp : ∀ p, s.store.pending = some p → p.txid ≠ txid) :
      Effect s (.expire txid) (.unit (.ok ()))
        ⟨{ s.store with timers := Dict.erase txid s.store.timers }, s.issued⟩
  | restored {env : Env} {txid : String} {previous : Obj} {r : Except Exn Unit} {t : Store}
      (h : Dict.lookup txid s.store.timers = some (.restoring previous))
      (hrun : t.running = previous) (hcand : t.candidate = previous)
      (hpend : t.pending = s.store.pending) (htimers : AgreeBut txid s.store.timers t.timers)
      (hspent : Spent txid t.timers)
      (hdisk : t.disk = s.store.disk ∨ t.disk = some previous)
      (hclock : t.clock = s.store.clock) :
      Effect s (.restore env txid) (.unit r) ⟨t, s.issued⟩
  | reapplied {fault : Bool} {txid : String} {calls : List Call} {r : Except Exn Unit} {t : Store}
      (h : Dict.lookup txid s.store.timers = some (.reapplying calls))
      (hrun : t.running = s.store.running) (hpend : t.pending = s.store.pending)
      (htimers : AgreeBut txid s.store.timers t.timers) (hspent : Spent txid t.timers)
      (hdisk : t.disk = s.store.disk) (hclock : t.clock = s.store.clock) :
      Effect s (.reapply fault txid) (.unit r) ⟨t, s.issued⟩

theorem agreeBut_set (txid : String) (ph : TimerPhase) (timers : Dict String TimerPhase) :
    AgreeBut txid timers (Dict.set txid ph timers) :=
  fun _ hk => Dict.lookup_set_of_ne hk ph timers

theorem agreeBut_erase (txid : String) (timers : Dict String TimerPhase) :
    AgreeBut txid timers (Dict.erase txid timers) :=
  fun _ hk => Dict.lookup_erase_of_ne hk timers

theorem spent_set (txid : String) (calls : List Call) (timers : Dict String TimerPhase) :
    Spent txid (Dict.set txid (.reapplying calls) timers) :=
  Or.inr ⟨calls, Dict.lookup_set_self txid _ timers⟩

theorem spent_erase (txid : String) (timers : Dict String TimerPhase) :
    Spent txid (Dict.erase txid timers) :=
  Or.inl (Dict.lookup_erase_self txid timers)

/-- A thread that is rewritten to another phase shows no new restoring one. -/
theorem lookup_restoring_of_agreeBut {txid k : String} {previous : Obj}
    {timers timers' : Dict String TimerPhase} (ha : AgreeBut txid timers timers')
    (hno : Dict.lookup txid timers' ≠ some (.restoring previous))
    (hl : Dict.lookup k timers' = some (.restoring previous)) :
    Dict.lookup k timers = some (.restoring previous) := by
  by_cases hk : k = txid
  · exact absurd (hk ▸ hl) hno
  · exact ha k hk ▸ hl

theorem Spent.not_restoring {txid : String} {timers : Dict String TimerPhase} {previous : Obj}
    (h : Spent txid timers) : Dict.lookup txid timers ≠ some (.restoring previous) := by
  rcases h with h | ⟨calls, h⟩ <;> simp [h]

/-- Erasing shows no entry that was not there. -/
theorem lookup_of_lookup_erase {txid k : String} {ph : TimerPhase}
    {timers : Dict String TimerPhase} (h : Dict.lookup k (Dict.erase txid timers) = some ph) :
    Dict.lookup k timers = some ph := by
  by_cases hk : k = txid
  · subst hk
    rw [Dict.lookup_erase_self] at h
    cases h
  · rwa [Dict.lookup_erase_of_ne hk] at h

theorem stage_effect (env : Env) (mutate : Mutation) (s : Store) :
    ∃ cand, (stage env mutate s).2 = { s with candidate := cand } := by
  unfold stage
  split
  · exact ⟨_, rfl⟩
  · split
    · exact ⟨_, rfl⟩
    · split <;> exact ⟨_, rfl⟩

theorem loadRevision_effect (id : ℕ) (s : Store) :
    ∃ cand, (loadRevision id s).2 = { s with candidate := cand } := by
  unfold loadRevision
  split <;> exact ⟨_, rfl⟩

/-- Cancelling takes away a thread that is asleep, and no other one. -/
theorem cancelTimer_lookup (s : Store) :
    (∀ k ph, Dict.lookup k (cancelTimer s) = some ph → Dict.lookup k s.timers = some ph) ∧
      ∀ k ph, Dict.lookup k s.timers = some ph → (∀ d, ph ≠ .sleeping d) →
        Dict.lookup k (cancelTimer s) = some ph := by
  unfold cancelTimer
  split
  · exact ⟨fun _ _ h => h, fun _ _ h _ => h⟩
  · rename_i txid _
    split
    · rename_i deadline hl
      refine ⟨fun k ph h => lookup_of_lookup_erase h, fun k ph h hs => ?_⟩
      have hk : k ≠ txid := by
        rintro rfl
        rw [hl, Option.some.injEq] at h
        exact hs deadline h.symm
      rwa [Dict.lookup_erase_of_ne hk]
    · exact ⟨fun _ _ h => h, fun _ _ h _ => h⟩

theorem confirm_effect (fault : Bool) (txid user : String) (s : Sys) :
    Effect s (.confirm fault txid user) (.confirm (confirm fault txid user s.store).1)
      { s with store := (confirm fault txid user s.store).2 } := by
  unfold confirm
  cases hp : s.store.pending with
  | none => exact .declined (by simp [hp])
  | some p =>
    dsimp only
    by_cases hid : p.txid = txid
    · rw [if_neg (not_not.mpr hid)]
      obtain ⟨hsub, hkept⟩ := cancelTimer_lookup s.store
      cases fault with
      | true => exact .confirmed hp hid (by simp) rfl rfl hsub hkept rfl rfl
      | false =>
        have h := fun s' => same_addAudit s' txid user "local" "confirm" true "commit confirmed" []
        refine .confirmed hp hid (by simp) (h _).running (h _).pending ?_ ?_ (h _).disk (h _).clock
        · rw [if_neg (by simp), (h _).timers]
          exact hsub
        · rw [if_neg (by simp), (h _).timers]
          exact hkept
    · rw [if_pos hid]
      exact .declined (by rw [hp]; rintro q ⟨rfl⟩; exact hid)

/-- **The effect of a step.** -/
theorem step_effect {s t : Sys} {a : Action} {o : Answer} (h : step s a = some (o, t)) :
    Effect s a o t := by
  cases a with
  | stage env mutate =>
    obtain ⟨cand, hc⟩ := stage_effect env mutate s.store
    simp only [step, Option.some.injEq, Prod.mk.injEq] at h
    obtain ⟨rfl, rfl⟩ := h
    rw [hc]
    exact .aside rfl rfl rfl rfl rfl rfl le_rfl
  | discard =>
    simp only [step, Option.some.injEq, Prod.mk.injEq] at h
    obtain ⟨rfl, rfl⟩ := h
    exact .aside rfl rfl rfl rfl rfl rfl le_rfl
  | commit env args txid =>
    by_cases hf : s.issued.contains txid = true
    · simp only [step, if_pos hf] at h
      cases h
    · simp only [step, if_neg hf, Option.some.injEq, Prod.mk.injEq] at h
      obtain ⟨rfl, rfl⟩ := h
      exact .committed (by simpa using hf) (commit_effect env args txid s.store)
  | confirm fault txid user =>
    simp only [step, Option.some.injEq, Prod.mk.injEq] at h
    obtain ⟨rfl, rfl⟩ := h
    exact confirm_effect fault txid user s
  | loadRevision id =>
    obtain ⟨cand, hc⟩ := loadRevision_effect id s.store
    simp only [step, Option.some.injEq, Prod.mk.injEq] at h
    obtain ⟨rfl, rfl⟩ := h
    rw [hc]
    exact .aside rfl rfl rfl rfl rfl rfl le_rfl
  | tick =>
    simp only [step, Option.some.injEq, Prod.mk.injEq] at h
    obtain ⟨rfl, rfl⟩ := h
    exact .aside rfl rfl rfl rfl rfl rfl (Nat.le_succ _)
  | fire txid =>
    simp only [step, fire, Option.map_eq_some_iff, Prod.mk.injEq] at h
    obtain ⟨u, h, rfl, rfl⟩ := h
    split at h
    · rename_i deadline hl
      split at h
      · rename_i hdue
        cases h
        exact .fired hl hdue
      · cases h
    · cases h
  | expire txid =>
    simp only [step, expire, Option.map_eq_some_iff, Prod.mk.injEq] at h
    obtain ⟨u, h, rfl, rfl⟩ := h
    split at h
    · rename_i hl
      split at h
      · rename_i p hp
        split at h
        · rename_i hid
          cases h
          exact .expired hl hp hid
        · rename_i hid
          cases h
          exact .lapsed hl (by rw [hp]; rintro q ⟨rfl⟩; exact hid)
      · rename_i hp
        cases h
        exact .lapsed hl (by simp [hp])
    · cases h
  | restore env txid =>
    simp only [step, restore, Option.map_eq_some_iff, Prod.mk.injEq] at h
    obtain ⟨u, h, rfl, rfl⟩ := h
    split at h
    · rename_i previous hl
      rcases resetTo_cases env.faults.rollback previous s.store with hr | ⟨-, -, hr⟩
      · rw [hr] at h
        cases h
        exact .restored hl rfl rfl rfl (agreeBut_set _ _ _) (spent_set _ _ _) (Or.inr rfl) rfl
      · rw [hr] at h
        cases h
        exact .restored hl rfl rfl rfl (agreeBut_erase _ _) (spent_erase _ _) (Or.inl rfl) rfl
    · cases h
  | reapply fault txid =>
    simp only [step, reapply, Option.map_eq_some_iff, Prod.mk.injEq] at h
    obtain ⟨u, h, rfl, rfl⟩ := h
    split at h
    · rename_i call rest hl
      cases h
      exact .reapplied hl rfl rfl (agreeBut_set _ _ _) (spent_set _ _ _) rfl rfl
    · rename_i hl
      split at h
      · cases h
        exact .reapplied hl rfl rfl (agreeBut_erase _ _) (spent_erase _ _) rfl rfl
      · cases h
        have ha := fun s' => same_addAudit s' txid "system" "local" "rollback" true
          "rollback timer expired" []
        refine .reapplied hl (ha _).running (ha _).pending ?_ ?_ (ha _).disk (ha _).clock
        · rw [(ha _).timers]
          exact agreeBut_erase _ _
        · rw [(ha _).timers]
          exact spent_erase _ _
    · cases h

end Sbegw.Configd
