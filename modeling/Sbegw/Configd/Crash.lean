import Sbegw.Configd.Confirmation

/-!
# Unconfirmed commits and restarts

The machine of the store with restarts of the process.  A restart forgets `_pending` and the timers
but keeps `running.json`, which a commit has replaced before it is confirmed.
-/

namespace Sbegw.Configd

open Machine

/-- A step of the running process, or its restart. -/
inductive Event where
  | live (a : Action)
  | restart

/-- The transition function with restarts. -/
def lifeStep (s : Sys) : Event → Option (Answer × Sys)
  | .live a => step s a
  | .restart => some (.unit (.ok ()), { s with store := s.store.restart })

/-- A step of a run with restarts. -/
abbrev LifeStep := Machine.Step Sys Event Answer

/-- The step is a commit that returned with `confirm_pending`: `doc` runs until `txid` is confirmed
or `deadline` is reached. -/
def Arms (txid : String) (deadline : ℕ) (doc : Obj) (x : LifeStep) : Prop :=
  ∃ env args c, x.act = .live (.commit env args txid) ∧ x.out = .commit (.ok c) ∧
    c.confirmPending = true ∧ c.rollbackDeadline = some deadline ∧ x.post.store.running = doc

/-- The step is a `confirm(txid)` that was accepted. -/
def Accepts (txid : String) (x : LifeStep) : Prop :=
  ∃ fault user r, x.act = .live (.confirm fault txid user) ∧ x.out = .confirm r ∧ r ≠ .ok false

/-- Some commit of the steps installed `doc` for good: without confirmation, or confirmed later. -/
def InstalledForGood (doc : Obj) (l : List LifeStep) : Prop :=
  ∃ l₁ y l₂ env args txid c, l = l₁ ++ y :: l₂ ∧ y.act = .live (.commit env args txid) ∧
    y.out = .commit (.ok c) ∧ c.revision ≠ none ∧ y.post.store.running = doc ∧
    (c.confirmPending = false ∨ ∃ z ∈ l₂, Accepts txid z)

/-- The timers that are due have run: each of them is asleep with time left, or has restored its
configuration. -/
def TimersRun (s : Store) : Prop :=
  ∀ k ph, Dict.lookup k s.timers = some ph →
    (∃ d, ph = .sleeping d ∧ s.clock < d) ∨ ∃ calls, ph = .reapplying calls

/-- **Unconfirmed commits are reverted**: after the deadline of a commit that was never confirmed,
once the due timers have run, its configuration is not running, unless it was installed again. -/
def UnconfirmedReverted (l : List LifeStep) (t : Sys) : Prop :=
  ∀ l₁ x l₂ txid deadline doc, l = l₁ ++ x :: l₂ → Arms txid deadline doc x →
    (∀ y ∈ l₂, ¬ Accepts txid y) → deadline ≤ t.store.clock → TimersRun t.store →
    t.store.running ≠ doc ∨ InstalledForGood doc l₂

/-- The steps hold a commit `txid` of `doc` that has not been confirmed since. -/
def Awaited (txid : String) (deadline : ℕ) (doc : Obj) (l : List LifeStep) : Prop :=
  ∃ l₁ x l₂, l = l₁ ++ x :: l₂ ∧ Arms txid deadline doc x ∧ ∀ y ∈ l₂, ¬ Accepts txid y

/-- `doc` is the document of a commit that awaits its confirmation or never got it. -/
def Unconfirmed (l : List LifeStep) (doc : Obj) : Prop :=
  ∃ txid deadline, Awaited txid deadline doc l

/-- No timer is between its sections. -/
def NoRestoring (s : Store) : Prop := ∀ k previous, Dict.lookup k s.timers ≠ some (.restoring previous)

/-- The step `x`, after the steps `k`, meets the condition: a restart finds no pending commit, no
timer between its sections and the running configuration on disk; a commit that awaits confirmation
starts from no timer between its sections, and changes the running configuration to one that no
unconfirmed commit installed; and storage works for commits of such a document. -/
structure Orderly (k : List LifeStep) (x : LifeStep) : Prop where
  restart : x.act = .restart → x.pre.store.pending = none ∧ NoRestoring x.pre.store ∧
    x.pre.store.restart.running = x.pre.store.running
  commit : ∀ env args txid new warnings, x.act = .live (.commit env args txid) →
    Schema.validate env.capabilities x.pre.store.candidate = .ok (new, warnings) →
    (env.faults = Faults.none ∨ ¬ Unconfirmed k new) ∧
    (awaits args (applyAll x.pre.store.running new env.appliers).needsConfirm = true →
      NoRestoring x.pre.store ∧ new ≠ x.pre.store.running ∧ ¬ Unconfirmed k new)

/-- Where an unconfirmed commit stands: pending, timed out with its timer between the sections, or
replaced.  Neither a pending commit nor a timer brings `doc` back. -/
structure Receding (txid : String) (deadline : ℕ) (doc : Obj) (u : Sys) : Prop where
  pending : ∀ p, u.store.pending = some p → p.previous ≠ doc
  restoring : ∀ k previous, Dict.lookup k u.store.timers = some (.restoring previous) →
    previous ≠ doc
  stage : u.store.running ≠ doc ∨
    (∃ p, u.store.pending = some p ∧ p.txid = txid ∧ Alive txid deadline u.store.timers) ∨
    ∃ previous, Dict.lookup txid u.store.timers = some (.restoring previous)

section

variable {txid : String} {deadline : ℕ} {doc : Obj} {u : Sys}

/-- Without a pending commit and a restoring timer the configuration is replaced. -/
theorem Receding.replaced (h : Receding txid deadline doc u) (hpend : u.store.pending = none)
    (hno : NoRestoring u.store) : u.store.running ≠ doc := by
  rcases h.stage with h | ⟨p, hp, -⟩ | ⟨previous, hl⟩
  · exact h
  · rw [hpend] at hp
    cases hp
  · exact absurd hl (hno _ _)

/-- Once its deadline has passed and the timers have run, the configuration is replaced. -/
theorem Receding.replaced_of_timersRun (h : Receding txid deadline doc u)
    (hd : deadline ≤ u.store.clock) (hrun : TimersRun u.store) : u.store.running ≠ doc := by
  rcases h.stage with h | ⟨p, hp, hid, hl | hl⟩ | ⟨previous, hl⟩
  · exact h
  · rcases hrun _ _ hl with ⟨d, hph, hlt⟩ | ⟨calls, hph⟩
    · cases hph
      omega
    · cases hph
  · rcases hrun _ _ hl with ⟨d, hph, -⟩ | ⟨calls, hph⟩ <;> cases hph
  · rcases hrun _ _ hl with ⟨d, hph, -⟩ | ⟨calls, hph⟩ <;> cases hph

/-- The records aside, a store with the same configuration and the same timers. -/
theorem Receding.congr (h : Receding txid deadline doc u) {v : Sys}
    (hrun : v.store.running = u.store.running) (hpend : v.store.pending = u.store.pending)
    (htimers : v.store.timers = u.store.timers) : Receding txid deadline doc v := by
  obtain ⟨h1, h2, h3⟩ := h
  exact ⟨by rwa [hpend], by rwa [htimers], by rwa [hrun, hpend, htimers]⟩

/-- A thread that leaves the first section alone keeps the account. -/
theorem Receding.of_agreeBut (h : Receding txid deadline doc u) {v : Sys} {k : String}
    (hrun : v.store.running = u.store.running) (hpend : v.store.pending = u.store.pending)
    (ha : AgreeBut k u.store.timers v.store.timers)
    (hno : ∀ previous, Dict.lookup k v.store.timers ≠ some (.restoring previous))
    (hold : ∀ previous, Dict.lookup k u.store.timers ≠ some (.restoring previous))
    (halive : ∀ p, u.store.pending = some p → p.txid = k → Alive k deadline u.store.timers →
      Alive k deadline v.store.timers) : Receding txid deadline doc v := by
  refine ⟨by rw [hpend]; exact h.pending, fun j previous hl => ?_, ?_⟩
  · by_cases hj : j = k
    · exact absurd (hj ▸ hl) (hno previous)
    · exact h.restoring j previous (ha j hj ▸ hl)
  · rw [hrun, hpend]
    rcases h.stage with h | ⟨p, hp, hid, hl⟩ | ⟨previous, hl⟩
    · exact Or.inl h
    · refine Or.inr (Or.inl ⟨p, hp, hid, ?_⟩)
      by_cases hk : txid = k
      · subst hk
        exact halive p hp hid hl
      · exact hl.of_agreeBut ha hk
    · refine Or.inr (Or.inr ⟨previous, ?_⟩)
      rw [ha txid (fun hk => hold previous (hk ▸ hl))]
      exact hl

end

/-- **One step** of the process on the way of an unconfirmed commit. -/
theorem Receding.step {txid : String} {deadline : ℕ} {doc : Obj} {k : List LifeStep} {u v : Sys}
    {a : Action} {o : Answer} (h : Receding txid deadline doc u) (hunc : Unconfirmed k doc)
    (hs : Configd.step u a = some (o, v)) (hord : Orderly k ⟨u, .live a, o, v⟩)
    (hacc : ¬ Accepts txid ⟨u, .live a, o, v⟩)
    (hgood : ¬ InstalledForGood doc [⟨u, .live a, o, v⟩]) : Receding txid deadline doc v := by
  cases step_effect hs with
  | aside ha hrun hpend htimer htimers hdisk hclock => exact h.congr hrun hpend htimers
  | committed hfresh he =>
    cases he with
    | kept hs hr => exact h.congr hs.running hs.pending hs.timers
    | backedOut hpend hrun hcand hpend' htimer htimers hdisk hclock =>
      exact h.congr hrun (hpend'.trans hpend.symm) htimers
    | installed hpend hval hgate he =>
      rename_i new warnings
      obtain ⟨hfaults, hcond⟩ := hord.commit _ _ _ _ _ rfl hval
      cases he with
      | plain hrun hpend' htimer htimers hdisk hclock hr hfault =>
        have hne : new ≠ doc := by
          rintro rfl
          obtain ⟨c, rfl⟩ := hfault (hfaults.resolve_right (not_not.mpr hunc))
          obtain ⟨-, hconf, -, -, -, hrev⟩ := hr c rfl
          exact hgood ⟨[], _, [], _, _, _, c, rfl, rfl, rfl, hrev, hrun, Or.inl hconf⟩
        refine ⟨fun p hp => absurd (hpend' ▸ hp) (by simp), ?_, Or.inl (hrun ▸ hne)⟩
        exact fun j previous hl => h.restoring j previous (htimers ▸ hl)
      | armed hawaits hrun hcand hdisk hpend' htimer htimers hclock hr =>
        obtain ⟨hno, -, hnew⟩ := hcond hawaits
        refine ⟨fun p hp => ?_, fun j previous hl => ?_, Or.inl ?_⟩
        · rw [hpend', Option.some.injEq] at hp
          subst hp
          exact h.replaced hpend hno
        · dsimp only at hl
          rw [htimers] at hl
          exact h.restoring j previous
            (lookup_restoring_of_agreeBut (agreeBut_set _ _ _) (by simp) hl)
        · rw [hrun]
          rintro rfl
          exact hnew hunc
  | declined hp => exact h
  | confirmed hp hid hr hrun hpend htimers hkept hdisk hclock =>
    refine ⟨fun p hp => absurd (hpend ▸ hp) (by simp),
      fun j previous hl => h.restoring j previous (htimers _ _ hl), ?_⟩
    rcases h.stage with h | ⟨p, hp', rfl, -⟩ | ⟨previous, hl⟩
    · exact Or.inl (hrun ▸ h)
    · -- the confirmation would be the one of this commit
      rw [hp, Option.some.injEq] at hp'
      subst hp' hid
      exact absurd ⟨_, _, _, rfl, rfl, hr⟩ hacc
    · exact Or.inr (Or.inr ⟨previous, hkept _ _ hl (by simp)⟩)
  | fired hl hdue =>
    exact h.of_agreeBut rfl rfl (agreeBut_set _ _ _) (by simp) (by simp [hl])
      fun _ _ _ _ => Or.inr (by simp)
  | expired hl hp hid =>
    rename_i k p
    refine ⟨by simp, fun j previous hl' => ?_, ?_⟩
    · by_cases hj : j = k
      · subst hj
        dsimp only at hl'
        rw [Dict.lookup_set_self, Option.some.injEq, TimerPhase.restoring.injEq] at hl'
        exact hl' ▸ h.pending p hp
      · exact h.restoring j previous (agreeBut_set _ _ _ j hj ▸ hl')
    · by_cases hk : txid = k
      · subst hk
        exact Or.inr (Or.inr ⟨p.previous, by simp⟩)
      · rcases h.stage with h | ⟨p', hp', hid', -⟩ | ⟨previous, hl'⟩
        · exact Or.inl h
        · rw [hp, Option.some.injEq] at hp'
          subst hp'
          exact absurd (hid'.symm.trans hid) hk
        · exact Or.inr (Or.inr ⟨previous, (agreeBut_set _ _ _ txid hk).trans hl'⟩)
  | lapsed hl hp =>
    exact h.of_agreeBut rfl rfl (agreeBut_erase _ _) (by simp) (by simp [hl])
      fun p hp' hid => absurd hid (hp p hp')
  | restored hl hrun hcand hpend htimers hspent hdisk hclock =>
    refine ⟨fun p hp => h.pending p (hpend ▸ hp), fun j previous hl' => ?_,
      Or.inl (hrun ▸ h.restoring _ _ hl)⟩
    exact h.restoring j previous
      (lookup_restoring_of_agreeBut htimers hspent.not_restoring hl')
  | reapplied hl hrun hpend htimers hspent hdisk hclock =>
    exact h.of_agreeBut hrun hpend htimers (fun _ => hspent.not_restoring) (by simp [hl])
      fun _ _ _ ha => absurd rfl (ha.ne_of_phase hl (by simp) (by simp))

/-- A restart that finds nothing pending keeps the account. -/
theorem Receding.restart {txid : String} {deadline : ℕ} {doc : Obj} {k : List LifeStep} {u v : Sys}
    {o : Answer} (h : Receding txid deadline doc u) (hs : lifeStep u .restart = some (o, v))
    (hord : Orderly k ⟨u, .restart, o, v⟩) : Receding txid deadline doc v := by
  simp only [lifeStep, Option.some.injEq, Prod.mk.injEq] at hs
  obtain ⟨-, rfl⟩ := hs
  obtain ⟨hpend, hno, hrun⟩ := hord.restart rfl
  exact ⟨by simp [Store.restart], by simp [Store.restart],
    Or.inl (hrun ▸ h.replaced hpend hno)⟩

/-- The commit itself: pending, its timer asleep. -/
theorem Arms.receding {k : List LifeStep} {x : LifeStep} {txid : String} {deadline : ℕ} {doc : Obj}
    (h : Arms txid deadline doc x) (hs : lifeStep x.pre x.act = some (x.out, x.post))
    (hord : Orderly k x) : Receding txid deadline doc x.post := by
  obtain ⟨u, a, o, v⟩ := x
  obtain ⟨env, args, c, ha, ho, hconf, hdead, hrun⟩ := h
  dsimp only at ha ho hrun hs ⊢
  subst ha ho
  have hs : Configd.step u (.commit env args txid) = some (.commit (.ok c), v) := hs
  cases step_effect hs with
  | aside ha => cases ha
  | committed hfresh he =>
    cases he with
    | kept _ hr => rw [(hr c rfl).2.2.2] at hconf; cases hconf
    | installed hpend hval hgate he =>
      cases he with
      | plain _ _ _ _ _ _ hr => rw [(hr c rfl).2.1] at hconf; cases hconf
      | armed hawaits hnew hcand hdisk hpend' htimer htimers hclock hr =>
        obtain ⟨hno, hne, -⟩ := (hord.commit _ _ _ _ _ rfl hval).2 hawaits
        obtain ⟨-, -, hd⟩ := hr c rfl
        rw [hdead, Option.some.injEq] at hd
        subst hd
        dsimp only at hrun
        rw [hnew] at hrun
        refine ⟨fun p hp => ?_, fun j previous hl => ?_, Or.inr (Or.inl ⟨_, hpend', rfl, Or.inl ?_⟩)⟩
        · rw [hpend', Option.some.injEq] at hp
          subst hp
          exact fun hprev => hne (hrun.trans hprev.symm)
        · dsimp only at hl
          rw [htimers] at hl
          exact absurd (lookup_restoring_of_agreeBut (agreeBut_set _ _ _) (by simp) hl) (hno j previous)
        · rw [htimers]
          exact Dict.lookup_set_self _ _ _

theorem Awaited.snoc {txid : String} {deadline : ℕ} {doc : Obj} {k : List LifeStep} {x : LifeStep}
    (h : Awaited txid deadline doc k) (hx : ¬ Accepts txid x) :
    Awaited txid deadline doc (k ++ [x]) := by
  obtain ⟨l₁, y, l₂, rfl, harms, hno⟩ := h
  refine ⟨l₁, y, l₂ ++ [x], by simp, harms, fun z hz => ?_⟩
  rcases List.mem_append.mp hz with hz | hz
  · exact hno z hz
  · rwa [List.mem_singleton.mp hz]

theorem InstalledForGood.of_single {doc : Obj} {l₁ l₂ : List LifeStep} {x : LifeStep}
    (h : InstalledForGood doc [x]) : InstalledForGood doc (l₁ ++ x :: l₂) := by
  obtain ⟨k₁, y, k₂, env, args, txid, c, hl, ha, ho, hrev, hrun, hc⟩ := h
  have hk : k₁ = [] ∧ x = y ∧ k₂ = [] := by
    cases k₁ with
    | nil => simpa [eq_comm] using hl
    | cons z k₁ => simp at hl
  obtain ⟨rfl, rfl, rfl⟩ := hk
  refine ⟨l₁, x, l₂, env, args, txid, c, rfl, ha, ho, hrev, hrun, Or.inl ?_⟩
  rcases hc with hc | ⟨z, hz, -⟩
  · exact hc
  · cases hz

/-- **Unconfirmed commits are reverted** in every run whose steps are orderly. -/
theorem unconfirmed_reverted {s t : Sys} {l : List LifeStep} (h : Run lifeStep s l t)
    (hord : ∀ k x k', l = k ++ x :: k' → Orderly k x) : UnconfirmedReverted l t := by
  rintro l₁ x l₂ txid deadline doc rfl harms hacc hd htimers
  by_contra hcon
  rw [not_or, not_not] at hcon
  obtain ⟨hdoc, hgood⟩ := hcon
  obtain ⟨-, hs, h₂⟩ := Run.step_at l₁ h
  have h0 : Receding txid deadline doc x.post ∧ Awaited txid deadline doc (l₁ ++ [x]) :=
    ⟨harms.receding hs (hord l₁ x l₂ rfl), l₁, x, [], rfl, harms, by simp⟩
  have hlast := h₂.history
    (fun k u => Receding txid deadline doc u ∧ Awaited txid deadline doc k)
    (fun k y => Orderly k y ∧ ¬ Accepts txid y ∧ ¬ InstalledForGood doc [y])
    (fun k u a o v hI hs hP => by
      refine ⟨?_, hI.2.snoc hP.2.1⟩
      cases a with
      | live a => exact hI.1.step ⟨_, _, hI.2⟩ hs hP.1 hP.2.1 hP.2.2
      | restart => exact hI.1.restart hs hP.1)
    (l₁ ++ [x]) h0
    (fun k₁ y k₂ hl => by
      subst hl
      refine ⟨hord _ y k₂ (by simp), hacc y (by simp), fun hg => hgood hg.of_single⟩)
  exact hlast.1.replaced_of_timersRun hd htimers hdoc

/-- A commit times out, and the process restarts after that. -/
def revertedThenRestarted : List Event :=
  [.live (.stage .quiet (setHostname "gw-a")), .live (.commit .quiet .awaiting "t1"), .live .tick,
   .live (.fire "t1"), .live (.expire "t1"), .live (.restore .quiet "t1"),
   .live (.reapply false "t1"), .restart]

def Event.isCommit : Event → Bool
  | .live (.commit _ _ _) => true
  | _ => false

/-- The steps of a run with a single commit meet the condition: it starts from no timers and changes
the running configuration, and a restart finds nothing pending and the running configuration. -/
def orderlyStep (x : LifeStep) : Bool :=
  match x.act with
  | .restart =>
    decide (x.pre.store.pending = none) && decide (x.pre.store.timers = []) &&
      decide (x.pre.store.restart.running = x.pre.store.running)
  | .live (.commit env _ _) =>
    decide (env.faults = Faults.none) && decide (x.pre.store.timers = []) &&
      match Schema.validate env.capabilities x.pre.store.candidate with
      | .ok (new, _) => decide (new ≠ x.pre.store.running)
      | .error _ => true
  | _ => true

theorem noRestoring_of_nil {s : Store} (h : s.timers = []) : NoRestoring s := by
  intro k previous hl
  rw [h] at hl
  cases hl

theorem orderly_of_orderlyStep {k : List LifeStep} {x : LifeStep} (hx : orderlyStep x = true)
    (hk : ∀ y ∈ k, y.act.isCommit = false) : Orderly k x := by
  unfold orderlyStep at hx
  constructor
  · intro ha
    simp only [ha, Bool.and_eq_true, decide_eq_true_eq] at hx
    exact ⟨hx.1.1, noRestoring_of_nil hx.1.2, hx.2⟩
  · intro env args txid new warnings ha hval
    simp only [ha, hval, Bool.and_eq_true, decide_eq_true_eq] at hx
    refine ⟨Or.inl hx.1.1, fun _ => ⟨noRestoring_of_nil hx.1.2, hx.2, ?_⟩⟩
    rintro ⟨txid, deadline, l₁, y, l₂, rfl, ⟨env, args, c, hy, -⟩, -⟩
    have := hk y (by simp)
    rw [hy] at this
    cases this

theorem unconfirmed_reverted_restarted :
    ∃ l t, Run lifeStep (Sys.start .blank) l t ∧ t.store.running = Schema.defaultEntries ∧
      UnconfirmedReverted l t := by
  have htest : ((play lifeStep (Sys.start .blank) revertedThenRestarted).any
      fun r => r.1.all orderlyStep && decide (r.2.store.running = Schema.defaultEntries)) =
      true := by decide +kernel
  obtain ⟨l, t, hrun, hacts, ht⟩ := Run.of_test
    (fun l t => l.all orderlyStep && decide (t.store.running = Schema.defaultEntries)) htest
  simp only [Bool.and_eq_true, List.all_eq_true, decide_eq_true_eq] at ht
  refine ⟨l, t, hrun, ht.2, unconfirmed_reverted hrun ?_⟩
  rintro k x k' rfl
  have hx := ht.1 x (by simp)
  by_cases hc : x.act.isCommit = true
  · -- the only commit of the run
    refine orderly_of_orderlyStep hx fun y hy => ?_
    have hcount : (k ++ x :: k').countP (fun y => y.act.isCommit) = 1 := by
      have := congrArg (List.countP Event.isCommit) hacts
      rw [List.countP_map] at this
      exact this
    simp only [List.countP_append, List.countP_cons, hc, if_true] at hcount
    have h0 : k.countP (fun y => y.act.isCommit) = 0 := by omega
    rw [List.countP_eq_zero] at h0
    simpa using h0 y hy
  · have h : Orderly [] x := orderly_of_orderlyStep hx (by simp)
    refine ⟨h.restart, ?_⟩
    intro env args txid new warnings ha
    exact absurd (by rw [ha]; rfl) hc

/-! ### A restart before the deadline -/

/-- A commit is made, and the process restarts before it is confirmed or times out. -/
def restarting : List Event :=
  [.live (.stage .quiet (setHostname "gw-a")), .live (.commit .quiet .awaiting "t1"), .restart,
   .live .tick]

/-- Does the commit of the run still run at its end, past its deadline and with no timer left? -/
def keepsUnconfirmed (l : List LifeStep) (t : Sys) : Bool :=
  match l with
  | [_, x, _, _] =>
    (match x.out with
      | .commit (.ok c) => c.confirmPending && decide (c.rollbackDeadline = some t.store.clock)
      | _ => false) &&
    decide (t.store.running = x.post.store.running) && decide (t.store.timers = [])
  | _ => false

/-- After a restart the unconfirmed configuration keeps running. -/
theorem unconfirmed_kept : ∃ s l t, Run lifeStep s l t ∧ ¬ UnconfirmedReverted l t := by
  have htest : ((play lifeStep (Sys.start .blank) restarting).any
      fun r => keepsUnconfirmed r.1 r.2) = true := by decide +kernel
  obtain ⟨l, t, hrun, hacts, ht⟩ := Run.of_test keepsUnconfirmed htest
  refine ⟨_, l, t, hrun, fun hrev => ?_⟩
  unfold keepsUnconfirmed at ht
  split at ht
  · rename_i y₁ x y₂ y₃
    simp only [restarting, List.map_cons, List.map_nil, List.cons.injEq, and_true] at hacts
    obtain ⟨-, hx, h₂, h₃⟩ := hacts
    simp only [Bool.and_eq_true, decide_eq_true_eq] at ht
    obtain ⟨⟨hc, hdoc⟩, htimers⟩ := ht
    split at hc
    · rename_i c ho
      simp only [Bool.and_eq_true, decide_eq_true_eq] at hc
      have harms : Arms "t1" t.store.clock x.post.store.running x :=
        ⟨_, _, c, hx, ho, hc.1, hc.2, rfl⟩
      have hlater : ∀ y ∈ [y₂, y₃], ∀ env args txid, y.act ≠ .live (.commit env args txid) := by
        simp [h₂, h₃]
      rcases hrev [y₁] x [y₂, y₃] "t1" _ _ rfl harms
        (by simp [Accepts, h₂, h₃]) le_rfl (by simp [TimersRun, htimers]) with h | h
      · exact h hdoc
      · obtain ⟨k₁, y, k₂, env, args, txid, c, hl, ha, -⟩ := h
        exact hlater y (by rw [hl]; simp) env args txid ha
    · cases hc
  · cases ht

end Sbegw.Configd
