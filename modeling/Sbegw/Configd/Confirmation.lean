import Sbegw.Configd.Effect

/-!
# One outcome for a pending commit

A commit that waits for confirmation is confirmed or timed out, and never both.  The invariant links
`_pending` to the transaction ids given out, to its timer thread and to the outcomes so far.
-/

namespace Sbegw.Configd

open Machine

/-- The transaction that a step confirms or times out. -/
def resolves (x : StoreStep) : Option String :=
  match x.act with
  | .confirm _ txid _ =>
    match x.out with
    | .confirm (.ok false) => none
    | _ => some txid
  | .expire txid =>
    if x.pre.store.pending.any fun p => p.txid = txid then some txid else none
  | _ => none

/-- The timer whose thread moves in a step. -/
def Action.timer : Action → Option String
  | .fire txid | .expire txid | .restore _ txid | .reapply _ txid => some txid
  | _ => none

/-- The timer thread of `txid` can still run into its first section. -/
def Alive (txid : String) (deadline : ℕ) (timers : Dict String TimerPhase) : Prop :=
  Dict.lookup txid timers = some (.sleeping deadline) ∨ Dict.lookup txid timers = some .waiting

/-- The outcomes of the steps `k` so far, against the state `u` they lead to. -/
structure Outcomes (k : List StoreStep) (u : Sys) : Prop where
  nodup : (k.filterMap resolves).Nodup
  issued : ∀ txid ∈ k.filterMap resolves, txid ∈ u.issued
  pendingIssued : ∀ p, u.store.pending = some p → p.txid ∈ u.issued
  unresolved : ∀ p, u.store.pending = some p → p.txid ∉ k.filterMap resolves
  alive : ∀ p, u.store.pending = some p → Alive p.txid p.deadline u.store.timers
  closed : ∀ x ∈ k, ∀ p, x.post.store.pending = some p →
    (∃ q, u.store.pending = some q ∧ q.txid = p.txid) ∨ p.txid ∈ k.filterMap resolves

/-- A step that leaves the pending commit alone, and its timer able to run, keeps the outcomes. -/
theorem Outcomes.keep {k : List StoreStep} {u v : Sys} {a : Action} {o : Answer}
    (h : Outcomes k u) (hno : resolves ⟨u, a, o, v⟩ = none)
    (hpend : v.store.pending = u.store.pending) (hissued : ∀ txid ∈ u.issued, txid ∈ v.issued)
    (halive : ∀ p, u.store.pending = some p → Alive p.txid p.deadline u.store.timers →
      Alive p.txid p.deadline v.store.timers) : Outcomes (k ++ [⟨u, a, o, v⟩]) v := by
  have hk : (k ++ [(⟨u, a, o, v⟩ : StoreStep)]).filterMap resolves = k.filterMap resolves := by
    simp [List.filterMap_append, hno]
  refine ⟨?_, ?_, ?_, ?_, ?_, ?_⟩
  · rw [hk]; exact h.nodup
  · rw [hk]; exact fun txid ht => hissued txid (h.issued txid ht)
  · rw [hpend]; exact fun p hp => hissued _ (h.pendingIssued p hp)
  · rw [hk, hpend]; exact h.unresolved
  · rw [hpend]; exact fun p hp => halive p hp (h.alive p hp)
  · rw [hk, hpend]
    intro x hx p hp
    rcases List.mem_append.mp hx with hx | hx
    · exact h.closed x hx p hp
    · rw [List.mem_singleton] at hx
      subst hx
      exact Or.inl ⟨p, hpend ▸ hp, rfl⟩

/-- A step that resolves the pending commit. -/
theorem Outcomes.resolve {k : List StoreStep} {u v : Sys} {a : Action} {o : Answer} {p : Pending}
    (h : Outcomes k u) (hp : u.store.pending = some p)
    (hres : resolves ⟨u, a, o, v⟩ = some p.txid) (hpend : v.store.pending = none)
    (hissued : v.issued = u.issued) : Outcomes (k ++ [⟨u, a, o, v⟩]) v := by
  have hk : (k ++ [(⟨u, a, o, v⟩ : StoreStep)]).filterMap resolves =
      k.filterMap resolves ++ [p.txid] := by
    simp [List.filterMap_append, hres]
  refine ⟨?_, ?_, ?_, ?_, ?_, ?_⟩
  · rw [hk, List.nodup_append]
    refine ⟨h.nodup, by simp, fun a ha b hb => ?_⟩
    rw [List.mem_singleton] at hb
    exact fun hab => h.unresolved p hp (hb ▸ hab ▸ ha)
  · rw [hk, hissued]
    intro txid ht
    rcases List.mem_append.mp ht with ht | ht
    · exact h.issued txid ht
    · rw [List.mem_singleton.mp ht]
      exact h.pendingIssued p hp
  · simp [hpend]
  · simp [hpend]
  · simp [hpend]
  · rw [hk]
    intro x hx q hq
    right
    rcases List.mem_append.mp hx with hx | hx
    · rcases h.closed x hx q hq with ⟨q', hq', ht⟩ | ht
      · rw [hp, Option.some.injEq] at hq'
        exact List.mem_append_right _ (by simp [← ht, hq'])
      · exact List.mem_append_left _ ht
    · rw [List.mem_singleton] at hx
      subst hx
      rw [hpend] at hq
      cases hq

/-- A commit that arms its timer opens a new outcome. -/
theorem Outcomes.arm {k : List StoreStep} {u v : Sys} {a : Action} {o : Answer} {p : Pending}
    (h : Outcomes k u) (hnone : u.store.pending = none) (hno : resolves ⟨u, a, o, v⟩ = none)
    (hfresh : p.txid ∉ u.issued) (hpend : v.store.pending = some p)
    (hissued : v.issued = p.txid :: u.issued)
    (halive : Alive p.txid p.deadline v.store.timers) : Outcomes (k ++ [⟨u, a, o, v⟩]) v := by
  have hk : (k ++ [(⟨u, a, o, v⟩ : StoreStep)]).filterMap resolves = k.filterMap resolves := by
    simp [List.filterMap_append, hno]
  refine ⟨?_, ?_, ?_, ?_, ?_, ?_⟩
  · rw [hk]; exact h.nodup
  · rw [hk, hissued]
    exact fun txid ht => List.mem_cons_of_mem _ (h.issued txid ht)
  · rw [hpend, hissued]
    rintro q ⟨rfl⟩
    exact List.mem_cons_self
  · rw [hk, hpend]
    rintro q ⟨rfl⟩
    exact fun ht => hfresh (h.issued _ ht)
  · rw [hpend]
    rintro q ⟨rfl⟩
    exact halive
  · rw [hk]
    intro x hx q hq
    rcases List.mem_append.mp hx with hx | hx
    · rcases h.closed x hx q hq with ⟨q', hq', -⟩ | ht
      · rw [hnone] at hq'
        cases hq'
      · exact Or.inr ht
    · rw [List.mem_singleton] at hx
      subst hx
      exact Or.inl ⟨q, hq, rfl⟩

theorem Alive.of_agreeBut {txid k : String} {deadline : ℕ} {timers timers' : Dict String TimerPhase}
    (h : Alive k deadline timers) (ha : AgreeBut txid timers timers') (hk : k ≠ txid) :
    Alive k deadline timers' := by
  unfold Alive at h ⊢
  rwa [ha k hk]

/-- The thread of a timer in another phase is not the one of the pending commit. -/
theorem Alive.ne_of_phase {txid k : String} {deadline : ℕ} {timers : Dict String TimerPhase}
    {ph : TimerPhase} (h : Alive k deadline timers) (hl : Dict.lookup txid timers = some ph)
    (hs : ∀ d, ph ≠ .sleeping d) (hw : ph ≠ .waiting) : k ≠ txid := by
  rintro rfl
  rcases h with h | h
  · rw [h, Option.some.injEq] at hl
    exact hs _ hl.symm
  · rw [h, Option.some.injEq] at hl
    exact hw hl.symm

/-- **One step** keeps the account of the outcomes. -/
theorem Outcomes.step {k : List StoreStep} {u v : Sys} {a : Action} {o : Answer}
    (h : Outcomes k u) (hs : step u a = some (o, v)) : Outcomes (k ++ [⟨u, a, o, v⟩]) v := by
  cases step_effect hs with
  | aside ha hrun hpend htimer htimers hdisk hclock =>
    refine h.keep ?_ hpend (fun _ ht => ht) fun p _ hl => by rwa [htimers]
    cases a <;> first | rfl | cases ha
  | committed hfresh he =>
    cases he with
    | kept hs hr =>
      refine h.keep rfl hs.pending (fun _ ht => List.mem_cons_of_mem _ ht) fun p _ hl => ?_
      rwa [hs.timers]
    | backedOut hpend hrun hcand hpend' htimer htimers hdisk hclock =>
      refine h.keep rfl (hpend'.trans hpend.symm) (fun _ ht => List.mem_cons_of_mem _ ht) ?_
      exact fun p _ hl => by rwa [htimers]
    | installed hpend hval hgate he =>
      cases he with
      | plain hrun hpend' htimer htimers hdisk hclock hr hfault =>
        refine h.keep rfl (hpend'.trans hpend.symm) (fun _ ht => List.mem_cons_of_mem _ ht) ?_
        exact fun p _ hl => by rwa [htimers]
      | armed hawaits hrun hcand hdisk hpend' htimer htimers hclock hr =>
        refine h.arm hpend rfl hfresh hpend' rfl (Or.inl ?_)
        rw [htimers]
        exact Dict.lookup_set_self _ _ _
  | declined hp => exact h.keep rfl rfl (fun _ ht => ht) fun _ _ hl => hl
  | confirmed hp hid hr hrun hpend htimers hkept hdisk hclock =>
    subst hid
    refine h.resolve hp ?_ hpend rfl
    simp only [resolves]
    split
    · rename_i heq
      cases heq
      exact absurd rfl hr
    · rfl
  | fired hl hdue =>
    rename_i txid deadline
    refine h.keep rfl rfl (fun _ ht => ht) fun p _ hp => ?_
    by_cases hk : p.txid = txid
    · subst hk
      exact Or.inr (Dict.lookup_set_self _ _ _)
    · exact hp.of_agreeBut (agreeBut_set _ _ _) hk
  | expired hl hp hid =>
    subst hid
    refine h.resolve hp ?_ rfl rfl
    simp [resolves, hp]
  | lapsed hl hp =>
    rename_i txid
    refine h.keep ?_ rfl (fun _ ht => ht) fun p hp' ha =>
      ha.of_agreeBut (agreeBut_erase _ _) (hp p hp')
    cases hpend : u.store.pending with
    | none => simp [resolves, hpend]
    | some p => simp [resolves, hpend, hp p hpend]
  | restored hl hrun hcand hpend htimers hspent hdisk hclock =>
    refine h.keep rfl hpend (fun _ ht => ht) fun p _ ha => ?_
    exact ha.of_agreeBut htimers (ha.ne_of_phase hl (by simp) (by simp))
  | reapplied hl hrun hpend htimers hspent hdisk hclock =>
    refine h.keep rfl hpend (fun _ ht => ht) fun p _ ha => ?_
    exact ha.of_agreeBut htimers (ha.ne_of_phase hl (by simp) (by simp))

/-- **Whole runs** keep the account. -/
theorem Outcomes.run {s : Store} {l : List StoreStep} {t : Sys}
    (h : StoreRun (Sys.start s) l t) : Outcomes l t := by
  have h0 : Outcomes [] (Sys.start s) :=
    ⟨by simp, by simp, by simp [Sys.start, Store.restart], by simp [Sys.start, Store.restart],
      by simp [Sys.start, Store.restart], by simp⟩
  exact h.record Outcomes (fun _ _ _ _ _ hI hs => hI.step hs) h0

/-! ### After a confirmation -/

/-- The timer of `txid` can no longer change anything: its transaction is over and its thread has
not come past its first section. -/
structure Harmless (txid : String) (u : Sys) : Prop where
  issued : txid ∈ u.issued
  notPending : ∀ p, u.store.pending = some p → p.txid ≠ txid
  early : ∀ ph, Dict.lookup txid u.store.timers = some ph → ph = .waiting ∨ ∃ d, ph = .sleeping d

theorem Harmless.of_agreeBut {txid k : String} {u v : Sys} (h : Harmless txid u)
    (hissued : v.issued = u.issued) (hpend : v.store.pending = u.store.pending ∨
      v.store.pending = none)
    (hk : txid ≠ k) (ha : AgreeBut k u.store.timers v.store.timers) : Harmless txid v := by
  refine ⟨hissued ▸ h.issued, fun p hp => ?_, fun ph hl => h.early ph (ha txid hk ▸ hl)⟩
  rcases hpend with hpend | hpend
  · exact h.notPending p (hpend ▸ hp)
  · rw [hpend] at hp
    cases hp

theorem Harmless.step {txid : String} {u v : Sys} {a : Action} {o : Answer}
    (h : Harmless txid u) (hs : step u a = some (o, v)) : Harmless txid v := by
  -- a commit that leaves the timers as they are
  have quiet : ∀ {k : String} {t : Store},
      (t.pending = u.store.pending ∨ t.pending = none) → t.timers = u.store.timers →
      Harmless txid ⟨t, k :: u.issued⟩ := by
    intro k t hpend htimers
    refine ⟨List.mem_cons_of_mem _ h.issued, fun p hp => ?_, fun ph hl => h.early ph (htimers ▸ hl)⟩
    rcases hpend with hpend | hpend
    · exact h.notPending p (hpend ▸ hp)
    · exact absurd (hpend ▸ hp) (by simp)
  have later : ∀ {k : String} {ph : TimerPhase}, Dict.lookup k u.store.timers = some ph →
      (∀ d, ph ≠ .sleeping d) → ph ≠ .waiting → txid ≠ k := by
    rintro k ph hl hs hw rfl
    rcases h.early ph hl with rfl | ⟨d, rfl⟩
    · exact hw rfl
    · exact hs d rfl
  cases step_effect hs with
  | aside ha hrun hpend htimer htimers hdisk hclock =>
    exact ⟨h.issued, fun p hp => h.notPending p (hpend ▸ hp),
      fun ph hl => h.early ph (htimers ▸ hl)⟩
  | committed hfresh he =>
    cases he with
    | kept hs hr => exact quiet (Or.inl hs.pending) hs.timers
    | backedOut hpend hrun hcand hpend' htimer htimers hdisk hclock =>
      exact quiet (Or.inr hpend') htimers
    | installed hpend hval hgate he =>
      cases he with
      | plain hrun hpend' htimer htimers hdisk hclock hr hfault =>
        exact quiet (Or.inr hpend') htimers
      | armed hawaits hrun hcand hdisk hpend' htimer htimers hclock hr =>
        have hne : ∀ k, k ∉ u.issued → txid ≠ k := fun k hk he => hk (he ▸ h.issued)
        have hk := hne _ hfresh
        refine ⟨List.mem_cons_of_mem _ h.issued, fun p hp => ?_, fun ph hl => ?_⟩
        · rw [hpend', Option.some.injEq] at hp
          subst hp
          exact Ne.symm hk
        · rw [htimers, Dict.lookup_set_of_ne hk] at hl
          exact h.early ph hl
  | declined hp => exact h
  | confirmed hp hid hr hrun hpend htimers hkept hdisk hclock =>
    refine ⟨h.issued, fun p hp => ?_, fun ph hl => h.early ph (htimers _ _ hl)⟩
    rw [hpend] at hp
    cases hp
  | fired hl hdue =>
    rename_i k deadline
    by_cases hk : txid = k
    · subst hk
      refine ⟨h.issued, h.notPending, fun ph hl' => Or.inl ?_⟩
      rw [Dict.lookup_set_self, Option.some.injEq] at hl'
      exact hl'.symm
    · exact h.of_agreeBut rfl (Or.inl rfl) hk (agreeBut_set _ _ _)
  | expired hl hp hid =>
    exact h.of_agreeBut rfl (Or.inr rfl) (hid ▸ (h.notPending _ hp).symm) (agreeBut_set _ _ _)
  | lapsed hl hp =>
    refine ⟨h.issued, h.notPending, fun ph hl' => h.early ph (lookup_of_lookup_erase hl')⟩
  | restored hl hrun hcand hpend htimers hspent hdisk hclock =>
    exact h.of_agreeBut rfl (Or.inl hpend) (later hl (by simp) (by simp)) htimers
  | reapplied hl hrun hpend htimers hspent hdisk hclock =>
    exact h.of_agreeBut rfl (Or.inl hpend) (later hl (by simp) (by simp)) htimers

/-- What the outside sees of a store: its configurations, `running.json` and the applier calls. -/
def Store.visible (s : Store) : Obj × Obj × Option Obj × List Call :=
  (s.running, s.candidate, s.disk, s.calls)

/-- A step of a harmless timer changes nothing outside its own thread. -/
theorem Harmless.timer_step {txid : String} {u v : Sys} {a : Action} {o : Answer}
    (h : Harmless txid u) (hs : Configd.step u a = some (o, v)) (ha : a.timer = some txid) :
    v.store.visible = u.store.visible := by
  have early : ∀ {ph : TimerPhase}, Dict.lookup txid u.store.timers = some ph →
      (∀ d, ph ≠ .sleeping d) → ph ≠ .waiting → False := by
    intro ph hl hs hw
    rcases h.early ph hl with rfl | ⟨d, rfl⟩
    · exact hw rfl
    · exact hs d rfl
  cases step_effect hs with
  | aside hside hrun hpend htimer htimers hdisk hclock =>
    cases a <;> simp [Action.timer, Action.isAside] at ha hside
  | committed hfresh he => cases ha
  | declined hp => cases ha
  | confirmed hp hid hr hrun hpend htimers hkept hdisk hclock => cases ha
  | fired hl hdue => rfl
  | expired hl hp hid =>
    cases ha
    exact absurd hid (h.notPending _ hp)
  | lapsed hl hp => rfl
  | restored hl hrun hcand hpend htimers hspent hdisk hclock =>
    cases ha
    exact (early hl (by simp) (by simp)).elim
  | reapplied hl hrun hpend htimers hspent hdisk hclock =>
    cases ha
    exact (early hl (by simp) (by simp)).elim

/-- A confirmation that is accepted leaves its timer harmless. -/
theorem harmless_of_confirm {s : Store} {l : List StoreStep} {u v : Sys} {fault : Bool}
    {txid user : String} {r : Except Exn Bool} (hrun : StoreRun (Sys.start s) l u)
    (hs : step u (.confirm fault txid user) = some (.confirm r, v)) (hr : r ≠ .ok false) :
    Harmless txid v := by
  have hO := Outcomes.run hrun
  cases step_effect hs with
  | aside ha => cases ha
  | declined hp => exact absurd rfl hr
  | confirmed hp hid hr hrun hpend htimers hkept hdisk hclock =>
    subst hid
    refine ⟨hO.pendingIssued _ hp, fun p hp' => ?_, fun ph hl => ?_⟩
    · rw [hpend] at hp'
      cases hp'
    · rcases hO.alive _ hp with h | h <;> rw [htimers _ _ hl, Option.some.injEq] at h
      · exact Or.inr ⟨_, h⟩
      · exact Or.inl h

/-! ### The account of a run -/

/-- **Exactly one outcome**: in every run from a fresh store, and under every interleaving, no
commit succeeds while another one is pending; a pending transaction stays pending with its timer
able to run, or is resolved exactly once; only the pending transaction can be confirmed; and after
its confirmation the steps of its timer change nothing. -/
theorem pending_has_one_outcome {s : Store} {l : List StoreStep} {t : Sys}
    (h : StoreRun (Sys.start s) l t) :
    (∀ x ∈ l, ∀ env args txid c, x.act = .commit env args txid → x.out = .commit (.ok c) →
      x.pre.store.pending = none) ∧
    (l.filterMap resolves).Nodup ∧
    (∀ x ∈ l, ∀ p, x.post.store.pending = some p →
      Xor (∃ q, t.store.pending = some q ∧ q.txid = p.txid ∧
          Alive q.txid q.deadline t.store.timers)
        (p.txid ∈ l.filterMap resolves)) ∧
    (∀ x ∈ l, ∀ fault txid user, x.act = .confirm fault txid user → x.out = .confirm (.ok true) →
      ∃ p, x.pre.store.pending = some p ∧ p.txid = txid) ∧
    (∀ l₁ x l₂ fault txid user r, l = l₁ ++ x :: l₂ → x.act = .confirm fault txid user →
      x.out = .confirm r → r ≠ .ok false →
      ∀ y ∈ l₂, y.act.timer = some txid → y.post.store.visible = y.pre.store.visible) := by
  have hO := Outcomes.run h
  refine ⟨?_, hO.nodup, ?_, ?_, ?_⟩
  · rintro ⟨u, a, o, v⟩ hx env args txid c rfl rfl
    obtain ⟨l₁, l₂, -, -, hs, -⟩ := h.of_mem hx
    dsimp only at hs
    cases step_effect hs with
    | aside ha => cases ha
    | committed hfresh he =>
      cases he with
      | kept _ hr => exact (hr c rfl).1
      | installed hpend => exact hpend
  · intro x hx p hp
    by_cases hq : ∃ q, t.store.pending = some q ∧ q.txid = p.txid
    · obtain ⟨q, hq, hid⟩ := hq
      exact Or.inl ⟨⟨q, hq, hid, hO.alive q hq⟩, hid ▸ hO.unresolved q hq⟩
    · refine Or.inr ⟨(hO.closed x hx p hp).resolve_left hq, ?_⟩
      rintro ⟨q, hq', hid, -⟩
      exact hq ⟨q, hq', hid⟩
  · rintro ⟨u, a, o, v⟩ hx fault txid user rfl rfl
    obtain ⟨l₁, l₂, -, -, hs, -⟩ := h.of_mem hx
    dsimp only at hs
    cases step_effect hs with
    | aside ha => cases ha
    | confirmed hp hid => exact ⟨_, hp, hid⟩
  · rintro l₁ ⟨u, a, o, v⟩ l₂ fault txid user r rfl ha ho hr y hy hty
    obtain ⟨h₁, hs, h₂⟩ := Run.step_at l₁ h
    dsimp only at ha ho
    subst ha ho
    have hharm := harmless_of_confirm h₁ hs hr
    obtain ⟨k₁, k₂, -, hk, hys, -⟩ := h₂.of_mem hy
    have := hk.invariant (Harmless txid) (fun _ _ _ _ hI hs => hI.step hs) hharm
    exact this.timer_step hys hty

/-- A commit is confirmed while its timer has fired already and waits for the lock. -/
def confirmedLate : List Action :=
  [.stage .quiet (setHostname "gw-a"), .commit .quiet .awaiting "t1", .tick, .fire "t1",
   .confirm false "t1" "admin", .expire "t1"]

theorem pending_has_one_outcome_confirmedLate :
    ∃ l t, StoreRun (Sys.start .blank) l t ∧ l.filterMap resolves = ["t1"] ∧
      (l.filterMap resolves).Nodup := by
  have htest : ((play step (Sys.start .blank) confirmedLate).any
      fun r => decide (r.1.filterMap resolves = ["t1"])) = true := by decide +kernel
  obtain ⟨l, t, hrun, -, ht⟩ :=
    Run.of_test (fun l _ => decide (l.filterMap resolves = ["t1"])) htest
  exact ⟨l, t, hrun, of_decide_eq_true ht, (pending_has_one_outcome hrun).2.1⟩

end Sbegw.Configd
