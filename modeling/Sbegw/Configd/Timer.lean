import Sbegw.Configd.Confirmation

/-!
# The rollback timer against later commits

Between its two sections the timer holds no lock.  A commit that comes in there succeeds, since
`_pending` is cleared already, and is overwritten by the second section.
-/

namespace Sbegw.Configd

open Machine

/-- The step is a commit with the transaction id `txid`. -/
def Commits (txid : String) (x : StoreStep) : Prop := ∃ env args, x.act = .commit env args txid

/-- A commit that returned with changes and does not wait for confirmation. -/
def Settles (x : StoreStep) : Prop :=
  ∃ env args txid c, x.act = .commit env args txid ∧ x.out = .commit (.ok c) ∧
    c.confirmPending = false ∧ c.changes ≠ []

/-- **No lost update**: after a commit `x` that settled, the running configuration changes only by a
later commit or by the timeout of a commit after `x`; the timeout of a commit before `x` leaves it
alone. -/
def NoLostUpdate (l : List StoreStep) : Prop :=
  ∀ l₁ x l₂, l = l₁ ++ x :: l₂ → Settles x → ∀ m₁ y m₂, l₂ = m₁ ++ y :: m₂ →
    (y.post.store.running ≠ y.pre.store.running →
      (∃ txid, Commits txid y) ∨
        ∃ env txid, y.act = .restore env txid ∧ ∃ z ∈ m₁, Commits txid z) ∧
    (∀ env txid, y.act = .restore env txid → (∃ z ∈ l₁, Commits txid z) →
      y.post.store.running = y.pre.store.running)

/-- The step is no commit that overtakes a timer: while a timer is between its sections, a commit
has nothing to do or waits for confirmation. -/
def Timely (x : StoreStep) : Prop :=
  ∀ env args txid, x.act = .commit env args txid →
    (∃ k previous, Dict.lookup k x.pre.store.timers = some (.restoring previous)) →
    changesOf x.pre.store.running x.pre.store.candidate = [] ∨
      ∀ new warnings,
        Schema.validate env.capabilities x.pre.store.candidate = .ok (new, warnings) →
        awaits args (applyAll x.pre.store.running new env.appliers).needsConfirm = true

/-- A timely commit that settles finds no timer between its sections. -/
theorem Settles.no_restoring {u v : Sys} {a : Action} {o : Answer} (hs : step u a = some (o, v))
    (hx : Settles ⟨u, a, o, v⟩) (ht : Timely ⟨u, a, o, v⟩) :
    v.store.pending = none ∧
      ∀ k previous, Dict.lookup k v.store.timers ≠ some (.restoring previous) := by
  obtain ⟨env, args, txid, c, ha, ho, hconf, hch⟩ := hx
  dsimp only at ha ho
  subst ha ho
  cases step_effect hs with
  | aside ha => cases ha
  | committed hfresh he =>
    cases he with
    | kept _ hr => exact absurd (hr c rfl).2.2.1 hch
    | installed hpend hval hgate he =>
      cases he with
      | armed _ _ _ _ _ _ _ _ hr =>
        rw [(hr c rfl).2.1] at hconf
        cases hconf
      | plain hrun hpend' htimer htimers hdisk hclock hr =>
        refine ⟨hpend', fun k previous hl => ?_⟩
        rw [htimers] at hl
        obtain ⟨hc, -, -, -, haw, -⟩ := hr c rfl
        rcases ht env args txid rfl ⟨k, previous, hl⟩ with h | h
        · exact hch (hc.trans h)
        · rw [h _ _ hval] at haw
          cases haw

/-- What holds after the steps `m` that follow a settled commit: every pending or restoring
transaction was committed in `m`, none of them is among the ids `K` given out before. -/
structure After (K : List String) (m : List StoreStep) (u : Sys) : Prop where
  issued : ∀ txid ∈ K, txid ∈ u.issued
  pending : ∀ p, u.store.pending = some p → p.txid ∉ K ∧ ∃ z ∈ m, Commits p.txid z
  restoring : ∀ k previous, Dict.lookup k u.store.timers = some (.restoring previous) →
    k ∉ K ∧ ∃ z ∈ m, Commits k z

theorem mem_snoc {P : StoreStep → Prop} {m : List StoreStep} {x : StoreStep}
    (h : ∃ z ∈ m, P z) : ∃ z ∈ m ++ [x], P z := by
  obtain ⟨z, hz, hP⟩ := h
  exact ⟨z, List.mem_append_left _ hz, hP⟩

/-- A step that brings no new pending commit and puts no timer between its sections. -/
theorem After.keep {K : List String} {m : List StoreStep} {u v : Sys} {x : StoreStep}
    (h : After K m u) (hissued : ∀ txid ∈ u.issued, txid ∈ v.issued)
    (hpend : v.store.pending = u.store.pending ∨ v.store.pending = none)
    (htimers : ∀ k previous, Dict.lookup k v.store.timers = some (.restoring previous) →
      Dict.lookup k u.store.timers = some (.restoring previous)) : After K (m ++ [x]) v := by
  refine ⟨fun txid ht => hissued txid (h.issued txid ht), fun p hp => ?_, fun k previous hl => ?_⟩
  · rcases hpend with hpend | hpend
    · obtain ⟨hK, hz⟩ := h.pending p (hpend ▸ hp)
      exact ⟨hK, mem_snoc hz⟩
    · rw [hpend] at hp
      cases hp
  · obtain ⟨hK, hz⟩ := h.restoring k previous (htimers k previous hl)
    exact ⟨hK, mem_snoc hz⟩

/-- **One step** after the settled commit. -/
theorem After.step {K : List String} {m : List StoreStep} {u v : Sys} {a : Action} {o : Answer}
    (h : After K m u) (hs : step u a = some (o, v)) : After K (m ++ [⟨u, a, o, v⟩]) v := by
  have issue : ∀ {txid : String}, ∀ k ∈ u.issued, k ∈ txid :: u.issued :=
    fun k hk => List.mem_cons_of_mem _ hk
  cases step_effect hs with
  | aside ha hrun hpend htimer htimers hdisk hclock =>
    exact h.keep (fun _ ht => ht) (Or.inl hpend) fun k previous hl => htimers ▸ hl
  | committed hfresh he =>
    cases he with
    | kept hs hr => exact h.keep issue (Or.inl hs.pending) fun k previous hl => hs.timers ▸ hl
    | backedOut hpend hrun hcand hpend' htimer htimers hdisk hclock =>
      exact h.keep issue (Or.inr hpend') fun k previous hl => htimers ▸ hl
    | installed hpend hval hgate he =>
      cases he with
      | plain hrun hpend' htimer htimers hdisk hclock hr hfault =>
        exact h.keep issue (Or.inr hpend') fun k previous hl => htimers ▸ hl
      | armed hawaits hrun hcand hdisk hpend' htimer htimers hclock hr =>
        refine ⟨fun txid ht => issue _ (h.issued txid ht), fun p hp => ?_, fun k previous hl => ?_⟩
        · rw [hpend', Option.some.injEq] at hp
          subst hp
          exact ⟨fun hK => hfresh (h.issued _ hK), _, List.mem_append_right _ List.mem_cons_self,
            _, _, rfl⟩
        · dsimp only at hl
          rw [htimers] at hl
          obtain ⟨hK, hz⟩ := h.restoring k previous
            (lookup_restoring_of_agreeBut (agreeBut_set _ _ _) (by simp [Dict.lookup_set_self]) hl)
          exact ⟨hK, mem_snoc hz⟩
  | declined hp => exact h.keep (fun _ ht => ht) (Or.inl rfl) fun k previous hl => hl
  | confirmed hp hid hr hrun hpend htimers hkept hdisk hclock =>
    exact h.keep (fun _ ht => ht) (Or.inr hpend) fun k previous hl => htimers _ _ hl
  | fired hl hdue =>
    exact h.keep (fun _ ht => ht) (Or.inl rfl) fun k previous hl =>
      lookup_restoring_of_agreeBut (agreeBut_set _ _ _) (by simp [Dict.lookup_set_self]) hl
  | expired hl hp hid =>
    rename_i txid p
    refine ⟨h.issued, by simp, fun k previous hl' => ?_⟩
    by_cases hk : k = txid
    · -- the pending commit has timed out
      subst hk hid
      obtain ⟨hK, hz⟩ := h.pending _ hp
      exact ⟨hK, mem_snoc hz⟩
    · obtain ⟨hK, hz⟩ := h.restoring k previous (agreeBut_set _ _ _ k hk ▸ hl')
      exact ⟨hK, mem_snoc hz⟩
  | lapsed hl hp =>
    exact h.keep (fun _ ht => ht) (Or.inl rfl) fun k previous hl => lookup_of_lookup_erase hl
  | restored hl hrun hcand hpend htimers hspent hdisk hclock =>
    exact h.keep (fun _ ht => ht) (Or.inl hpend) fun k previous hl =>
      lookup_restoring_of_agreeBut htimers hspent.not_restoring hl
  | reapplied hl hrun hpend htimers hspent hdisk hclock =>
    exact h.keep (fun _ ht => ht) (Or.inl hpend) fun k previous hl =>
      lookup_restoring_of_agreeBut htimers hspent.not_restoring hl

/-- Every step keeps the transaction ids given out. -/
theorem issued_subset {u v : Sys} {a : Action} {o : Answer} (hs : step u a = some (o, v)) :
    ∀ txid ∈ u.issued, txid ∈ v.issued := by
  cases step_effect hs with
  | committed hfresh he => exact fun _ ht => List.mem_cons_of_mem _ ht
  | _ => exact fun _ ht => ht

theorem mem_issued_of_commits {s t : Sys} {l : List StoreStep} (h : StoreRun s l t)
    {z : StoreStep} (hz : z ∈ l) {txid : String} (hc : Commits txid z) : txid ∈ t.issued := by
  obtain ⟨l₁, l₂, -, -, hs, h₂⟩ := h.of_mem hz
  refine h₂.invariant (fun u => txid ∈ u.issued) (fun _ _ _ _ hI hs => issued_subset hs _ hI) ?_
  obtain ⟨u, a, o, v⟩ := z
  obtain ⟨env, args, ha⟩ := hc
  dsimp only at ha hs ⊢
  subst ha
  cases step_effect hs with
  | aside ha => cases ha
  | committed hfresh he => exact List.mem_cons_self

/-- **The rollback timer loses no update** in a run where no commit overtakes a timer. -/
theorem no_lost_update {s : Store} {l : List StoreStep} {t : Sys}
    (h : StoreRun (Sys.start s) l t) (htimely : ∀ x ∈ l, Timely x) : NoLostUpdate l := by
  rintro l₁ ⟨u, a, o, v⟩ l₂ rfl hx m₁ y m₂ rfl
  obtain ⟨h₁, hs, h₂⟩ := Run.step_at l₁ h
  dsimp only at hs h₂
  obtain ⟨hpend, hrest⟩ := hx.no_restoring hs (htimely _ (by simp))
  obtain ⟨h₃, hy, -⟩ := Run.step_at m₁ h₂
  have hafter : After v.issued m₁ y.pre := by
    have h0 : After v.issued [] v :=
      ⟨fun _ ht => ht, fun p hp => absurd (hpend ▸ hp) (by simp),
        fun k previous hl => absurd hl (hrest k previous)⟩
    exact h₃.record (After v.issued) (fun _ _ _ _ _ hI hs => hI.step hs) h0
  obtain ⟨u', a', o', v'⟩ := y
  dsimp only at hy hafter ⊢
  constructor
  · intro hne
    cases step_effect hy with
    | aside ha hrun => exact absurd hrun hne
    | committed hfresh he => exact Or.inl ⟨_, _, _, rfl⟩
    | confirmed hp hid hr hrun => exact absurd hrun hne
    | restored hl => exact Or.inr ⟨_, _, rfl, (hafter.restoring _ _ hl).2⟩
    | reapplied hl hrun => exact absurd hrun hne
    | _ => exact absurd rfl hne
  · rintro env txid rfl ⟨z, hz, hc⟩
    have hK : txid ∈ v.issued := issued_subset hs _ (mem_issued_of_commits h₁ hz hc)
    cases step_effect hy with
    | aside ha => cases ha
    | restored hl => exact absurd hK (hafter.restoring _ _ hl).1

/-- A commit times out, and only then another one is made. -/
def timedOut : List Action :=
  [.stage .quiet (setHostname "gw-a"), .commit .quiet .awaiting "t1", .tick, .fire "t1",
   .expire "t1", .restore .quiet "t1", .reapply false "t1", .stage .quiet (setHostname "gw-b"),
   .commit .quiet .plain "t2"]

/-- Do the steps come to their commits without timers?  Is the last of them a settled commit? -/
def endsSettled (l : List StoreStep) : Bool :=
  (l.all fun x =>
    match x.act with
    | .commit _ _ _ => decide (x.pre.store.timers = [])
    | _ => true) &&
  l.getLast?.any fun x =>
    match x.out with
    | .commit (.ok c) => !c.confirmPending && !c.changes.isEmpty
    | _ => false

theorem no_lost_update_timedOut :
    ∃ l t, StoreRun (Sys.start .blank) l t ∧ endsSettled l = true ∧ NoLostUpdate l := by
  have htest : ((play step (Sys.start .blank) timedOut).any fun r => endsSettled r.1) = true := by
    decide +kernel
  obtain ⟨l, t, hrun, -, ht⟩ := Run.of_test (fun l _ => endsSettled l) htest
  refine ⟨l, t, hrun, ht, no_lost_update hrun fun x hx => ?_⟩
  rintro env args txid ha ⟨k, previous, hl⟩
  simp only [endsSettled, Bool.and_eq_true, List.all_eq_true] at ht
  have := ht.1 x hx
  rw [ha, decide_eq_true_eq] at this
  rw [this] at hl
  cases hl

/-- A commit comes in between the two sections of the timer of another one. -/
def overtaking : List Action :=
  [.stage .quiet (setHostname "gw-a"), .commit .quiet .awaiting "t1", .tick, .fire "t1",
   .expire "t1", .stage .quiet (setHostname "gw-b"), .commit .quiet .plain "t2",
   .restore .quiet "t1"]

/-- Does the run end in a settled commit and a step that changes the running configuration? -/
def endsOverwritten (l : List StoreStep) : Bool :=
  match l.drop 6 with
  | [x, y] =>
    (match x.out with
      | .commit (.ok c) => !c.confirmPending && !c.changes.isEmpty
      | _ => false) && decide (y.post.store.running ≠ y.pre.store.running)
  | _ => false

/-- The second section of a timer overwrites a commit made after its first one. -/
theorem lost_update : ∃ s l t, StoreRun (Sys.start s) l t ∧ ¬ NoLostUpdate l := by
  have htest : ((play step (Sys.start .blank) overtaking).any
      fun r => endsOverwritten r.1) = true := by decide +kernel
  obtain ⟨l, t, hrun, hacts, ht⟩ := Run.of_test (fun l _ => endsOverwritten l) htest
  refine ⟨_, l, t, hrun, fun hno => ?_⟩
  unfold endsOverwritten at ht
  split at ht
  · rename_i x y hd
    have hxy : [x, y].map Step.act = overtaking.drop 6 := by rw [← hd, List.map_drop, hacts]
    simp only [overtaking, List.map_cons, List.map_nil, List.drop_succ_cons, List.drop_zero,
      List.cons.injEq, and_true] at hxy
    obtain ⟨hx, hy⟩ := hxy
    simp only [Bool.and_eq_true, decide_eq_true_eq] at ht
    obtain ⟨hc, hne⟩ := ht
    have hsettles : Settles x := by
      split at hc
      · rename_i c ho
        simp only [Bool.and_eq_true, Bool.not_eq_true', List.isEmpty_eq_false_iff] at hc
        exact ⟨_, _, _, c, hx, ho, hc.1, hc.2⟩
      · cases hc
    have hl : l = l.take 6 ++ x :: [y] := by rw [← hd, List.take_append_drop]
    rcases (hno _ x [y] hl hsettles [] y [] rfl).1 hne with h | h
    · obtain ⟨txid, env, args, ha⟩ := h
      rw [hy] at ha
      cases ha
    · obtain ⟨env, txid, -, z, hz, -⟩ := h
      cases hz
  · cases ht

end Sbegw.Configd
