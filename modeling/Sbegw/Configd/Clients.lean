import Sbegw.Configd.Effect

/-!
# Clients that share the candidate

The requests of the API run `ApiService._commit`: stage a mutation, commit, and discard the candidate
when the commit is refused.  Each of the three takes the lock for itself, and all clients stage into
one candidate.
-/

namespace Sbegw.Configd

open Machine

/-- Where the request of a client stands between two of its locked steps. -/
inductive RequestPhase where
  /-- has staged its mutation -/
  | staged
  /-- its commit was refused, the candidate is to be discarded -/
  | rejected
deriving DecidableEq

/-- A step of a client's request, or of a timer or a confirmation. -/
inductive ClientAction where
  | stage (client : String) (env : Env) (mutate : Mutation)
  | commit (client : String) (env : Env) (args : CommitArgs) (txid : String)
  | discard (client : String)
  | background (a : Action)

/-- The store and the requests under way. -/
structure ClientSys where
  sys : Sys
  requests : Dict String RequestPhase

/-- The steps that are no request's: timers, confirmations and time. -/
def Action.isBackground : Action → Bool
  | .confirm _ _ _ | .tick | .fire _ | .expire _ | .restore _ _ | .reapply _ _ => true
  | _ => false

/-- Where a request stands after its commit: a `CommitError` is answered by a discard, anything else
ends the request. -/
def afterCommit (client : String) (o : Answer) (requests : Dict String RequestPhase) :
    Dict String RequestPhase :=
  match o with
  | .commit (.error (.commit _ _ _ _)) => Dict.set client .rejected requests
  | _ => Dict.erase client requests

/-- Where a request stands after its `stage`: an error ends it. -/
def afterStage (client : String) (o : Answer) (requests : Dict String RequestPhase) :
    Dict String RequestPhase :=
  match o with
  | .warnings (.ok _) => Dict.set client .staged requests
  | _ => requests

/-- One locked step of `_commit`, over storage that works, or one of the background. -/
def clientStep (s : ClientSys) : ClientAction → Option (Answer × ClientSys)
  | .stage client env mutate =>
    if Dict.lookup client s.requests = none ∧ env.faults = Faults.none then
      (step s.sys (.stage env mutate)).map fun r =>
        (r.1, ⟨r.2, afterStage client r.1 s.requests⟩)
    else none
  | .commit client env args txid =>
    if Dict.lookup client s.requests = some .staged ∧ env.faults = Faults.none then
      (step s.sys (.commit env args txid)).map fun r =>
        (r.1, ⟨r.2, afterCommit client r.1 s.requests⟩)
    else none
  | .discard client =>
    if Dict.lookup client s.requests = some .rejected then
      (step s.sys .discard).map fun r => (r.1, ⟨r.2, Dict.erase client s.requests⟩)
    else none
  | .background a =>
    if a.isBackground then (step s.sys a).map fun r => (r.1, ⟨r.2, s.requests⟩) else none

/-- A freshly started store without requests. -/
def ClientSys.start (s : Store) : ClientSys := ⟨Sys.start s, []⟩

/-- A step of the clients' runs. -/
abbrev ClientStep := Machine.Step ClientSys ClientAction Answer

/-! ### What the candidate is made of -/

/-- A mutation and the normalisation `stage` gives its result. -/
def applyStaged (m : Schema.Capabilities × Mutation) (cfg : Obj) : Option Obj :=
  match m.2 cfg with
  | .error _ => none
  | .ok trial =>
    match Schema.validate m.1 trial with
    | .error _ => none
    | .ok (cfg', _) => some cfg'

/-- Staged mutations, one after the other. -/
def replay (cfg : Obj) (ms : List (Schema.Capabilities × Mutation)) : Option Obj :=
  ms.foldl (fun acc m => acc.bind (applyStaged m)) (some cfg)

/-- The mutations in the candidate after one more step: those staged, by whomever, since the
candidate and the running configuration last agreed. -/
def contribute (ms : List (Schema.Capabilities × Mutation)) (x : ClientStep) :
    List (Schema.Capabilities × Mutation) :=
  if x.post.sys.store.candidate = x.post.sys.store.running then []
  else
    match x.act, x.out with
    | .stage _ env m, .warnings (.ok _) => ms ++ [(env.capabilities, m)]
    | _, _ => ms

/-- The mutations in the candidate after the steps `l`. -/
def contributions (l : List ClientStep) : List (Schema.Capabilities × Mutation) :=
  l.foldl contribute []

theorem contributions_snoc (l : List ClientStep) (x : ClientStep) :
    contributions (l ++ [x]) = contribute (contributions l) x := by
  simp [contributions]

theorem replay_snoc (cfg : Obj) (ms : List (Schema.Capabilities × Mutation))
    (m : Schema.Capabilities × Mutation) :
    replay cfg (ms ++ [m]) = (replay cfg ms).bind (applyStaged m) := by
  simp [replay]

theorem stage_quiet {env : Env} (hf : env.faults = Faults.none) (mutate : Mutation) (s : Store) :
    (∃ cfg ws, applyStaged (env.capabilities, mutate) s.candidate = some cfg ∧
        stage env mutate s = (.ok ws, { s with candidate := cfg })) ∨
      ∃ e, stage env mutate s = (.error e, s) := by
  unfold stage applyStaged
  cases hm : mutate s.candidate with
  | error e => exact Or.inr ⟨e, rfl⟩
  | ok trial =>
    cases hv : Schema.validate env.capabilities trial with
    | error e => exact Or.inr ⟨e, by simp [hv]⟩
    | ok v =>
      obtain ⟨cfg, ws⟩ := v
      exact Or.inl ⟨cfg, ws, by simp [hm, hv], by simp [hv, hf, Faults.none]⟩

theorem confirm_candidate (fault : Bool) (txid user : String) (s : Store) :
    (confirm fault txid user s).2.candidate = s.candidate := by
  unfold confirm
  split
  · rfl
  · split
    · rfl
    · dsimp only
      split
      · rfl
      · exact (same_addAudit _ _ _ _ _ _ _ _).candidate

theorem reapply_candidate {fault : Bool} {txid : String} {s t : Store} {r : Except Exn Unit}
    (h : reapply fault txid s = some (r, t)) : t.candidate = s.candidate := by
  unfold reapply at h
  split at h
  · cases h
    rfl
  · split at h
    · cases h
      rfl
    · cases h
      exact (same_addAudit _ _ _ _ _ _ _ _).candidate
  · cases h

/-- A background step leaves the candidate alone, or resets it to the running configuration. -/
theorem background_candidate {u v : Sys} {a : Action} {o : Answer} (ha : a.isBackground = true)
    (h : step u a = some (o, v)) : (v.store.running = u.store.running ∧
      v.store.candidate = u.store.candidate) ∨ v.store.candidate = v.store.running := by
  have heff := step_effect h
  cases a with
  | confirm fault txid user =>
    have hcand : v.store.candidate = u.store.candidate := by
      simp only [step, Option.some.injEq, Prod.mk.injEq] at h
      rw [← h.2]
      exact confirm_candidate fault txid user u.store
    cases heff with
    | aside ha => cases ha
    | declined => exact Or.inl ⟨rfl, rfl⟩
    | confirmed _ _ _ hrun => exact Or.inl ⟨hrun, hcand⟩
  | tick =>
    simp only [step, Option.some.injEq, Prod.mk.injEq] at h
    obtain ⟨rfl, rfl⟩ := h
    exact Or.inl ⟨rfl, rfl⟩
  | restore env txid =>
    cases heff with
    | aside ha => cases ha
    | restored _ hrun hcand => exact Or.inr (hcand.trans hrun.symm)
  | reapply fault txid =>
    cases heff with
    | aside ha => cases ha
    | reapplied _ hrun =>
      simp only [step, Option.map_eq_some_iff, Prod.mk.injEq] at h
      obtain ⟨⟨r, t⟩, hr, -, ht⟩ := h
      cases ht
      exact Or.inl ⟨hrun, reapply_candidate hr⟩
  | fire txid =>
    cases heff with
    | aside ha => cases ha
    | fired => exact Or.inl ⟨rfl, rfl⟩
  | expire txid =>
    cases heff with
    | aside ha => cases ha
    | expired => exact Or.inl ⟨rfl, rfl⟩
    | lapsed => exact Or.inl ⟨rfl, rfl⟩
  | stage env mutate => cases ha
  | discard => cases ha
  | commit env args txid => cases ha
  | loadRevision id => cases ha

/-- What a step does to the two configurations. -/
inductive CandidateEffect (u : Store) (a : ClientAction) (o : Answer) (v : Store) : Prop
  | same (hrun : v.running = u.running) (hcand : v.candidate = u.candidate)
      (hno : ∀ client env m ws, a = .stage client env m → o ≠ .warnings (.ok ws))
  | staged {client : String} {env : Env} {m : Mutation} {ws : List String}
      (ha : a = .stage client env m) (ho : o = .warnings (.ok ws)) (hrun : v.running = u.running)
      (hcand : applyStaged (env.capabilities, m) u.candidate = some v.candidate)
  | agree (h : v.candidate = v.running)

theorem candidate_effect {u v : ClientSys} {a : ClientAction} {o : Answer}
    (h : clientStep u a = some (o, v)) : CandidateEffect u.sys.store a o v.sys.store := by
  cases a with
  | stage client env mutate =>
    simp only [clientStep, Option.ite_none_right_eq_some, Option.map_eq_some_iff,
      Prod.mk.injEq, step, Option.some.injEq] at h
    obtain ⟨⟨-, hf⟩, r, rfl, rfl, rfl⟩ := h
    rcases stage_quiet hf mutate u.sys.store with ⟨cfg, ws, happ, hs⟩ | ⟨e, hs⟩
    · rw [hs]
      exact .staged rfl rfl rfl happ
    · rw [hs]
      exact .same rfl rfl (by simp)
  | commit client env args txid =>
    simp only [clientStep, Option.ite_none_right_eq_some, Option.map_eq_some_iff,
      Prod.mk.injEq] at h
    obtain ⟨⟨-, hf⟩, ⟨o', t⟩, hs, rfl, rfl⟩ := h
    cases step_effect hs with
    | aside ha => cases ha
    | committed hfresh he =>
      cases he with
      | kept hsame => exact .same hsame.running hsame.candidate (by simp)
      | backedOut hpend hrun hcand => exact .agree (hcand.trans hrun.symm)
      | installed hpend hval hgate he =>
        cases he with
        | plain hrun _ _ _ _ _ hr hfault =>
          obtain ⟨c, rfl⟩ := hfault hf
          exact .agree ((hr c rfl).2.2.1.trans hrun.symm)
        | armed _ hrun hcand => exact .agree (hcand.trans hrun.symm)
  | discard client =>
    simp only [clientStep, Option.ite_none_right_eq_some, Option.map_eq_some_iff,
      Prod.mk.injEq, step, Option.some.injEq] at h
    obtain ⟨-, r, rfl, rfl, rfl⟩ := h
    exact .agree rfl
  | background a =>
    simp only [clientStep, Option.ite_none_right_eq_some, Option.map_eq_some_iff,
      Prod.mk.injEq] at h
    obtain ⟨ha, ⟨o', t⟩, hs, rfl, rfl⟩ := h
    rcases background_candidate ha hs with ⟨hrun, hcand⟩ | h
    · exact .same hrun hcand (by simp)
    · exact .agree h

/-- **One step** keeps the account of the candidate. -/
theorem candidate_step {ms : List (Schema.Capabilities × Mutation)} {u v : ClientSys}
    {a : ClientAction} {o : Answer}
    (h : replay u.sys.store.running ms = some u.sys.store.candidate)
    (hs : clientStep u a = some (o, v)) :
    replay v.sys.store.running (contribute ms ⟨u, a, o, v⟩) = some v.sys.store.candidate := by
  by_cases hagree : v.sys.store.candidate = v.sys.store.running
  · simp [contribute, hagree, replay]
  · cases candidate_effect hs with
    | same hrun hcand hno =>
      have hc : contribute ms ⟨u, a, o, v⟩ = ms := by
        simp only [contribute, hagree, if_false]
      rw [hc, hrun, hcand, h]
    | staged ha ho hrun hcand =>
      subst ha ho
      simp only [contribute, hagree, if_false]
      rw [hrun, replay_snoc, h]
      exact hcand
    | agree h => exact absurd h hagree

/-- **The candidate** is the running configuration with the mutations staged since the two last
agreed. -/
theorem candidate_eq_replay {s : Store} {l : List ClientStep} {t : ClientSys}
    (h : Run clientStep (ClientSys.start s) l t) :
    replay t.sys.store.running (contributions l) = some t.sys.store.candidate :=
  h.record (fun k u => replay u.sys.store.running (contributions k) = some u.sys.store.candidate)
    (fun k u a o v hI hs => by
      rw [contributions_snoc]
      exact candidate_step hI hs)
    rfl

/-- A mutation stays among the contributions while the configurations differ. -/
theorem mem_contributions {m : Schema.Capabilities × Mutation} {ms} {l : List ClientStep}
    (hm : m ∈ ms) (h : ∀ y ∈ l, y.post.sys.store.candidate ≠ y.post.sys.store.running) :
    m ∈ l.foldl contribute ms := by
  induction l generalizing ms with
  | nil => exact hm
  | cons x l ih =>
    refine ih ?_ fun y hy => h y (List.mem_cons_of_mem _ hy)
    simp only [contribute, h x List.mem_cons_self, if_false]
    split
    · exact List.mem_append_left _ hm
    · exact hm

/-- What a commit that returns does to the running configuration. -/
theorem commit_returns {u v : ClientSys} {client txid : String} {env : Env} {args : CommitArgs}
    {c : CommitReturn}
    (h : clientStep u (.commit client env args txid) = some (.commit (.ok c), v)) :
    (c.changes = [] ∧ changesOf u.sys.store.running u.sys.store.candidate = [] ∧
        v.sys.store.running = u.sys.store.running) ∨
      ∃ warnings, Schema.validate env.capabilities u.sys.store.candidate =
        .ok (v.sys.store.running, warnings) := by
  simp only [clientStep, Option.ite_none_right_eq_some, Option.map_eq_some_iff,
    Prod.mk.injEq] at h
  obtain ⟨-, ⟨o', t⟩, hs, rfl, rfl⟩ := h
  cases step_effect hs with
  | aside ha => cases ha
  | committed hfresh he =>
    cases he with
    | kept hsame hr => exact Or.inl ⟨(hr c rfl).2.2.1, (hr c rfl).2.1, hsame.running⟩
    | installed hpend hval hgate he =>
      right
      cases he with
      | plain hrun => rw [hrun]; exact ⟨_, hval⟩
      | armed _ hrun => rw [hrun]; exact ⟨_, hval⟩

/-- **What a successful commit installs**, under every interleaving: the mutations that all clients
staged since the candidate and the running configuration last agreed, over the running configuration
and normalised by validation, or nothing when that equals the running configuration.  The client's
own mutation is among them unless the two agreed at some point since it was staged. -/
theorem commit_installs_contributions {s : Store} {l : List ClientStep} {t : ClientSys}
    (h : Run clientStep (ClientSys.start s) l t) :
    ∀ l₁ x l₂ client env args txid c, l = l₁ ++ x :: l₂ →
      x.act = .commit client env args txid → x.out = .commit (.ok c) →
      (∃ candidate, replay x.pre.sys.store.running (contributions l₁) = some candidate ∧
        ((c.changes = [] ∧ changesOf x.pre.sys.store.running candidate = [] ∧
            x.post.sys.store.running = x.pre.sys.store.running) ∨
          ∃ warnings, Schema.validate env.capabilities candidate =
            .ok (x.post.sys.store.running, warnings))) ∧
      ∀ m₁ a m₂ env' m ws, l₁ = m₁ ++ a :: m₂ → a.act = .stage client env' m →
        a.out = .warnings (.ok ws) →
        (∀ y ∈ a :: m₂, y.post.sys.store.candidate ≠ y.post.sys.store.running) →
        (env'.capabilities, m) ∈ contributions l₁ := by
  rintro l₁ ⟨u, b, o, v⟩ l₂ client env args txid c rfl hb ho
  dsimp only at hb ho
  subst hb ho
  obtain ⟨h₁, hs, -⟩ := Run.step_at l₁ h
  refine ⟨⟨_, candidate_eq_replay h₁, commit_returns hs⟩, ?_⟩
  rintro m₁ a m₂ env' m ws rfl ha hao hdiff
  rw [contributions, List.foldl_append, List.foldl_cons]
  refine mem_contributions ?_ fun y hy => hdiff y (List.mem_cons_of_mem _ hy)
  simp [contribute, hdiff a List.mem_cons_self, ha, hao]

/-- Two clients stage and commit one after the other. -/
def oneByOne : List ClientAction :=
  [.stage "a" .quiet (setHostname "gw-a"), .commit "a" .quiet .plain "t1",
   .stage "b" .quiet (setHostname "gw-b"), .commit "b" .quiet .plain "t2"]

theorem commit_installs_contributions_oneByOne :
    ∃ l t, Run clientStep (ClientSys.start .blank) l t ∧ l.map Step.act = oneByOne ∧
      ∀ l₁ x l₂ client env args txid c, l = l₁ ++ x :: l₂ →
        x.act = .commit client env args txid → x.out = .commit (.ok c) →
        ∃ candidate, replay x.pre.sys.store.running (contributions l₁) = some candidate := by
  have htest : ((play clientStep (ClientSys.start .blank) oneByOne).any fun _ => true) = true := by
    decide +kernel
  obtain ⟨l, t, hrun, hacts, -⟩ := Run.of_test (fun _ _ => true) htest
  refine ⟨l, t, hrun, hacts, fun l₁ x l₂ client env args txid c hl hx ho => ?_⟩
  obtain ⟨⟨candidate, hc, -⟩, -⟩ :=
    commit_installs_contributions hrun l₁ x l₂ client env args txid c hl hx ho
  exact ⟨candidate, hc⟩

/-! ### Two clients -/

/-- `a` and `x` are the `stage` and the commit of one request that succeeded. -/
def Request (l : List ClientStep) (env : Env) (m : Mutation) (x : ClientStep) : Prop :=
  ∃ l₁ a l₂ l₃ client env' args txid ws c, l = l₁ ++ a :: l₂ ++ x :: l₃ ∧
    a.act = .stage client env m ∧ a.out = .warnings (.ok ws) ∧
    (∀ y ∈ l₂, ∀ env'' args' txid', y.act ≠ .commit client env'' args' txid') ∧
    x.act = .commit client env' args txid ∧ x.out = .commit (.ok c)

/-- A mutation that changes nothing when it is applied again. -/
def Idempotent (m : Mutation) : Prop := ∀ cfg cfg', m cfg = .ok cfg' → m cfg' = .ok cfg'

/-- After a request that succeeded its own mutation is in force. -/
def OwnIncluded (l : List ClientStep) : Prop :=
  ∀ env m x, Request l env m x → Idempotent m →
    m x.post.sys.store.running = .ok x.post.sys.store.running

/-- A request that succeeded changes the running configuration by its own mutation alone. -/
def OwnOnly (l : List ClientStep) : Prop :=
  ∀ env m x, Request l env m x →
    applyStaged (env.capabilities, m) x.pre.sys.store.running = some x.post.sys.store.running

theorem setHostname_idempotent (name : String) : Idempotent (setHostname name) := by
  intro cfg cfg' h
  unfold setHostname at h
  split at h
  · cases h
    simp [setHostname, Dict.set_set]
  · cases h
  · cases h

/-- An environment whose preflight refuses everything. -/
def Env.refusing : Env :=
  { Env.quiet with
    appliers := [⟨"netd", some fun _ _ => .ok (false, ["not now"]), fun _ _ => .ok ⟨true, [], false⟩⟩] }

/-- `b`'s mutation goes with the discard of `a`, whose commit was refused. -/
def discardedByOther : List ClientAction :=
  [.stage "a" .quiet (setHostname "gw-a"), .stage "b" .quiet (setHostname "gw-b"),
   .commit "a" .refusing .plain "t1", .discard "a", .commit "b" .quiet .plain "t2"]

/-- Fan mode `quiet`. -/
def quietFan : Mutation := fun cfg =>
  match Dict.lookup "system" cfg with
  | some (.obj sys) =>
    .ok (Dict.set "system" (.obj (Dict.set "fan" (.obj [("mode", .str "quiet")]) sys)) cfg)
  | _ => .error (.key "'system'")

/-- `a` commits its own mutation and the one that `b` has staged. -/
def committedByOther : List ClientAction :=
  [.stage "b" .quiet (setHostname "gw-b"), .stage "a" .quiet quietFan,
   .commit "a" .quiet .plain "t1"]

/-- Has the step returned success? -/
def succeeded (x : ClientStep) : Bool :=
  match x.out with
  | .commit (.ok _) => true
  | _ => false

theorem ok_of_succeeded {x : ClientStep} (h : succeeded x = true) :
    ∃ c, x.out = .commit (.ok c) := by
  unfold succeeded at h
  split at h
  · exact ⟨_, by assumption⟩
  · cases h

/-- Has `stage` accepted the mutation? -/
def stagedOk (x : ClientStep) : Bool :=
  match x.out with
  | .warnings (.ok _) => true
  | _ => false

theorem ok_of_stagedOk {x : ClientStep} (h : stagedOk x = true) :
    ∃ ws, x.out = .warnings (.ok ws) := by
  unfold stagedOk at h
  split at h
  · exact ⟨_, by assumption⟩
  · cases h

/-- Is the host name of the last step's configuration another one than `b` asked for? -/
def ownLost (l : List ClientStep) : Bool :=
  match l with
  | [_, b, _, _, x] =>
    stagedOk b && succeeded x &&
      match setHostname "gw-b" x.post.sys.store.running with
      | .ok cfg => decide (cfg ≠ x.post.sys.store.running)
      | .error _ => true
  | _ => false

/-- Has the last step changed more than `a` asked for? -/
def otherBorrowed (l : List ClientStep) : Bool :=
  match l with
  | [_, a, x] =>
    stagedOk a && succeeded x &&
      decide (applyStaged (Env.quiet.capabilities, quietFan) x.pre.sys.store.running ≠
        some x.post.sys.store.running)
  | _ => false

/-- Requests of two clients lose a mutation, and take one along. -/
theorem updates_lost_and_borrowed :
    (∃ s l t, Run clientStep (ClientSys.start s) l t ∧ ¬ OwnIncluded l) ∧
      ∃ s l t, Run clientStep (ClientSys.start s) l t ∧ ¬ OwnOnly l := by
  constructor
  · have htest : ((play clientStep (ClientSys.start .blank) discardedByOther).any
        fun r => ownLost r.1) = true := by decide +kernel
    obtain ⟨l, t, hrun, hacts, ht⟩ := Run.of_test (fun l _ => ownLost l) htest
    refine ⟨_, l, t, hrun, fun hown => ?_⟩
    unfold ownLost at ht
    split at ht
    · rename_i y₁ b y₂ y₃ x
      simp only [discardedByOther, List.map_cons, List.map_nil, List.cons.injEq, and_true] at hacts
      obtain ⟨-, hb, h₂, h₃, hx⟩ := hacts
      simp only [Bool.and_eq_true] at ht
      obtain ⟨⟨hbo, hxo⟩, hne⟩ := ht
      obtain ⟨ws, hbo⟩ := ok_of_stagedOk hbo
      obtain ⟨c, hxo⟩ := ok_of_succeeded hxo
      have hreq : Request [y₁, b, y₂, y₃, x] .quiet (setHostname "gw-b") x :=
        ⟨[y₁], b, [y₂, y₃], [], "b", _, _, _, ws, c, rfl, hb, hbo, by simp [h₂, h₃], hx, hxo⟩
      rw [hown _ _ _ hreq (setHostname_idempotent _)] at hne
      simp at hne
    · cases ht
  · have htest : ((play clientStep (ClientSys.start .blank) committedByOther).any
        fun r => otherBorrowed r.1) = true := by decide +kernel
    obtain ⟨l, t, hrun, hacts, ht⟩ := Run.of_test (fun l _ => otherBorrowed l) htest
    refine ⟨_, l, t, hrun, fun hown => ?_⟩
    unfold otherBorrowed at ht
    split at ht
    · rename_i y₁ a x
      simp only [committedByOther, List.map_cons, List.map_nil, List.cons.injEq, and_true] at hacts
      obtain ⟨-, ha, hx⟩ := hacts
      simp only [Bool.and_eq_true, decide_eq_true_eq] at ht
      obtain ⟨⟨hao, hxo⟩, hne⟩ := ht
      obtain ⟨ws, hao⟩ := ok_of_stagedOk hao
      obtain ⟨c, hxo⟩ := ok_of_succeeded hxo
      have hreq : Request [y₁, a, x] .quiet quietFan x :=
        ⟨[y₁], a, [], [], "a", _, _, _, ws, c, rfl, ha, hao, by simp, hx, hxo⟩
      exact hne (hown _ _ _ hreq)
    · cases ht

end Sbegw.Configd
