import Sbegw.Configd.Failure
import Sbegw.Authd.Sessions
import Sbegw.Api.Requests

/-!
# First-run setup, many times at once

`POST /setup` looks at the running configuration, stages an owner into the shared candidate, commits
and signs in, and other threads may do the same in between.  Two requests that both find no user set
up an owner each; where a request stages only while neither document has a user, one account comes
out of all of them.
-/

namespace Sbegw.Api

open Machine
open Configd (Draft Store)
open Authd (account ownerDraft)

/-! ### One request -/

/-- What `post_setup` checks before it stages: the name and the password of the owner. -/
def setupCheck (w : World) (ctx : Ctx) (g : Gateway) : Except Exn (String × String) := do
  let body ← ctx.json
  let username ← (needKey "username" body).bind asName
  let password ← needKey "password" body
  if !Authd.needsSetup g.store.running then
    .error (.permission "initial setup has already been completed")
  let password ← Authd.validatePassword w.auth password
  return (username, password)

/-- The next step of a request. -/
inductive SetupPhase where
  | check
  | stage (username password : String)
  | commit (username password : String)
  | login (username password : String)
  | done (outcome : Except Exn Authd.Session)

/-- A request to `POST /setup`. -/
structure SetupCall where
  ctx : Ctx
  phase : SetupPhase

namespace SetupCall

/-- The next step of a request. -/
def advance (w : World) (c : SetupCall) (g : Gateway) : SetupPhase × Gateway :=
  match c.phase with
  | .check =>
    match setupCheck w c.ctx g with
    | .error e => (.done (.error (setupError e)), g)
    | .ok (username, password) => (.stage username password, g)
  | .stage username password =>
    match Configd.stage w.env (ownerDraft w.auth username password).mutate g.store with
    | (.error e, s) => (.done (.error (setupError e)), { g with store := s })
    | (.ok _, s) => (.commit username password, { g with store := s })
  | .commit username password =>
    match Configd.commit w.env (ownerDraft w.auth username password).args (w.txid 0) g.store with
    | (.error e, s) => (.done (.error (setupError e)), { g with store := s })
    | (.ok _, s) => (.login username password, { g with store := s })
  | .login username password =>
    let r := g.auth.login w.auth g.store.running username password c.ctx.sourceIp c.ctx.agent .null
    (.done r.1, { g with auth := r.2 })
  | .done outcome => (.done outcome, g)

/-- Steps of a request that nobody else comes between. -/
def drive (w : World) : ℕ → SetupCall → Gateway → SetupPhase × Gateway
  | 0, c, g => (c.phase, g)
  | n + 1, c, g =>
    let r := c.advance w g
    drive w n { c with phase := r.1 } r.2

end SetupCall

/-- The answer to a request that is done. -/
def SetupPhase.reply : SetupPhase → Option (Except Exn Json)
  | .done outcome => some (outcome.map setupReply)
  | _ => none

theorem setupDraft_eq (w : World) (ctx : Ctx) (g : Gateway) : setupDraft w ctx g =
    (setupCheck w ctx g).map fun r => (r.1, .str r.2, ownerDraft w.auth r.1 r.2) := by
  unfold setupDraft setupCheck
  cases ctx.json with
  | error e => rfl
  | ok body =>
    rw [ok_bind, ok_bind]
    cases (needKey "username" body).bind asName with
    | error e => rfl
    | ok username =>
      rw [ok_bind, ok_bind]
      cases needKey "password" body with
      | error e => rfl
      | ok password =>
        rw [ok_bind, ok_bind, Authd.createOwner_eq]
        cases Authd.needsSetup g.store.running with
        | false => rfl
        | true =>
          cases hv : Authd.validatePassword w.auth password with
          | error e => rfl
          | ok p =>
            rw [Authd.validatePassword_eq_ok hv]
            rfl

namespace SetupCall

theorem drive_done (w : World) (ctx : Ctx) (outcome : Except Exn Authd.Session) (g : Gateway) :
    ∀ n, drive w n ⟨ctx, .done outcome⟩ g = (.done outcome, g)
  | 0 => rfl
  | n + 1 => drive_done w ctx outcome g n

/-- **A request on its own is `post_setup`.** -/
theorem drive_check (w : World) (ctx : Ctx) (g : Gateway) :
    let r := drive w 4 ⟨ctx, .check⟩ g
    r.1.reply = some (postSetup w ctx g).1 ∧ r.2 = (postSetup w ctx g).2 := by
  unfold postSetup
  rw [setupDraft_eq, drive]
  unfold advance
  dsimp only
  cases setupCheck w ctx g with
  | error e =>
    dsimp only [Except.map]
    rw [drive_done]
    exact ⟨rfl, rfl⟩
  | ok r =>
    obtain ⟨username, password⟩ := r
    dsimp only [Except.map]
    unfold submitOf Configd.submit
    dsimp only
    rw [drive]
    unfold advance
    dsimp only
    rcases Configd.stage w.env (ownerDraft w.auth username password).mutate g.store with ⟨e | ws, s⟩
    · dsimp only
      rw [drive_done]
      exact ⟨rfl, rfl⟩
    · dsimp only
      rw [drive]
      unfold advance
      dsimp only
      rcases Configd.commit w.env (ownerDraft w.auth username password).args (w.txid 0) s with
        ⟨e | r, s'⟩
      · dsimp only
        rw [drive_done]
        exact ⟨rfl, rfl⟩
      · dsimp only
        rw [drive, drive]
        unfold advance
        dsimp only
        have hpassword : Schema.pyStr (.str password) = password := by simp [Schema.pyStr]
        rw [hpassword]
        rcases g.auth.login w.auth s'.running username password ctx.sourceIp ctx.agent .null with
          ⟨e | r, m⟩
        · exact ⟨rfl, rfl⟩
        · exact ⟨rfl, rfl⟩

end SetupCall

/-! ### The machine -/

/-- The gateway and the requests by number. -/
structure Setups where
  gateway : Gateway
  calls : Dict ℕ SetupCall

/-- What can happen: a request comes in, or one takes its next step. -/
inductive SetupAction where
  | request (id : ℕ) (ctx : Ctx)
  | advance (id : ℕ) (w : World)

/-- The transition function. -/
def setupStep (s : Setups) : SetupAction → Option (Unit × Setups)
  | .request id ctx =>
    match Dict.lookup id s.calls with
    | some _ => none
    | none => some ((), { s with calls := Dict.set id ⟨ctx, .check⟩ s.calls })
  | .advance id w =>
    match Dict.lookup id s.calls with
    | none => none
    | some c =>
      let r := c.advance w s.gateway
      some ((), ⟨r.2, Dict.set id { c with phase := r.1 } s.calls⟩)

/-- A run of concurrent requests. -/
abbrev SetupRun := Run setupStep

/-- A step of a run. -/
abbrev SetupsStep := Machine.Step Setups SetupAction Unit

/-- Before the first request. -/
def Setups.start (g : Gateway) : Setups := ⟨g, []⟩

/-- The document has an account of the name. -/
def Has (cfg : Obj) (username : String) : Prop := (account cfg username).isSome = true

/-- The account a request was answered with success for. -/
def SetupCall.owner (c : SetupCall) : Option String :=
  match c.phase with
  | .done (.ok session) => some session.username
  | _ => none

/-- The request was answered with success, for the account of the name. -/
def Setups.Succeeded (s : Setups) (id : ℕ) (username : String) : Prop :=
  (Dict.lookup id s.calls).bind SetupCall.owner = some username

theorem Setups.succeeded_iff {s : Setups} {id : ℕ} {username : String} :
    s.Succeeded id username ↔ ∃ ctx session,
      Dict.lookup id s.calls = some ⟨ctx, .done (.ok session)⟩ ∧ session.username = username := by
  unfold Setups.Succeeded
  rw [Option.bind_eq_some_iff]
  constructor
  · rintro ⟨⟨ctx, phase⟩, hc, ho⟩
    unfold SetupCall.owner at ho
    split at ho
    · next session hphase =>
      dsimp only at hphase
      rw [hphase] at hc
      exact ⟨ctx, session, hc, Option.some.inj ho⟩
    · cases ho
  · rintro ⟨ctx, session, hc, rfl⟩
    exact ⟨_, hc, rfl⟩

/-! ### What a step does to the accounts -/

section

variable {w : World} {username password : String} {s t : Store}

/-- Staging an owner adds its account to the candidate, and leaves the others there. -/
theorem stage_accounts (w : World) (username password : String) (s : Store) :
    let r := Configd.stage w.env (ownerDraft w.auth username password).mutate s
    r.2.running = s.running ∧ (∀ n, Has s.candidate n → Has r.2.candidate n) ∧
      (∀ n, Has r.2.candidate n → Has s.candidate n ∨ n = username) ∧
      ((∃ ws, r.1 = .ok ws) → Has r.2.candidate username) := by
  have hstaged : ∀ t, Configd.Stages w.env (ownerDraft w.auth username password) s t →
      ∀ n, Has t n ↔ Has s.candidate n ∨ n = username := by
    rintro t ⟨trial, ws, hm, hv⟩ n
    unfold Has
    rw [Authd.account_isSome_validate hv, Authd.account_ownerDraft hm]
    by_cases hn : n = username
    · simp [hn]
    · simp [hn]
  rcases Configd.stage_cases w.env (ownerDraft w.auth username password) s with
    ⟨-, e, he⟩ | ⟨t, ht, ⟨-, he⟩ | ⟨-, ws, he⟩⟩
  · rw [he]
    exact ⟨rfl, fun n hn => hn, fun n hn => Or.inl hn, fun ⟨ws, h⟩ => by cases h⟩
  · rw [he]
    exact ⟨rfl, fun n hn => (hstaged t ht n).mpr (Or.inl hn), fun n => (hstaged t ht n).mp,
      fun ⟨ws, h⟩ => by cases h⟩
  · rw [he]
    exact ⟨rfl, fun n hn => (hstaged t ht n).mpr (Or.inl hn), fun n => (hstaged t ht n).mp,
      fun _ => (hstaged t ht username).mpr (Or.inr rfl)⟩

/-- A commit keeps the accounts of the running configuration, and makes none that the candidate did
not have; one that returns leaves all of the candidate's in it. -/
theorem commit_accounts (env : Configd.Env) (args : Configd.CommitArgs) (txid : String) (s : Store)
    (hsub : ∀ n, Has s.running n → Has s.candidate n) :
    let r := Configd.commit env args txid s
    (∀ n, Has s.running n → Has r.2.running n) ∧ (∀ n, Has r.2.running n → Has r.2.candidate n) ∧
      (∀ n, Has r.2.candidate n → Has s.candidate n) ∧
      ((∃ c, r.1 = .ok c) → ∀ n, Has s.candidate n → Has r.2.candidate n) := by
  have hnew : ∀ new, Configd.Applies env args s new → ∀ n, Has new n ↔ Has s.candidate n := by
    intro new happ n
    obtain ⟨ws, hv⟩ := happ.valid
    unfold Has
    rw [Authd.account_isSome_validate hv]
  rcases Configd.commit_ends false env args s with ⟨ds, hc⟩ | ⟨ds, hc⟩
  · obtain ⟨c, t, ht, hdocs, -⟩ := @Configd.commit_settles env args txid s ds hc
    rw [ht]
    have hrunning : t.running = ds.running := by rw [← hdocs]; rfl
    have hcandidate : t.candidate = ds.candidate := by rw [← hdocs]; rfl
    dsimp only
    rw [hrunning, hcandidate]
    cases hc with
    | idle _ _ _ => exact ⟨fun n hn => hn, hsub, fun n hn => hn, fun _ n hn => hn⟩
    | installed happ _ _ _ =>
      refine ⟨?_, fun n hn => hn, fun n => (hnew _ happ n).mp, fun _ n => (hnew _ happ n).mpr⟩
      intro n hn
      exact (hnew _ happ n).mpr (hsub n hn)
  · obtain ⟨e, t, ht, hdocs, -⟩ := @Configd.commit_fails env args txid s false ds hc
    have hsame : Configd.afterError false e t = t := by cases e <;> rfl
    rw [hsame] at hdocs
    rw [ht]
    have hrunning : t.running = ds.running := by rw [← hdocs]; rfl
    have hcandidate : t.candidate = ds.candidate := by rw [← hdocs]; rfl
    dsimp only
    rw [hrunning, hcandidate]
    suffices h : (∀ n, Has s.running n → Has ds.running n) ∧
        (∀ n, Has ds.running n → Has ds.candidate n) ∧ ∀ n, Has ds.candidate n → Has s.candidate n from
      ⟨h.1, h.2.1, h.2.2, fun ⟨c, hok⟩ => by cases hok⟩
    have hkeep : (∀ n, Has s.running n → Has s.running n) ∧
        (∀ n, Has s.running n → Has s.candidate n) ∧ ∀ n, Has s.candidate n → Has s.candidate n :=
      ⟨fun n hn => hn, hsub, fun n hn => hn⟩
    cases hc with
    | locked _ => exact hkeep
    | invalid _ _ _ => exact hkeep
    | @broken e _ _ _ _ =>
      have he : Configd.afterError false e s = s := by cases e <;> rfl
      rw [he]
      exact hkeep
    | preflight _ _ _ _ => exact hkeep
    | checkpoint _ _ _ _ _ => exact hkeep
    | backedOut _ _ => exact ⟨fun n hn => hn, fun n hn => hn, hsub⟩
    | unwritten happ _ _ =>
      refine ⟨?_, fun n => (hnew _ happ n).mp, fun n hn => hn⟩
      intro n hn
      exact (hnew _ happ n).mpr (hsub n hn)
    | unrecorded happ _ _ _ =>
      refine ⟨?_, fun n hn => hn, fun n => (hnew _ happ n).mp⟩
      intro n hn
      exact (hnew _ happ n).mpr (hsub n hn)

/-- A sign-in that succeeds is one of an account of the running configuration. -/
theorem has_of_login {env : Authd.Env} {running : Obj} {sourceIp agent : String} {totp : Json}
    {m m' : Authd.AuthManager} {session : Authd.Session}
    (h : m.login env running username password sourceIp agent totp = (.ok session, m')) :
    Has running session.username := by
  rcases Authd.login_cases env running ⟨username, password, sourceIp, agent, totp, .verify⟩ m with
    ⟨e, m'', he, -⟩ | ⟨user, r, m'', hr, hrecord, -, hout⟩
  · rw [he] at h
    cases h
  · rw [hr] at h
    obtain ⟨rfl, -⟩ := Prod.mk.inj h
    have hhas : Has running username := by
      unfold Authd.recordOf at hrecord
      unfold Has account
      cases hu : (Authd.usersOf running).get? username with
      | none => simp [hu] at hrecord
      | some v => rfl
    rcases hout with ⟨-, hok⟩ | ⟨-, herr⟩
    · rw [Except.ok.inj hok]
      exact hhas
    · cases herr

end

/-! ### What a run keeps -/

/-- The request has staged its account and has not failed. -/
def SetupPhase.took : SetupPhase → Bool
  | .commit _ _ | .login _ _ | .done (.ok _) => true
  | _ => false

section

variable {w : World} {c : SetupCall} {g : Gateway}

/-- A step keeps the accounts of the running configuration, and a request succeeds for one of
them. -/
theorem advance_running (w : World) (c : SetupCall) (g : Gateway)
    (hsub : ∀ n, Has g.store.running n → Has g.store.candidate n) :
    let r := c.advance w g
    (∀ n, Has g.store.running n → Has r.2.store.running n) ∧
      (∀ n, Has r.2.store.running n → Has r.2.store.candidate n) ∧
      ∀ session, r.1 = .done (.ok session) →
        c.phase = .done (.ok session) ∨ Has r.2.store.running session.username := by
  obtain ⟨ctx, phase⟩ := c
  unfold SetupCall.advance
  cases phase with
  | check =>
    dsimp only
    split
    · exact ⟨fun n hn => hn, hsub, fun session hs => by cases hs⟩
    · exact ⟨fun n hn => hn, hsub, fun session hs => by cases hs⟩
  | stage username password =>
    obtain ⟨hrun, hkept, -, -⟩ := stage_accounts w username password g.store
    dsimp only at hrun hkept ⊢
    split
    · next h =>
      rw [h] at hrun hkept
      dsimp only at hrun hkept ⊢
      rw [hrun]
      exact ⟨fun n hn => hn, fun n hn => hkept n (hsub n hn), fun session hs => by cases hs⟩
    · next h =>
      rw [h] at hrun hkept
      dsimp only at hrun hkept ⊢
      rw [hrun]
      exact ⟨fun n hn => hn, fun n hn => hkept n (hsub n hn), fun session hs => by cases hs⟩
  | commit username password =>
    obtain ⟨hrun, hkept, -, -⟩ := commit_accounts w.env (ownerDraft w.auth username password).args
      (w.txid 0) g.store hsub
    dsimp only at hrun hkept ⊢
    split
    · next h =>
      rw [h] at hrun hkept
      exact ⟨hrun, hkept, fun session hs => by cases hs⟩
    · next h =>
      rw [h] at hrun hkept
      exact ⟨hrun, hkept, fun session hs => by cases hs⟩
  | login username password =>
    refine ⟨fun n hn => hn, hsub, ?_⟩
    intro session hs
    right
    rcases hl : g.auth.login w.auth g.store.running username password ctx.sourceIp ctx.agent .null
      with ⟨r, m⟩
    dsimp only at hs
    rw [hl] at hs
    have hr : r = .ok session := by simpa using hs
    rw [hr] at hl
    exact has_of_login hl
  | done outcome => exact ⟨fun n hn => hn, hsub, fun session hs => Or.inl hs⟩

/-- A step stages an account, or makes none. -/
theorem advance_candidate (w : World) (c : SetupCall) (g : Gateway)
    (hsub : ∀ n, Has g.store.running n → Has g.store.candidate n) :
    let r := c.advance w g
    (∃ username password, c.phase = .stage username password ∧
      (∀ n, Has r.2.store.candidate n → Has g.store.candidate n ∨ n = username) ∧
      (r.1.took = true → Has r.2.store.candidate username)) ∨
    ((∀ n, Has r.2.store.candidate n → Has g.store.candidate n) ∧
      (r.1.took = true → c.phase.took = true) ∧
      (r.1.took = true ∨ c.phase.took = false →
        ∀ n, Has g.store.candidate n → Has r.2.store.candidate n)) := by
  obtain ⟨ctx, phase⟩ := c
  unfold SetupCall.advance
  cases phase with
  | check =>
    right
    dsimp only
    split
    · exact ⟨fun n hn => hn, fun h => (by cases h), fun _ n hn => hn⟩
    · exact ⟨fun n hn => hn, fun h => (by cases h), fun _ n hn => hn⟩
  | stage username password =>
    left
    obtain ⟨-, -, hnew, hown⟩ := stage_accounts w username password g.store
    refine ⟨username, password, rfl, ?_⟩
    dsimp only at hnew hown ⊢
    split
    · next h =>
      rw [h] at hnew
      exact ⟨hnew, fun ht => by cases ht⟩
    · next ws s h =>
      rw [h] at hnew hown
      exact ⟨hnew, fun _ => hown ⟨ws, rfl⟩⟩
  | commit username password =>
    right
    obtain ⟨-, -, hnone, hall⟩ := commit_accounts w.env (ownerDraft w.auth username password).args
      (w.txid 0) g.store hsub
    dsimp only at hnone hall ⊢
    split
    · next h =>
      rw [h] at hnone
      refine ⟨hnone, fun ht => (by cases ht), fun ht => ?_⟩
      rcases ht with ht | ht <;> cases ht
    · next r s h =>
      rw [h] at hnone hall
      exact ⟨hnone, fun _ => rfl, fun _ => hall ⟨r, rfl⟩⟩
  | login username password =>
    right
    exact ⟨fun n hn => hn, fun _ => rfl, fun _ n hn => hn⟩
  | done outcome =>
    right
    exact ⟨fun n hn => hn, fun h => h, fun _ n hn => hn⟩

end

/-- What every run keeps. -/
structure Steady (s : Setups) : Prop where
  kept : ∀ n, Has s.gateway.store.running n → Has s.gateway.store.candidate n
  named : ∀ id n, s.Succeeded id n → Has s.gateway.store.running n

/-- The step stages an owner although a document has a user already. -/
def stagesLate (x : SetupsStep) : Bool :=
  match x.act with
  | .advance id _ =>
    match (Dict.lookup id x.pre.calls).map SetupCall.phase with
    | some (.stage _ _) => !Authd.needsSetup x.pre.gateway.store.running ||
        !Authd.needsSetup x.pre.gateway.store.candidate
    | _ => false
  | _ => false

/-- What is kept while no owner is staged late: there is one new account, and one request it is
of. -/
structure Single (g : Gateway) (s : Setups) : Prop where
  steady : Steady s
  only : ∃ u, ∀ n, Has s.gateway.store.candidate n → Has g.store.running n ∨ n = u
  one : ∀ i j c d, Dict.lookup i s.calls = some c → c.phase.took = true →
    Dict.lookup j s.calls = some d → d.phase.took = true → i = j
  held : ∀ i c, Dict.lookup i s.calls = some c → c.phase.took = true →
    ∃ n, Has s.gateway.store.candidate n

theorem steady_start {g : Gateway} (h : g.store.candidate = g.store.running) :
    Steady (Setups.start g) := by
  refine ⟨?_, ?_⟩
  · intro n hn
    show Has g.store.candidate n
    rw [h]
    exact hn
  · intro id n hn
    cases hn

section

variable {s t : Setups} {a : SetupAction} {o : Unit}

theorem Steady.step (h : Steady s) (hs : setupStep s a = some (o, t)) : Steady t := by
  cases a with
  | request id ctx =>
    unfold setupStep at hs
    cases hc : Dict.lookup id s.calls with
    | some c => simp [hc] at hs
    | none =>
      simp only [hc, Option.some.injEq, Prod.mk.injEq, true_and] at hs
      subst hs
      refine ⟨h.kept, ?_⟩
      intro i n hi
      rw [Setups.Succeeded, Dict.lookup_set] at hi
      by_cases hid : i = id
      · rw [if_pos hid] at hi
        cases hi
      · rw [if_neg hid] at hi
        exact h.named i n hi
  | advance id w =>
    unfold setupStep at hs
    cases hc : Dict.lookup id s.calls with
    | none => simp [hc] at hs
    | some c =>
      simp only [hc, Option.some.injEq, Prod.mk.injEq, true_and] at hs
      subst hs
      obtain ⟨hrun, hkept, hdone⟩ := advance_running w c s.gateway h.kept
      refine ⟨hkept, ?_⟩
      intro i n hi
      obtain ⟨ctx', session, hi, hn⟩ := Setups.succeeded_iff.mp hi
      rw [Dict.lookup_set] at hi
      by_cases hid : i = id
      · rw [if_pos hid, Option.some.injEq, SetupCall.mk.injEq] at hi
        rcases hdone session hi.2 with hphase | hhas
        · refine hrun n (h.named id n (Setups.succeeded_iff.mpr ⟨ctx', session, ?_, hn⟩))
          rw [hc, ← hi.1, ← hphase]
        · rw [← hn]
          exact hhas
      · rw [if_neg hid] at hi
        exact hrun n (h.named i n (Setups.succeeded_iff.mpr ⟨ctx', session, hi, hn⟩))

theorem Single.start {g : Gateway} (h : g.store.candidate = g.store.running) :
    Single g (Setups.start g) := by
  refine ⟨steady_start h, ⟨"", ?_⟩, ?_, ?_⟩
  · intro n hn
    have hn : Has g.store.candidate n := hn
    rw [h] at hn
    exact Or.inl hn
  · intro i j c d hc
    cases hc
  · intro i c hc
    cases hc

/-- No step takes place that stages an owner late: then no request has an account staged. -/
theorem Single.idle {g : Gateway} (h : Single g s)
    (hnone : Authd.needsSetup s.gateway.store.candidate = true) :
    ∀ i c, Dict.lookup i s.calls = some c → c.phase.took = false := by
  intro i c hc
  by_contra htook
  obtain ⟨n, hn⟩ := h.held i c hc (by simpa using htook)
  unfold Has at hn
  rw [Authd.account_of_needsSetup hnone] at hn
  cases hn

theorem Single.step {g : Gateway} (h : Single g s) (hs : setupStep s a = some (o, t))
    (hlate : stagesLate ⟨s, a, o, t⟩ = false) : Single g t := by
  have hsteady := h.steady.step hs
  cases a with
  | request id ctx =>
    unfold setupStep at hs
    cases hc : Dict.lookup id s.calls with
    | some c => simp [hc] at hs
    | none =>
      simp only [hc, Option.some.injEq, Prod.mk.injEq, true_and] at hs
      subst hs
      have hold : ∀ i c, Dict.lookup i (Dict.set id ⟨ctx, .check⟩ s.calls) = some c →
          c.phase.took = true → Dict.lookup i s.calls = some c := by
        intro i c hi htook
        rw [Dict.lookup_set] at hi
        by_cases hid : i = id
        · rw [if_pos hid, Option.some.injEq] at hi
          rw [← hi] at htook
          cases htook
        · rwa [if_neg hid] at hi
      refine ⟨hsteady, h.only, ?_, ?_⟩
      · intro i j c d hi hci hj hdj
        exact h.one i j c d (hold i c hi hci) hci (hold j d hj hdj) hdj
      · intro i c hi hci
        exact h.held i c (hold i c hi hci) hci
  | advance id w =>
    unfold setupStep at hs
    cases hc : Dict.lookup id s.calls with
    | none => simp [hc] at hs
    | some c =>
      simp only [hc, Option.some.injEq, Prod.mk.injEq, true_and] at hs
      subst hs
      have hold : ∀ i d, i ≠ id → Dict.lookup i (Dict.set id
          { c with phase := (c.advance w s.gateway).1 } s.calls) = some d →
          Dict.lookup i s.calls = some d := by
        intro i d hid hi
        rwa [Dict.lookup_set, if_neg hid] at hi
      have hown : ∀ d, Dict.lookup id (Dict.set id
          { c with phase := (c.advance w s.gateway).1 } s.calls) = some d →
          d.phase = (c.advance w s.gateway).1 := by
        intro d hd
        rw [Dict.lookup_set_self, Option.some.injEq] at hd
        rw [← hd]
      rcases advance_candidate w c s.gateway h.steady.kept with
        ⟨username, password, hphase, hnew, hhas⟩ | ⟨hnone, hfrom, hkeep⟩
      · -- the request stages its owner: before, there was neither a user nor a staged owner
        simp only [stagesLate, hc, hphase, Option.map_some, Bool.or_eq_false_iff,
          Bool.not_eq_false'] at hlate
        have hidle := h.idle hlate.2
        refine ⟨hsteady, ⟨username, ?_⟩, ?_, ?_⟩
        · intro n hn
          rcases hnew n hn with hcand | hn
          · unfold Has at hcand
            rw [Authd.account_of_needsSetup hlate.2] at hcand
            cases hcand
          · exact Or.inr hn
        · intro i j d e hi hdi hj hej
          have hid : ∀ k f, Dict.lookup k (Dict.set id
              { c with phase := (c.advance w s.gateway).1 } s.calls) = some f →
              f.phase.took = true → k = id := by
            intro k f hk hfk
            by_contra hne
            rw [hidle k f (hold k f hne hk)] at hfk
            cases hfk
          rw [hid i d hi hdi, hid j e hj hej]
        · intro i d hi hdi
          by_cases hid : i = id
          · rw [hid] at hi
            rw [hown d hi] at hdi
            exact ⟨username, hhas hdi⟩
          · rw [hidle i d (hold i d hid hi)] at hdi
            cases hdi
      · obtain ⟨u, hu⟩ := h.only
        have htook : ∀ i d, Dict.lookup i (Dict.set id
            { c with phase := (c.advance w s.gateway).1 } s.calls) = some d → d.phase.took = true →
            ∃ d', Dict.lookup i s.calls = some d' ∧ d'.phase.took = true := by
          intro i d hi hdi
          by_cases hid : i = id
          · rw [hid] at hi ⊢
            rw [hown d hi] at hdi
            exact ⟨c, hc, hfrom hdi⟩
          · exact ⟨d, hold i d hid hi, hdi⟩
        refine ⟨hsteady, ⟨u, fun n hn => hu n (hnone n hn)⟩, ?_, ?_⟩
        · intro i j d e hi hdi hj hej
          obtain ⟨d', hi', hdi'⟩ := htook i d hi hdi
          obtain ⟨e', hj', hej'⟩ := htook j e hj hej
          exact h.one i j d' e' hi' hdi' hj' hej'
        · intro i d hi hdi
          obtain ⟨d', hi', hdi'⟩ := htook i d hi hdi
          obtain ⟨n, hn⟩ := h.held i d' hi' hdi'
          by_cases hid : i = id
          · rw [hid] at hi
            rw [hown d hi] at hdi
            exact ⟨n, hkeep (Or.inl hdi) n hn⟩
          · -- another request moved, which has no account staged: the candidate stays as it is
            have hother : c.phase.took = false := by
              by_contra htc
              exact hid (h.one i id d' c hi' hdi' hc (by simpa using htc))
            exact ⟨n, hkeep (Or.inr hother) n hn⟩

end

/-- **One setup takes effect.**  In every run of concurrent requests every request that was answered
with success has its account in the running configuration; and where no owner is staged while a
document has a user already, there is at most one new account, and at most one such request. -/
theorem setup_once {g : Gateway} (hg : g.store.candidate = g.store.running)
    {l : List SetupsStep} {s : Setups} (h : SetupRun (Setups.start g) l s) :
    (∀ id n, s.Succeeded id n → Has s.gateway.store.running n) ∧
      ((∀ x ∈ l, stagesLate x = false) →
        (∀ m n, Has s.gateway.store.running m → ¬ Has g.store.running m →
          Has s.gateway.store.running n → ¬ Has g.store.running n → m = n) ∧
        ∀ i j m n, s.Succeeded i m → s.Succeeded j n → i = j) := by
  have hsteady : Steady s :=
    h.invariant Steady (fun _ _ _ _ hu hs => hu.step hs) (steady_start hg)
  refine ⟨hsteady.named, ?_⟩
  intro hlate
  have hsingle : Single g s := by
    refine h.history (fun _ s => Single g s) (fun _ x => stagesLate x = false) ?_ []
      (Single.start hg) ?_
    · intro _ u a o v hu hs hx
      exact hu.step hs hx
    · intro l₁ x l₂ hl
      exact hlate x (by simp [hl])
  constructor
  · intro m n hm hm' hn hn'
    obtain ⟨u, hu⟩ := hsingle.only
    have hmu : m = u := (hu m (hsteady.kept m hm)).resolve_left hm'
    have hnu : n = u := (hu n (hsteady.kept n hn)).resolve_left hn'
    rw [hmu, hnu]
  · intro i j m n hi hj
    obtain ⟨ctx, session, hi, -⟩ := Setups.succeeded_iff.mp hi
    obtain ⟨ctx', session', hj, -⟩ := Setups.succeeded_iff.mp hj
    exact hsingle.one i j _ _ hi rfl hj rfl

/-! ### Two owners -/

/-- A store that has just been built, with nobody signed in. -/
def Gateway.fresh : Gateway where
  store := Configd.Store.blank.restart
  clients := ⟨[], [], 0, []⟩
  auth := Authd.AuthManager.blank

/-- The context of a request for setup. -/
def setupCtx (username password : String) : Ctx where
  principal := none
  sourceIp := "192.168.1.20"
  agent := "browser"
  sessionToken := none
  body := .json (.obj [("username", .str username), ("password", .str password)])

/-- Two requests that take turns. -/
def twoSetups : List SetupAction :=
  [.request 0 (setupCtx "alice" "Correct-Horse-1"), .request 1 (setupCtx "mallory" "Battery-Staple-2")]
    ++ (List.replicate 4 [0, 1]).flatten.map fun id => .advance id (World.plain 0)

/-- Both requests find no user, and both succeed: two owners. -/
theorem setup_twice : ∃ l s, SetupRun (Setups.start Gateway.fresh) l s ∧
    l.map Step.act = twoSetups ∧ (∀ n, ¬ Has Gateway.fresh.store.running n) ∧
    Has s.gateway.store.running "alice" ∧ Has s.gateway.store.running "mallory" ∧
    s.Succeeded 0 "alice" ∧ s.Succeeded 1 "mallory" := by
  obtain ⟨l, s, hrun, hacts, htest⟩ := @Run.of_test _ _ _ setupStep (Setups.start Gateway.fresh)
    twoSetups (fun _ s => (account s.gateway.store.running "alice").isSome &&
      (account s.gateway.store.running "mallory").isSome &&
      decide ((Dict.lookup 0 s.calls).bind SetupCall.owner = some "alice") &&
      decide ((Dict.lookup 1 s.calls).bind SetupCall.owner = some "mallory")) (by decide +kernel)
  simp only [Bool.and_eq_true, decide_eq_true_eq] at htest
  obtain ⟨⟨⟨halice, hmallory⟩, hfirst⟩, hsecond⟩ := htest
  refine ⟨l, s, hrun, hacts, ?_, halice, hmallory, hfirst, hsecond⟩
  intro n hn
  have hnone : Authd.needsSetup Gateway.fresh.store.running = true := by decide +kernel
  rw [Has, Authd.account_of_needsSetup hnone] at hn
  cases hn

/-- Two requests, the second one after the first is done. -/
def setupThenAgain : List SetupAction :=
  .request 0 (setupCtx "alice" "Correct-Horse-1") ::
    (List.replicate 4 (.advance 0 (World.plain 0)) ++
      [.request 1 (setupCtx "mallory" "Battery-Staple-2"), .advance 1 (World.plain 1)])

theorem setup_once_again : ∃ l s, SetupRun (Setups.start Gateway.fresh) l s ∧
    l.map Step.act = setupThenAgain ∧ s.Succeeded 0 "alice" ∧
    Has s.gateway.store.running "alice" ∧
    ∀ j n, s.Succeeded j n → 0 = j := by
  obtain ⟨l, s, hrun, hacts, htest⟩ := @Run.of_test _ _ _ setupStep (Setups.start Gateway.fresh)
    setupThenAgain (fun l s => l.all (fun x => !stagesLate x) &&
      decide ((Dict.lookup 0 s.calls).bind SetupCall.owner = some "alice")) (by decide +kernel)
  simp only [Bool.and_eq_true, List.all_eq_true, Bool.not_eq_true', decide_eq_true_eq] at htest
  obtain ⟨hnamed, hsingle⟩ := setup_once rfl hrun
  obtain ⟨-, hone⟩ := hsingle htest.1
  exact ⟨l, s, hrun, hacts, htest.2, hnamed 0 "alice" htest.2, fun j n hj => hone 0 j _ n htest.2 hj⟩

end Sbegw.Api
