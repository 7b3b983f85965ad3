import Sbegw.Api.Roles
import Sbegw.Authd.Sessions

/-!
# What a request does to accounts and sessions

One lemma for each handler: the roles of the running configuration after it, and the session table.
Most handlers leave the table alone and take the roles of the candidate into operation at most; the
ones for accounts, sessions, backups and revisions each do one thing more.
-/

namespace Sbegw.Api

open Configd (Draft Store)
open Authd (roleIn AuthManager)

/-- The roles after a request whose changes spare the users: those of the running configuration or
of the candidate. -/
structure Spared (s t : Store) : Prop where
  running : roleIn t.running = roleIn s.running ∨ roleIn t.running = roleIn s.candidate
  candidate : roleIn t.candidate = roleIn s.running ∨ roleIn t.candidate = roleIn s.candidate

theorem Spared.refl (s : Store) : Spared s s := ⟨Or.inl rfl, Or.inr rfl⟩

theorem Spared.trans {s t u : Store} (h : Spared s t) (h' : Spared t u) : Spared s u := by
  constructor
  · rcases h'.running with h1 | h1
    · rw [h1]
      exact h.running
    · rw [h1]
      exact h.candidate
  · rcases h'.candidate with h1 | h1
    · rw [h1]
      exact h.running
    · rw [h1]
      exact h.candidate

theorem Left.spared {d : Draft} {s t : Store} (h : Left d s t)
    (hd : ∀ trial, d.mutate s.candidate = .ok trial → roleIn trial = roleIn s.candidate) :
    Spared s t := by
  constructor
  · rcases h.running with h1 | ⟨trial, hm, h1⟩
    · exact Or.inl h1
    · exact Or.inr (h1.trans (hd trial hm))
  · rcases h.candidate with h1 | h1 | ⟨trial, hm, h1⟩
    · exact Or.inl h1
    · exact Or.inr h1
    · exact Or.inr (h1.trans (hd trial hm))

/-- The routes whose handler may commit the candidate with the users it has. -/
def Route.commits : Route → Bool
  | .putSystem | .putController | .putPort _ | .postNetwork | .putNetwork _ | .deleteNetwork _
  | .putWan _ | .putFirewall | .putNat | .putRouting | .putServices | .putDpi | .putRadio _
  | .postWifiNetwork | .putWifiNetwork _ | .deleteWifiNetwork _ | .postMld | .putMld _ | .deleteMld _
  | .putRegulatory | .putChannelSettings | .postControllerSync | .postChannelOptimize | .putClient _
  | .postCommit | .postSetup | .postUser | .putUser _ | .deleteUser _ => true
  | _ => false

/-- The routes whose handler writes accounts or sessions, or replaces the document. -/
def Route.special : Route → Bool
  | .postSetup | .postLogin | .postLogout | .deleteSession _ | .postUser | .putUser _ | .deleteUser _
  | .postBackup | .postRollback _ => true
  | _ => false

section

variable {w : World} {ctx : Ctx} {g : Gateway}

/-! ### Handlers that spare the users -/

theorem commitOf_left (x : Except Exn Draft) :
    (commitOf w x g).2.auth = g.auth ∧
      ((commitOf w x g).2.store = g.store ∨
        ∃ d, x = .ok d ∧ Left d g.store (commitOf w x g).2.store) := by
  unfold commitOf
  cases x with
  | error e => exact ⟨rfl, Or.inl rfl⟩
  | ok d => exact ⟨rfl, Or.inr ⟨d, rfl, commit_left 0 d g.store⟩⟩

theorem submitOf_left (x : Except Exn Draft) :
    (submitOf w x g).2.auth = g.auth ∧
      ((submitOf w x g).2.store = g.store ∨
        ∃ d, x = .ok d ∧ Left d g.store (submitOf w x g).2.store) ∧
      ((submitOf w x g).1 = .ok () → ∃ d trial, x = .ok d ∧ d.mutate g.store.candidate = .ok trial ∧
        roleIn (submitOf w x g).2.store.candidate = roleIn trial) := by
  unfold submitOf
  cases x with
  | error e => exact ⟨rfl, Or.inl rfl, fun h => by cases h⟩
  | ok d =>
    obtain ⟨hleft, hok⟩ := @submit_left w (w.txid 0) d g.store
    dsimp only
    rcases hs : Configd.submit w.env (w.txid 0) d g.store with ⟨e | r, t⟩
    · rw [hs] at hleft
      exact ⟨rfl, Or.inr ⟨d, rfl, hleft⟩, fun h => by cases h⟩
    · rw [hs] at hleft hok
      obtain ⟨trial, hm, hcand⟩ := hok ⟨r, rfl⟩
      exact ⟨rfl, Or.inr ⟨d, rfl, hleft⟩, fun _ => ⟨d, trial, rfl, hm, hcand⟩⟩

theorem syncOnce_spared : (syncOnce w g).2.auth = g.auth ∧ Spared g.store (syncOnce w g).2.store := by
  unfold syncOnce
  cases hx : syncDraft w g.store.running with
  | error e => exact ⟨rfl, Spared.refl _⟩
  | ok x =>
    cases x with
    | none =>
      dsimp only
      split
      · exact ⟨rfl, Spared.refl _⟩
      · exact ⟨rfl, Spared.refl _⟩
    | some d =>
      have hd : ∃ desired, d.mutate = applyDesired desired := by
        unfold syncDraft at hx
        obtain ⟨desired, -, hx⟩ := except_bind_eq_ok.mp hx
        obtain ⟨trial, -, hx⟩ := except_bind_eq_ok.mp hx
        obtain ⟨⟨trial', ws⟩, -, hx⟩ := except_bind_eq_ok.mp hx
        dsimp only at hx
        split at hx
        · cases hx
        · have hx := Option.some.inj (Except.ok.inj hx)
          exact ⟨_, by rw [← hx]⟩
      obtain ⟨desired, hd⟩ := hd
      obtain ⟨hauth, hstore, -⟩ := @submitOf_left w g (.ok d)
      have hspared : Spared g.store (submitOf w (.ok d) g).2.store := by
        rcases hstore with h | ⟨d', hd', hleft⟩
        · rw [h]
          exact Spared.refl _
        · obtain rfl := Except.ok.inj hd'
          refine hleft.spared fun trial hm => ?_
          rw [hd] at hm
          exact (applyDesired_writes desired).roles (by simp) hm
      dsimp only
      rcases hs : submitOf w (.ok d) g with ⟨e | r, g'⟩
      · rw [hs] at hauth hspared
        exact ⟨hauth, hspared⟩
      · rw [hs] at hauth hspared
        dsimp only
        split
        · exact ⟨hauth, hspared⟩
        · exact ⟨hauth, hspared⟩

theorem optimise_spared : ∀ (moves : List Move) (n : ℕ) (g : Gateway),
    (optimise w n moves g).2.auth = g.auth ∧ Spared g.store (optimise w n moves g).2.store
  | [], n, g => ⟨rfl, Spared.refl _⟩
  | m :: rest, n, g => by
    unfold optimise
    split
    · split
      · exact ⟨rfl, Spared.refl _⟩
      · exact optimise_spared rest n g
    · have hc : (commitChannel w n m.radio m.channel g).2.auth = g.auth ∧
          Spared g.store (commitChannel w n m.radio m.channel g).2.store := by
        have hleft := (@submit_left w (w.txid n) (channelDraft m.radio m.channel) g.store).1
        have hspared := hleft.spared fun trial hm =>
          (channelDraft_writes m.radio m.channel).roles (by simp) hm
        unfold commitChannel
        split
        · next h =>
          rw [h] at hspared
          exact ⟨rfl, hspared⟩
        · next h =>
          rw [h] at hspared
          exact ⟨rfl, hspared⟩
      split
      · next h =>
        rw [h] at hc
        obtain ⟨hauth, hspared⟩ := optimise_spared rest (n + 1) _
        exact ⟨hauth.trans hc.1, hc.2.trans hspared⟩
      · next h =>
        rw [h] at hc
        split
        · exact hc
        · obtain ⟨hauth, hspared⟩ := optimise_spared rest (n + 1) _
          exact ⟨hauth.trans hc.1, hc.2.trans hspared⟩

theorem commitOf_spared {x : Except Exn Draft} {keys : List String} (hx : Drafts keys x)
    (hkeys : "users" ∉ keys) :
    (commitOf w x g).2.auth = g.auth ∧ Spared g.store (commitOf w x g).2.store := by
  obtain ⟨hauth, hstore⟩ := @commitOf_left w g x
  refine ⟨hauth, ?_⟩
  rcases hstore with h | ⟨d, hd, hleft⟩
  · rw [h]
    exact Spared.refl _
  · exact hleft.spared fun trial hm => (hx d hd).roles hkeys hm

theorem putClient_spared (mac : String) :
    (putClient w mac ctx g).2.auth = g.auth ∧ Spared g.store (putClient w mac ctx g).2.store := by
  unfold putClient
  split
  · exact ⟨rfl, Spared.refl _⟩
  split
  · exact ⟨rfl, Spared.refl _⟩
  · exact ⟨rfl, Spared.refl _⟩
  dsimp only
  split
  · exact ⟨rfl, Spared.refl _⟩
  · refine ⟨rfl, (commit_left 0 _ g.store).spared fun trial hm => ?_⟩
    exact (fixedIp_writes ctx _ _ _).roles (by simp) hm

/-- A commit of the candidate as it is. -/
theorem configdCommit_spared (env : Configd.Env) (args : Configd.CommitArgs) (txid : String)
    (s : Store) : Spared s (Configd.commit env args txid s).2 := by
  rcases Configd.commit_ends false env args s with ⟨ds, h⟩ | ⟨ds, h⟩
  · obtain ⟨r, t, ht, rfl, -⟩ := @Configd.commit_settles env args txid s ds h
    rw [ht]
    obtain ⟨hrun, hcand⟩ := roles_of_commitSettles h
    exact ⟨hrun, Or.inr hcand⟩
  · obtain ⟨e, t, ht, hdocs, -⟩ := @Configd.commit_fails env args txid s false ds h
    have hsame : Configd.afterError false e t = t := by cases e <;> rfl
    rw [hsame] at hdocs
    subst hdocs
    rw [ht]
    obtain ⟨hrun, hcand⟩ := roles_of_commitFails h
    exact ⟨hrun, hcand⟩

theorem postCommit_spared :
    (postCommit w ctx g).2.auth = g.auth ∧ Spared g.store (postCommit w ctx g).2.store := by
  unfold postCommit
  split
  · exact ⟨rfl, Spared.refl _⟩
  · next summary seconds _ =>
    have h := configdCommit_spared w.env { Configd.CommitArgs.default with
      user := ctx.user, sourceIp := ctx.sourceIp, summary := Schema.pyStr summary,
      rollbackSeconds := seconds } (w.txid 0) g.store
    dsimp only
    split
    · exact ⟨rfl, h⟩
    · exact ⟨rfl, h⟩

theorem postControllerSync_spared : (postControllerSync w g).2.auth = g.auth ∧
    Spared g.store (postControllerSync w g).2.store := by
  have h := @syncOnce_spared w g
  unfold postControllerSync
  split
  · exact ⟨rfl, Spared.refl _⟩
  · rcases hs : syncOnce w g with ⟨e | r, g'⟩
    · rw [hs] at h
      cases e <;> exact h
    · rw [hs] at h
      exact h

theorem postChannelOptimize_spared : (postChannelOptimize w ctx g).2.auth = g.auth ∧
    Spared g.store (postChannelOptimize w ctx g).2.store := by
  unfold postChannelOptimize
  split
  · exact ⟨rfl, Spared.refl _⟩
  · exact optimise_spared _ 0 g

theorem confirm_docs (fault : Bool) (txid user : String) (s : Store) :
    (Configd.confirm fault txid user s).2.docs = s.docs := by
  unfold Configd.confirm
  split
  · rfl
  split
  · rfl
  dsimp only
  split
  · rfl
  · exact (Configd.docs_of_same (Configd.same_addAudit _ _ _ _ _ _ _ _)).trans rfl

theorem Spared.of_docs {s t : Store} (h : t.docs = s.docs) : Spared s t := by
  have hrun : t.docs.running = s.docs.running := by rw [h]
  have hcand : t.docs.candidate = s.docs.candidate := by rw [h]
  exact ⟨Or.inl (congrArg roleIn hrun), Or.inr (congrArg roleIn hcand)⟩

/-- A handler that does not commit leaves the running configuration as it is. -/
structure Idle (g g' : Gateway) : Prop where
  auth : g'.auth = g.auth
  running : g'.store.running = g.store.running

theorem postConfirm_idle : Idle g (postConfirm w ctx g).2 := by
  unfold postConfirm
  split
  · exact ⟨rfl, rfl⟩
  dsimp only
  split
  · exact ⟨rfl, rfl⟩
  split
  · next txid _ =>
    have h := confirm_docs w.env.faults.audit txid ctx.user g.store
    exact ⟨rfl, congrArg Configd.Docs.running h⟩
  · exact ⟨rfl, rfl⟩

theorem postClientAction_idle (mac action : String) :
    Idle g (postClientAction w mac action ctx g).2 := by
  have hmark : ∀ call blocked, Idle g (markBlocked w call blocked mac g).2 := by
    intro call blocked
    unfold markBlocked
    split
    · exact ⟨rfl, rfl⟩
    · exact ⟨rfl, rfl⟩
  unfold postClientAction
  split
  · exact ⟨rfl, rfl⟩
  split
  · exact hmark _ _
  split
  · exact hmark _ _
  split
  · exact ⟨rfl, rfl⟩
  · exact ⟨rfl, rfl⟩

/-- **Handlers that spare the users.**  They leave the sessions alone; those that do not commit leave
the running configuration, and the others take the roles of the candidate at most. -/
theorem handle_spared {route : Route} (h : route.special = false) :
    (handle w route ctx g).2.auth = g.auth ∧
      (route.commits = false → (handle w route ctx g).2.store.running = g.store.running) ∧
      (route.commits = true → Spared g.store (handle w route ctx g).2.store) := by
  have hdraft : ∀ {x}, draftOf w ctx route = some x → "users" ∉ route.sections →
      route.commits = true → (handle w route ctx g).2.auth = g.auth ∧
        (route.commits = false → (handle w route ctx g).2.store.running = g.store.running) ∧
        (route.commits = true → Spared g.store (handle w route ctx g).2.store) := by
    intro x hx hkeys hcommits
    have hne : route ≠ .postBackup := by
      intro hb
      rw [hb] at h
      cases h
    have hspared := @commitOf_spared w g x route.sections (draftOf_writes ctx hx hne) hkeys
    have hhandle : handle w route ctx g = commitOf w x g := by
      unfold handle
      rw [hx]
    rw [hhandle]
    exact ⟨hspared.1, fun hc => absurd (hcommits.symm.trans hc) (by simp), fun _ => hspared.2⟩
  cases route with
  | read permission => exact ⟨rfl, fun _ => rfl, fun hc => by cases hc⟩
  | postControllerInform => exact ⟨rfl, fun _ => rfl, fun hc => by cases hc⟩
  | postControllerReset => exact ⟨rfl, fun _ => rfl, fun hc => by cases hc⟩
  | postRadioRecover id => exact ⟨rfl, fun _ => rfl, fun hc => by cases hc⟩
  | postChannelScan => exact ⟨rfl, fun _ => rfl, fun hc => by cases hc⟩
  | postDiscard => exact ⟨rfl, fun _ => rfl, fun hc => by cases hc⟩
  | postConfirm =>
    have hidle := @postConfirm_idle w ctx g
    exact ⟨hidle.auth, fun _ => hidle.running, fun hc => by cases hc⟩
  | postClientAction mac action =>
    have hidle := @postClientAction_idle w ctx g mac action
    exact ⟨hidle.auth, fun _ => hidle.running, fun hc => by cases hc⟩
  | postControllerSync =>
    have hspared := @postControllerSync_spared w g
    exact ⟨hspared.1, fun hc => (by cases hc), fun _ => hspared.2⟩
  | postChannelOptimize =>
    have hspared := @postChannelOptimize_spared w ctx g
    exact ⟨hspared.1, fun hc => (by cases hc), fun _ => hspared.2⟩
  | putClient mac =>
    have hspared := @putClient_spared w ctx g mac
    exact ⟨hspared.1, fun hc => (by cases hc), fun _ => hspared.2⟩
  | postCommit =>
    have hspared := @postCommit_spared w ctx g
    exact ⟨hspared.1, fun hc => (by cases hc), fun _ => hspared.2⟩
  | postSetup => cases h
  | postLogin => cases h
  | postLogout => cases h
  | deleteSession id => cases h
  | postUser => cases h
  | putUser name => cases h
  | deleteUser name => cases h
  | postBackup => cases h
  | postRollback id => cases h
  | _ => exact hdraft rfl (by simp [Route.sections]) rfl

/-! ### Sessions -/

/-- What a sign-in that ends in `x` does to the sessions: nothing, or it opens one for a user the
configuration has; then it succeeds, unless the login cannot be recorded. -/
def Opens (w : World) (reply : Authd.Session → Json) (running : Obj) (x : Except Exn Json)
    (m m' : AuthManager) : Prop :=
  m'.sessions = m.sessions ∨ ∃ (c : Authd.Call) (user : Obj),
    Authd.recordOf running c.username = some user ∧
      m'.sessions = Dict.set w.auth.token (c.session w.auth user) m.sessions ∧
      (w.auth.loginFault = false → x = .ok (reply (c.session w.auth user)))

theorem opens_login (w : World) (reply : Authd.Session → Json) (running : Obj) (username password sourceIp agent : String)
    (totp : Json) (m : AuthManager) :
    let r := m.login w.auth running username password sourceIp agent totp
    Opens w reply running (r.1.map reply) m r.2 := by
  rcases Authd.login_cases w.auth running ⟨username, password, sourceIp, agent, totp, .verify⟩ m with
    ⟨e, m', h, hm⟩ | ⟨user, r, m', h, hrecord, hm, hout⟩
  · rw [h]
    exact Or.inl hm
  · rw [h]
    refine Or.inr ⟨_, user, hrecord, hm, fun hfault => ?_⟩
    rcases hout with ⟨-, hr⟩ | ⟨hf, -⟩
    · rw [hr]
      rfl
    · rw [hfault] at hf
      cases hf

/-- An answer that is an error is none of a sign-in that was recorded. -/
theorem Opens.error {w : World} {reply : Authd.Session → Json} {running : Obj} {e e' : Exn}
    {m m' : AuthManager} (h : Opens w reply running (.error e) m m') :
    Opens w reply running (.error e') m m' := by
  rcases h with h | ⟨c, user, hrecord, hm, hout⟩
  · exact Or.inl h
  · exact Or.inr ⟨c, user, hrecord, hm, fun hf => by cases hout hf⟩

theorem postLogin_effect : (postLogin w ctx g).2.store = g.store ∧
    Opens w loginReply g.store.running (postLogin w ctx g).1 g.auth (postLogin w ctx g).2.auth := by
  unfold postLogin
  split
  · exact ⟨rfl, Or.inl rfl⟩
  · next username password totp _ =>
    have h := opens_login w loginReply g.store.running username password ctx.sourceIp ctx.agent totp g.auth
    split
    · next hl =>
      rw [hl] at h
      exact ⟨rfl, h.error⟩
    · next hl =>
      rw [hl] at h
      exact ⟨rfl, h⟩
    · next hl =>
      rw [hl] at h
      exact ⟨rfl, h⟩

/-- The table after a logout or a revocation is a part of the one before. -/
theorem postLogout_effect : (postLogout ctx g).2.store = g.store ∧
    (postLogout ctx g).2.auth.sessions.Sublist g.auth.sessions := by
  unfold postLogout
  split
  · exact ⟨rfl, List.filter_sublist⟩
  · exact ⟨rfl, List.Sublist.refl _⟩

theorem deleteSession_effect (id : String) : (deleteSession id g).2.store = g.store ∧
    (deleteSession id g).2.auth.sessions.Sublist g.auth.sessions := by
  unfold deleteSession AuthManager.revokeSession
  dsimp only
  split
  · exact ⟨rfl, List.filter_sublist⟩
  · exact ⟨rfl, List.Sublist.refl _⟩

theorem mem_revoke {username : String} {m : AuthManager} {e : String × Authd.Session}
    (he : e ∈ (m.revokeUserSessions username).sessions) :
    e ∈ m.sessions ∧ e.2.username ≠ username := by
  unfold AuthManager.revokeUserSessions at he
  rw [List.mem_filter] at he
  exact ⟨he.1, by simpa using he.2⟩

/-! ### Accounts -/

/-- The roles of the running configuration after a change that sets one role in the candidate. -/
def Sets (s t : Store) (username : String) (role : Option Json) : Prop :=
  roleIn t.running = roleIn s.running ∨
    roleIn t.running = Function.update (roleIn s.candidate) username role

theorem Left.sets {d : Draft} {s t : Store} {username : String} {role : Option Json}
    (h : Left d s t) (hd : ∀ trial, d.mutate s.candidate = .ok trial →
      roleIn trial = Function.update (roleIn s.candidate) username role) : Sets s t username role := by
  rcases h.running with h1 | ⟨trial, hm, h1⟩
  · exact Or.inl h1
  · exact Or.inr (h1.trans (hd trial hm))

theorem lookup_of_asName {key name : String} {body : Obj}
    (h : (needKey key body).bind asName = .ok name) : Dict.lookup key body = some (.str name) := by
  obtain ⟨v, hv, hname⟩ := except_bind_eq_ok.mp h
  unfold needKey at hv
  cases hl : Dict.lookup key body with
  | none => simp [hl] at hv
  | some u =>
    simp only [hl] at hv
    obtain rfl := Except.ok.inj hv
    cases u with
    | str s => rw [Except.ok.inj hname]
    | _ => cases hname

theorem postUser_effect : (postUser w ctx g).2.auth = g.auth ∧
    (roleIn (postUser w ctx g).2.store.running = roleIn g.store.running ∨
      ∃ body username role, ctx.json = .ok body ∧
        Dict.lookup "username" body = some (.str username) ∧
        (Dict.lookup "role" body).getD (.str "read-only") = .str role ∧
        Authd.hasUser (Authd.usersOf g.store.running) username = .ok false ∧
        roleIn (postUser w ctx g).2.store.running =
          Function.update (roleIn g.store.candidate) username (some (.str role))) := by
  obtain ⟨hauth, hstore, -⟩ := @submitOf_left w g (postUserDraft w ctx g)
  have hsub : (postUser w ctx g).2 = (submitOf w (postUserDraft w ctx g) g).2 := by
    unfold postUser
    rcases submitOf w (postUserDraft w ctx g) g with ⟨e | r, g'⟩ <;> rfl
  rw [hsub]
  refine ⟨hauth, ?_⟩
  rcases hstore with h | ⟨d, hd, hleft⟩
  · rw [h]
    exact Or.inl rfl
  · rcases hleft.running with h1 | ⟨trial, hm, h1⟩
    · exact Or.inl h1
    · unfold postUserDraft at hd
      obtain ⟨body, hbody, hd⟩ := except_bind_eq_ok.mp hd
      obtain ⟨username, hname, hd⟩ := except_bind_eq_ok.mp hd
      obtain ⟨password, -, hd⟩ := except_bind_eq_ok.mp hd
      obtain ⟨hnew, r, hrole, hr⟩ := createUser_roles hd hm
      exact Or.inr ⟨body, username, r, hbody, lookup_of_asName hname, hrole, hnew, h1.trans hr⟩

/-- Storage works in the commits of a request. -/
def World.stores (w : World) : Prop :=
  w.env.faults.running = false ∧ w.env.faults.revision = false ∧ w.env.faults.audit = false

/-- A change that fails over storage that works leaves the running configuration. -/
theorem running_of_fails {guarded : Bool} {d : Draft} {s : Store} {ds : Configd.Docs}
    (hw : w.stores) (h : Configd.Fails guarded w.env d s ds) : ds.running = s.running := by
  obtain ⟨hrunning, hrevision, haudit⟩ := hw
  cases h with
  | refused _ => rfl
  | unsaved _ _ => rfl
  | committing _ _ hc =>
    cases hc with
    | unwritten _ _ hwritten => exact absurd (Or.inl hrunning) hwritten
    | unrecorded _ _ _ hrecorded => exact absurd ⟨Or.inr hrevision, haudit⟩ hrecorded
    | _ => rfl

/-- Deleting an account: on success its sessions are gone; an error leaves the sessions. -/
theorem deleteUser_effect (name : String) :
    let g' := (deleteUser w name ctx g).2
    (g'.store = g.store ∨ (∃ d, Authd.deleteUser g.store.running name ctx.user = .ok d) ∧
      Sets g.store g'.store name none) ∧
    (g'.auth = g.auth.revokeUserSessions name ∨
      g'.auth = g.auth ∧ (∃ e, (deleteUser w name ctx g).1 = .error e) ∧
        (w.stores → g'.store.running = g.store.running)) := by
  unfold deleteUser
  split
  · exact ⟨Or.inl rfl, Or.inr ⟨rfl, ⟨_, rfl⟩, fun _ => rfl⟩⟩
  · cases hx : Authd.deleteUser g.store.running name ctx.user with
    | error e =>
      have hacc : deleteAccount w name ctx.user g = (.error e, g) := by
        unfold deleteAccount
        rw [hx]
        rfl
      rw [hacc]
      cases e <;> exact ⟨Or.inl rfl, Or.inr ⟨rfl, ⟨_, rfl⟩, fun _ => rfl⟩⟩
    | ok d =>
      have hleft := (@submit_left w (w.txid 0) d g.store).1
      have hsets := hleft.sets fun trial hm => deleteUser_roles hx hm
      rcases Configd.draft_ends false w.env d g.store with ⟨ds, h⟩ | ⟨ds, h⟩
      · obtain ⟨r, t, ht, -, -⟩ := @Configd.submit_settles w.env d (w.txid 0) g.store ds h
        have hacc : deleteAccount w name ctx.user g =
            (.ok (), Gateway.revoke name { g with store := t }) := by
          unfold deleteAccount submitOf
          rw [hx]
          dsimp only
          rw [ht]
        rw [hacc]
        rw [ht] at hsets
        exact ⟨Or.inr ⟨⟨d, rfl⟩, hsets⟩, Or.inl rfl⟩
      · obtain ⟨e, t, ht, hdocs, -⟩ := @Configd.submit_fails w.env d (w.txid 0) g.store ds h
        have hacc : deleteAccount w name ctx.user g = (.error e, { g with store := t }) := by
          unfold deleteAccount submitOf
          rw [hx]
          dsimp only
          rw [ht]
        have hrun : w.stores → t.running = g.store.running := by
          intro hw
          have hds := running_of_fails hw h
          subst hdocs
          exact hds
        rw [hacc]
        rw [ht] at hsets
        cases e <;> exact ⟨Or.inr ⟨⟨d, rfl⟩, hsets⟩, Or.inr ⟨rfl, ⟨_, rfl⟩, hrun⟩⟩

/-- A password change keeps the roles; on success the sessions of the user are gone. -/
theorem setPassword_effect (name : String) (password : Json) (actor : String) :
    let r := setPassword w name password actor g
    Spared g.store r.2.store ∧
      ((∃ e, r.1 = .error e ∧ r.2.auth = g.auth) ∨
        r.1 = .ok () ∧ r.2.auth = g.auth.revokeUserSessions name ∧
          roleIn r.2.store.candidate = roleIn g.store.candidate) := by
  obtain ⟨hauth, hstore, hok⟩ :=
    @submitOf_left w g (Authd.setPassword w.auth name password actor)
  have hspared : Spared g.store (submitOf w (Authd.setPassword w.auth name password actor) g).2.store := by
    rcases hstore with h | ⟨d, hd, hleft⟩
    · rw [h]
      exact Spared.refl _
    · exact hleft.spared fun trial hm => setPassword_roles hd hm
  unfold setPassword
  rcases hs : submitOf w (Authd.setPassword w.auth name password actor) g with ⟨e | r, g'⟩
  · rw [hs] at hauth hspared
    exact ⟨hspared, Or.inl ⟨e, rfl, hauth⟩⟩
  · rw [hs] at hauth hspared hok
    obtain ⟨d, trial, hd, hm, hcand⟩ := hok rfl
    refine ⟨hspared, Or.inr ⟨rfl, ?_, hcand.trans (setPassword_roles hd hm)⟩⟩
    show g'.auth.revokeUserSessions name = _
    rw [hauth]

/-- The part of `put_user` after the password: the sessions stay; a role is set in the candidate
where the body has one and no second factor is asked for. -/
theorem putUserRest_effect (name : String) (body : Obj) :
    let g' := (putUserRest w name body ctx g).2
    g'.auth = g.auth ∧ (Spared g.store g'.store ∨ ∃ role, Dict.lookup "role" body = some role ∧
      ((Dict.lookup "enable_mfa" body).getD .null).truthy = false ∧
        Sets g.store g'.store name (some role)) := by
  unfold putUserRest
  split
  · have hspared := (@submit_left w (w.txid 1) (Authd.enableTotp w.auth name ctx.user) g.store).1.spared
      fun trial hm => enableTotp_roles hm
    dsimp only
    split
    · next h =>
      rw [h] at hspared
      exact ⟨rfl, Or.inl hspared⟩
    · next h =>
      rw [h] at hspared
      exact ⟨rfl, Or.inl hspared⟩
  · next hmfa =>
    split
    · exact ⟨rfl, Or.inl (Spared.refl _)⟩
    · next role hrole =>
      have hsets := (@commit_left w 1 (changeRole name role ctx) g.store).sets
        fun trial hm => changeRole_roles hm
      exact ⟨rfl, Or.inr ⟨role, hrole, by simpa using hmfa, hsets⟩⟩

/-- Changing an account: the roles of the others stay; its sessions are gone after a new password. -/
theorem putUser_effect (name : String) :
    let g' := (putUser w name ctx g).2
    (g'.auth = g.auth ∨ g'.auth = g.auth.revokeUserSessions name) ∧
    (Spared g.store g'.store ∨ ∃ body role, ctx.json = .ok body ∧
      Dict.lookup "role" body = some role ∧
      ((Dict.lookup "enable_mfa" body).getD .null).truthy = false ∧
      (Dict.lookup "password" body = none ∨ g'.auth = g.auth.revokeUserSessions name) ∧
      (roleIn g'.store.running = roleIn g.store.candidate ∨ Sets g.store g'.store name (some role))) := by
  unfold putUser
  split
  · exact ⟨Or.inl rfl, Or.inl (Spared.refl _)⟩
  · next body hbody =>
    split
    · next hpw =>
      obtain ⟨hauth, hcase⟩ := @putUserRest_effect w ctx g name body
      refine ⟨Or.inl hauth, hcase.imp_right ?_⟩
      rintro ⟨role, hrole, hmfa, hsets⟩
      exact ⟨body, role, hbody, hrole, hmfa, Or.inl hpw, Or.inr hsets⟩
    · next password _ =>
      obtain ⟨hspared, hcase⟩ := @setPassword_effect w g name password ctx.user
      dsimp only at hspared hcase ⊢
      split
      · next h =>
        rw [h] at hspared hcase
        rcases hcase with ⟨e, -, hauth⟩ | ⟨hok, -⟩
        · exact ⟨Or.inl hauth, Or.inl hspared⟩
        · cases hok
      · next g₁ h =>
        rw [h] at hspared hcase
        rcases hcase with ⟨e, herr, -⟩ | ⟨-, hauth, hcand⟩
        · cases herr
        · obtain ⟨hauth', hrest⟩ := @putUserRest_effect w ctx g₁ name body
          have hrevoked := hauth'.trans hauth
          refine ⟨Or.inr hrevoked, ?_⟩
          rcases hrest with hsp | ⟨role, hrole, hmfa, hsets⟩
          · exact Or.inl (hspared.trans hsp)
          · refine Or.inr ⟨body, role, hbody, hrole, hmfa, Or.inr hrevoked, ?_⟩
            rcases hsets with h1 | h1
            · rcases hspared.running with h2 | h2
              · exact Or.inr (Or.inl (h1.trans h2))
              · exact Or.inl (h1.trans h2)
            · rw [hcand] at h1
              exact Or.inr (Or.inr h1)

/-- First-run setup: it does something only while the running configuration has no user. -/
theorem postSetup_effect : let g' := (postSetup w ctx g).2
    (g'.store = g.store ∨ Authd.needsSetup g.store.running = true ∧
      ∃ username, Sets g.store g'.store username (some (.str "owner"))) ∧
    Opens w setupReply g'.store.running (postSetup w ctx g).1 g.auth g'.auth := by
  unfold postSetup
  split
  · exact ⟨Or.inl rfl, Or.inl rfl⟩
  · next username password d hd =>
    have hdraft : Authd.needsSetup g.store.running = true ∧
        ∃ p, d = Authd.ownerDraft w.auth username p := by
      unfold setupDraft at hd
      obtain ⟨body, -, hd⟩ := except_bind_eq_ok.mp hd
      obtain ⟨name, -, hd⟩ := except_bind_eq_ok.mp hd
      obtain ⟨pw, -, hd⟩ := except_bind_eq_ok.mp hd
      obtain ⟨d', hd', hd⟩ := except_bind_eq_ok.mp hd
      have hd := Except.ok.inj hd
      injection hd with hname hd
      injection hd with hpw hd
      rw [← hd, ← hname]
      rw [Authd.createOwner_eq] at hd'
      cases hneeds : Authd.needsSetup g.store.running with
      | false => simp [hneeds] at hd'
      | true =>
        cases hv : Authd.validatePassword w.auth pw with
        | error e => simp [hneeds, hv, Except.map] at hd'
        | ok p =>
          simp only [hneeds, hv, Except.map] at hd'
          exact ⟨rfl, p, (Except.ok.inj hd').symm⟩
    obtain ⟨hneeds, p, rfl⟩ := hdraft
    obtain ⟨hauth, hstore, -⟩ := @submitOf_left w g (.ok (Authd.ownerDraft w.auth username p))
    have hsets : Sets g.store (submitOf w (.ok (Authd.ownerDraft w.auth username p)) g).2.store
        username (some (.str "owner")) := by
      rcases hstore with h | ⟨d, hd, hleft⟩
      · rw [h]
        exact Or.inl rfl
      · obtain rfl := Except.ok.inj hd
        exact hleft.sets fun trial hm => ownerDraft_roles hm
    split
    · next h =>
      rw [h] at hauth hsets
      exact ⟨Or.inr ⟨hneeds, username, hsets⟩, Or.inl (congrArg AuthManager.sessions hauth)⟩
    · next g₁ h =>
      rw [h] at hauth hsets
      have hopens := opens_login w setupReply g₁.store.running username (Schema.pyStr password) ctx.sourceIp
        ctx.agent .null g₁.auth
      rw [show g₁.auth = g.auth from hauth] at hopens
      dsimp only
      rw [show g₁.auth = g.auth from hauth]
      split
      · next hl =>
        rw [hl] at hopens
        exact ⟨Or.inr ⟨hneeds, username, hsets⟩, hopens⟩
      · next hl =>
        rw [hl] at hopens
        exact ⟨Or.inr ⟨hneeds, username, hsets⟩, hopens⟩

/-! ### Backups and revisions -/

/-- A backup replaces the document. -/
theorem postBackup_effect : let g' := (handle w .postBackup ctx g).2
    g'.auth = g.auth ∧ (roleIn g'.store.running = roleIn g.store.running ∨
      ∃ body incoming, ctx.json = .ok body ∧ Dict.lookup "config" body = some (.obj incoming) ∧
        roleIn g'.store.running = roleIn incoming) := by
  obtain ⟨hauth, hstore⟩ := @commitOf_left w g (postBackup ctx)
  refine ⟨hauth, ?_⟩
  show roleIn (commitOf w (postBackup ctx) g).2.store.running = _ ∨ _
  rcases hstore with h | ⟨d, hd, hleft⟩
  · rw [h]
    exact Or.inl rfl
  · rcases hleft.running with h1 | ⟨trial, hm, h1⟩
    · exact Or.inl h1
    · unfold postBackup at hd
      obtain ⟨body, hbody, hd⟩ := except_bind_eq_ok.mp hd
      split at hd
      · next incoming hconfig =>
        have hlookup : Dict.lookup "config" body = some (.obj incoming) := by
          cases hl : Dict.lookup "config" body with
          | none => simp [hl] at hconfig
          | some v => simpa [hl] using hconfig
        have hd := Except.ok.inj hd
        rw [← hd] at hm
        have htrial : incoming = trial := Except.ok.inj hm
        exact Or.inr ⟨body, incoming, hbody, hlookup, h1.trans (congrArg roleIn htrial.symm)⟩
      · cases hd

theorem handle_postRollback (id : String) : handle w (.postRollback id) ctx g = postRollback w id ctx g := by
  unfold handle draftOf
  rfl

/-- A rollback to a revision takes the roles of its document into operation. -/
theorem postRollback_effect (id : String) : let g' := (postRollback w id ctx g).2
    g'.auth = g.auth ∧ (roleIn g'.store.running = roleIn g.store.running ∨
      ∃ i row, Text.readInt id = some i ∧ g.store.revisions.find? (fun r => r.id = i.toNat) = some row ∧
        roleIn g'.store.running = roleIn (Configd.migrate row.config)) := by
  unfold postRollback
  split
  · exact ⟨rfl, Or.inl rfl⟩
  · next i hi =>
    have hmain : (rollbackTo w ctx.user ctx.sourceIp i g).2.auth = g.auth ∧
        (roleIn (rollbackTo w ctx.user ctx.sourceIp i g).2.store.running = roleIn g.store.running ∨
          ∃ row, g.store.revisions.find? (fun r => r.id = i.toNat) = some row ∧
            roleIn (rollbackTo w ctx.user ctx.sourceIp i g).2.store.running =
              roleIn (Configd.migrate row.config)) := by
      unfold rollbackTo
      split
      · exact ⟨rfl, Or.inl rfl⟩
      · refine ⟨rfl, ?_⟩
        dsimp only
        unfold Configd.rollbackToRevision Configd.loadRevision
        cases hrow : g.store.revisions.find? fun r => r.id = i.toNat with
        | none => exact Or.inl rfl
        | some row =>
          dsimp only
          have hspared := configdCommit_spared w.env { Configd.CommitArgs.default with
              user := ctx.user, sourceIp := ctx.sourceIp,
              summary := "rollback to revision " ++ Text.ofNat i.toNat } (w.txid 0)
            { g.store with candidate := Configd.migrate row.config }
          rcases hspared.running with h | h
          · exact Or.inl h
          · exact Or.inr ⟨row, rfl, h⟩
    obtain ⟨hauth, hrun⟩ := hmain
    dsimp only
    split
    · exact ⟨hauth, hrun.imp_right fun ⟨row, hrow, h⟩ => ⟨i, row, hi, hrow, h⟩⟩
    · exact ⟨hauth, hrun.imp_right fun ⟨row, hrow, h⟩ => ⟨i, row, hi, hrow, h⟩⟩

end

end Sbegw.Api
