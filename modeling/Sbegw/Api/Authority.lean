import Sbegw.Api.System

/-!
# Session authority

A session keeps the role its user had at login.  It still is the role the running configuration gives
the user as long as no step brings other roles into operation for a user who is signed in.
-/

namespace Sbegw.Api

open Machine
open Authd (roleIn AuthManager Session Principal)

/-! ### Roles and sessions -/

/-- Every session has the role that its user has. -/
def Agrees (roles : Roles) (sessions : Dict String Session) : Prop :=
  ∀ e ∈ sessions, ∃ role, roles e.2.username = some role ∧ e.2.role = Schema.pyStr role

/-- Every session of the first table has the user and the role of one of the second. -/
def Among (sessions sessions' : Dict String Session) : Prop :=
  ∀ e ∈ sessions, ∃ e' ∈ sessions', e'.2.username = e.2.username ∧ e'.2.role = e.2.role

theorem Among.refl (sessions : Dict String Session) : Among sessions sessions :=
  fun e he => ⟨e, he, rfl, rfl⟩

theorem Among.of_subset {sessions sessions' : Dict String Session}
    (h : ∀ e ∈ sessions, e ∈ sessions') : Among sessions sessions' :=
  fun e he => ⟨e, h e he, rfl, rfl⟩

section

variable {roles : Roles} {sessions sessions' : Dict String Session}

theorem Agrees.among (h : Agrees roles sessions') (hs : Among sessions sessions') :
    Agrees roles sessions := by
  intro e he
  obtain ⟨e', he', huser, hrole⟩ := hs e he
  obtain ⟨role, hroles, hr⟩ := h e' he'
  rw [huser] at hroles
  rw [hrole] at hr
  exact ⟨role, hroles, hr⟩

/-- Setting the role of one user does not concern the sessions of the others. -/
theorem Agrees.update {username : String} {role : Option Json} (h : Agrees roles sessions)
    (hnone : ∀ e ∈ sessions, e.2.username ≠ username) :
    Agrees (Function.update roles username role) sessions := by
  intro e he
  rw [Function.update_of_ne (hnone e he)]
  exact h e he

/-- Setting the role that the sessions of the user already have. -/
theorem Agrees.update_role {username : String} {role : Json} (h : Agrees roles sessions)
    (hsame : ∀ e ∈ sessions, e.2.username = username → e.2.role = Schema.pyStr role) :
    Agrees (Function.update roles username (some role)) sessions := by
  intro e he
  by_cases hu : e.2.username = username
  · exact ⟨role, by rw [hu, Function.update_self], hsame e he hu⟩
  · rw [Function.update_of_ne hu]
    exact h e he

end

section

variable {w : World} {env : Authd.Env} {ctx : Ctx} {g g' : Gateway} {m m' : AuthManager}

/-- Looking a session up renews or drops it. -/
theorem Renews.among (h : Renews env m m') : Among m'.sessions m.sessions := by
  rcases h with rfl | ⟨token, rfl⟩
  · exact Among.refl _
  · unfold AuthManager.principalForSession
    cases hl : Dict.lookup token m.sessions with
    | none => exact Among.refl _
    | some s =>
      dsimp only
      split
      · exact Among.of_subset fun e he => List.mem_of_mem_filter he
      · intro e he
        rcases Dict.mem_set he with rfl | he
        · exact ⟨(token, s), Dict.mem_of_lookup hl, rfl, rfl⟩
        · exact ⟨e, he, rfl, rfl⟩

/-- A session that is opened has the role the running configuration gives. -/
theorem Agrees.opens {reply : Session → Json} {running : Obj} {x : Except Exn Json}
    (h : Agrees (roleIn running) m.sessions) (hm : Opens w reply running x m m') : Agrees (roleIn running) m'.sessions := by
  rcases hm with hm | ⟨c, user, hrecord, hm, -⟩
  · rw [hm]
    exact h
  · rw [hm]
    intro e he
    rcases Dict.mem_set he with rfl | he
    · refine ⟨(Dict.lookup "role" user).getD (.str "read-only"), ?_, rfl⟩
      show roleIn running c.username = _
      unfold roleIn
      rw [hrecord]
      rfl
    · exact h e he

theorem roleIn_of_hasUser {cfg : Obj} {username : String}
    (h : Authd.hasUser (Authd.usersOf cfg) username = .ok false) : roleIn cfg username = none := by
  unfold roleIn Authd.recordOf
  cases hu : Authd.usersOf cfg with
  | obj users =>
    rw [hu] at h
    have hno : (Dict.lookup username users).isSome = false := Except.ok.inj h
    have hnone : Dict.lookup username users = none := by simpa using hno
    simp [hnone]
  | _ => rfl

/-! ### One step -/

/-- The handler brings no other roles into operation for a user who is signed in. -/
def tracksRoles (w : World) (route : Route) (ctx : Ctx) (g : Gateway) : Prop :=
  (route.commits = true → Agrees (roleIn g.store.candidate) g.auth.sessions) ∧
  match route with
  | .postBackup => ∀ body incoming, ctx.json = .ok body →
      Dict.lookup "config" body = some (.obj incoming) → Agrees (roleIn incoming) g.auth.sessions
  | .postRollback id => ∀ i row, Text.readInt id = some i →
      g.store.revisions.find? (fun r => r.id = i.toNat) = some row →
      Agrees (roleIn (Configd.migrate row.config)) g.auth.sessions
  | .putUser name => ∀ body role, ctx.json = .ok body → Dict.lookup "password" body = none →
      ((Dict.lookup "enable_mfa" body).getD .null).truthy = false →
      Dict.lookup "role" body = some role →
      ∀ e ∈ g.auth.sessions, e.2.username = name → e.2.role = Schema.pyStr role
  | .deleteUser name => w.stores ∨ ∀ e ∈ g.auth.sessions, e.2.username ≠ name
  | _ => True

theorem tracksRoles_among {route : Route} (h : tracksRoles w route ctx g)
    (hm : Among m.sessions g.auth.sessions) : tracksRoles w route ctx { g with auth := m } := by
  obtain ⟨hcommits, hroute⟩ := h
  refine ⟨fun hc => (hcommits hc).among hm, ?_⟩
  cases route with
  | postBackup => exact fun body incoming hb hi => (hroute body incoming hb hi).among hm
  | postRollback id => exact fun i row hi hrow => (hroute i row hi hrow).among hm
  | putUser name =>
    intro body role hb hp hmfa hr e he hname
    obtain ⟨e', he', huser, hrole⟩ := hm e he
    rw [← hrole]
    exact hroute body role hb hp hmfa hr e' he' (huser.trans hname)
  | deleteUser name =>
    rcases hroute with hw | hnone
    · exact Or.inl hw
    · refine Or.inr fun e he => ?_
      obtain ⟨e', he', huser, -⟩ := hm e he
      rw [← huser]
      exact hnone e' he'
  | _ => trivial

/-- **What a handler keeps**: sessions with the roles of their users. -/
theorem Agrees.handle {route : Route} (h : Agrees (roleIn g.store.running) g.auth.sessions)
    (hc : tracksRoles w route ctx g) (hg : (handle w route ctx g).2 = g') :
    Agrees (roleIn g'.store.running) g'.auth.sessions := by
  obtain ⟨hcommits, hroute⟩ := hc
  cases hsp : route.special with
  | false =>
    obtain ⟨hauth, hidle, hspared⟩ := @handle_spared w ctx g route hsp
    rw [hg] at hauth hidle hspared
    rw [hauth]
    cases hc : route.commits with
    | false =>
      rw [hidle hc]
      exact h
    | true =>
      rcases (hspared hc).running with hr | hr
      · rw [hr]
        exact h
      · rw [hr]
        exact hcommits hc
  | true =>
    subst hg
    cases route with
    | postLogin =>
      obtain ⟨hstore, hopens⟩ := @postLogin_effect w ctx g
      show Agrees (roleIn (postLogin w ctx g).2.store.running) (postLogin w ctx g).2.auth.sessions
      rw [hstore]
      exact h.opens hopens
    | postLogout =>
      obtain ⟨hstore, hsub⟩ := @postLogout_effect ctx g
      show Agrees (roleIn (postLogout ctx g).2.store.running) (postLogout ctx g).2.auth.sessions
      rw [hstore]
      exact h.among (Among.of_subset fun e he => hsub.subset he)
    | deleteSession id =>
      obtain ⟨hstore, hsub⟩ := @deleteSession_effect g id
      show Agrees (roleIn (deleteSession id g).2.store.running) (deleteSession id g).2.auth.sessions
      rw [hstore]
      exact h.among (Among.of_subset fun e he => hsub.subset he)
    | postSetup =>
      obtain ⟨hstore, hopens⟩ := @postSetup_effect w ctx g
      show Agrees (roleIn (postSetup w ctx g).2.store.running) (postSetup w ctx g).2.auth.sessions
      refine Agrees.opens ?_ hopens
      rcases hstore with hs | ⟨hneeds, -⟩
      · rw [hs]
        exact h
      · -- nobody is signed in while there is no user
        intro e he
        obtain ⟨role, hrole, -⟩ := h e he
        obtain ⟨user, haccount, -⟩ := Authd.roleIn_eq_some.mp hrole
        rw [Authd.account_of_needsSetup hneeds] at haccount
        cases haccount
    | postUser =>
      obtain ⟨hauth, hrun⟩ := @postUser_effect w ctx g
      show Agrees (roleIn (postUser w ctx g).2.store.running) (postUser w ctx g).2.auth.sessions
      rw [hauth]
      rcases hrun with hr | ⟨body, username, role, -, -, -, hnew, hr⟩
      · rw [hr]
        exact h
      · rw [hr]
        refine (hcommits rfl).update fun e he hname => ?_
        obtain ⟨old, hold, -⟩ := h e he
        rw [hname, roleIn_of_hasUser hnew] at hold
        cases hold
    | putUser name =>
      obtain ⟨hauth, hrun⟩ := @putUser_effect w ctx g name
      have hamong : Among (putUser w name ctx g).2.auth.sessions g.auth.sessions := by
        rcases hauth with ha | ha
        · rw [ha]
          exact Among.refl _
        · rw [ha]
          exact Among.of_subset fun e he => (mem_revoke he).1
      have hold : Agrees (roleIn g.store.running) (putUser w name ctx g).2.auth.sessions :=
        h.among hamong
      have hcand : Agrees (roleIn g.store.candidate) (putUser w name ctx g).2.auth.sessions :=
        (hcommits rfl).among hamong
      show Agrees (roleIn (putUser w name ctx g).2.store.running) _
      rcases hrun with hsp | ⟨body, role, hbody, hrole, hmfa, hpw, hr⟩
      · rcases hsp.running with hr | hr
        · rw [hr]
          exact hold
        · rw [hr]
          exact hcand
      · rcases hr with hr | hr | hr
        · rw [hr]
          exact hcand
        · rw [hr]
          exact hold
        · rw [hr]
          refine hcand.update_role fun e he hname => ?_
          rcases hpw with hpw | hrevoked
          · obtain ⟨e', he', huser, hrole'⟩ := hamong e he
            rw [← hrole']
            exact hroute body role hbody hpw hmfa hrole e' he' (huser.trans hname)
          · rw [hrevoked] at he
            exact absurd hname (mem_revoke he).2
    | deleteUser name =>
      obtain ⟨hstore, hauth⟩ := @deleteUser_effect w ctx g name
      have hrest : ∀ sessions, Among sessions g.auth.sessions →
          (∀ e ∈ sessions, e.2.username ≠ name) →
          Agrees (roleIn (deleteUser w name ctx g).2.store.running) sessions := by
        intro sessions hamong hnone
        rcases hstore with hs | ⟨-, hr | hr⟩
        · rw [hs]
          exact h.among hamong
        · rw [hr]
          exact h.among hamong
        · rw [hr]
          exact ((hcommits rfl).among hamong).update hnone
      show Agrees (roleIn (deleteUser w name ctx g).2.store.running)
        (deleteUser w name ctx g).2.auth.sessions
      rcases hauth with ha | ⟨ha, -, hrun⟩
      · rw [ha]
        exact hrest _ (Among.of_subset fun e he => (mem_revoke he).1) fun e he => (mem_revoke he).2
      · rw [ha]
        rcases hroute with hw | hnone
        · rw [hrun hw]
          exact h
        · exact hrest _ (Among.refl _) hnone
    | postBackup =>
      obtain ⟨hauth, hrun⟩ := @postBackup_effect w ctx g
      rw [hauth]
      rcases hrun with hr | ⟨body, incoming, hbody, hconfig, hr⟩
      · rw [hr]
        exact h
      · rw [hr]
        exact hroute body incoming hbody hconfig
    | postRollback id =>
      obtain ⟨hauth, hrun⟩ := @postRollback_effect w ctx g id
      rw [handle_postRollback, hauth]
      rcases hrun with hr | ⟨i, row, hi, hrow, hr⟩
      · rw [hr]
        exact h
      · rw [hr]
        exact hroute i row hi hrow
    | _ => cases hsp

/-- The step brings no other roles into operation for a user who is signed in. -/
def keepsAuthority (x : GatewayStep) : Prop :=
  match x.act with
  | .request w r => ∀ ctx, (enter w r x.pre).1 = .ok ctx → tracksRoles w r.route ctx x.pre
  | .restore _ txid => ∀ previous, restoring x.pre txid = some previous →
      Agrees (roleIn previous) x.pre.auth.sessions
  | _ => True

theorem Agrees.step {a : Action} {o : Except Exn Json}
    (h : Agrees (roleIn g.store.running) g.auth.sessions) (hs : step g a = some (o, g'))
    (hk : keepsAuthority ⟨g, a, o, g'⟩) : Agrees (roleIn g'.store.running) g'.auth.sessions := by
  by_cases ha : ∃ w r, a = .request w r
  · obtain ⟨w, r, rfl⟩ := ha
    obtain ⟨m, hrenews, ⟨rfl, -⟩ | ⟨ctx, hctx, -, hg⟩⟩ := request_effect hs
    · exact h.among hrenews.among
    · have htracks := tracksRoles_among (hk ctx hctx) hrenews.among
      exact @Agrees.handle w ctx { g with auth := m } g' r.route (h.among hrenews.among) htracks hg.symm
  · obtain ⟨hauth, hrun⟩ := timer_effect hs fun w r hwr => ha ⟨w, r, hwr⟩
    rw [hauth]
    rcases hrun with hr | ⟨env, txid, previous, rfl, hprev, hr⟩
    · rw [hr]
      exact h
    · rw [hr]
      exact hk previous hprev

/-! ### Every run -/

theorem principal_of_session {token : String} {p : Principal}
    (h : m.principalForSession env token = (some p, m')) :
    ∃ e ∈ m.sessions, p = Principal.ofRole e.2.username e.2.role := by
  unfold AuthManager.principalForSession at h
  cases hl : Dict.lookup token m.sessions with
  | none => simp [hl] at h
  | some s =>
    simp only [hl] at h
    split at h
    · simp at h
    · obtain ⟨hp, -⟩ := Prod.mk.inj h
      exact ⟨(token, s), Dict.mem_of_lookup hl, (Option.some.inj hp).symm⟩

end

/-- **Session authority.**  In every run from a process nobody is signed in to, whose steps bring no
other roles into operation for a user who is signed in, a principal that a session gives has the role
of its user in the running configuration at that moment, and the permissions of that role. -/
theorem session_authority {g s : Gateway} (hg : g.auth.sessions = []) {l : List GatewayStep}
    (hrun : GatewayRun g l s) (hsteps : ∀ x ∈ l, keepsAuthority x) {env : Authd.Env}
    {token : String} {p : Principal} {m : AuthManager}
    (hp : s.auth.principalForSession env token = (some p, m)) :
    ∃ role, roleIn s.store.running p.name = some role ∧
      p = Principal.ofRole p.name (Schema.pyStr role) := by
  have hagrees : Agrees (roleIn s.store.running) s.auth.sessions := by
    refine hrun.history (fun _ s => Agrees (roleIn s.store.running) s.auth.sessions)
      (fun _ x => keepsAuthority x) ?_ [] ?_ ?_
    · intro _ u a o v hu hs hx
      exact hu.step hs hx
    · intro e he
      rw [hg] at he
      cases he
    · intro l₁ x l₂ hl
      exact hsteps x (by simp [hl])
  obtain ⟨e, he, rfl⟩ := principal_of_session hp
  obtain ⟨role, hrole, hr⟩ := hagrees e he
  exact ⟨role, hrole, by rw [hr]; rfl⟩

/-- With nobody signed in every request is fine, and so is one that spares the users and does not
commit. -/
theorem keepsAuthority_of_idle {x : GatewayStep} {w : World} {r : Request} (hx : x.act = .request w r)
    (h : x.pre.auth.sessions = [] ∨ r.route.commits = false ∧ r.route.special = false) :
    keepsAuthority x := by
  unfold keepsAuthority
  rw [hx]
  intro ctx _
  rcases h with h | ⟨hcommits, hspecial⟩
  · have hall : ∀ roles, Agrees roles x.pre.auth.sessions := by
      intro roles e he
      rw [h] at he
      cases he
    refine ⟨fun _ => hall _, ?_⟩
    cases r.route with
    | postBackup => exact fun _ _ _ _ => hall _
    | postRollback id => exact fun _ _ _ _ => hall _
    | putUser name =>
      intro _ _ _ _ _ _ e he
      rw [h] at he
      cases he
    | deleteUser name =>
      refine Or.inr fun e he => ?_
      rw [h] at he
      cases he
    | _ => trivial
  · refine ⟨fun hc => absurd (hc.symm.trans hcommits) (by simp), ?_⟩
    cases hr : r.route with
    | postBackup => simp [hr, Route.special] at hspecial
    | postRollback id => simp [hr, Route.special] at hspecial
    | putUser name => simp [hr, Route.special] at hspecial
    | deleteUser name => simp [hr, Route.special] at hspecial
    | _ => trivial

/-- A role change leaves the sessions of the user with the old role. -/
theorem session_authority_stale : ∃ l s, GatewayRun Gateway.fresh l s ∧
    l.map Step.act = [setupAlice, demoteAlice] ∧ Gateway.fresh.auth.sessions = [] ∧
    ∃ p m, s.auth.principalForSession (Authd.Env.plain 2) "token" = (some p, m) ∧
      ¬ ∃ role, roleIn s.store.running p.name = some role ∧
        p = Principal.ofRole p.name (Schema.pyStr role) := by
  obtain ⟨l, s, hrun, hacts, htest⟩ := @Run.of_test _ _ _ step Gateway.fresh
    [setupAlice, demoteAlice] (fun _ s => decide (roleIn s.store.running "alice" =
      some (.str "read-only")) && decide ((s.auth.principalForSession (Authd.Env.plain 2) "token").1 =
        some (Principal.ofRole "alice" "owner"))) (by decide +kernel)
  simp only [Bool.and_eq_true, decide_eq_true_eq] at htest
  obtain ⟨hrole, hp⟩ := htest
  refine ⟨l, s, hrun, hacts, rfl, Principal.ofRole "alice" "owner", _, Prod.ext hp rfl, ?_⟩
  rintro ⟨role, hr, heq⟩
  obtain rfl := Option.some.inj (hrole.symm.trans hr)
  exact absurd (congrArg Principal.role heq) (by decide)

/-- `alice` sets the gateway up and looks around. -/
def setupAndRead : List Action := [setupAlice,
  .request (World.plain 1) (.browser (.read (some "system.read")) (some "token") [])]

theorem session_authority_setup : ∃ l s, GatewayRun Gateway.fresh l s ∧
    l.map Step.act = setupAndRead ∧ ∃ p m,
      s.auth.principalForSession (Authd.Env.plain 2) "token" = (some p, m) ∧
      ∃ role, roleIn s.store.running p.name = some role ∧
        p = Principal.ofRole p.name (Schema.pyStr role) := by
  obtain ⟨l, s, hrun, hacts, htest⟩ := @Run.of_test _ _ _ step Gateway.fresh setupAndRead
    (fun l s => l.all (fun x => x.pre.auth.sessions.isEmpty || match x.act with
        | .request _ r => !r.route.commits && !r.route.special
        | _ => false) &&
      (s.auth.principalForSession (Authd.Env.plain 2) "token").1.isSome) (by decide +kernel)
  simp only [Bool.and_eq_true, List.all_eq_true] at htest
  obtain ⟨hsteps, hp⟩ := htest
  obtain ⟨p, hp⟩ := Option.isSome_iff_exists.mp hp
  have hkeeps : ∀ x ∈ l, keepsAuthority x := by
    intro x hx
    have htest := hsteps x hx
    cases hact : x.act with
    | request w r =>
      refine keepsAuthority_of_idle hact ?_
      simpa [hact] using htest
    | restore env txid =>
      have hnone : x.pre.auth.sessions = [] := by simpa [hact] using htest
      unfold keepsAuthority
      rw [hact]
      intro previous _ e he
      rw [hnone] at he
      cases he
    | _ =>
      unfold keepsAuthority
      rw [hact]
      trivial
  have hpair : s.auth.principalForSession (Authd.Env.plain 2) "token" = (some p, _) := Prod.ext hp rfl
  exact ⟨l, s, hrun, hacts, p, _, hpair, session_authority rfl hrun hkeeps hpair⟩

end Sbegw.Api
