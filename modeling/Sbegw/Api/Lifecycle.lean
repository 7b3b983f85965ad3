import Sbegw.Api.System

/-!
# The life of a session

A cookie authorises a request as long as the table holds its session.  The events of a run that
matter to it are its issue, the requests it authorises, and those that end it: a logout that carries
it, its revocation, and a new password or the deletion of its user.
-/

namespace Sbegw.Api

open Machine
open Authd (AuthManager Session Principal)

/-! ### Events -/

/-- The step is a sign-in that succeeds and issues the cookie at `t`. -/
def Issues (x : GatewayStep) (cookie username : String) (t : ℚ) : Prop :=
  ∃ w r s, x.act = .request w r ∧
    (r.route = .postLogin ∧ x.out = .ok (loginReply s) ∨
      r.route = .postSetup ∧ x.out = .ok (setupReply s)) ∧
    s.username = username ∧ w.auth.token = cookie ∧ w.auth.now = t

/-- The step is a request that the cookie authorises at `t`. -/
def Authorises (x : GatewayStep) (cookie : String) (t : ℚ) : Prop :=
  ∃ w r p, x.act = .request w r ∧ r.route.permission.isSome = true ∧
    (authenticate w r.credentials x.pre).1 = .ok (p, some cookie) ∧ w.auth.now = t

/-- The step ends the session of the cookie. -/
inductive Ends (x : GatewayStep) (cookie username : String) : Prop
  /-- a logout that carries the cookie -/
  | logout {w : World} {r : Request} (hact : x.act = .request w r) (hroute : r.route = .postLogout)
      (hcookie : r.credentials.cookie = some cookie)
  /-- a revocation of the session -/
  | revoked {w : World} {r : Request} {id : String} (hact : x.act = .request w r)
      (hroute : r.route = .deleteSession id) (hok : x.out = .ok (okReply true))
      (hfirst : ((enter w r x.pre).2.auth.sessions.find? fun e =>
        Text.startsWith id e.1).map Prod.fst = some cookie)
  /-- a new password for the user -/
  | password {w : World} {r : Request} {ctx : Ctx} {body : Obj} {password : Json}
      (hact : x.act = .request w r) (hroute : r.route = .putUser username)
      (hctx : (enter w r x.pre).1 = .ok ctx) (hbody : ctx.json = .ok body)
      (hpassword : Dict.lookup "password" body = some password)
      (hok : (setPassword w username password ctx.user (enter w r x.pre).2).1 = .ok ())
  /-- the deletion of the user -/
  | deleted {w : World} {r : Request} {reply : Json} (hact : x.act = .request w r)
      (hroute : r.route = .deleteUser username) (hok : x.out = .ok reply)

/-- `t` is the last time at which the cookie authorised one of the requests, or that of its issue. -/
inductive LastUse (cookie : String) (issued : ℚ) : List GatewayStep → ℚ → Prop
  | issue : LastUse cookie issued [] issued
  | used {l : List GatewayStep} {x : GatewayStep} {t u : ℚ} (h : LastUse cookie issued l t)
      (hx : Authorises x cookie u) : LastUse cookie issued (l ++ [x]) u
  | unused {l : List GatewayStep} {x : GatewayStep} {t : ℚ} (h : LastUse cookie issued l t)
      (hx : ∀ u, ¬ Authorises x cookie u) : LastUse cookie issued (l ++ [x]) t

/-- After the steps `l` the session of the cookie stands: issued at the time it says, last used at the
time it says, and not ended since. -/
def Stands (l : List GatewayStep) (cookie : String) (s : Session) : Prop :=
  ∃ l₁ x l₂, l = l₁ ++ x :: l₂ ∧ Issues x cookie s.username s.created ∧
    LastUse cookie s.created l₂ s.lastSeen ∧ ∀ y ∈ l₂, ¬ Ends y cookie s.username

theorem Stands.append {l : List GatewayStep} {x : GatewayStep} {cookie : String} {s : Session}
    {t : ℚ} (h : Stands l cookie s) (hends : ¬ Ends x cookie s.username)
    (huse : t = s.lastSeen ∧ (∀ u, ¬ Authorises x cookie u) ∨ Authorises x cookie t) :
    Stands (l ++ [x]) cookie { s with lastSeen := t } := by
  obtain ⟨l₁, y, l₂, rfl, hissue, hlast, hnone⟩ := h
  refine ⟨l₁, y, l₂ ++ [x], by simp, hissue, ?_, ?_⟩
  · rcases huse with ⟨rfl, hno⟩ | huse
    · exact .unused hlast hno
    · exact .used hlast huse
  · intro z hz
    rcases List.mem_append.mp hz with hz | hz
    · exact hnone z hz
    · obtain rfl := List.mem_singleton.mp hz
      exact hends

/-- Every session of the table stands, and their cookies are distinct. -/
structure Standing (l : List GatewayStep) (sessions : Dict String Session) : Prop where
  nodup : sessions.keys.Nodup
  stands : ∀ cookie s, Dict.lookup cookie sessions = some s → Stands l cookie s

section

variable {w : World} {ctx : Ctx} {g g' : Gateway} {cookie : String} {s : Session}

/-! ### Admission -/

/-- Looking a session up: those of other cookies stay, and this one is renewed or goes. -/
theorem principalForSession_sessions {env : Authd.Env} {token : String} {m : AuthManager}
    (hd : m.sessions.keys.Nodup) : let r := m.principalForSession env token
    r.2.sessions.keys.Nodup ∧ ∀ cookie s, Dict.lookup cookie r.2.sessions = some s →
      Dict.lookup cookie m.sessions = some s ∧ (r.1 = none ∨ cookie ≠ token) ∨
      ∃ s₀ p, Dict.lookup cookie m.sessions = some s₀ ∧ s = { s₀ with lastSeen := env.now } ∧
        r.1 = some p ∧ cookie = token := by
  unfold AuthManager.principalForSession
  cases hl : Dict.lookup token m.sessions with
  | none => exact ⟨hd, fun cookie s hs => Or.inl ⟨hs, Or.inl rfl⟩⟩
  | some s₀ =>
    dsimp only
    split
    · refine ⟨Dict.nodup_keys_filter _ hd, fun cookie s hs => Or.inl ⟨?_, Or.inl rfl⟩⟩
      exact (Dict.lookup_of_filter hd hs).1
    · refine ⟨Dict.nodup_keys_set _ _ hd, fun cookie s hs => ?_⟩
      by_cases hc : cookie = token
      · subst hc
        rw [Dict.lookup_set_self] at hs
        exact Or.inr ⟨s₀, _, hl, (Option.some.inj hs).symm, rfl, rfl⟩
      · rw [Dict.lookup_set_of_ne hc] at hs
        exact Or.inl ⟨hs, Or.inr hc⟩

theorem authenticate_sessions {c : Credentials} (hd : g.auth.sessions.keys.Nodup) :
    let r := authenticate w c g
    r.2.auth.sessions.keys.Nodup ∧ ∀ cookie s, Dict.lookup cookie r.2.auth.sessions = some s →
      Dict.lookup cookie g.auth.sessions = some s ∧ (∀ p, r.1 ≠ .ok (p, some cookie)) ∨
      ∃ s₀ p, Dict.lookup cookie g.auth.sessions = some s₀ ∧ s = { s₀ with lastSeen := w.auth.now } ∧
        r.1 = .ok (p, some cookie) := by
  have hsame : ∀ r : Except Exn (Principal × Option String) × Gateway, r.2 = g →
      (∀ p cookie, r.1 ≠ .ok (p, some cookie)) → r.2.auth.sessions.keys.Nodup ∧
        ∀ cookie s, Dict.lookup cookie r.2.auth.sessions = some s →
          Dict.lookup cookie g.auth.sessions = some s ∧ (∀ p, r.1 ≠ .ok (p, some cookie)) ∨
          ∃ s₀ p, Dict.lookup cookie g.auth.sessions = some s₀ ∧
            s = { s₀ with lastSeen := w.auth.now } ∧ r.1 = .ok (p, some cookie) := by
    rintro ⟨x, g'⟩ rfl hno
    exact ⟨hd, fun cookie s hs => Or.inl ⟨hs, fun p => hno p cookie⟩⟩
  unfold authenticate
  split
  · split
    · exact hsame _ rfl fun p cookie h => by cases h
    · exact hsame _ rfl fun p cookie h => by cases h
    · exact hsame _ rfl fun p cookie h => by cases h
  · split
    · exact hsame _ rfl fun p cookie h => by cases h
    · next token _ =>
      obtain ⟨hnodup, hall⟩ := @principalForSession_sessions w.auth token g.auth hd
      split
      · next h =>
        rw [h] at hnodup hall
        refine ⟨hnodup, fun cookie s hs => ?_⟩
        rcases hall cookie s hs with ⟨hl, -⟩ | ⟨s₀, p, -, -, hp, -⟩
        · exact Or.inl ⟨hl, fun p hp => by cases hp⟩
        · cases hp
      · next p auth h =>
        rw [h] at hnodup hall
        refine ⟨hnodup, fun cookie s hs => ?_⟩
        rcases hall cookie s hs with ⟨hl, hne⟩ | ⟨s₀, p', hl, hs', -, rfl⟩
        · refine Or.inl ⟨hl, fun p' hp' => ?_⟩
          rcases hne with hnone | hne
          · cases hnone
          · injection hp' with hp'
            injection hp' with _ htok
            exact hne (Option.some.inj htok).symm
        · exact Or.inr ⟨s₀, p, hl, hs', rfl⟩

/-! ### Handlers -/

theorem lookup_of_sublist {sessions sessions' : Dict String Session}
    (h : sessions'.Sublist sessions) (hd : sessions.keys.Nodup)
    (hs : Dict.lookup cookie sessions' = some s) : Dict.lookup cookie sessions = some s :=
  Dict.lookup_of_mem hd (h.subset (Dict.mem_of_lookup hs))

/-- The sessions that a handler leaves: some of those before, and that of a sign-in. -/
theorem handle_sessions {route : Route} (hd : g.auth.sessions.keys.Nodup) :
    let r := handle w route ctx g
    r.2.auth.sessions.keys.Nodup ∧ ∀ cookie s, Dict.lookup cookie r.2.auth.sessions = some s →
      Dict.lookup cookie g.auth.sessions = some s ∨
        (w.auth.token = cookie ∧ s.created = w.auth.now ∧ s.lastSeen = w.auth.now ∧
          (route = .postLogin ∧ (w.auth.loginFault = false → r.1 = .ok (loginReply s)) ∨
            route = .postSetup ∧ (w.auth.loginFault = false → r.1 = .ok (setupReply s)))) := by
  have hpart : ∀ g' : Gateway, g'.auth.sessions.Sublist g.auth.sessions →
      g'.auth.sessions.keys.Nodup ∧ ∀ cookie s, Dict.lookup cookie g'.auth.sessions = some s →
        Dict.lookup cookie g.auth.sessions = some s :=
    fun g' h => ⟨hd.sublist (h.map _), fun cookie s hs => lookup_of_sublist h hd hs⟩
  have hopened : ∀ {running : Obj} {r : Except Exn Json × Gateway} {reply : Session → Json},
      Opens w reply running r.1 g.auth r.2.auth → r.2.auth.sessions.keys.Nodup ∧
        ∀ cookie s, Dict.lookup cookie r.2.auth.sessions = some s →
          Dict.lookup cookie g.auth.sessions = some s ∨ (w.auth.token = cookie ∧
            s.created = w.auth.now ∧ s.lastSeen = w.auth.now ∧
            (w.auth.loginFault = false → r.1 = .ok (reply s))) := by
    intro running r reply hopens
    rcases hopens with h | ⟨c, user, -, h, hout⟩
    · rw [h]
      exact ⟨hd, fun cookie s hs => Or.inl hs⟩
    · rw [h]
      refine ⟨Dict.nodup_keys_set _ _ hd, fun cookie s hs => ?_⟩
      by_cases hc : cookie = w.auth.token
      · subst hc
        rw [Dict.lookup_set_self] at hs
        obtain rfl := Option.some.inj hs
        exact Or.inr ⟨rfl, rfl, rfl, hout⟩
      · rw [Dict.lookup_set_of_ne hc] at hs
        exact Or.inl hs
  have hkept : ∀ g' : Gateway, g'.auth.sessions.Sublist g.auth.sessions →
      (handle w route ctx g).2 = g' → (handle w route ctx g).2.auth.sessions.keys.Nodup ∧
        ∀ cookie s, Dict.lookup cookie (handle w route ctx g).2.auth.sessions = some s →
          Dict.lookup cookie g.auth.sessions = some s ∨
            (w.auth.token = cookie ∧ s.created = w.auth.now ∧ s.lastSeen = w.auth.now ∧
              (route = .postLogin ∧ (w.auth.loginFault = false →
                  (handle w route ctx g).1 = .ok (loginReply s)) ∨
                route = .postSetup ∧ (w.auth.loginFault = false →
                  (handle w route ctx g).1 = .ok (setupReply s)))) := by
    intro g' h hg'
    rw [hg']
    obtain ⟨hnodup, hall⟩ := hpart g' h
    exact ⟨hnodup, fun cookie s hs => Or.inl (hall cookie s hs)⟩
  cases hsp : route.special with
  | false =>
    have hauth := (@handle_spared w ctx g route hsp).1
    exact hkept _ (by rw [hauth]) rfl
  | true =>
    cases route with
    | postLogin =>
      obtain ⟨hnodup, hall⟩ := hopened (@postLogin_effect w ctx g).2
      refine ⟨hnodup, fun cookie s hs => (hall cookie s hs).imp_right ?_⟩
      rintro ⟨htoken, hcreated, hseen, hout⟩
      exact ⟨htoken, hcreated, hseen, Or.inl ⟨rfl, hout⟩⟩
    | postSetup =>
      obtain ⟨hnodup, hall⟩ := hopened (@postSetup_effect w ctx g).2
      refine ⟨hnodup, fun cookie s hs => (hall cookie s hs).imp_right ?_⟩
      rintro ⟨htoken, hcreated, hseen, hout⟩
      exact ⟨htoken, hcreated, hseen, Or.inr ⟨rfl, hout⟩⟩
    | postLogout => exact hkept (postLogout ctx g).2 (@postLogout_effect ctx g).2 rfl
    | deleteSession id => exact hkept (deleteSession id g).2 (@deleteSession_effect g id).2 rfl
    | postUser =>
      refine hkept (postUser w ctx g).2 ?_ rfl
      rw [(@postUser_effect w ctx g).1]
    | putUser name =>
      refine hkept (putUser w name ctx g).2 ?_ rfl
      rcases (@putUser_effect w ctx g name).1 with ha | ha
      · rw [ha]
      · rw [ha]
        exact List.filter_sublist
    | deleteUser name =>
      refine hkept (deleteUser w name ctx g).2 ?_ rfl
      rcases (@deleteUser_effect w ctx g name).2 with ha | ⟨ha, -⟩
      · rw [ha]
        exact List.filter_sublist
      · rw [ha]
    | postBackup => exact hkept _ (by rw [(@postBackup_effect w ctx g).1]) rfl
    | postRollback id =>
      refine hkept (postRollback w id ctx g).2 ?_ rfl
      rw [(@postRollback_effect w ctx g id).1]
    | _ => cases hsp

/-- A revocation drops the session it names. -/
theorem deleteSession_drops {id : String}
    (h : (g.auth.sessions.find? fun e => Text.startsWith id e.1).map Prod.fst = some cookie) :
    Dict.lookup cookie (deleteSession id g).2.auth.sessions = none := by
  unfold deleteSession AuthManager.revokeSession
  obtain ⟨e, he, rfl⟩ := Option.map_eq_some_iff.mp h
  rw [he]
  exact Dict.lookup_erase_self _ _

theorem revoke_drops {username : String} {m : AuthManager} (hd : m.sessions.keys.Nodup)
    (hs : Dict.lookup cookie (m.revokeUserSessions username).sessions = some s) :
    s.username ≠ username := by
  have h := (Dict.lookup_of_filter hd hs).2
  simpa using h

/-- A new password drops the sessions of the user, whatever comes of the rest of the request. -/
theorem putUser_drops {name : String} {body : Obj} {password : Json} (hbody : ctx.json = .ok body)
    (hpassword : Dict.lookup "password" body = some password)
    (hok : (setPassword w name password ctx.user g).1 = .ok ()) :
    (putUser w name ctx g).2.auth = g.auth.revokeUserSessions name := by
  obtain ⟨-, hcase⟩ := @setPassword_effect w g name password ctx.user
  unfold putUser
  rw [hbody]
  dsimp only
  rw [hpassword]
  dsimp only at hcase ⊢
  rcases hcase with ⟨e, he, -⟩ | ⟨-, hauth, -⟩
  · rw [he] at hok
    cases hok
  · split
    · next h =>
      rw [h] at hok
      cases hok
    · next g₁ h =>
      rw [h] at hauth
      exact (@putUserRest_effect w ctx g₁ name body).1.trans hauth

theorem deleteUser_drops {name : String} {reply : Json}
    (hok : (deleteUser w name ctx g).1 = .ok reply) :
    (deleteUser w name ctx g).2.auth = g.auth.revokeUserSessions name := by
  rcases (@deleteUser_effect w ctx g name).2 with ha | ⟨-, ⟨e, he⟩, -⟩
  · exact ha
  · rw [he] at hok
    cases hok

/-! ### One step -/

/-- No logout carries the cookie of a session, and the sign-ins are recorded. -/
def keepsSessions (x : GatewayStep) : Prop :=
  match x.act with
  | .request w r =>
    match r.route with
    | .postLogout => ∀ cookie, r.credentials.cookie = some cookie →
        Dict.lookup cookie x.pre.auth.sessions = none
    | .postLogin | .postSetup => w.auth.loginFault = false
    | _ => True
  | _ => True

/-- What admission leaves of the sessions, and of which of them the request makes use. -/
theorem enter_sessions {r : Request} (hd : g.auth.sessions.keys.Nodup) :
    let r' := enter w r g
    r'.2.auth.sessions.keys.Nodup ∧ ∀ cookie s, Dict.lookup cookie r'.2.auth.sessions = some s →
      ∃ s₀, Dict.lookup cookie g.auth.sessions = some s₀ ∧
        ∀ o g', s₀ = s ∧ (∀ u, ¬ Authorises ⟨g, .request w r, o, g'⟩ cookie u) ∨
          s = { s₀ with lastSeen := w.auth.now } ∧
            Authorises ⟨g, .request w r, o, g'⟩ cookie w.auth.now := by
  unfold enter
  cases hp : r.route.permission with
  | none =>
    refine ⟨hd, fun cookie s hs => ⟨s, hs, fun o g' => Or.inl ⟨rfl, ?_⟩⟩⟩
    rintro u ⟨w', r', p, hact, hsome, -⟩
    obtain ⟨rfl, rfl⟩ := Action.request.inj hact
    rw [hp] at hsome
    cases hsome
  | some permission =>
    have hstate := admit_state w r permission g
    obtain ⟨hnodup, hall⟩ := @authenticate_sessions w g r.credentials hd
    have hmain : (admission w r permission g).2.auth.sessions.keys.Nodup ∧
        ∀ cookie s, Dict.lookup cookie (admission w r permission g).2.auth.sessions = some s →
          ∃ s₀, Dict.lookup cookie g.auth.sessions = some s₀ ∧
            ∀ o g', s₀ = s ∧ (∀ u, ¬ Authorises ⟨g, .request w r, o, g'⟩ cookie u) ∨
              s = { s₀ with lastSeen := w.auth.now } ∧
                Authorises ⟨g, .request w r, o, g'⟩ cookie w.auth.now := by
      rw [hstate]
      refine ⟨hnodup, fun cookie s hs => ?_⟩
      rcases hall cookie s hs with ⟨hl, hno⟩ | ⟨s₀, p, hl, hs', hok⟩
      · refine ⟨s, hl, fun o g' => Or.inl ⟨rfl, ?_⟩⟩
        rintro u ⟨w', r', p, hact, -, hok, -⟩
        obtain ⟨rfl, rfl⟩ := Action.request.inj hact
        exact hno p hok
      · exact ⟨s₀, hl, fun o g' => Or.inr ⟨hs', w, r, p, rfl, by rw [hp]; rfl, hok, rfl⟩⟩
    dsimp only
    split
    · next h =>
      rw [h] at hmain
      exact hmain
    · next h =>
      rw [h] at hmain
      exact hmain

/-- A session that is still there after the handler was not ended by it. -/
theorem not_ends {r : Request} {s₀ : Session} {o : Except Exn Json}
    (hs : step g (.request w r) = some (o, g')) (hd : (enter w r g).2.auth.sessions.keys.Nodup)
    (hk : keepsSessions ⟨g, .request w r, o, g'⟩)
    (hold : Dict.lookup cookie g.auth.sessions = some s₀)
    (hnew : Dict.lookup cookie g'.auth.sessions = some s) :
    ¬ Ends ⟨g, .request w r, o, g'⟩ cookie s.username := by
  have hd' := Option.some.inj hs
  rw [dispatch_eq] at hd'
  intro hends
  rcases hends with ⟨hact, hroute, hcookie⟩ | ⟨hact, hroute, hok, hfirst⟩ |
    ⟨hact, hroute, hctx, hbody, hpassword, hok⟩ | ⟨hact, hroute, hok⟩
  · obtain ⟨rfl, rfl⟩ := Action.request.inj hact
    unfold keepsSessions at hk
    simp only [hroute] at hk
    rw [hk cookie hcookie] at hold
    cases hold
  · obtain ⟨rfl, rfl⟩ := Action.request.inj hact
    rcases henter : enter w r g with ⟨e | ctx, gm⟩
    · rw [henter] at hd'
      obtain ⟨ho, -⟩ := Prod.mk.inj hd'
      rw [show o = _ from hok] at ho
      cases (answer_eq_ok ho)
    · rw [henter] at hd' hfirst
      obtain ⟨-, rfl⟩ := Prod.mk.inj hd'
      rw [hroute] at hnew
      have hnone : Dict.lookup cookie (deleteSession _ gm).2.auth.sessions = none :=
        deleteSession_drops hfirst
      cases hnone.symm.trans hnew
  · obtain ⟨rfl, rfl⟩ := Action.request.inj hact
    rcases henter : enter w r g with ⟨e | ctx', gm⟩
    · rw [henter] at hctx
      cases hctx
    · rw [henter] at hd' hd hctx hok
      obtain rfl := Except.ok.inj hctx
      obtain ⟨-, rfl⟩ := Prod.mk.inj hd'
      rw [hroute] at hnew
      have hauth := putUser_drops hbody hpassword hok
      rw [show (handle w (.putUser s.username) ctx' gm).2.auth = _ from hauth] at hnew
      exact revoke_drops hd hnew rfl
  · obtain ⟨rfl, rfl⟩ := Action.request.inj hact
    rcases henter : enter w r g with ⟨e | ctx, gm⟩
    · rw [henter] at hd'
      obtain ⟨ho, -⟩ := Prod.mk.inj hd'
      rw [show o = _ from hok] at ho
      cases (answer_eq_ok ho)
    · rw [henter] at hd' hd
      obtain ⟨ho, rfl⟩ := Prod.mk.inj hd'
      rw [show o = _ from hok] at ho
      have hreply := answer_eq_ok ho
      rw [hroute] at hnew hreply
      have hauth := deleteUser_drops hreply
      rw [show (handle w (.deleteUser s.username) ctx gm).2.auth = _ from hauth] at hnew
      exact revoke_drops hd hnew rfl

theorem Standing.request {l : List GatewayStep} {r : Request} {o : Except Exn Json}
    (h : Standing l g.auth.sessions) (hs : step g (.request w r) = some (o, g'))
    (hk : keepsSessions ⟨g, .request w r, o, g'⟩) :
    Standing (l ++ [⟨g, .request w r, o, g'⟩]) g'.auth.sessions := by
  obtain ⟨hd, henter⟩ := @enter_sessions w g r h.nodup
  -- what was there after admission and is still there
  have hstill : ∀ cookie s, Dict.lookup cookie (enter w r g).2.auth.sessions = some s →
      Dict.lookup cookie g'.auth.sessions = some s →
      Stands (l ++ [⟨g, .request w r, o, g'⟩]) cookie s := by
    intro cookie s hmid hnew
    obtain ⟨s₀, hold, huse⟩ := henter cookie s hmid
    have hstands := h.stands cookie s₀ hold
    have hends := not_ends hs hd hk hold hnew
    rcases huse o g' with ⟨rfl, hno⟩ | ⟨rfl, hused⟩
    · exact hstands.append hends (Or.inl ⟨rfl, hno⟩)
    · exact hstands.append hends (Or.inr hused)
  have hout := Option.some.inj hs
  rw [dispatch_eq] at hout
  rcases hen : enter w r g with ⟨e | ctx, gm⟩
  · rw [hen] at hout hd hstill
    obtain ⟨-, rfl⟩ := Prod.mk.inj hout
    exact ⟨hd, fun cookie s hs' => hstill cookie s hs' hs'⟩
  · rw [hen] at hout hd hstill
    obtain ⟨ho, rfl⟩ := Prod.mk.inj hout
    obtain ⟨hnodup, hall⟩ := @handle_sessions w ctx gm r.route hd
    refine ⟨hnodup, fun cookie s hnew => ?_⟩
    rcases hall cookie s hnew with hmid | ⟨htoken, hcreated, hseen, hroute⟩
    · exact hstill cookie s hmid hnew
    · -- a sign-in of this step
      have hissue : Issues ⟨g, .request w r, o, (handle w r.route ctx gm).2⟩ cookie s.username
          s.created := by
        refine ⟨w, r, s, rfl, ?_, rfl, htoken, hcreated.symm⟩
        unfold keepsSessions at hk
        rcases hroute with ⟨hr, hreply⟩ | ⟨hr, hreply⟩
        · refine Or.inl ⟨hr, ?_⟩
          show o = _
          rw [← ho, hreply (by simpa [hr] using hk)]
          rfl
        · refine Or.inr ⟨hr, ?_⟩
          show o = _
          rw [← ho, hreply (by simpa [hr] using hk)]
          rfl
      refine ⟨l, _, [], rfl, hissue, ?_, ?_⟩
      · rw [hseen, ← hcreated]
        exact .issue
      · intro y hy
        cases hy

theorem Standing.step {l : List GatewayStep} {a : Action} {o : Except Exn Json}
    (h : Standing l g.auth.sessions) (hs : step g a = some (o, g'))
    (hk : keepsSessions ⟨g, a, o, g'⟩) : Standing (l ++ [⟨g, a, o, g'⟩]) g'.auth.sessions := by
  by_cases ha : ∃ w r, a = .request w r
  · obtain ⟨w, r, rfl⟩ := ha
    exact h.request hs hk
  · obtain ⟨hauth, -⟩ := timer_effect hs fun w r hwr => ha ⟨w, r, hwr⟩
    rw [hauth]
    refine ⟨h.nodup, fun cookie s hl => ?_⟩
    refine (h.stands cookie s hl).append ?_ (Or.inl ⟨rfl, ?_⟩)
    · intro hends
      cases hends with
      | logout hact => exact ha ⟨_, _, hact⟩
      | revoked hact => exact ha ⟨_, _, hact⟩
      | password hact => exact ha ⟨_, _, hact⟩
      | deleted hact => exact ha ⟨_, _, hact⟩
    · rintro u ⟨w, r, -, hact, -⟩
      exact ha ⟨w, r, hact⟩

/-- A cookie that is accepted names a session of the table that is neither too old nor idle. -/
theorem session_of_authenticate {c : Credentials} {p : Principal}
    (h : (authenticate w c g).1 = .ok (p, some cookie)) :
    ∃ s, Dict.lookup cookie g.auth.sessions = some s ∧ p.name = s.username ∧
      w.auth.now - s.created ≤ Authd.sessionTtl ∧ w.auth.now - s.lastSeen ≤ Authd.sessionIdleTtl := by
  unfold authenticate at h
  split at h
  · split at h
    · cases h
    · cases h
    · cases h
  · split at h
    · cases h
    · next token _ =>
      split at h
      · cases h
      · next p' auth hp =>
        obtain ⟨rfl, htok⟩ := Prod.mk.inj (Except.ok.inj h)
        obtain rfl := Option.some.inj htok
        unfold AuthManager.principalForSession at hp
        cases hl : Dict.lookup token g.auth.sessions with
        | none => simp [hl] at hp
        | some s =>
          simp only [hl] at hp
          split at hp
          · cases (Prod.mk.inj hp).1
          · next hfresh =>
            obtain rfl := Option.some.inj (Prod.mk.inj hp).1
            push Not at hfresh
            exact ⟨s, rfl, rfl, hfresh.1, hfresh.2⟩

end

/-! ### Every run -/

/-- **The life of a session.**  In every run from a process nobody is signed in to, in which no logout
carries the cookie of a session and the sign-ins are recorded, a cookie authorises a request only if a
successful sign-in issued it, at most `SESSION_TTL` ago, its last use is at most `SESSION_IDLE_TTL`
ago, and no step since its issue ended its session. -/
theorem session_lifecycle {g s : Gateway} (hg : g.auth.sessions = []) {l : List GatewayStep}
    (hrun : GatewayRun g l s) (hsteps : ∀ x ∈ l, keepsSessions x) {w : World} {c : Credentials}
    {p : Principal} {cookie : String} (hauth : (authenticate w c s).1 = .ok (p, some cookie)) :
    ∃ l₁ x l₂ issued used, l = l₁ ++ x :: l₂ ∧ Issues x cookie p.name issued ∧
      w.auth.now - issued ≤ Authd.sessionTtl ∧
      LastUse cookie issued l₂ used ∧ w.auth.now - used ≤ Authd.sessionIdleTtl ∧
      ∀ y ∈ l₂, ¬ Ends y cookie p.name := by
  have hstanding : Standing ([] ++ l) s.auth.sessions := by
    refine hrun.history (fun l s => Standing l s.auth.sessions) (fun _ x => keepsSessions x) ?_ [] ?_ ?_
    · intro _ u a o v hu hs hx
      exact hu.step hs hx
    · rw [hg]
      exact ⟨List.nodup_nil, fun _ _ h => by cases h⟩
    · intro l₁ x l₂ hl
      exact hsteps x (by simp [hl])
  obtain ⟨session, hl, hname, httl, hidle⟩ := session_of_authenticate hauth
  obtain ⟨l₁, x, l₂, hsplit, hissue, hlast, hnone⟩ := hstanding.stands cookie session hl
  rw [hname]
  exact ⟨l₁, x, l₂, session.created, session.lastSeen, hsplit, hissue, httl, hlast, hidle, hnone⟩

/-- The cookie of `alice`. -/
def aliceCookie : Credentials := ⟨none, some "token", "csrf"⟩

theorem authenticate_cookie {w : World} {g : Gateway} {p : Principal}
    (h : (g.auth.principalForSession w.auth "token").1 = some p) :
    (authenticate w aliceCookie g).1 = .ok (p, some "token") := by
  unfold authenticate aliceCookie
  rw [show (some "token" : Option String).filter (fun t => !t.isEmpty) = some "token" from by decide]
  dsimp only
  split
  · next hps =>
    rw [hps] at h
    cases h
  · next hps =>
    rw [hps] at h
    rw [Option.some.inj h]

/-- `alice` signs out. -/
def logoutAlice : Action := .request (World.plain 1) (.browser .postLogout (some "token") [])

/-- `POST /auth/logout` leaves the session: the route authenticates nobody, so that its handler sees
no cookie. -/
theorem session_outlives_logout : ∃ l s p, GatewayRun Gateway.fresh l s ∧
    l.map Step.act = [setupAlice, logoutAlice] ∧ Gateway.fresh.auth.sessions = [] ∧
    (authenticate (World.plain 2) aliceCookie s).1 = .ok (p, some "token") ∧
    ¬ ∃ l₁ x l₂ issued, l = l₁ ++ x :: l₂ ∧ Issues x "token" p.name issued ∧
      ∀ y ∈ l₂, ¬ Ends y "token" p.name := by
  obtain ⟨l, s, hrun, hacts, htest⟩ := @Run.of_test _ _ _ step Gateway.fresh
    [setupAlice, logoutAlice] (fun _ s => decide ((s.auth.principalForSession (Authd.Env.plain 2)
      "token").1 = some (Principal.ofRole "alice" "owner"))) (by decide +kernel)
  have hp := of_decide_eq_true htest
  refine ⟨l, s, Principal.ofRole "alice" "owner", hrun, hacts, rfl, ?_, ?_⟩
  · exact authenticate_cookie hp
  · rintro ⟨l₁, x, l₂, issued, hl, ⟨w, r, session, hact, hroute, -⟩, hnone⟩
    rw [hl, List.map_append, List.map_cons] at hacts
    match l₁, hacts with
    | [], hacts =>
      obtain ⟨-, hrest⟩ := List.cons_eq_cons.mp hacts
      have hmem : logoutAlice ∈ l₂.map Step.act := by
        rw [hrest]
        exact List.mem_singleton_self _
      obtain ⟨y, hy, hyact⟩ := List.mem_map.mp hmem
      exact hnone y hy (.logout hyact rfl rfl)
    | [z], hacts =>
      obtain ⟨-, hrest⟩ := List.cons_eq_cons.mp hacts
      obtain ⟨hlast, -⟩ := List.cons_eq_cons.mp hrest
      rw [hact] at hlast
      obtain ⟨-, rfl⟩ := Action.request.inj hlast
      rcases hroute with ⟨h, -⟩ | ⟨h, -⟩ <;> cases h
    | z :: z' :: rest, hacts =>
      have hlen := congrArg List.length hacts
      simp at hlen

theorem session_lifecycle_setup : ∃ l s p, GatewayRun Gateway.fresh l s ∧
    l.map Step.act = [setupAlice] ∧
    (authenticate (World.plain 2) aliceCookie s).1 = .ok (p, some "token") ∧
    ∃ l₁ x l₂ issued used, l = l₁ ++ x :: l₂ ∧ Issues x "token" p.name issued ∧
      (World.plain 2).auth.now - issued ≤ Authd.sessionTtl ∧ LastUse "token" issued l₂ used ∧
      (World.plain 2).auth.now - used ≤ Authd.sessionIdleTtl ∧ ∀ y ∈ l₂, ¬ Ends y "token" p.name := by
  obtain ⟨l, s, hrun, hacts, htest⟩ := @Run.of_test _ _ _ step Gateway.fresh [setupAlice]
    (fun _ s => decide ((s.auth.principalForSession (Authd.Env.plain 2) "token").1 =
      some (Principal.ofRole "alice" "owner"))) (by decide +kernel)
  have hauth := @authenticate_cookie (World.plain 2) s _ (of_decide_eq_true htest)
  have hkeeps : ∀ x ∈ l, keepsSessions x := by
    intro x hx
    have hmem : x.act ∈ l.map Step.act := List.mem_map_of_mem hx
    rw [hacts] at hmem
    unfold keepsSessions
    rw [List.mem_singleton.mp hmem]
    rfl
  exact ⟨l, s, _, hrun, hacts, hauth, session_lifecycle rfl hrun hkeeps hauth⟩

end Sbegw.Api
