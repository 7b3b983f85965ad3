import Sbegw.Authd.Attempts

/-!
# The session table

What each operation of `authd` does to the sessions: a sign-in that verifies opens one, a request
that shows a cookie renews or drops it, and the revocations drop those they name.
-/

namespace Sbegw.Authd

namespace AuthManager

theorem sessions_rateLimited (env : Env) (key : String) (m : AuthManager) :
    (m.rateLimited env key).2.sessions = m.sessions := rfl

theorem sessions_recordFailure (env : Env) (key : String) (m : AuthManager) :
    (m.recordFailure env key).sessions = m.sessions := rfl

theorem logLogin_cases (env : Env) (username sourceIp : String) (success : Bool)
    (reason agent : String) (m : AuthManager) :
    (env.loginFault = true ∧ m.logLogin env username sourceIp success reason agent =
        (.error (.storage "logins"), m)) ∨
    (env.loginFault = false ∧ ∃ m', m.logLogin env username sourceIp success reason agent =
        (.ok (), m') ∧ m'.sessions = m.sessions) := by
  unfold logLogin
  cases hf : env.loginFault with
  | true => exact Or.inl ⟨rfl, rfl⟩
  | false => exact Or.inr ⟨rfl, _, rfl, rfl⟩

theorem reject_cases (env : Env) (username sourceIp reason agent message : String)
    (m : AuthManager) : ∃ e m', reject env username sourceIp reason agent message m =
      (.error e, m') ∧ m'.sessions = m.sessions := by
  unfold reject
  rcases logLogin_cases env username sourceIp false reason agent m with ⟨-, h⟩ | ⟨-, m', h, hm⟩
  · rw [h]
    exact ⟨_, _, rfl, rfl⟩
  · rw [h]
    exact ⟨_, _, rfl, hm⟩

end AuthManager

/-- A verification that passes has found the record of the user. -/
theorem recordOf_of_passed {env : Env} {running user : Obj} {username password : String}
    {totp : Json} (h : verdict env running username password totp = .passed user) :
    recordOf running username = some user := by
  unfold verdict at h
  cases hr : recordOf running username with
  | none => simp [hr] at h
  | some u =>
    cases hp : passwordFits env password (some u) with
    | false => simp [hr, hp] at h
    | true =>
      simp only [hr, hp] at h
      split at h
      · cases h
      · simpa using h

/-- What a sign-in does to the sessions: nothing, or it opens one for the user it verified; then it
succeeds, unless the login cannot be recorded. -/
theorem login_cases (env : Env) (running : Obj) (c : Call) (m : AuthManager) :
    (∃ e m', m.login env running c.username c.password c.sourceIp c.agent c.totp = (.error e, m') ∧
      m'.sessions = m.sessions) ∨
    ∃ user r m', m.login env running c.username c.password c.sourceIp c.agent c.totp = (r, m') ∧
      recordOf running c.username = some user ∧
      m'.sessions = Dict.set env.token (c.session env user) m.sessions ∧
      ((env.loginFault = false ∧ r = .ok (c.session env user)) ∨
        (env.loginFault = true ∧ r = .error (.storage "logins"))) := by
  rw [Call.login_eq]
  dsimp only
  split
  · obtain ⟨e, m', h, hm⟩ := AuthManager.reject_cases env c.username c.sourceIp "rate limited" c.agent
      "too many failed attempts; try again later" (m.rateLimited env (LimitKey.ip c.sourceIp).text).2
    exact Or.inl ⟨e, m', h, hm⟩
  split
  · obtain ⟨e, m', h, hm⟩ := AuthManager.reject_cases env c.username c.sourceIp "rate limited" c.agent
      "too many failed attempts; try again later"
      ((m.rateLimited env (LimitKey.ip c.sourceIp).text).2.rateLimited env
        (LimitKey.user c.username).text).2
    exact Or.inl ⟨e, m', h, hm⟩
  rw [Call.signIn_eq_settle]
  cases hv : verdict env running c.username c.password c.totp with
  | wrongPassword =>
    obtain ⟨e, m', h, hm⟩ := AuthManager.reject_cases env c.username c.sourceIp "invalid credentials"
      c.agent "invalid username or password" _
    exact Or.inl ⟨e, m', h, hm⟩
  | wrongCode =>
    obtain ⟨e, m', h, hm⟩ := AuthManager.reject_cases env c.username c.sourceIp "MFA failed"
      c.agent "MFA code required or incorrect" _
    exact Or.inl ⟨e, m', h, hm⟩
  | passed user =>
    have hrecord := recordOf_of_passed hv
    show _ ∨ ∃ user' r m', c.signedIn env user _ = (r, m') ∧ _
    unfold Call.signedIn
    dsimp only
    rcases AuthManager.logLogin_cases env c.username c.sourceIp true "" c.agent _ with
      ⟨hf, h⟩ | ⟨hf, m', h, hm⟩
    · rw [h]
      exact Or.inr ⟨user, _, _, rfl, hrecord, rfl, Or.inr ⟨hf, rfl⟩⟩
    · rw [h]
      exact Or.inr ⟨user, _, _, rfl, hrecord, hm, Or.inl ⟨hf, rfl⟩⟩

end Sbegw.Authd
