import Mathlib.Algebra.Order.Ring.Rat
import Sbegw.Lib.Run
import Sbegw.Lib.Throttle
import Sbegw.Authd.Accounts

/-!
# Sign-in attempts side by side

The threads that serve `POST /auth/login` run `login` at the same time and lock only around single
table accesses.  A call takes the steps check-ip, check-user, verify and, when a verification fails,
record-failure; the steps of any number of calls interleave, and each reads the clock and the
running configuration as they are then.
-/

namespace Sbegw.Authd

open Machine

/-! ### One call -/

/-- A key of the limit. -/
inductive LimitKey where
  | ip (sourceIp : String)
  | user (username : String)
deriving DecidableEq

/-- The key as `_failures` has it. -/
def LimitKey.text : LimitKey → String
  | .ip sourceIp => "ip:" ++ sourceIp
  | .user username => "user:" ++ username

/-- What the verification of a password and a second factor comes to. -/
inductive Verdict where
  | wrongPassword
  | wrongCode
  | passed (user : Obj)

/-- The password fits the stored hash; that of a missing user fits none. -/
def passwordFits (env : Env) (password : String) (user : Option Obj) : Bool :=
  match user.bind AuthManager.storedHash with
  | some (.str stored) => env.verifyPassword password stored
  | _ => false

/-- The one-time code fits the secret of the second factor. -/
def codeFits (env : Env) (secret totp : Json) : Bool :=
  match secret, totp with
  | .str s, .str code => !code.isEmpty && env.totpVerify s code
  | _, _ => false

/-- The verification of `login`. -/
def verdict (env : Env) (running : Obj) (username password : String) (totp : Json) : Verdict :=
  match recordOf running username, passwordFits env password (recordOf running username) with
  | some user, true =>
    let secret := (Dict.lookup "totp_secret" user).getD .null
    if secret.truthy && !codeFits env secret totp then .wrongCode else .passed user
  | _, _ => .wrongPassword

/-- The next step of a call of `login`. -/
inductive Phase where
  | checkIp
  | checkUser
  | verify
  /-- a wrong password is recorded under the address first -/
  | recordIp
  | recordUser (wrongCode : Bool)
  | done (outcome : Except Exn Session)

/-- A call of `login`. -/
structure Call where
  username : String
  password : String
  sourceIp : String
  agent : String
  totp : Json
  phase : Phase

namespace Call

/-- Record a failed attempt and raise. -/
def refuse (env : Env) (reason message : String) (c : Call) (m : AuthManager) :
    Phase × AuthManager :=
  let r := AuthManager.reject env c.username c.sourceIp reason c.agent message m
  (.done r.1, r.2)

/-- One of the two checks of the limit. -/
def check (env : Env) (key : LimitKey) (next : Phase) (c : Call) (m : AuthManager) :
    Phase × AuthManager :=
  let r := m.rateLimited env key.text
  if r.1 then c.refuse env "rate limited" "too many failed attempts; try again later" r.2
  else (next, r.2)

/-- The new session of a user. -/
def session (env : Env) (user : Obj) (c : Call) : Session :=
  ⟨env.token, env.csrf, c.username,
    Schema.pyStr ((Dict.lookup "role" user).getD (.str "read-only")), env.now, env.now, c.sourceIp,
    c.agent⟩

/-- Open the session, once everything is verified. -/
def signedIn (env : Env) (user : Obj) (c : Call) (m : AuthManager) :
    Except Exn Session × AuthManager :=
  let m := { m with sessions := Dict.set env.token (c.session env user) m.sessions }
  match m.logLogin env c.username c.sourceIp true "" c.agent with
  | (.error e, m) => (.error e, m)
  | (.ok (), m) => (.ok (c.session env user), m)

/-- The phase after the verification. -/
def judged (env : Env) (c : Call) (m : AuthManager) : Verdict → Phase × AuthManager
  | .wrongPassword => (.recordIp, m)
  | .wrongCode => (.recordUser true, m)
  | .passed user => (.done (c.signedIn env user m).1, (c.signedIn env user m).2)

/-- The next step of a call. -/
def advance (env : Env) (running : Obj) (c : Call) (m : AuthManager) : Phase × AuthManager :=
  match c.phase with
  | .checkIp => c.check env (.ip c.sourceIp) .checkUser m
  | .checkUser => c.check env (.user c.username) .verify m
  | .verify => c.judged env m (verdict env running c.username c.password c.totp)
  | .recordIp => (.recordUser false, m.recordFailure env (LimitKey.ip c.sourceIp).text)
  | .recordUser wrongCode =>
    let m := m.recordFailure env (LimitKey.user c.username).text
    if wrongCode then c.refuse env "MFA failed" "MFA code required or incorrect" m
    else c.refuse env "invalid credentials" "invalid username or password" m
  | .done outcome => (.done outcome, m)

/-- Steps of a call that nobody else comes between. -/
def drive (env : Env) (running : Obj) : ℕ → Call → AuthManager → Phase × AuthManager
  | 0, c, m => (c.phase, m)
  | n + 1, c, m =>
    let r := c.advance env running m
    drive env running n { c with phase := r.1 } r.2

theorem drive_done (env : Env) (running : Obj) (outcome : Except Exn Session) (c : Call)
    (m : AuthManager) : ∀ n, drive env running n { c with phase := .done outcome } m =
      (.done outcome, m)
  | 0 => rfl
  | n + 1 => drive_done env running outcome c m n

/-- The steps after a verification. -/
def settle (env : Env) (c : Call) (m : AuthManager) : Verdict → Except Exn Session × AuthManager
  | .wrongPassword =>
    let m := (m.recordFailure env ("ip:" ++ c.sourceIp)).recordFailure env ("user:" ++ c.username)
    AuthManager.reject env c.username c.sourceIp "invalid credentials" c.agent
      "invalid username or password" m
  | .wrongCode =>
    AuthManager.reject env c.username c.sourceIp "MFA failed" c.agent
      "MFA code required or incorrect" (m.recordFailure env ("user:" ++ c.username))
  | .passed user => c.signedIn env user m

theorem signIn_eq_settle (env : Env) (running : Obj) (c : Call) (m : AuthManager) :
    m.signIn env running c.username c.password c.sourceIp c.agent c.totp =
      c.settle env m (verdict env running c.username c.password c.totp) := by
  unfold AuthManager.signIn verdict
  change (match recordOf running c.username,
      passwordFits env c.password (recordOf running c.username) with
    | some user, true => _
    | _, _ => _) = _
  cases recordOf running c.username with
  | none => rfl
  | some user =>
    cases passwordFits env c.password (some user) with
    | false => rfl
    | true =>
      dsimp only
      change (if ((Dict.lookup "totp_secret" user).getD .null).truthy &&
        !codeFits env ((Dict.lookup "totp_secret" user).getD .null) c.totp then _ else _) = _
      split <;> rfl

/-- The steps after the two checks are `signIn`. -/
theorem drive_verify (env : Env) (running : Obj) (c : Call) (m : AuthManager) :
    drive env running 3 { c with phase := .verify } m =
      (.done (m.signIn env running c.username c.password c.sourceIp c.agent c.totp).1,
        (m.signIn env running c.username c.password c.sourceIp c.agent c.totp).2) := by
  rw [signIn_eq_settle, drive]
  simp only [advance]
  cases hv : verdict env running c.username c.password c.totp with
  | wrongPassword => rfl
  | wrongCode => rfl
  | passed user => rfl

/-- A check that refuses ends the call; one that does not lets it go on. -/
theorem check_cases (env : Env) (key : LimitKey) (next : Phase) (c : Call) (m : AuthManager) :
    ((m.rateLimited env key.text).1 = true ∧ c.check env key next m =
      c.refuse env "rate limited" "too many failed attempts; try again later"
        (m.rateLimited env key.text).2) ∨
    ((m.rateLimited env key.text).1 = false ∧
      c.check env key next m = (next, (m.rateLimited env key.text).2)) := by
  unfold check
  by_cases h : (m.rateLimited env key.text).1 = true
  · exact Or.inl ⟨h, if_pos h⟩
  · exact Or.inr ⟨by simpa using h, if_neg h⟩

/-- `login` as its two checks and `signIn`. -/
theorem login_eq (env : Env) (running : Obj) (c : Call) (m : AuthManager) :
    m.login env running c.username c.password c.sourceIp c.agent c.totp =
      (let r₁ := m.rateLimited env (LimitKey.ip c.sourceIp).text
      let r₂ := r₁.2.rateLimited env (LimitKey.user c.username).text
      let message := "too many failed attempts; try again later"
      if r₁.1 then AuthManager.reject env c.username c.sourceIp "rate limited" c.agent message r₁.2
      else if r₂.1 then
        AuthManager.reject env c.username c.sourceIp "rate limited" c.agent message r₂.2
      else r₂.2.signIn env running c.username c.password c.sourceIp c.agent c.totp) := rfl

/-- **A call on its own is `login`.** -/
theorem drive_checkIp (env : Env) (running : Obj) (c : Call) (m : AuthManager) :
    drive env running 5 { c with phase := .checkIp } m =
      (.done (m.login env running c.username c.password c.sourceIp c.agent c.totp).1,
        (m.login env running c.username c.password c.sourceIp c.agent c.totp).2) := by
  have hip : advance env running { c with phase := .checkIp } m =
      c.check env (.ip c.sourceIp) .checkUser m := rfl
  have huser : ∀ m, advance env running { c with phase := .checkUser } m =
      c.check env (.user c.username) .verify m := fun _ => rfl
  rw [login_eq, drive, hip]
  dsimp only
  rcases c.check_cases env (.ip c.sourceIp) .checkUser m with ⟨h, hc⟩ | ⟨h, hc⟩
  · rw [hc, if_pos h]
    exact drive_done env running _ c _ 4
  · rw [hc, h, if_neg Bool.false_ne_true]
    dsimp only
    rw [drive, huser]
    rcases c.check_cases env (.user c.username) .verify
      (m.rateLimited env (LimitKey.ip c.sourceIp).text).2 with ⟨h, hc⟩ | ⟨h, hc⟩
    · rw [hc, if_pos h]
      exact drive_done env running _ c _ 3
    · rw [hc, h, if_neg Bool.false_ne_true]
      exact drive_verify env running c _

end Call

/-! ### The machine -/

/-- A verification that failed. -/
structure Failed where
  ts : ℚ
  username : String
  sourceIp : String

/-- The table of failures, the calls by number and the verifications that have failed. -/
structure Attempts where
  auth : AuthManager
  clock : ℚ
  calls : Dict ℕ Call
  failed : List Failed

/-- What can happen: a request comes in, or a call takes its next step. -/
inductive AttemptAction where
  | call (id : ℕ) (username password sourceIp agent : String) (totp : Json)
  | advance (id : ℕ) (env : Env) (running : Obj)

/-- The verification that the next step of a call fails. -/
def Call.failure (env : Env) (running : Obj) (c : Call) : List Failed :=
  match c.phase with
  | .verify =>
    match verdict env running c.username c.password c.totp with
    | .passed _ => []
    | _ => [⟨env.now, c.username, c.sourceIp⟩]
  | _ => []

/-- The transition function.  Clock readings do not decrease. -/
def attempt (s : Attempts) : AttemptAction → Option (Unit × Attempts)
  | .call id username password sourceIp agent totp =>
    match Dict.lookup id s.calls with
    | some _ => none
    | none =>
      let c : Call := ⟨username, password, sourceIp, agent, totp, .checkIp⟩
      some ((), { s with calls := Dict.set id c s.calls })
  | .advance id env running =>
    match Dict.lookup id s.calls with
    | none => none
    | some c =>
      if s.clock ≤ env.now then
        let r := c.advance env running s.auth
        some ((), ⟨r.2, env.now, Dict.set id { c with phase := r.1 } s.calls,
          s.failed ++ c.failure env running⟩)
      else none

/-- A run of concurrent calls. -/
abbrev AttemptRun := Run attempt

/-- A step of a run. -/
abbrev AttemptStep := Machine.Step Attempts AttemptAction Unit

/-- A new `AuthManager`. -/
def AuthManager.blank : AuthManager := ⟨[], [], [], 0⟩

/-- Before the first call. -/
def Attempts.start (now : ℚ) : Attempts := ⟨AuthManager.blank, now, [], []⟩

/-! ### A key of the limit -/

/-- The call has passed the check of the key and is not verified yet. -/
def Call.active (key : LimitKey) (c : Call) : Bool :=
  match c.phase with
  | .checkUser => key == .ip c.sourceIp
  | .verify => key == .ip c.sourceIp || key == .user c.username
  | _ => false

/-- The call has failed and will record it under the key. -/
def Call.owing (key : LimitKey) (c : Call) : Bool :=
  match c.phase with
  | .recordIp => key == .ip c.sourceIp || key == .user c.username
  | .recordUser _ => key == .user c.username
  | _ => false

/-- The failure counts under the key. -/
def Failed.under (key : LimitKey) (f : Failed) : Bool :=
  key == .ip f.sourceIp || key == .user f.username

/-- The recorded failures of a key. -/
def AuthManager.recorded (key : LimitKey) (m : AuthManager) : List ℚ :=
  (Dict.lookup key.text m.failures).getD []

namespace Attempts

/-- The verifications that failed under a key, by their times. -/
def failures (key : LimitKey) (s : Attempts) : List ℚ :=
  (s.failed.filter fun f => f.under key).map Failed.ts

/-- The calls under a key that passed its check and have not recorded a failure. -/
def pending (key : LimitKey) (s : Attempts) : ℕ :=
  s.calls.countP (fun e => e.2.active key) + s.calls.countP fun e => e.2.owing key

/-- What the limit is about, for one key. -/
def view (key : LimitKey) (s : Attempts) : Throttle.View ℚ where
  clock := s.clock
  recorded := s.auth.recorded key
  active := s.calls.countP fun e => e.2.active key
  owing := s.calls.countP fun e => e.2.owing key
  failed := s.failures key

end Attempts

/-! ### What a step does to a key -/

theorem LimitKey.text_inj {a b : LimitKey} (h : a.text = b.text) : a = b := by
  cases a with
  | ip a => cases b with
    | ip b => simpa [LimitKey.text] using h
    | user b =>
      have hh := congrArg (fun s => s.toList.head?) h
      simp [LimitKey.text] at hh
  | user a => cases b with
    | ip b =>
      have hh := congrArg (fun s => s.toList.head?) h
      simp [LimitKey.text] at hh
    | user b => simpa [LimitKey.text] using h

namespace AuthManager

theorem recorded_rateLimited (env : Env) (key k : LimitKey) (m : AuthManager) :
    (m.rateLimited env k.text).2.recorded key =
      if key = k then (m.recorded k).filter fun t => decide (env.now - loginWindow < t)
      else m.recorded key := by
  unfold recorded rateLimited
  dsimp only
  by_cases h : key = k
  · subst h
    simp
  · rw [if_neg h, Dict.lookup_set_of_ne fun ht => h (LimitKey.text_inj ht)]

theorem rateLimited_eq (env : Env) (k : LimitKey) (m : AuthManager) :
    (m.rateLimited env k.text).1 =
      decide (loginMaxFailures ≤ Throttle.after (env.now - loginWindow) (m.recorded k)) := by
  unfold rateLimited Throttle.after recorded
  rw [List.countP_eq_length_filter]

theorem recorded_recordFailure (env : Env) (key k : LimitKey) (m : AuthManager) :
    (m.recordFailure env k.text).recorded key =
      if key = k then m.recorded k ++ [env.now] else m.recorded key := by
  unfold recorded recordFailure
  dsimp only
  by_cases h : key = k
  · subst h
    simp
  · rw [if_neg h, Dict.lookup_set_of_ne fun ht => h (LimitKey.text_inj ht)]

theorem failures_logLogin (env : Env) (username sourceIp : String) (success : Bool)
    (reason agent : String) (m : AuthManager) :
    (m.logLogin env username sourceIp success reason agent).2.failures = m.failures := by
  unfold logLogin
  split <;> rfl

theorem failures_reject (env : Env) (username sourceIp reason agent message : String)
    (m : AuthManager) :
    (reject env username sourceIp reason agent message m).2.failures = m.failures := by
  have h := failures_logLogin env username sourceIp false reason agent m
  unfold reject
  split <;> simp_all

end AuthManager

theorem Call.recorded_refuse (env : Env) (reason message : String) (c : Call) (m : AuthManager)
    (key : LimitKey) : (c.refuse env reason message m).2.recorded key = m.recorded key := by
  unfold AuthManager.recorded
  rw [show (c.refuse env reason message m).2.failures = m.failures from
    AuthManager.failures_reject env c.username c.sourceIp reason c.agent message m]

theorem Call.recorded_signedIn (env : Env) (user : Obj) (c : Call) (m : AuthManager)
    (key : LimitKey) : (c.signedIn env user m).2.recorded key = m.recorded key := by
  have hf := AuthManager.failures_logLogin env c.username c.sourceIp true "" c.agent
    { m with sessions := Dict.set env.token (c.session env user) m.sessions }
  unfold AuthManager.recorded Call.signedIn
  dsimp only at hf ⊢
  split
  · next h =>
    rw [h] at hf
    rw [hf]
  · next h =>
    rw [h] at hf
    rw [hf]

/-- Moves of a key under the limit of `login`. -/
abbrev Moves : Throttle.View ℚ → Throttle.View ℚ → Prop :=
  Throttle.Moves loginWindow loginMaxFailures

/-- The state after a step that leaves the call `c'` behind. -/
def Attempts.stepped (id : ℕ) (now : ℚ) (c' : Call) (m : AuthManager) (fs : List Failed)
    (s : Attempts) : Attempts :=
  ⟨m, now, Dict.set id c' s.calls, s.failed ++ fs⟩

section

variable {s : Attempts} {id : ℕ} {c c' : Call} {now : ℚ} {m : AuthManager} {fs : List Failed}
  {key : LimitKey} {r : List ℚ}

/-- A step changes the counts of a key by what it changes for its own call. -/
theorem view_stepped (hc : Dict.lookup id s.calls = some c) (c' : Call) (now : ℚ) (m : AuthManager)
    (fs : List Failed) (key : LimitKey) : ∃ active owing,
      (s.stepped id now c' m fs).view key = ⟨now, m.recorded key, active, owing,
        s.failures key ++ (fs.filter fun f => f.under key).map Failed.ts⟩ ∧
      active + (c.active key).toNat = (s.view key).active + (c'.active key).toNat ∧
      owing + (c.owing key).toNat = (s.view key).owing + (c'.owing key).toNat := by
  refine ⟨_, _, ?_, Dict.countP_set hc c' fun c => c.active key,
    Dict.countP_set hc c' fun c => c.owing key⟩
  simp [Attempts.view, Attempts.stepped, Attempts.failures]

/-- Time passes, and a check may forget what is too old. -/
theorem moves_clock (hclock : s.clock ≤ now)
    (hr : r = s.auth.recorded key ∨
      r = (s.auth.recorded key).filter fun t => decide (now - loginWindow < t)) :
    Moves (s.view key) { s.view key with clock := now, recorded := r } := by
  have hwait : Moves (s.view key) { s.view key with clock := now } :=
    Relation.ReflTransGen.single (.wait (s.view key) hclock)
  rcases hr with rfl | rfl
  · exact hwait
  · exact hwait.tail (.forget { s.view key with clock := now } le_rfl)

theorem moves_stay (hc : Dict.lookup id s.calls = some c)
    (h : Moves (s.view key) { s.view key with clock := now, recorded := m.recorded key })
    (ha : c'.active key = c.active key) (ho : c'.owing key = c.owing key)
    (hf : fs.filter (fun f => f.under key) = []) :
    Moves (s.view key) ((s.stepped id now c' m fs).view key) := by
  obtain ⟨active, owing, hview, hA, hO⟩ := view_stepped hc c' now m fs key
  rw [ha, Nat.add_right_cancel_iff] at hA
  rw [ho, Nat.add_right_cancel_iff] at hO
  rw [hview, hf, hA, hO, List.map_nil, List.append_nil]
  exact h

theorem moves_enter (hc : Dict.lookup id s.calls = some c)
    (h : Moves (s.view key) { s.view key with clock := now, recorded := m.recorded key })
    (ha : c.active key = false) (ha' : c'.active key = true) (ho : c'.owing key = c.owing key)
    (hf : fs.filter (fun f => f.under key) = [])
    (hroom : Throttle.after (now - loginWindow) (m.recorded key) + s.pending key < loginMaxFailures) :
    Moves (s.view key) ((s.stepped id now c' m fs).view key) := by
  obtain ⟨active, owing, hview, hA, hO⟩ := view_stepped hc c' now m fs key
  rw [ha, ha'] at hA
  rw [ho, Nat.add_right_cancel_iff] at hO
  rw [hview, hf, hO, List.map_nil, List.append_nil, show active = (s.view key).active + 1 from hA]
  refine h.tail (.enter { s.view key with clock := now, recorded := m.recorded key } ?_)
  rw [Attempts.pending, ← Nat.add_assoc] at hroom
  exact hroom

theorem moves_leave (hc : Dict.lookup id s.calls = some c)
    (h : Moves (s.view key) { s.view key with clock := now, recorded := m.recorded key })
    (ha : c.active key = true) (ha' : c'.active key = false) (ho : c'.owing key = c.owing key)
    (hf : fs.filter (fun f => f.under key) = []) :
    Moves (s.view key) ((s.stepped id now c' m fs).view key) := by
  obtain ⟨active, owing, hview, hA, hO⟩ := view_stepped hc c' now m fs key
  rw [ha, ha'] at hA
  rw [ho, Nat.add_right_cancel_iff] at hO
  have hA : active + 1 = (s.view key).active := hA
  rw [hview, hf, hO, List.map_nil, List.append_nil,
    show active = (s.view key).active - 1 by omega]
  exact h.tail (.leave { s.view key with clock := now, recorded := m.recorded key }
    (show 0 < (s.view key).active by omega))

theorem moves_fail (hc : Dict.lookup id s.calls = some c)
    (h : Moves (s.view key) { s.view key with clock := now, recorded := m.recorded key })
    (ha : c.active key = true) (ha' : c'.active key = false) (ho : c.owing key = false)
    (ho' : c'.owing key = true) (hf : (fs.filter fun f => f.under key).map Failed.ts = [now]) :
    Moves (s.view key) ((s.stepped id now c' m fs).view key) := by
  obtain ⟨active, owing, hview, hA, hO⟩ := view_stepped hc c' now m fs key
  rw [ha, ha'] at hA
  rw [ho, ho'] at hO
  have hA : active + 1 = (s.view key).active := hA
  rw [hview, hf, show owing = (s.view key).owing + 1 from hO,
    show active = (s.view key).active - 1 by omega]
  exact h.tail (.fail { s.view key with clock := now, recorded := m.recorded key }
    (show 0 < (s.view key).active by omega))

theorem moves_record (hc : Dict.lookup id s.calls = some c)
    (h : Moves (s.view key) { s.view key with clock := now, recorded := r })
    (hr : m.recorded key = r ++ [now])
    (ha : c'.active key = c.active key) (ho : c.owing key = true) (ho' : c'.owing key = false)
    (hf : fs.filter (fun f => f.under key) = []) :
    Moves (s.view key) ((s.stepped id now c' m fs).view key) := by
  obtain ⟨active, owing, hview, hA, hO⟩ := view_stepped hc c' now m fs key
  rw [ha, Nat.add_right_cancel_iff] at hA
  rw [ho, ho'] at hO
  have hO : owing + 1 = (s.view key).owing := hO
  rw [hview, hf, hA, hr, List.map_nil, List.append_nil,
    show owing = (s.view key).owing - 1 by omega]
  exact h.tail (.record { s.view key with clock := now, recorded := r }
    (show 0 < (s.view key).owing by omega))

end

end Sbegw.Authd
