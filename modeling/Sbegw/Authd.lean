import Sbegw.Configd.Submit

/-!
# Accounts, sessions and permissions

`authd`: users live in the configuration, sessions and failed attempts in memory, the login history
in a database of its own.  Hashes, one-time codes, random tokens and the character classes of
Unicode are parameters.
-/

namespace Sbegw.Authd

open Configd (Draft CommitArgs Mutation inside insideOr)
open Text

/-! ### Permissions -/

/-- `ROLE_PERMISSIONS` -/
def rolePermissions : Dict String (List String) :=
  [("owner", ["*"]),
   ("super-admin", ["*"]),
   ("network-admin", ["network.read", "network.write", "routing.read", "routing.write",
     "system.read", "audit.read", "vpn.read"]),
   ("security-admin", ["security.read", "security.write", "network.read", "vpn.read", "vpn.write",
     "system.read", "audit.read"]),
   ("helpdesk", ["network.read", "security.read", "system.read", "clients.write"]),
   ("read-only", ["network.read", "security.read", "routing.read", "vpn.read", "system.read",
     "audit.read"])]

/-- How a principal signed in. -/
inductive PrincipalKind where
  | session
  | token
deriving DecidableEq

/-- `Principal` -/
structure Principal where
  name : String
  role : String
  permissions : List String
  kind : PrincipalKind
deriving DecidableEq

/-- `Principal(name, role)` of a session. -/
def Principal.ofRole (name role : String) : Principal :=
  ⟨name, role, (Dict.lookup role rolePermissions).getD [], .session⟩

/-- `can(permission)` -/
def Principal.can (p : Principal) (permission : String) : Bool :=
  p.permissions.contains "*" || p.permissions.contains permission ||
    match cut "." permission with
    | some (area, action) => action == "read" && p.permissions.contains (area ++ ".write")
    | none => false

/-! ### State -/

/-- An entry of `_sessions`. -/
structure Session where
  token : String
  csrf : String
  username : String
  role : String
  created : ℚ
  lastSeen : ℚ
  sourceIp : String
  agent : String
deriving DecidableEq

/-- A row of `logins`. -/
structure LoginRow where
  id : ℕ
  ts : ℚ
  username : String
  sourceIp : String
  success : Bool
  reason : String
  agent : String
deriving DecidableEq

/-- `AuthManager`, without the store it writes accounts to. -/
structure AuthManager where
  sessions : Dict String Session
  failures : Dict String (List ℚ)
  logins : List LoginRow
  lastLogin : ℕ
deriving DecidableEq

/-- What surrounds a call. -/
structure Env where
  now : ℚ
  hashPassword : String → String
  verifyPassword : String → String → Bool
  totpVerify : String → String → Bool
  sha256 : String → String
  /-- `secrets.token_urlsafe(32)` -/
  token : String
  /-- `secrets.token_urlsafe(24)` -/
  csrf : String
  /-- the base32 secret of a new second factor -/
  totpSecret : String
  isLower : Char → Bool
  isUpper : Char → Bool
  isDigit : Char → Bool
  isAlnum : Char → Bool
  /-- the login row cannot be written -/
  loginFault : Bool

/-- An environment in which a hash is the password itself and a code the secret. -/
def Env.plain (now : ℚ) : Env where
  now := now
  hashPassword := id
  verifyPassword := fun password stored => password == stored
  totpVerify := fun secret code => secret == code
  sha256 := id
  token := "token"
  csrf := "csrf"
  totpSecret := "secret"
  isLower := Char.isLower
  isUpper := Char.isUpper
  isDigit := Char.isDigit
  isAlnum := Char.isAlphanum
  loginFault := false

/-! ### Accounts -/

/-- `cfg.get("users", {})` -/
def usersOf (cfg : Obj) : Json := (Dict.lookup "users" cfg).getD (.obj [])

/-- `needs_setup()` -/
def needsSetup (cfg : Obj) : Bool := !((Dict.lookup "users" cfg).getD .null).truthy

/-- `_validate_password(password)`; anything but a string has no length or no characters. -/
def validatePassword (env : Env) (password : Json) : Except Exn String :=
  match password with
  | .str s =>
    let cs := s.toList
    if cs.length < 10 then .error (.value "password must be at least 10 characters")
    else
      let classes := [cs.any env.isLower, cs.any env.isUpper, cs.any env.isDigit,
        cs.any fun c => !env.isAlnum c].countP id
      if classes < 3 then .error (.value
        "password needs at least three of: lowercase, uppercase, digits, symbols")
      else .ok s
  | _ => .error .type

/-- A new entry of `users`. -/
def newUser (env : Env) (role password : String) : Json :=
  .obj [("role", .str role), ("password_hash", .str (env.hashPassword password)),
    ("created", .float env.now), ("totp_secret", .null)]

/-- `self.config.commit(user=actor, summary=summary, confirm_required=False)` -/
def accountArgs (actor summary : String) : CommitArgs :=
  { CommitArgs.default with user := actor, summary := summary, confirmRequired := some false }

/-- `create_owner(username, password)` -/
def createOwner (env : Env) (running : Obj) (username : String) (password : Json) :
    Except Exn Draft := do
  if !needsSetup running then .error (.permission "initial setup has already been completed")
  let password ← validatePassword env password
  return {
    mutate := fun cfg => do
      let cfg ← inside "users" .type
        (fun users => pure (Dict.set username (newUser env "owner" password) users)) cfg
      inside "system" .type (fun sys => pure (Dict.set "setup_complete" (.bool true) sys)) cfg
    args := accountArgs username "initial setup" }

/-- `username in users` of a section -/
def hasUser (users : Json) (username : String) : Except Exn Bool := Schema.pyIn (.str username) users

/-- `create_user(username, password, role, actor=actor)` -/
def createUser (env : Env) (running : Obj) (username : String) (password role : Json)
    (actor : String) : Except Exn Draft := do
  let role ← match role with
    | .str r =>
      if (Dict.lookup r rolePermissions).isSome then pure r
      else .error (.value ("unknown role '" ++ r ++ "'"))
    | .arr _ | .obj _ => .error .type
    | v => .error (.value ("unknown role '" ++ Schema.pyStr v ++ "'"))
  let password ← validatePassword env password
  if ← hasUser (usersOf running) username then
    .error (.value ("user '" ++ username ++ "' already exists"))
  return {
    mutate := inside "users" .type fun users =>
      pure (Dict.set username (newUser env role password) users)
    args := accountArgs actor ("create user " ++ username) }

/-- `set_password(username, password, actor=actor)`, up to the revocation of the sessions -/
def setPassword (env : Env) (username : String) (password : Json) (actor : String) :
    Except Exn Draft := do
  let password ← validatePassword env password
  return {
    mutate := fun cfg => do
      if !(← hasUser (usersOf cfg) username) then
        .error (.value ("unknown user '" ++ username ++ "'"))
      inside "users" .type (inside username .type fun user =>
        pure (Dict.set "password_hash" (.str (env.hashPassword password)) user)) cfg
    args := accountArgs actor ("password change for " ++ username) }

/-- `d.get("role") == "owner"` for every record; a record that is no object has no `get`. -/
def owners : Obj → Except Exn (List String)
  | [] => .ok []
  | (u, d) :: rest =>
    match d with
    | .obj kvs =>
      if (Dict.lookup "role" kvs).getD .null = .str "owner" then (owners rest).map (u :: ·)
      else owners rest
    | _ => .error .attribute

/-- `delete_user(username, actor=actor)`, up to the revocation of the sessions -/
def deleteUser (running : Obj) (username actor : String) : Except Exn Draft := do
  if !(← hasUser (usersOf running) username) then
    .error (.value ("unknown user '" ++ username ++ "'"))
  match usersOf running with
  | .obj users =>
    let all ← owners users
    if ((Dict.lookup username users).getD .null).getD "role" .null = .str "owner" ∧ all.length ≤ 1 then
      .error (.permission "cannot delete the only owner account")
    return {
      mutate := inside "users" .attribute fun users => pure (Dict.erase username users)
      args := accountArgs actor ("delete user " ++ username) }
  | _ => .error .attribute

/-- `enable_totp(username, actor=actor)` -/
def enableTotp (env : Env) (username actor : String) : Draft where
  mutate := inside "users" .type (inside username .type fun user =>
    pure (Dict.set "totp_secret" (.str env.totpSecret) user))
  args := accountArgs actor ("enable MFA for " ++ username)

/-! ### API tokens -/

/-- `create_token(name, role, actor=actor, permissions=permissions)` -/
def createToken (env : Env) (name role actor : String) (permissions : List String) : Draft where
  mutate := insideOr "api_tokens" [] .type fun tokens =>
    let granted := if permissions.isEmpty then
        ((Dict.lookup role rolePermissions).getD []).insertionSort (· ≤ ·)
      else permissions
    pure (Dict.set name (.obj [("hash", .str (env.sha256 env.token)), ("role", .str role),
      ("created", .float env.now), ("permissions", .arr (granted.map Json.str))]) tokens)
  args := accountArgs actor ("create API token " ++ name)

/-- `delete_token(name, actor=actor)` -/
def deleteToken (name actor : String) : Draft where
  mutate := fun cfg =>
    -- `.get("api_tokens", {})` of a document without tokens is a dictionary of its own
    if (Dict.lookup "api_tokens" cfg).isSome then
      inside "api_tokens" .attribute (fun tokens => pure (Dict.erase name tokens)) cfg
    else pure cfg
  args := accountArgs actor ("delete API token " ++ name)

/-- The permissions a token record grants. -/
def grantedTo (record : Obj) : List String :=
  match (Dict.lookup "permissions" record).getD .null with
  | .arr xs => xs.filterMap fun x => match x with | .str s => some s | _ => none
  | _ => []

/-- The loop of `principal_for_token` over the tokens. -/
def findToken (digest : String) : Obj → Except Exn (Option Principal)
  | [] => .ok none
  | (name, record) :: rest =>
    match record with
    | .obj kvs =>
      match (Dict.lookup "hash" kvs).getD (.str "") with
      | .str hash =>
        -- `compare_digest` takes ASCII text only
        if hash.toList.any fun c => 127 < c.toNat then .error .type
        else if hash = digest then
          .ok (some ⟨name, Schema.pyStr ((Dict.lookup "role" kvs).getD (.str "read-only")),
            grantedTo kvs, .token⟩)
        else findToken digest rest
      | _ => .error .type
    | _ => .error .attribute

/-- `principal_for_token(secret)` -/
def principalForToken (env : Env) (running : Obj) (secret : String) :
    Except Exn (Option Principal) :=
  match (Dict.lookup "api_tokens" running).getD (.obj []) with
  | .obj tokens => findToken (env.sha256 secret) tokens
  | _ => .error .attribute

/-! ### Sessions -/

def sessionTtl : ℚ := 8 * 3600

def sessionIdleTtl : ℚ := 60 * 60

def loginWindow : ℚ := 300

def loginMaxFailures : ℕ := 8

namespace AuthManager

/-- `_rate_limited(key)`: attempts outside the window are forgotten. -/
def rateLimited (env : Env) (key : String) (m : AuthManager) : Bool × AuthManager :=
  let attempts := ((Dict.lookup key m.failures).getD []).filter fun t => env.now - loginWindow < t
  (decide (loginMaxFailures ≤ attempts.length),
    { m with failures := Dict.set key attempts m.failures })

/-- `_record_failure(key)` -/
def recordFailure (env : Env) (key : String) (m : AuthManager) : AuthManager :=
  { m with failures := Dict.set key ((Dict.lookup key m.failures).getD [] ++ [env.now]) m.failures }

/-- `_log_login(...)`: the newest 2000 rows stay. -/
def logLogin (env : Env) (username sourceIp : String) (success : Bool) (reason agent : String)
    (m : AuthManager) : Except Exn Unit × AuthManager :=
  if env.loginFault then (.error (.storage "logins"), m)
  else
    let row : LoginRow := ⟨m.lastLogin + 1, env.now, username, sourceIp, success, reason,
      String.ofList (agent.toList.take 200)⟩
    let rows := m.logins ++ [row]
    (.ok (), { m with logins := rows.drop (rows.length - 2000), lastLogin := m.lastLogin + 1 })

/-- Record a failed attempt and raise. -/
def reject (env : Env) (username sourceIp reason agent message : String) (m : AuthManager) :
    Except Exn Session × AuthManager :=
  match m.logLogin env username sourceIp false reason agent with
  | (.error e, m) => (.error e, m)
  | (.ok (), m) => (.error (.permission message), m)

/-- `stored` of a user record, with the hash of a random password where there is none. -/
def storedHash (user : Obj) : Option Json :=
  (Dict.lookup "password_hash" user).filter Json.truthy

/-- The sign-in proper, after the rate limits. -/
def signIn (env : Env) (running : Obj) (username password sourceIp agent : String) (totp : Json)
    (m : AuthManager) : Except Exn Session × AuthManager :=
  let user := match (usersOf running).get? username with
    | some (.obj user) => some user
    | _ => none
  let matched := match user.bind storedHash with
    | some (.str stored) => env.verifyPassword password stored
    | _ => false
  match user, matched with
  | some user, true =>
    let secret := (Dict.lookup "totp_secret" user).getD .null
    let passed := match secret, totp with
      | .str s, .str code => !code.isEmpty && env.totpVerify s code
      | _, _ => false
    if secret.truthy && !passed then
      reject env username sourceIp "MFA failed" agent "MFA code required or incorrect"
        (m.recordFailure env ("user:" ++ username))
    else
      let session : Session := ⟨env.token, env.csrf, username,
        Schema.pyStr ((Dict.lookup "role" user).getD (.str "read-only")), env.now, env.now,
        sourceIp, agent⟩
      let m := { m with sessions := Dict.set env.token session m.sessions }
      match m.logLogin env username sourceIp true "" agent with
      | (.error e, m) => (.error e, m)
      | (.ok (), m) => (.ok session, m)
  | _, _ =>
    let m := (m.recordFailure env ("ip:" ++ sourceIp)).recordFailure env ("user:" ++ username)
    reject env username sourceIp "invalid credentials" agent "invalid username or password" m

/-- `login(username, password, source_ip=..., agent=..., totp=...)` -/
def login (env : Env) (running : Obj) (username password sourceIp agent : String) (totp : Json)
    (m : AuthManager) : Except Exn Session × AuthManager :=
  let (limited, m) := m.rateLimited env ("ip:" ++ sourceIp)
  if limited then
    reject env username sourceIp "rate limited" agent "too many failed attempts; try again later" m
  else
    let (limited, m) := m.rateLimited env ("user:" ++ username)
    if limited then
      reject env username sourceIp "rate limited" agent "too many failed attempts; try again later" m
    else m.signIn env running username password sourceIp agent totp

/-- `logout(token)` -/
def logout (token : String) (m : AuthManager) : AuthManager :=
  { m with sessions := Dict.erase token m.sessions }

/-- `revoke_user_sessions(username)` -/
def revokeUserSessions (username : String) (m : AuthManager) : AuthManager :=
  { m with sessions := m.sessions.filter fun e => e.2.username ≠ username }

/-- `revoke_session(session_id)`: the first session whose token starts so. -/
def revokeSession (id : String) (m : AuthManager) : Bool × AuthManager :=
  match m.sessions.find? fun e => startsWith id e.1 with
  | some e => (true, { m with sessions := Dict.erase e.1 m.sessions })
  | none => (false, m)

/-- `principal_for_session(token)` -/
def principalForSession (env : Env) (token : String) (m : AuthManager) :
    Option Principal × AuthManager :=
  match Dict.lookup token m.sessions with
  | none => (none, m)
  | some s =>
    if sessionTtl < env.now - s.created ∨ sessionIdleTtl < env.now - s.lastSeen then
      (none, { m with sessions := Dict.erase token m.sessions })
    else
      (some (Principal.ofRole s.username s.role),
        { m with sessions := Dict.set token { s with lastSeen := env.now } m.sessions })

/-- `csrf_for_session(token)` -/
def csrfForSession (token : String) (m : AuthManager) : Option String :=
  (Dict.lookup token m.sessions).map Session.csrf

end AuthManager

end Sbegw.Authd
