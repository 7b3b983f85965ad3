import Sbegw.Api.Changes
import Sbegw.Clientd

/-!
# Requests

The handlers that change something, the routes with their permissions, and the way of a request
through authentication to its handler.  A handler answers with its reply or raises; what it did
before an exception stays done.
-/

namespace Sbegw.Api

open Configd (Draft CommitReturn Store submit)
open Authd (Principal AuthManager)
open Clientd (ClientDatabase)
open Schema (Capabilities pyStr)
open Text

/-! ### State and surroundings -/

/-- What the requests change. -/
structure Gateway where
  store : Store
  clients : ClientDatabase
  auth : AuthManager

/-- What the controller sends for a sync, translated. -/
structure Desired where
  networks : Obj
  wifi : Obj
  records : List Json
  forwarders : List Json

/-- A radio that `optimise` moves: whether `hostapd` switches it, and whether the history can be
written. -/
structure Move where
  radio : String
  channel : ℤ
  switched : Bool
  historyFault : Bool

/-- What surrounds a request. -/
structure World where
  env : Configd.Env
  auth : Authd.Env
  clients : Clientd.Env
  /-- the transaction ids of the commits of the request, by number -/
  txid : ℕ → String
  /-- `wifid.capabilities()` -/
  capabilities : Capabilities
  /-- the calls of `wifid` for a client, by name and address -/
  wifid : String → String → Except Exn Bool
  /-- what the sync fetches for a configuration -/
  fetch : Obj → Except Exn Desired
  /-- `_save_state()` of the controller agent raises -/
  syncFault : Bool
  /-- the moves `optimise` decides on -/
  moves : Obj → Except Exn (List Move)
  /-- any other call out of a handler: whether it raises -/
  outside : String → Except Exn Json

/-- A world without hooks in which nothing fails. -/
def World.plain (now : ℚ) : World where
  env := Configd.Env.quiet
  auth := Authd.Env.plain now
  clients := ⟨now, fun _ v => v, false, false⟩
  txid := fun n => "tx-" ++ ofInt n
  capabilities := Capabilities.empty
  wifid := fun _ _ => .ok true
  fetch := fun _ => .error (.other "unreachable")
  syncFault := false
  moves := fun _ => .ok []
  outside := fun _ => .ok .null

/-! ### Replies -/

/-- `{"ok": ok}` -/
def okReply (ok : Bool) : Json := .obj [("ok", .bool ok)]

/-- What `commit` returns, as JSON. -/
def commitJson (r : CommitReturn) : Json :=
  .obj [("txid", .str r.txid), ("revision", (r.revision.map fun n => Json.int n).getD .null),
    ("changes", .arr (r.changes.map changeJson)), ("warnings", .arr (r.warnings.map Json.str)),
    ("messages", .arr (r.messages.map Json.str)), ("committed", .bool true),
    ("confirm_pending", .bool r.confirmPending),
    ("rollback_deadline", (r.rollbackDeadline.map fun n => Json.int n).getD .null)]

/-- `ValueError` as a client error; a `ValidationError` is one. -/
def valueAsBadRequest (e : Exn) : Exn :=
  match e with
  | .value _ | .validation _ _ => badRequest e.text
  | e => e

/-- `ValueError` and `KeyError` as a client error. -/
def asBadRequest (e : Exn) : Exn :=
  match e with
  | .key _ => badRequest e.text
  | e => valueAsBadRequest e

/-! ### Committing -/

/-- What `_commit` makes of an error of `stage`. -/
def stageError (e : Exn) : Exn :=
  match e with
  | .validation _ _ => .api 422 "validation_failed" e.text
  | e => asBadRequest e

/-- `_commit(...)`: stage, commit, and discard the candidate on `CommitError`. -/
def commit (w : World) (n : ℕ) (d : Draft) (s : Store) : Except Exn Json × Store :=
  match Configd.stage w.env d.mutate s with
  | (.error e, s) => (.error (stageError e), s)
  | (.ok warnings, s) =>
    match Configd.commit w.env d.args (w.txid n) s with
    | (.error (.commit message stage _ _), s) =>
      (.error (.api 409 ("commit_" ++ stage) message), Configd.discardCandidate s)
    | (.error e, s) => (.error e, s)
    | (.ok r, s) => (.ok (commitJson { r with warnings := r.warnings ++ warnings }), s)

/-- A handler that only hands a change to `_commit`. -/
def commitOf (w : World) (draft : Except Exn Draft) (g : Gateway) : Except Exn Json × Gateway :=
  match draft with
  | .error e => (.error e, g)
  | .ok d => ((commit w 0 d g.store).1, { g with store := (commit w 0 d g.store).2 })

/-- A change that is staged and committed without `_commit`. -/
def submitOf (w : World) (draft : Except Exn Draft) (g : Gateway) : Except Exn Unit × Gateway :=
  match draft with
  | .error e => (.error e, g)
  | .ok d =>
    match submit w.env (w.txid 0) d g.store with
    | (.error e, s) => (.error e, { g with store := s })
    | (.ok _, s) => (.ok (), { g with store := s })

/-- `revoke_user_sessions(username)` -/
def Gateway.revoke (username : String) (g : Gateway) : Gateway :=
  { g with auth := g.auth.revokeUserSessions username }

/-- `set_password(...)` -/
def setPassword (w : World) (username : String) (password : Json) (actor : String) (g : Gateway) :
    Except Exn Unit × Gateway :=
  match submitOf w (Authd.setPassword w.auth username password actor) g with
  | (.error e, g) => (.error e, g)
  | (.ok (), g) => (.ok (), g.revoke username)

/-- `delete_user(...)` -/
def deleteAccount (w : World) (username actor : String) (g : Gateway) : Except Exn Unit × Gateway :=
  match submitOf w (Authd.deleteUser g.store.running username actor) g with
  | (.error e, g) => (.error e, g)
  | (.ok (), g) => (.ok (), g.revoke username)

/-! ### Setup and sign-in -/

/-- `body[key]` -/
def needKey (key : String) (body : Obj) : Except Exn Json :=
  match Dict.lookup key body with
  | some v => .ok v
  | none => .error (.key ("'" ++ key ++ "'"))

/-- A name out of a body; the model has string keys only. -/
def asName : Json → Except Exn String
  | .str s => .ok s
  | _ => .error .type

/-- What `post_setup` stages. -/
def setupDraft (w : World) (ctx : Ctx) (g : Gateway) : Except Exn (String × Json × Draft) := do
  let body ← ctx.json
  let username ← (needKey "username" body).bind asName
  let password ← needKey "password" body
  let d ← Authd.createOwner w.auth g.store.running username password
  return (username, password, d)

/-- What `post_setup` makes of an error of `create_owner`. -/
def setupError (e : Exn) : Exn :=
  match e with
  | .permission message => .api 409 "already_configured" message
  | e => asBadRequest e

/-- The reply to a sign-in. -/
def sessionReply (user : Obj) (s : Authd.Session) : Json :=
  .obj [("ok", .bool true), ("csrf", .str s.csrf), ("user", .obj user)]

/-- The reply of `post_setup`. -/
def setupReply (s : Authd.Session) : Json :=
  sessionReply [("name", .str s.username), ("role", .str "owner")] s

/-- The reply of `post_login`. -/
def loginReply (s : Authd.Session) : Json :=
  let permissions := ((Dict.lookup s.role Authd.rolePermissions).getD []).insertionSort (· ≤ ·)
  sessionReply [("name", .str s.username), ("role", .str s.role),
    ("permissions", .arr (permissions.map Json.str))] s

/-- `post_setup` -/
def postSetup (w : World) (ctx : Ctx) (g : Gateway) : Except Exn Json × Gateway :=
  match setupDraft w ctx g with
  | .error e => (.error (setupError e), g)
  | .ok (username, password, d) =>
    match submitOf w (.ok d) g with
    | (.error e, g) => (.error (setupError e), g)
    | (.ok (), g) =>
      match g.auth.login w.auth g.store.running username (pyStr password) ctx.sourceIp ctx.agent
          .null with
      | (.error e, auth) => (.error e, { g with auth := auth })
      | (.ok session, auth) => (.ok (setupReply session), { g with auth := auth })

/-- `post_login` -/
def postLogin (w : World) (ctx : Ctx) (g : Gateway) : Except Exn Json × Gateway :=
  match (do
      let body ← ctx.json
      let username ← asName ((Dict.lookup "username" body).getD (.str ""))
      let password ← asName ((Dict.lookup "password" body).getD (.str ""))
      return (username, password, (Dict.lookup "totp" body).getD .null) :
        Except Exn (String × String × Json)) with
  | .error e => (.error e, g)
  | .ok (username, password, totp) =>
    match g.auth.login w.auth g.store.running username password ctx.sourceIp ctx.agent totp with
    | (.error (.permission message), auth) =>
      (.error (.api 401 "unauthorized" message), { g with auth := auth })
    | (.error e, auth) => (.error e, { g with auth := auth })
    | (.ok session, auth) => (.ok (loginReply session), { g with auth := auth })

/-- `post_logout` -/
def postLogout (ctx : Ctx) (g : Gateway) : Except Exn Json × Gateway :=
  match ctx.sessionToken with
  | some token => (.ok (okReply true), { g with auth := g.auth.logout token })
  | none => (.ok (okReply true), g)

/-- `delete_session` -/
def deleteSession (id : String) (g : Gateway) : Except Exn Json × Gateway :=
  let r := g.auth.revokeSession id
  (.ok (okReply r.1), { g with auth := r.2 })

/-! ### Users -/

/-- What `post_user` stages. -/
def postUserDraft (w : World) (ctx : Ctx) (g : Gateway) : Except Exn Draft := do
  let body ← ctx.json
  let username ← (needKey "username" body).bind asName
  let password ← needKey "password" body
  let role := (Dict.lookup "role" body).getD (.str "read-only")
  Authd.createUser w.auth g.store.running username password role ctx.user

/-- `post_user` -/
def postUser (w : World) (ctx : Ctx) (g : Gateway) : Except Exn Json × Gateway :=
  match submitOf w (postUserDraft w ctx g) g with
  | (.error e, g) => (.error (asBadRequest e), g)
  | (.ok (), g) => (.ok (okReply true), g)

/-- The part of `put_user` after the password. -/
def putUserRest (w : World) (name : String) (body : Obj) (ctx : Ctx) (g : Gateway) :
    Except Exn Json × Gateway :=
  if ((Dict.lookup "enable_mfa" body).getD .null).truthy then
    match submit w.env (w.txid 1) (Authd.enableTotp w.auth name ctx.user) g.store with
    | (.error e, s) => (.error e, { g with store := s })
    | (.ok _, s) =>
      (.ok (.obj [("ok", .bool true), ("totp_secret", .str w.auth.totpSecret)]),
        { g with store := s })
  else
    match Dict.lookup "role" body with
    | none => (.ok (okReply true), g)
    | some role =>
      let r := commit w 1 (changeRole name role ctx) g.store
      (r.1.map fun _ => okReply true, { g with store := r.2 })

/-- `put_user` -/
def putUser (w : World) (name : String) (ctx : Ctx) (g : Gateway) : Except Exn Json × Gateway :=
  match ctx.json with
  | .error e => (.error e, g)
  | .ok body =>
    match Dict.lookup "password" body with
    | none => putUserRest w name body ctx g
    | some password =>
      match setPassword w name password ctx.user g with
      | (.error e, g) => (.error (valueAsBadRequest e), g)
      | (.ok (), g) => putUserRest w name body ctx g

/-- `delete_user` -/
def deleteUser (w : World) (name : String) (ctx : Ctx) (g : Gateway) : Except Exn Json × Gateway :=
  if name = ctx.user then (.error (badRequest "you cannot delete your own account"), g)
  else
    match deleteAccount w name ctx.user g with
    | (.error (.permission message), g) => (.error (badRequest message), g)
    | (.error e, g) => (.error (valueAsBadRequest e), g)
    | (.ok (), g) => (.ok (okReply true), g)

/-! ### Clients -/

/-- The address `put_client` reserves, if any. -/
def fixedAddress (body : Obj) : Option Json := (Dict.lookup "fixed_ip" body).filter Json.truthy

/-- `put_client` -/
def putClient (w : World) (mac : String) (ctx : Ctx) (g : Gateway) : Except Exn Json × Gateway :=
  match ctx.json with
  | .error e => (.error e, g)
  | .ok body =>
    match g.clients.update w.clients mac body with
    | (.error e, db) => (.error e, { g with clients := db })
    | (.ok false, db) =>
      (.error (.api 404 "not_found" ("no client " ++ mac ++ " or nothing to update")),
        { g with clients := db })
    | (.ok true, db) =>
      let g := { g with clients := db }
      match fixedAddress body with
      | none => (.ok (okReply true), g)
      | some address =>
        let r := commit w 0 (fixedIp ((db.get mac).getD []) mac address ctx) g.store
        (r.1.map fun _ => okReply true, { g with store := r.2 })

/-- A call of `wifid` as a reply. -/
def wifidReply (w : World) (call mac : String) : Except Exn Json := (w.wifid call mac).map okReply

/-- The two actions that mark a client. -/
def markBlocked (w : World) (call : String) (blocked : Bool) (mac : String) (g : Gateway) :
    Except Exn Json × Gateway :=
  match g.clients.update w.clients mac [("blocked", .bool blocked)] with
  | (.error e, db) => (.error e, { g with clients := db })
  | (.ok _, db) => (wifidReply w call mac, { g with clients := db })

/-- `post_client_action` -/
def postClientAction (w : World) (mac action : String) (ctx : Ctx) (g : Gateway) :
    Except Exn Json × Gateway :=
  if action = "disconnect" then (wifidReply w "disconnect_client" mac, g)
  else if action = "block" then markBlocked w "block_client" true mac g
  else if action = "unblock" then markBlocked w "unblock_client" false mac g
  else if action = "steer" then
    (ctx.json.bind fun body =>
      if ((Dict.lookup "bssid" body).getD .null).truthy then wifidReply w "steer_client" mac
      else .error (badRequest "bssid is required"), g)
  else (.error (badRequest ("unknown action '" ++ action ++ "'")), g)

/-! ### Controller sync -/

/-- `port` with the network and the VLANs that the synced networks have. -/
def syncPort (networks : Obj) (e : String × Json) : Except Exn (String × Json) :=
  match e.2 with
  | .obj port => do
    if (Dict.lookup "role" port).getD .null = .str "lan" then
      let network := (Dict.lookup "network" port).getD .null
      let port ← if ← Schema.pyIn network (.obj networks) then pure port
        else pure (Dict.set "network" (.str "default") port)
      let vlans ← forEach (fun n => getAttr n.2 "vlan" .null) networks
      let tagged ← EditM.pyIter ((Dict.lookup "tagged_vlans" port).getD (.arr []))
      let kept := tagged.filter fun v => vlans.any fun u => Json.pyEq v u
      return (e.1, .obj (Dict.set "tagged_vlans" (.arr kept) port))
    else return e
  | _ => .error .attribute

/-- `mutate` of `sync_once` -/
def applyDesired (desired : Desired) : Configd.Mutation := fun cfg => do
  let cfg := Dict.set "networks" (.obj desired.networks) cfg
  let cfg ← Configd.inside "wifi" .type (fun wifi =>
    pure (Dict.set "mlds" (.obj []) (Dict.set "networks" (.obj desired.wifi) wifi))) cfg
  let cfg ← Configd.inside "dns" .type (fun dns =>
    pure (Dict.set "conditional_forwarders" (.arr desired.forwarders)
      (Dict.set "records" (.arr desired.records) dns))) cfg
  match Dict.lookup "ports" cfg with
  | none => pure cfg
  | some _ => Configd.inside "ports" .attribute (forEach (syncPort desired.networks)) cfg

/-- What is fetched once the trial has been validated: the trial shares its sections with it. -/
def normalised (trial : Obj) : Desired where
  networks := (sect trial "networks").entries
  wifi := ((sect trial "wifi").getD "networks" (.obj [])).entries
  records := match (sect trial "dns").getD "records" (.arr []) with | .arr xs => xs | _ => []
  forwarders :=
    match (sect trial "dns").getD "conditional_forwarders" (.arr []) with | .arr xs => xs | _ => []

/-- What `sync_once` stages; `none` where the running configuration is as desired. -/
def syncDraft (w : World) (running : Obj) : Except Exn (Option Draft) := do
  let desired ← w.fetch running
  let trial ← applyDesired desired running
  let (trial, _) ← Schema.validate w.env.capabilities trial
  if Json.pyEq (.obj trial) (.obj running) then return none
  else return some {
    mutate := applyDesired (normalised trial)
    args := { Configd.CommitArgs.default with
      user := "unifi-controller", sourceIp := "controller",
      summary := "UniFi Network desired-state sync", confirmRequired := some false } }

/-- `sync_once()` -/
def syncOnce (w : World) (g : Gateway) : Except Exn Json × Gateway :=
  match syncDraft w g.store.running with
  | .error e => (.error e, g)
  | .ok none => if w.syncFault then (.error (.storage "controller.json"), g) else (.ok (.obj []), g)
  | .ok (some d) =>
    match submitOf w (.ok d) g with
    | (.error e, g) => (.error e, g)
    | (.ok (), g) =>
      if w.syncFault then (.error (.storage "controller.json"), g) else (.ok (.obj []), g)

/-- `post_controller_sync`; without an agent it is unavailable. -/
def postControllerSync (w : World) (g : Gateway) : Except Exn Json × Gateway :=
  if !((sect g.store.running "controller").getD "sync_enabled" .null).truthy then
    (.error (.api 409 "sync_disabled" "controller API sync is disabled"), g)
  else
    match syncOnce w g with
    | (.error e, g) =>
      match e with
      | .validation _ _ => (.error (.api 422 "validation_failed" e.text), g)
      | e => (.error (.api 502 "controller_failed" e.text), g)
    | (.ok r, g) => (.ok r, g)

/-! ### Channels -/

/-- The change of `_commit_channel`. -/
def channelDraft (radio : String) (channel : ℤ) : Draft where
  mutate := Configd.inside "wifi" .attribute (Configd.insideOr "radios" [] .attribute
    (Configd.insideOr radio [] .type fun r => .ok (Dict.set "channel" (.int channel) r)))
  args := { Configd.CommitArgs.default with
    user := "system", sourceIp := "rf",
    summary := "channel " ++ ofInt channel ++ " on " ++ radio, confirmRequired := some false }

/-- `_commit_channel(radio_id, channel)` -/
def commitChannel (w : World) (n : ℕ) (radio : String) (channel : ℤ) (g : Gateway) :
    Except Exn Unit × Gateway :=
  match submit w.env (w.txid n) (channelDraft radio channel) g.store with
  | (.error e, s) => (.error e, { g with store := s })
  | (.ok _, s) => (.ok (), { g with store := s })

/-- The moves of `optimise`, one after the other: an exception of the fallback is reported, one of
the history is not caught. -/
def optimise (w : World) : ℕ → List Move → Gateway → Except Exn Unit × Gateway
  | _, [], g => (.ok (), g)
  | n, m :: rest, g =>
    if m.switched then
      if m.historyFault then (.error (.storage "rf_history.json"), g) else optimise w n rest g
    else
      match commitChannel w n m.radio m.channel g with
      | (.error _, g) => optimise w (n + 1) rest g
      | (.ok (), g) =>
        if m.historyFault then (.error (.storage "rf_history.json"), g)
        else optimise w (n + 1) rest g

/-- `post_channel_optimize` -/
def postChannelOptimize (w : World) (ctx : Ctx) (g : Gateway) : Except Exn Json × Gateway :=
  match ctx.jsonOrEmpty.bind fun _ => w.moves g.store.running with
  | .error e => (.error e, g)
  | .ok moves =>
    let r := optimise w 0 moves g
    (r.1.map fun _ => .obj [], r.2)

/-! ### Transactions -/

/-- `int(body.get("rollback_seconds", 120))` -/
def rollbackSeconds (body : Obj) : Except Exn ℤ :=
  match (Dict.lookup "rollback_seconds" body).getD (.int 120) with
  | .int i => .ok i
  | .bool b => .ok (if b then 1 else 0)
  | .float q => .ok (if 0 ≤ q then q.floor else -(-q).floor)
  | .str s =>
    match readInt s with
    | some i => .ok i
    | none => .error (.value ("invalid literal for int() with base 10: " ++ Schema.pyRepr s))
  | _ => .error .type

/-- `CommitError` as a conflict. -/
def asConflict (code : String → String) (e : Exn) : Exn :=
  match e with
  | .commit message stage _ _ => .api 409 (code stage) message
  | e => e

/-- `post_commit` -/
def postCommit (w : World) (ctx : Ctx) (g : Gateway) : Except Exn Json × Gateway :=
  match (do
      let body ← ctx.jsonOrEmpty
      return ((Dict.lookup "summary" body).getD (.str "manual commit"), ← rollbackSeconds body) :
        Except Exn (Json × ℤ)) with
  | .error e => (.error e, g)
  | .ok (summary, seconds) =>
    let r := Configd.commit w.env { Configd.CommitArgs.default with
      user := ctx.user, sourceIp := ctx.sourceIp, summary := pyStr summary,
      rollbackSeconds := seconds } (w.txid 0) g.store
    match r.1 with
    | .error e => (.error (asConflict ("commit_" ++ ·) e), { g with store := r.2 })
    | .ok c => (.ok (commitJson c), { g with store := r.2 })

/-- `post_confirm` -/
def postConfirm (w : World) (ctx : Ctx) (g : Gateway) : Except Exn Json × Gateway :=
  match ctx.json with
  | .error e => (.error e, g)
  | .ok body =>
    let txid := (Dict.lookup "txid" body).getD .null
    if !txid.truthy then (.error (badRequest "txid is required"), g)
    else
      match txid with
      | .str txid =>
        let r := Configd.confirm w.env.faults.audit txid ctx.user g.store
        (r.1.map okReply, { g with store := r.2 })
      -- no transaction has such an id
      | _ => (.ok (okReply false), g)

/-- `post_discard` -/
def postDiscard (g : Gateway) : Except Exn Json × Gateway :=
  (.ok (okReply true), { g with store := Configd.discardCandidate g.store })

/-- `rollback_to_revision(id)` for a number that `int` reads; a negative one is no revision. -/
def rollbackTo (w : World) (user sourceIp : String) (id : ℤ) (g : Gateway) :
    Except Exn CommitReturn × Gateway :=
  if id < 0 then
    (.error (.commit ("revision " ++ ofInt id ++ " not found") "revision" "-" []), g)
  else
    let r := Configd.rollbackToRevision w.env user sourceIp (w.txid 0) id.toNat g.store
    (r.1, { g with store := r.2 })

/-- `post_rollback` -/
def postRollback (w : World) (id : String) (ctx : Ctx) (g : Gateway) : Except Exn Json × Gateway :=
  match readInt id with
  | none =>
    (.error (.value ("invalid literal for int() with base 10: " ++ Schema.pyRepr id)), g)
  | some id =>
    let r := rollbackTo w ctx.user ctx.sourceIp id g
    match r.1 with
    | .error e => (.error (asConflict (fun _ => "rollback_failed") e), r.2)
    | .ok c => (.ok (commitJson c), r.2)

/-! ### Routes -/

/-- The registered routes; those with the method `GET` change nothing and are one. -/
inductive Route where
  | read (permission : Option String)
  | postSetup
  | postLogin
  | postLogout
  | deleteSession (id : String)
  | putSystem
  | putController
  | postControllerInform
  | postControllerSync
  | postControllerReset
  | putPort (id : String)
  | postNetwork
  | putNetwork (id : String)
  | deleteNetwork (id : String)
  | putWan (id : String)
  | putFirewall
  | putNat
  | putRouting
  | putServices
  | putDpi
  | putRadio (id : String)
  | postWifiNetwork
  | putWifiNetwork (id : String)
  | deleteWifiNetwork (id : String)
  | postMld
  | putMld (id : String)
  | deleteMld (id : String)
  | putRegulatory
  | postRadioRecover (id : String)
  | postChannelScan
  | postChannelOptimize
  | putChannelSettings
  | putClient (mac : String)
  | postClientAction (mac action : String)
  | postCommit
  | postConfirm
  | postDiscard
  | postRollback (id : String)
  | postUser
  | putUser (name : String)
  | deleteUser (name : String)
  | postBackup
deriving DecidableEq

/-- The permission a route is registered with. -/
def Route.permission : Route → Option String
  | .read permission => permission
  | .postSetup | .postLogin | .postLogout => none
  | .deleteSession _ | .postUser | .putUser _ | .deleteUser _ => some "users.manage"
  | .putSystem | .putController | .postControllerInform | .postControllerSync
  | .postControllerReset | .postCommit | .postConfirm | .postDiscard | .postRollback _ =>
    some "system.write"
  | .putPort _ | .postNetwork | .putNetwork _ | .deleteNetwork _ | .putWan _ | .putServices
  | .putRadio _ | .postWifiNetwork | .putWifiNetwork _ | .deleteWifiNetwork _ | .postMld | .putMld _
  | .deleteMld _ | .putRegulatory | .postRadioRecover _ | .postChannelScan | .postChannelOptimize
  | .putChannelSettings => some "network.write"
  | .putFirewall | .putNat | .putDpi => some "security.write"
  | .putRouting => some "routing.write"
  | .putClient _ | .postClientAction _ _ => some "clients.write"
  | .postBackup => some "backup.manage"

/-- The change of a route whose handler only hands a change to `_commit`. -/
def draftOf (w : World) (ctx : Ctx) : Route → Option (Except Exn Draft)
  | .putSystem => some (putSystem ctx)
  | .putController => some (putController ctx)
  | .putPort id => some (putPort id ctx)
  | .postNetwork => some (postNetwork ctx)
  | .putNetwork id => some (putNetwork id ctx)
  | .deleteNetwork id => some (deleteNetwork id ctx)
  | .putWan id => some (putWan id ctx)
  | .putFirewall => some (putFirewall ctx)
  | .putNat => some (putNat ctx)
  | .putRouting => some (putRouting ctx)
  | .putServices => some (putServices ctx)
  | .putDpi => some (putDpi ctx)
  | .putRadio id => some (putRadio w.capabilities id ctx)
  | .postWifiNetwork => some (postWifiNetwork ctx)
  | .putWifiNetwork id => some (putWifiNetwork id ctx)
  | .deleteWifiNetwork id => some (deleteWifiNetwork id ctx)
  | .postMld => some (postMld w.capabilities ctx)
  | .putMld id => some (putMld id ctx)
  | .deleteMld id => some (deleteMld id ctx)
  | .putRegulatory => some (putRegulatory ctx)
  | .putChannelSettings => some (putChannelSettings ctx)
  | .postBackup => some (postBackup ctx)
  | _ => none

/-- `route.handler(ctx)` -/
def handle (w : World) (route : Route) (ctx : Ctx) (g : Gateway) : Except Exn Json × Gateway :=
  match draftOf w ctx route with
  | some draft => commitOf w draft g
  | none =>
    match route with
    | .postSetup => postSetup w ctx g
    | .postLogin => postLogin w ctx g
    | .postLogout => postLogout ctx g
    | .deleteSession id => deleteSession id g
    | .postControllerSync => postControllerSync w g
    | .postChannelOptimize => postChannelOptimize w ctx g
    | .putClient mac => putClient w mac ctx g
    | .postClientAction mac action => postClientAction w mac action ctx g
    | .postCommit => postCommit w ctx g
    | .postConfirm => postConfirm w ctx g
    | .postDiscard => postDiscard g
    | .postRollback id => postRollback w id ctx g
    | .postUser => postUser w ctx g
    | .putUser name => putUser w name ctx g
    | .deleteUser name => deleteUser w name ctx g
    -- the other handlers call out and leave store, clients and accounts alone
    | .postControllerInform => (w.outside "inform_once", g)
    | .postControllerReset => (w.outside "reset", g)
    | .postRadioRecover _ => (w.outside "recover_radio", g)
    | .postChannelScan => (w.outside "scan", g)
    | _ => (w.outside "read", g)

/-! ### Dispatch -/

/-- The credentials of a request. -/
structure Credentials where
  /-- what follows `Bearer ` in `Authorization` -/
  bearer : Option String
  /-- the cookie `sbegw_session` -/
  cookie : Option String
  csrfToken : String

/-- A request for a registered route. -/
structure Request where
  route : Route
  isGet : Bool
  credentials : Credentials
  sourceIp : String
  agent : String
  body : Body

/-- `_authenticate()`: the principal and the session token. -/
def authenticate (w : World) (c : Credentials) (g : Gateway) :
    Except Exn (Principal × Option String) × Gateway :=
  match c.bearer with
  | some secret =>
    match Authd.principalForToken w.auth g.store.running (strip secret) with
    | .error e => (.error e, g)
    | .ok none => (.error (.api 401 "unauthorized" "invalid API token"), g)
    | .ok (some p) => (.ok (p, none), g)
  | none =>
    match c.cookie.filter fun t => !t.isEmpty with
    | none => (.error (.api 401 "unauthorized" "authentication required"), g)
    | some token =>
      match g.auth.principalForSession w.auth token with
      | (none, auth) =>
        (.error (.api 401 "session_expired" "session expired; sign in again"),
          { g with auth := auth })
      | (some p, auth) => (.ok (p, some token), { g with auth := auth })

/-- `_check_csrf()` -/
def checkCsrf (c : Credentials) (p : Principal) (token : Option String) (g : Gateway) :
    Except Exn Unit :=
  if p.kind = .token then .ok ()
  else
    match g.auth.csrfForSession (token.getD "") with
    | some expected =>
      if expected.isEmpty ∨ c.csrfToken ≠ expected then
        .error (.api 403 "csrf_failed" "missing or invalid CSRF token")
      else .ok ()
    | none => .error (.api 403 "csrf_failed" "missing or invalid CSRF token")

/-- The principal of a request for a route with a permission. -/
def admission (w : World) (r : Request) (permission : String) (g : Gateway) :
    Except Exn (Principal × Option String) × Gateway :=
  match authenticate w r.credentials g with
  | (.error e, g) => (.error e, g)
  | (.ok (p, token), g) =>
    match if r.isGet then .ok () else checkCsrf r.credentials p token g with
    | .error e => (.error e, g)
    | .ok () =>
      if p.can permission then (.ok (p, token), g)
      else (.error (.api 403 "forbidden" (p.role ++ " lacks " ++ permission)), g)

/-- `_dispatch` from the route on; an exception that is no `ApiError` is an internal error. -/
def dispatch (w : World) (r : Request) (g : Gateway) : Except Exn Json × Gateway :=
  let ctx (p : Option Principal) (token : Option String) : Ctx :=
    ⟨p, r.sourceIp, r.agent, token, r.body⟩
  let answer (x : Except Exn Json × Gateway) : Except Exn Json × Gateway :=
    match x with
    | (.error (.api status code message), g) => (.error (.api status code message), g)
    | (.error e, g) => (.error (.api 500 "internal_error" e.text), g)
    | (.ok reply, g) => (.ok reply, g)
  match r.route.permission with
  | none => answer (handle w r.route (ctx none none) g)
  | some permission =>
    match admission w r permission g with
    | (.error e, g) => answer (.error e, g)
    | (.ok (p, token), g) => answer (handle w r.route (ctx (some p) token) g)

end Sbegw.Api
