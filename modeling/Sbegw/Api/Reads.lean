import Sbegw.Configd.Store

/-!
# Read handlers

The `GET` handlers that return parts of the configuration or of its history.  A handler answers with
the JSON it sends, or raises.  What the telemetry sampler collected and what the controller agent
keeps are data of the site.
-/

namespace Sbegw.Api

open Configd (Store Change Revision AuditRow)
open Text

/-! ### Redaction -/

/-- `SECRET_KEYS` -/
def secretKeys : List String :=
  ["passphrase", "password", "password_hash", "secret", "psk", "api_key", "private_key",
   "totp_secret", "hash", "auth_secret", "acct_secret"]

/-- `any(s in k.lower() for s in SECRET_KEYS)` -/
def isMasked (key : String) : Bool := secretKeys.any fun s => isInfixOf s (lower key)

mutual
/-- `_redact_secrets(value)` -/
def redactSecrets : Json → Json
  | .obj kvs => .obj (redactEntries kvs)
  | .arr xs => .arr (redactList xs)
  | v => v
def redactEntries : List (String × Json) → List (String × Json)
  | [] => []
  | (k, v) :: rest =>
    (k, if isMasked k then .str "********" else redactSecrets v) :: redactEntries rest
def redactList : List Json → List Json
  | [] => []
  | v :: rest => redactSecrets v :: redactList rest
end

/-! ### Python's view of what is read -/

/-- `cfg.get(key, {})` -/
def sect (cfg : Obj) (key : String) : Json := (Dict.lookup key cfg).getD (.obj [])

/-- `value.get(key, d)`; only an object has `get`. -/
def getAttr (value : Json) (key : String) (d : Json) : Except Exn Json :=
  match value with
  | .obj kvs => .ok ((Dict.lookup key kvs).getD d)
  | _ => .error .attribute

/-- `value[key]` -/
def getItem (value : Json) (key : String) : Except Exn Json :=
  match value with
  | .obj kvs =>
    match Dict.lookup key kvs with
    | some v => .ok v
    | none => .error (.key ("'" ++ key ++ "'"))
  | _ => .error .type

/-- `value.items()` -/
def items : Json → Except Exn Obj
  | .obj kvs => .ok kvs
  | _ => .error .attribute

/-- A comprehension over `xs`. -/
def forEach {α β : Type} (f : α → Except Exn β) : List α → Except Exn (List β)
  | [] => .ok []
  | x :: xs =>
    match f x with
    | .ok y =>
      match forEach f xs with
      | .ok ys => .ok (y :: ys)
      | .error e => .error e
    | .error e => .error e

/-- `{x["id"]: x for x in xs}`; of two entries of one id the later one counts. -/
def indexById (xs : Json) : Except Exn (List (Json × Json)) :=
  (EditM.pyIter xs).bind (forEach fun x => (getItem x "id").map fun id => (id, x))

/-- `index.get(id, {})` -/
def indexGet (index : List (Json × Json)) (id : String) : Json :=
  (((index.filter fun e => e.1 = .str id).getLast?).map Prod.snd).getD (.obj [])

/-! ### What the handlers read -/

/-- What the controller agent keeps. -/
structure Agent where
  state : Obj
  cryptoAvailable : Bool

/-- What the read handlers look at. -/
structure Site where
  store : Store
  /-- `_snapshot()`, the telemetry sample -/
  snapshot : Obj
  agent : Option Agent

/-- The site with another running and candidate configuration. -/
def Site.holding (s : Site) (running candidate : Obj) : Site :=
  { s with store := { s.store with running := running, candidate := candidate } }

/-- `_snapshot().get("wifi", {}).get(key, [])` -/
def Site.wifiState (s : Site) (key : String) : Except Exn Json :=
  getAttr (sect s.snapshot "wifi") key (.arr [])

/-! ### JSON of the store's rows -/

/-- `pending_commit` -/
def pendingJson (s : Store) : Json :=
  match s.pending with
  | none => .null
  | some p => .obj [("txid", .str p.txid), ("deadline", .int p.deadline)]

/-- An entry of a diff. -/
def changeJson (c : Change) : Json := .obj [("path", .str c.path), ("old", c.old), ("new", c.new)]

/-- A row of `audit_log`. -/
def auditJson (r : AuditRow) : Json :=
  .obj [("id", .int r.id), ("txid", .str r.txid), ("ts", .int r.ts), ("user", .str r.user),
    ("source_ip", .str r.sourceIp), ("action", .str r.action), ("resource", .str r.resource),
    ("success", .bool r.success), ("detail", .str r.detail), ("diff", .arr (r.diff.map changeJson))]

/-- A row of `revisions`, without its document. -/
def revisionJson (r : Revision) : Json :=
  .obj [("id", .int r.id), ("txid", .str r.txid), ("ts", .int r.ts), ("user", .str r.user),
    ("source", .str r.source), ("summary", .str r.summary)]

/-- `LIMIT ? OFFSET ?`: a negative limit is none, a negative offset is zero. -/
def limited {α : Type} (limit offset : ℤ) (rows : List α) : List α :=
  let rows := rows.drop offset.toNat
  if limit < 0 then rows else rows.take limit.toNat

/-! ### Handlers -/

/-- `get_config` -/
def getConfig (s : Site) : Except Exn Json :=
  .ok (.obj [("running", redactSecrets (.obj s.store.running)),
    ("candidate", redactSecrets (.obj s.store.candidate))])

/-- `get_pending` -/
def getPending (s : Site) : Except Exn Json :=
  let changes := Configd.changesOf s.store.running s.store.candidate
  .ok (.obj [("changes", .arr (changes.map changeJson)), ("pending_commit", pendingJson s.store)])

/-- `get_wifi` -/
def getWifi (s : Site) : Except Exn Json :=
  .ok (.obj [("config", sect s.store.running "wifi"), ("state", sect s.snapshot "wifi")])

/-- The BSSes among `bsses` that belong to the wireless network `id`. -/
def ownBsses (bsses : Json) (id : String) : Except Exn (List Json) :=
  (EditM.pyIter bsses).bind fun xs =>
    (forEach (fun b => (getAttr b "wireless_network" .null).map fun w => (decide (w = .str id), b))
      xs).map fun marked => (marked.filter Prod.fst).map Prod.snd

/-- `sum(b.get("client_count", 0) for b in own)` -/
def clientCount : List Json → Except Exn ℤ
  | [] => .ok 0
  | b :: rest =>
    match getAttr b "client_count" (.int 0) with
    | .ok (.int n) => (clientCount rest).map fun m => n + m
    | .ok _ => .error .type
    | .error e => .error e

/-- `next((m["id"] for m in mlds if m.get("wireless_network") == id), None)` -/
def firstMld (id : String) : List Json → Except Exn Json
  | [] => .ok .null
  | m :: rest =>
    match getAttr m "wireless_network" .null with
    | .ok w => if w = .str id then getItem m "id" else firstMld id rest
    | .error e => .error e

/-- `get_wifi_networks` -/
def getWifiNetworks (s : Site) : Except Exn Json :=
  (s.wifiState "bsses").bind fun bsses =>
  (getAttr (sect s.store.running "wifi") "networks" (.obj [])).bind fun nets =>
  (items nets).bind fun nets =>
  (forEach (fun e => do
    let own ← ownBsses bsses e.1
    let count ← clientCount own
    let mlds ← s.wifiState "mlds"
    let mld ← (EditM.pyIter mlds).bind (firstMld e.1)
    return Json.obj [("id", .str e.1), ("config", redactSecrets e.2), ("bsses", .arr own),
      ("client_count", .int count), ("mld", mld)]) nets).map fun xs =>
  .obj [("items", .arr xs)]

/-- `get_wans` -/
def getWans (s : Site) : Except Exn Json :=
  (indexById ((Dict.lookup "wans" s.snapshot).getD (.arr []))).bind fun states =>
  (items (sect s.store.running "wans")).map fun wans =>
  .obj [
    ("items", .arr (wans.map fun e =>
      .obj [("id", .str e.1), ("config", e.2), ("state", indexGet states e.1)])),
    ("primary", (Dict.lookup "primary_wan" s.snapshot).getD .null),
    ("multiwan", sect s.store.running "multiwan")]

/-- An entry of the controller settings as `status` of the agent shows it. -/
def controllerEntry (e : String × Json) : String × Json :=
  (e.1, if e.1 = "api_key" && e.2.truthy then .str "********" else e.2)

/-- `get_controller`, with `status` of the agent -/
def getController (s : Site) : Except Exn Json :=
  match s.agent with
  | some agent =>
    (items (sect s.store.running "controller")).map fun controller =>
    .obj [("config", .obj (controller.map controllerEntry)),
      ("state", .obj (agent.state.filter fun e => e.1 ≠ "authkey")),
      ("crypto_available", .bool agent.cryptoAvailable)]
  | none =>
    .ok (.obj [("config", redactSecrets (sect s.store.running "controller")),
      ("state", .obj [("adopted", .bool false),
        ("error", .str "controller agent unavailable")]),
      ("crypto_available", .bool false)])

/-- A record of `get_users`. -/
def userItem (e : String × Json) : Except Exn Json := do
  let role ← getAttr e.2 "role" .null
  let created ← getAttr e.2 "created" .null
  let totp ← getAttr e.2 "totp_secret" .null
  return .obj [("username", .str e.1), ("role", role), ("created", created),
    ("mfa_enabled", .bool totp.truthy)]

/-- `get_users` -/
def getUsers (s : Site) : Except Exn Json :=
  (items (sect s.store.running "users")).bind fun users =>
  (forEach userItem users).map fun xs => .obj [("items", .arr xs)]

/-- `get_system` -/
def getSystem (s : Site) : Except Exn Json :=
  .ok (.obj [("config", sect s.store.running "system"), ("state", sect s.snapshot "system"),
    ("pending_commit", pendingJson s.store)])

/-- `get_audit` with the numbers `limit` and `offset` of the query -/
def getAudit (s : Site) (limit offset : ℤ) : Except Exn Json :=
  .ok (.obj [("items", .arr
    ((limited (min limit 1000) offset s.store.audit.reverse).map auditJson))])

/-- `get_revisions` -/
def getRevisions (s : Site) : Except Exn Json :=
  .ok (.obj [("items", .arr ((s.store.revisions.reverse.take 60).map revisionJson))])

/-- The reads of the configuration and of its history. -/
inductive Read where
  | config
  | pending
  | wifi
  | wifiNetworks
  | wans
  | controller
  | users
  | system
  | audit (limit offset : ℤ)
  | revisions

/-- What a read answers. -/
def Site.get (s : Site) : Read → Except Exn Json
  | .config => getConfig s
  | .pending => getPending s
  | .wifi => getWifi s
  | .wifiNetworks => getWifiNetworks s
  | .wans => getWans s
  | .controller => getController s
  | .users => getUsers s
  | .system => getSystem s
  | .audit limit offset => getAudit s limit offset
  | .revisions => getRevisions s

end Sbegw.Api
