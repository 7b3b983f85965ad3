import Sbegw.Api.Reads
import Sbegw.Authd

/-!
# Changes by the API

What the mutating handlers make of their request: the change they hand to `_commit`, or the error
they raise before it.
-/

namespace Sbegw.Api

open Configd (Draft CommitArgs Mutation inside insideOr insideKnown deepUpdate)
open Authd (Principal)
open Schema (Capabilities pyRepr pyStr pyIn)
open Text

/-! ### Requests -/

/-- A request body. -/
inductive Body where
  | empty
  /-- text that is not valid JSON -/
  | malformed (problem : String)
  | json (value : Json)

/-- `RequestContext`, without its handler -/
structure Ctx where
  principal : Option Principal
  sourceIp : String
  agent : String
  sessionToken : Option String
  body : Body

/-- `ApiError(400, "bad_request", message)` -/
def badRequest (message : String) : Exn := .api 400 "bad_request" message

/-- `ctx.json()` -/
def Ctx.json (ctx : Ctx) : Except Exn Obj :=
  match ctx.body with
  | .empty => .ok []
  | .malformed problem => .error (.api 400 "invalid_json" ("body is not valid JSON: " ++ problem))
  | .json (.obj kvs) => .ok kvs
  | .json _ => .error (.api 400 "invalid_json" "body must be a JSON object")

/-- `ctx.json() if ctx.has_body else {}` -/
def Ctx.jsonOrEmpty (ctx : Ctx) : Except Exn Obj :=
  match ctx.body with
  | .empty => .ok []
  | _ => ctx.json

/-- `ctx.principal.name` -/
def Ctx.user (ctx : Ctx) : String := (ctx.principal.map Principal.name).getD ""

/-- `self._commit(ctx.principal, ctx.source_ip, summary, mutate, confirm=confirm)`, the call. -/
def Ctx.change (ctx : Ctx) (summary : String) (mutate : Mutation) (confirm : Option Bool) : Draft where
  mutate := mutate
  args := { CommitArgs.default with
    user := ctx.user, sourceIp := ctx.sourceIp, summary := summary, confirmRequired := confirm }

/-- Keys of a body that a handler does not know are refused. -/
def onlyKeys (allowed : List String) (message : String) (body : Obj) : Except Exn Unit :=
  let unknown := ((body.keys.filter fun k => !allowed.contains k).dedup).insertionSort (· ≤ ·)
  if unknown.isEmpty then .ok () else .error (badRequest (message ++ join ", " unknown))

/-- `body.pop("id", None)`, which must be there: the identifier and the rest of the body. -/
def takeId (body : Obj) : Except Exn (Json × Obj) :=
  let id := (Dict.lookup "id" body).getD .null
  if id.truthy then .ok (id, Dict.erase "id" body) else .error (badRequest "id is required")

/-- A new entry under a key out of a body.  Under a key that is no string the entry is made, and
refused by the check of its identifier; a list or an object is no key. -/
def withKey (key : Json) (base : String) (f : String → Mutation) : Mutation := fun cfg =>
  match key with
  | .str k => f k cfg
  | .arr _ | .obj _ => .error .type
  | v => .error (.validation (base ++ "." ++ pyStr v) "expected an identifier string")

/-- `target.update(body)` -/
def updated (body : Obj) : Obj → Except Exn Obj := fun target => .ok (Dict.update target body)

/-- `_deep_update(target, body)` -/
def deepUpdated (body : Obj) : Obj → Except Exn Obj := fun target => .ok (deepUpdate body target)

/-! ### System, controller, traffic identification -/

def putSystem (ctx : Ctx) : Except Exn Draft := do
  let body ← ctx.json
  return ctx.change "system settings" (inside "system" .attribute (updated body)) none

def putController (ctx : Ctx) : Except Exn Draft := do
  let body ← ctx.json
  onlyKeys ["enabled", "inform_url", "discovery", "sync_enabled", "api_url", "api_key", "site_id",
    "verify_tls", "interval_seconds"] "unknown controller settings: " body
  let updates := body.filter fun e => !(e.1 == "api_key" && decide (e.2 = .str "********"))
  return ctx.change "UniFi Network controller settings"
    (inside "controller" .attribute (updated updates)) (some false)

def putDpi (ctx : Ctx) : Except Exn Draft := do
  let body ← ctx.json
  onlyKeys ["enabled", "engine", "retention_hours", "include_ipv6"] "unknown DPI settings: " body
  return ctx.change "traffic identification settings"
    (inside "dpi" .attribute (updated body)) (some false)

/-! ### Ports, networks, WANs -/

def putPort (pid : String) (ctx : Ctx) : Except Exn Draft := do
  let body ← ctx.json
  return ctx.change ("port " ++ pid)
    (inside "ports" .type
      (insideKnown pid ("unknown port '" ++ pid ++ "'") .attribute (updated body))) none

/-- `schema.default_config()[section][id]` -/
def defaultEntry (section_ id : String) : Obj :=
  (((Json.obj Schema.defaultEntries).getD section_ .null).getD id .null).entries

def postNetwork (ctx : Ctx) : Except Exn Draft := do
  let body ← ctx.json
  let (nid, body) ← takeId body
  return ctx.change ("create network " ++ pyStr nid)
    (withKey nid "networks" fun nid => inside "networks" .type fun networks =>
      if (Dict.lookup nid networks).isSome then
        .error (.value ("network '" ++ nid ++ "' already exists"))
      else
        let network := Dict.update (defaultEntry "networks" "default") body
        .ok (Dict.set nid (.obj network) networks)) none

def putNetwork (nid : String) (ctx : Ctx) : Except Exn Draft := do
  let body ← ctx.json
  return ctx.change ("network " ++ nid)
    (inside "networks" .type
      (insideKnown nid ("unknown network '" ++ nid ++ "'") .type (deepUpdated body))) none

/-- The keys of the entries whose attribute `key` is `value`. -/
def usersOf (key : String) (value : String) (entries : Obj) : Except Exn (List String) :=
  (forEach (fun e => (getAttr e.2 key .null).map fun v => (decide (v = .str value), e.1))
    entries).map fun marked => (marked.filter Prod.fst).map Prod.snd

/-- `port["network"] = None` where it is `nid` -/
def releasePort (nid : String) (e : String × Json) : Except Exn (String × Json) :=
  match e.2 with
  | .obj port =>
    .ok (e.1, if (Dict.lookup "network" port).getD .null = .str nid then
      .obj (Dict.set "network" .null port) else e.2)
  | _ => .error .attribute

def deleteNetwork (nid : String) (ctx : Ctx) : Except Exn Draft :=
  .ok (ctx.change ("delete network " ++ nid) (fun cfg => do
    let cfg ← inside "networks" .type (fun networks => do
      if (Dict.lookup nid networks).isNone then
        .error (.key (pyRepr ("unknown network '" ++ nid ++ "'")))
      if networks.keys.dedup.length = 1 then .error (.value "cannot delete the last network")
      let wireless ← (getAttr (sect cfg "wifi") "networks" (.obj [])).bind items
      let users ← usersOf "network" nid wireless
      if !users.isEmpty then
        .error (.value ("network is used by SSID(s): " ++ join ", " users))
      return Dict.erase nid networks) cfg
    inside "ports" .attribute (forEach (releasePort nid)) cfg) none)

def putWan (wid : String) (ctx : Ctx) : Except Exn Draft := do
  let body ← ctx.json
  return ctx.change ("WAN " ++ wid)
    (inside "wans" .type fun wans =>
      if (Dict.lookup wid wans).isNone then
        .ok (Dict.set wid (.obj (Dict.update (defaultEntry "wans" "wan1") body)) wans)
      else inside wid .type (deepUpdated body) wans) none

/-! ### Firewall, NAT, routing, services -/

def putFirewall (ctx : Ctx) : Except Exn Draft := do
  let body ← ctx.json
  return ctx.change "firewall" (inside "firewall" .type (deepUpdated body)) none

def putNat (ctx : Ctx) : Except Exn Draft := do
  let body ← ctx.json
  return ctx.change "NAT" (inside "nat" .type (deepUpdated body)) none

def putRouting (ctx : Ctx) : Except Exn Draft := do
  let body ← ctx.json
  return ctx.change "routing" (fun cfg =>
    match Dict.lookup "policy_routes" body with
    | some routes =>
      inside "routing" .type (deepUpdated (Dict.erase "policy_routes" body))
        (Dict.set "policy_routes" routes cfg)
    | none => inside "routing" .type (deepUpdated body) cfg) none

/-- One of the two service sections. -/
def updateService (key : String) (body : Obj) : Mutation := fun cfg =>
  match Dict.lookup key body with
  | none => .ok cfg
  | some (.obj settings) => insideOr key [] .type (deepUpdated settings) cfg
  | some _ => .error (.value (key ++ " must be an object"))

def putServices (ctx : Ctx) : Except Exn Draft := do
  let body ← ctx.json
  onlyKeys ["qos", "dns"] "unknown service setting(s): " body
  if body.isEmpty then .error (badRequest "qos or dns settings are required")
  return ctx.change "traffic and DNS services"
    (fun cfg => (updateService "qos" body cfg).bind (updateService "dns" body)) none

/-! ### Wi-Fi -/

def putRadio (caps : Capabilities) (rid : String) (ctx : Ctx) : Except Exn Draft := do
  let body ← ctx.json
  match Dict.lookup rid caps.radios with
  | none => .error (.api 404 "not_found" ("radio '" ++ rid ++ "' is not present"))
  | some radio =>
    return ctx.change ("radio " ++ rid)
      (inside "wifi" .attribute (insideOr "radios" [] .attribute fun radios =>
        if radio.widths.isEmpty then .error (.value "max() iterable argument is empty")
        else insideOr rid [("enabled", .bool true), ("band", .str radio.band),
            ("channel", .str "auto"), ("channel_width", .int (radio.widths.foldl max 0)),
            ("tx_power", .str "auto")] .attribute
          (fun current => .ok (Dict.set "band" (.str radio.band) (Dict.update current body)))
          radios)) none

/-- A wireless network as `POST` creates it. -/
def newWifiNetwork (wnid : String) (body : Obj) : Obj :=
  Dict.update [
    ("ssid", (Dict.lookup "ssid" body).getD (.str wnid)), ("enabled", .bool true),
    ("hidden", .bool false), ("network", .str "default"), ("bands", .arr [.str "2g", .str "5g"]),
    ("security", .obj [("mode", .str "wpa2-wpa3"), ("pmf", .str "optional")]),
    ("client_isolation", .bool false), ("bss_transition", .bool true),
    ("neighbor_report", .bool true), ("fast_roaming", .bool false)] body

def postWifiNetwork (ctx : Ctx) : Except Exn Draft := do
  let body ← ctx.json
  let (wnid, body) ← takeId body
  return ctx.change ("create SSID " ++ pyStr wnid)
    (withKey wnid "wifi.networks" fun wnid => inside "wifi" .attribute
      (insideOr "networks" [] .type fun networks =>
        if (Dict.lookup wnid networks).isSome then
          .error (.value ("wireless network '" ++ wnid ++ "' already exists"))
        else .ok (Dict.set wnid (.obj (newWifiNetwork wnid body)) networks))) none

/-- `f` on an entry of `cfg["wifi"].get(key, {})`, which must be there. -/
def wifiEntry (key id missing : String) (f : Obj → Except Exn Obj) : Mutation :=
  inside "wifi" .attribute fun wifi =>
    if (Dict.lookup key wifi).isSome then inside key .type (insideKnown id missing .type f) wifi
    else .error (.key (pyRepr missing))

def putWifiNetwork (wnid : String) (ctx : Ctx) : Except Exn Draft := do
  let body ← ctx.json
  return ctx.change ("SSID " ++ wnid)
    (wifiEntry "networks" wnid ("unknown wireless network '" ++ wnid ++ "'") (deepUpdated body)) none

def deleteWifiNetwork (wnid : String) (ctx : Ctx) : Except Exn Draft :=
  let unknown : Exn := .key (pyRepr ("unknown wireless network '" ++ wnid ++ "'"))
  .ok (ctx.change ("delete SSID " ++ wnid) (inside "wifi" .attribute fun wifi =>
    if (Dict.lookup "networks" wifi).isNone then .error unknown
    else inside "networks" .type (fun networks => do
      if (Dict.lookup wnid networks).isNone then .error unknown
      let mlds ← items (sect wifi "mlds")
      let bound ← usersOf "wireless_network" wnid mlds
      if !bound.isEmpty then .error (.value ("SSID is used by MLD(s): " ++ join ", " bound))
      return Dict.erase wnid networks) wifi) none)

/-- A multi-link device as `POST` creates it. -/
def newMld (mid : String) (body : Obj) : Obj :=
  Dict.update [("name", (Dict.lookup "name" body).getD (.str mid)), ("enabled", .bool true),
    ("links", .arr []), ("link_steering", .str "auto")] body

def postMld (caps : Capabilities) (ctx : Ctx) : Except Exn Draft := do
  let body ← ctx.json
  let (mid, body) ← takeId body
  if !caps.mloSupported then
    .error (.api 412 "mlo_unavailable"
      (if caps.mloReason = "" then "MLO is not available on this device" else caps.mloReason))
  return ctx.change ("create MLD " ++ pyStr mid)
    (withKey mid "wifi.mlds" fun mid => inside "wifi" .attribute
      (insideOr "mlds" [] .type fun mlds =>
        if (Dict.lookup mid mlds).isSome then
          .error (.value ("MLD '" ++ mid ++ "' already exists"))
        else .ok (Dict.set mid (.obj (newMld mid body)) mlds))) none

def putMld (mid : String) (ctx : Ctx) : Except Exn Draft := do
  let body ← ctx.json
  return ctx.change ("MLD " ++ mid)
    (wifiEntry "mlds" mid ("unknown MLD '" ++ mid ++ "'") (deepUpdated body)) none

def deleteMld (mid : String) (ctx : Ctx) : Except Exn Draft :=
  let unknown : Exn := .key (pyRepr ("unknown MLD '" ++ mid ++ "'"))
  .ok (ctx.change ("delete MLD " ++ mid) (inside "wifi" .attribute fun wifi =>
    if (Dict.lookup "mlds" wifi).isNone then .error unknown
    else inside "mlds" .type (fun mlds =>
      if (Dict.lookup mid mlds).isNone then .error unknown
      else .ok (Dict.erase mid mlds)) wifi) none)

/-- `reg[key] = body[key]` where the body has it -/
def copyKey (key : String) (body target : Obj) : Obj :=
  match Dict.lookup key body with
  | some v => Dict.set key v target
  | none => target

def putRegulatory (ctx : Ctx) : Except Exn Draft := do
  let body ← ctx.json
  return ctx.change "regulatory environment"
    (inside "wifi" .attribute (insideOr "regulatory" [] .type fun reg =>
      .ok (copyKey "six_ghz_power" body (copyKey "environment" body reg)))) none

def putChannelSettings (ctx : Ctx) : Except Exn Draft := do
  let body ← ctx.json
  return ctx.change "channel optimisation settings"
    (inside "wifi" .attribute
      (insideOr "channel_optimisation" [] .type (deepUpdated body))) (some false)

/-! ### Clients, users, backups -/

/-- `r["mac"] != mac` for every reservation -/
def otherReservations (mac : String) (xs : List Json) : Except Exn (List Json) :=
  (forEach (fun r => (getItem r "mac").map fun m => (decide (m ≠ .str mac), r)) xs).map
    fun marked => (marked.filter Prod.fst).map Prod.snd

/-- A fixed address of a client, as a reservation of the network it is on. -/
def fixedIp (client : Obj) (mac : String) (address : Json) (ctx : Ctx) : Draft :=
  let network := (Dict.lookup "network" client).getD .null
  let mac' := lower mac
  ctx.change ("fixed IP for " ++ mac)
    (inside "networks" .type fun networks =>
      match if network.truthy then network else .str "default" with
      | .str nid => inside nid .attribute (insideOr "dhcp" [] .attribute fun dhcp => do
          let xs ← EditM.pyIter ((Dict.lookup "reservations" dhcp).getD (.arr []))
          let others ← otherReservations mac' xs
          return Dict.set "reservations" (.arr (others ++ [.obj [("mac", .str mac'),
            ("address", address),
            ("hostname", (Dict.lookup "hostname" client).getD .null)]])) dhcp) networks
      | .arr _ | .obj _ => .error .type
      | v => .error (.key (pyStr v))) (some false)

/-- The role of a user. -/
def changeRole (name : String) (role : Json) (ctx : Ctx) : Draft :=
  ctx.change ("role for " ++ name)
    (inside "users" .type (insideKnown name ("unknown user '" ++ name ++ "'") .type fun user =>
      .ok (Dict.set "role" role user))) (some false)

def postBackup (ctx : Ctx) : Except Exn Draft := do
  let body ← ctx.json
  match (Dict.lookup "config" body).getD .null with
  | .obj incoming => return ctx.change "restore backup" (fun _ => .ok incoming) (some true)
  | _ => .error (badRequest "config object is required")

end Sbegw.Api
