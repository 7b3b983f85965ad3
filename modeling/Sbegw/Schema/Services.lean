import Sbegw.Schema.Network

/-!
# Validation of firewall, NAT, routing and services
-/

namespace Sbegw.Schema

open Text EditM

/-! ### Firewall -/

def checkTunnel (i : ℕ) (pattern : Json) : Except Exn Unit := do
  let base := s!"firewall.tunnel_interfaces[{i}]"
  let p ← needStr pattern base "an interface name or nft wildcard"
  if p = "" ∨ p = "*" then
    .error (.validation base "must name an interface or prefix, not '*'")
  else if p.toList.contains '"' then .error (.validation base "must not contain a quote character")
  else pure ()

/-- One default policy, `src->dst: action`. -/
def checkPolicy (key : String) (action : Json) : Except Exn Unit := do
  let path := "firewall.default_policies." ++ key
  match cut "->" key with
  | none => .error (.validation path "expected 'src->dst'")
  | some (src, dst) =>
    let _ ← vEnum (.str src) path zones
    let _ ← vEnum (.str dst) path zones
    let _ ← vEnum action path fwActions

def checkPolicies : Obj → Except Exn Unit
  | [] => .ok ()
  | (k, a) :: rest => match checkPolicy k a with | .ok () => checkPolicies rest | .error e => .error e

/-- `_validate_address_spec` -/
def checkAddressSpec (value : Json) (path : String) : Except Exn Unit := do
  let s ← needStr value path "an address, CIDR or group reference"
  if startsWith "group:" s then pure ()
  else match Ip.ipInterface s with
    | some _ => pure ()
    | none => .error (.validation path ("not an address or CIDR: " ++ pyRepr s ++
        " does not appear to be an IPv4 or IPv6 network"))

def protocols : List String := ["any", "tcp", "udp", "tcp-udp", "icmp", "icmpv6", "esp", "gre"]

/-- The port match of a rule. -/
def checkRulePort (proto path : String) (value : Json) : Except Exn String :=
  if ["tcp", "udp", "tcp-udp"].contains proto then vPortRange value path
  else .error (.validation path "ports require protocol tcp, udp or tcp-udp")

def validateRule (schedules : Json) (seen : List String) (i : ℕ) : EditM (List String) := do
  let base := s!"firewall.rules[{i}]"
  let rid ← field "id" (.str ("rule-" ++ ofNat (i + 1))) (vId · (base ++ ".id"))
  raiseIf (seen.contains rid) (.validation (base ++ ".id") ("duplicate rule id '" ++ rid ++ "'"))
  let _ ← field "name" (.str rid) (vName · (base ++ ".name"))
  let _ ← field "action" (.str "drop") (vEnum · (base ++ ".action") fwActions)
  let _ ← field "enabled" (.bool true) (vBool · (base ++ ".enabled"))
  let _ ← field "log" (.bool false) (vBool · (base ++ ".log"))
  let _ ← field "index" (.int (i + 1)) (vInt · (base ++ ".index") 1 100000)
  let _ ← field "family" (.str "both") (vEnum · (base ++ ".family") ["ipv4", "ipv6", "both"])
  let _ ← field "src_zone" (.str "lan") (vEnum · (base ++ ".src_zone") zones)
  let _ ← field "dst_zone" (.str "wan") (vEnum · (base ++ ".dst_zone") zones)
  let proto ← field "protocol" (.str "any") (vEnum · (base ++ ".protocol") protocols)
  ifSet "src_address" (checkAddressSpec · (base ++ ".src_address"))
  ifSet "dst_address" (checkAddressSpec · (base ++ ".dst_address"))
  ifSet "src_port" (checkRulePort proto (base ++ ".src_port"))
  ifSet "dst_port" (checkRulePort proto (base ++ ".dst_port"))
  ifSet "schedule" fun sched => do
    if ← pyIn sched schedules then pure ()
    else .error (.validation (base ++ ".schedule") ("unknown schedule '" ++ pyStr sched ++ "'"))
  pure (seen ++ [rid])

def tunnelDefaults : Json := .arr [.str "tun*", .str "utun*", .str "wg*", .str "tailscale*"]

def validateFirewall : EditM Unit := do
  let _ ← field "hardware_offload" (.bool false) (vBool · "firewall.hardware_offload")
  field "tunnel_interfaces" tunnelDefaults fun tunnels => do
    let _ ← needArr tunnels "firewall.tunnel_interfaces" "a list of interface patterns"
    eachChecked tunnels checkTunnel
  field "default_policies" (.obj []) fun policies =>
    match policies with
    | .obj kvs => checkPolicies kvs
    | _ => .error .attribute
  let fw ← self
  let schedules := (Dict.lookup "schedules" fw).getD (.obj [])
  let _ ← setdefault "rules" (.arr [])
  let _ ← elemsOf "rules" (fun i => notObject s!"firewall.rules[{i}]") (validateRule schedules) []

/-! ### NAT -/

/-- The two ports of a forward: both single, or ranges of one size. -/
def checkForwardPorts (base ext internal : String) : Except Exn Unit := do
  let e := split '-' ext
  let i := split '-' internal
  if decide (1 < e.length) ≠ decide (1 < i.length) then
    .error (.validation base "external and internal must both be ranges or both single")
  else match portNumbers base e, portNumbers base i with
    | .ok [elo, ehi], .ok [ilo, ihi] =>
      if ehi - elo ≠ ihi - ilo then
        .error (.validation base "external and internal ranges must be the same size")
      else pure ()
    | _, _ => pure ()

def validateForward (cfg : Obj) (seen : List (String × String × Json)) (i : ℕ) :
    EditM (List (String × String × Json)) := do
  let base := s!"nat.port_forwards[{i}]"
  let fid ← field "id" (.str ("pf-" ++ ofNat (i + 1))) (vId · (base ++ ".id"))
  let _ ← field "name" (.str fid) (vName · (base ++ ".name"))
  let _ ← field "enabled" (.bool true) (vBool · (base ++ ".enabled"))
  let proto ← field "protocol" (.str "tcp") (vEnum · (base ++ ".protocol") ["tcp", "udp", "tcp-udp"])
  let external ← item "external_port"
  let ext ← lift (vPortRange external (base ++ ".external_port"))
  let address ← item "internal_address"
  let _ ← lift (ipOf address (base ++ ".internal_address") (some 4))
  let internal ← field "internal_port" (.str ext) (vPortRange · (base ++ ".internal_port"))
  lift (checkForwardPorts base ext internal)
  let wan ← setdefault "wan" (.str "any")
  lift (if wan = .str "any" then pure () else do
    if ← pyIn wan ((Dict.lookup "wans" cfg).getD (.obj [])) then pure ()
    else .error (.validation (base ++ ".wan") ("unknown WAN '" ++ pyStr wan ++ "'")))
  raiseIf (seen.contains (proto, ext, wan)) (.validation base
    ("another forward already claims " ++ proto ++ " " ++ ext ++ " on " ++ pyStr wan))
  pure (seen ++ [(proto, ext, wan)])

def validateNat (cfg : Obj) : EditM Unit := do
  let _ ← field "masquerade" (.bool true) (vBool · "nat.masquerade")
  let _ ← field "hairpin" (.bool true) (vBool · "nat.hairpin")
  let _ ← setdefault "port_forwards" (.arr [])
  let _ ← elemsOf "port_forwards" (fun i => notObject s!"nat.port_forwards[{i}]")
    (validateForward cfg) []

/-! ### Routing -/

/-- The IP version of `ipaddress.ip_network(dest, strict=False)`: an integer is an address, anything
but an integer or a string prints as no network. -/
def networkVersion (dest : Json) : Option ℕ :=
  let ofInt (i : ℤ) : Option ℕ :=
    if i < 0 then none else if i < 2 ^ 32 then some 4 else if i < 2 ^ 128 then some 6 else none
  match dest with
  | .str s => (Ip.ipInterface s).map fun n => n.addr.version
  | .int i => ofInt i
  | .bool b => ofInt (if b then 1 else 0)
  | _ => none

def validateRoute (_ : Unit) (i : ℕ) : EditM Unit := do
  let base := s!"routing.static[{i}]"
  let dest ← get "destination"
  let version ← lift (match networkVersion dest with
    | some v => .ok v
    | none => .error (.validation (base ++ ".destination") ("invalid prefix: " ++
        pyRepr (pyStr dest) ++ " does not appear to be an IPv4 or IPv6 network")))
  let kind ← field "type" (.str "gateway")
    (vEnum · (base ++ ".type") ["gateway", "interface", "blackhole", "unreachable"])
  let via ← get "via"
  let interface ← get "interface"
  when (kind = "gateway") do
    lift (do
      let gw ← ipOf via (base ++ ".via") none
      if gw.version = version then pure ()
      else .error (.validation (base ++ ".via") "gateway family must match destination"))
  raiseIf (kind = "interface" ∧ !interface.truthy)
    (.validation (base ++ ".interface") "required for interface routes")
  let _ ← field "metric" (.int 100) (vInt · (base ++ ".metric") 0 4294967295)

def validateRouting : EditM Unit := do
  let _ ← setdefault "static" (.arr [])
  elemsOf "static" (fun i => notObject s!"routing.static[{i}]") validateRoute ()

/-! ### Smart queues -/

/-- What a limit is for: a MAC address or a network. -/
def limitKey (networks : List String) (base : String) (mac network : Json) : Except Exn String :=
  if mac.truthy then (vMac mac (base ++ ".mac")).map ("mac:" ++ ·)
  else if network.truthy then
    match network with
    | .str n =>
      if networks.contains n then .ok ("network:" ++ n)
      else .error (.validation (base ++ ".network") ("unknown network '" ++ n ++ "'"))
    | .arr _ | .obj _ => .error .type
    | v => .error (.validation (base ++ ".network") ("unknown network '" ++ pyStr v ++ "'"))
  else .error (.validation base "a mac or network is required")

def validateLimit (networks : List String) (seen : List String) (i : ℕ) : EditM (List String) := do
  let base := s!"qos.per_client_limits[{i}]"
  let mac ← get "mac"
  let network ← get "network"
  let key ← lift (limitKey networks base mac network)
  raiseIf (seen.contains key) (.validation base
    ("duplicate limit for " ++ ((cut ":" key).map Prod.snd).getD ""))
  let _ ← field "download_kbps" (.int 0) (vInt · (base ++ ".download_kbps") 0 10000000)
  let _ ← field "upload_kbps" (.int 0) (vInt · (base ++ ".upload_kbps") 0 10000000)
  pure (seen ++ [key])

def validateQos (cfg : Obj) : EditM Unit := do
  let enabled ← field "enabled" (.bool false) (vBool · "qos.enabled")
  let _ ← field "engine" (.str "cake") (vEnum · "qos.engine" ["cake"])
  let down ← field "download_kbps" (.int 0) (vInt · "qos.download_kbps" 0 10000000)
  let up ← field "upload_kbps" (.int 0) (vInt · "qos.upload_kbps" 0 10000000)
  raiseIf (enabled && down == 0 && up == 0)
    (.validation "qos" "set a download or upload rate before enabling Smart Queues")
  let _ ← field "per_client_limits" (.arr []) (needArr · "qos.per_client_limits" "a list")
  let networks := (((Dict.lookup "networks" cfg).getD (.obj [])).entries).keys
  let _ ← elemsOf "per_client_limits" (fun i => notObject s!"qos.per_client_limits[{i}]")
    (validateLimit networks) []

/-! ### DNS -/

/-- `[_domain(name, ...) for i, name in enumerate(names)]` -/
def domains (path : String) : ℕ → List Json → Except Exn (List String)
  | _, [] => .ok []
  | i, x :: xs =>
    match domain x s!"{path}[{i}]" with
    | .ok d => (domains path (i + 1) xs).map (d :: ·)
    | .error e => .error e

/-- A list of names, rewritten in normal form. -/
def nameList (key : String) : EditM Unit := do
  let path := "dns.filtering." ++ key
  let names ← field key (.arr []) (needArr · path "a list of DNS names")
  let normalised ← lift (domains path 0 names)
  raiseIf (!decide normalised.Nodup) (.validation path "contains a duplicate name")
  put key (.arr (normalised.map Json.str))

def validateForwarder (_ : Unit) (i : ℕ) : EditM Unit := do
  let base := s!"dns.conditional_forwarders[{i}]"
  let d ← get "domain"
  let d ← lift (domain d (base ++ ".domain"))
  put "domain" (.str d)
  let server ← get "server"
  let server ← lift (vIp server (base ++ ".server") none)
  put "server" (.str server)

/-- The value of a record in normal form. -/
def recordValue (kind path value : String) : Except Exn String :=
  if kind = "A" then vIp (.str value) path (some 4)
  else if kind = "AAAA" then vIp (.str value) path (some 6)
  else if kind = "CNAME" then domain (.str value) path
  else if strip value = "" ∨ 255 < value.length then
    .error (.validation path "must be 1-255 characters")
  else .ok value

def validateRecord (seen : List (String × String)) (i : ℕ) : EditM (List (String × String)) := do
  let base := s!"dns.records[{i}]"
  let kind ← field "type" (.str "A") (vEnum · (base ++ ".type") ["A", "AAAA", "CNAME", "SRV", "TXT"])
  let name ← get "name"
  let name ← lift (domain name (base ++ ".name"))
  put "name" (.str name)
  let value ← get "value"
  let value ← lift (needStr value (base ++ ".value") "a string")
  raiseIf (value.toList.contains '\n' || value.toList.contains '\r')
    (.validation (base ++ ".value") "must be a single line")
  let value ← lift (recordValue kind (base ++ ".value") value)
  put "value" (.str value)
  raiseIf (seen.contains (kind, name)) (.validation base
    ("duplicate " ++ kind ++ " record for " ++ name))
  pure (seen ++ [(kind, name)])

def validateDns : EditM Unit := do
  field "upstream" (.arr [.str "1.1.1.1", .str "8.8.8.8"]) fun upstream => do
    let xs ← needArr upstream "dns.upstream" "a list of resolver addresses"
    if xs.isEmpty then .error (.validation "dns.upstream" "at least one resolver is required")
    eachChecked upstream fun i address => ipOf address s!"dns.upstream[{i}]" none
  let _ ← field "cache_size" (.int 4096) (vInt · "dns.cache_size" 0 100000)
  let _ ← field "dnssec" (.bool false) (vBool · "dns.dnssec")
  let _ ← field "query_log" (.bool false) (vBool · "dns.query_log")
  within "filtering" [] (fun _ => notObject "dns.filtering") do
    let _ ← field "enabled" (.bool false) (vBool · "dns.filtering.enabled")
    let _ ← field "block_malware" (.bool true) (vBool · "dns.filtering.block_malware")
    let _ ← field "block_ads" (.bool false) (vBool · "dns.filtering.block_ads")
    nameList "allowlist"
    nameList "blocklist"
  let _ ← field "conditional_forwarders" (.arr []) (needArr · "dns.conditional_forwarders" "a list")
  elemsOf "conditional_forwarders" (fun i => notObject s!"dns.conditional_forwarders[{i}]")
    validateForwarder ()
  let _ ← field "records" (.arr []) (needArr · "dns.records" "a list")
  let _ ← elemsOf "records" (fun i => notObject s!"dns.records[{i}]") validateRecord []

/-! ### DPI, controller, users -/

def dpiOffloadWarning : String :=
  "dpi: hardware flow offload can bypass packet inspection; " ++
  "disable offload for complete traffic identification"

def validateDpi (cfg : Obj) : EditM Unit := do
  let enabled ← field "enabled" (.bool false) (vBool · "dpi.enabled")
  let _ ← field "engine" (.str "suricata") (vEnum · "dpi.engine" ["suricata"])
  let _ ← field "retention_hours" (.int 24) (vInt · "dpi.retention_hours" 1 720)
  let _ ← field "include_ipv6" (.bool true) (vBool · "dpi.include_ipv6")
  let offload := ((Dict.lookup "firewall" cfg).getD (.obj [])).getD "hardware_offload" .null
  when (enabled && offload.truthy) (warn dpiOffloadWarning)

/-- One of the text settings of the controller. -/
def controllerText (key : String) : EditM String := do
  let path := "controller." ++ key
  let s ← field key (.str "") (needStr · path "a string")
  raiseIf (s.toList.contains '\n' || s.toList.contains '\r' || 2048 < s.length)
    (.validation path "invalid value")
  pure s

def validateController : EditM Unit := do
  let enabled ← field "enabled" (.bool false) (vBool · "controller.enabled")
  let _ ← field "discovery" (.bool true) (vBool · "controller.discovery")
  let sync ← field "sync_enabled" (.bool false) (vBool · "controller.sync_enabled")
  let _ ← field "verify_tls" (.bool true) (vBool · "controller.verify_tls")
  let _ ← field "interval_seconds" (.int 10) (vInt · "controller.interval_seconds" 5 300)
  let informUrl ← controllerText "inform_url"
  let apiUrl ← controllerText "api_url"
  let apiKey ← controllerText "api_key"
  let siteId ← controllerText "site_id"
  when enabled do
    let inform := strip informUrl
    raiseIf (!informRe inform)
      (.validation "controller.inform_url" "use http(s)://controller:8080/inform")
    put "inform_url" (.str (rstrip '/' inform))
  when sync do
    let url := rstrip '/' (strip apiUrl)
    raiseIf (!integrationRe url)
      (.validation "controller.api_url" "must end with /proxy/network/integration/v1")
    raiseIf (strip apiKey == "") (.validation "controller.api_key" "an API key is required")
    raiseIf (!siteIdRe (strip siteId)) (.validation "controller.site_id" "invalid site ID")
    put "api_url" (.str url)

def validateUser (_ : Unit) (username : String) : EditM Unit := do
  let base := "users." ++ username
  let _ ← field "role" (.str "read-only") (vEnum · (base ++ ".role") roles)
  let hash ← get "password_hash"
  raiseIf (!hash.truthy) (.validation (base ++ ".password_hash") "user has no password set")

def validateUsers : EditM Unit :=
  entriesOf (fun username => notObject ("users." ++ username)) validateUser ()

end Sbegw.Schema
