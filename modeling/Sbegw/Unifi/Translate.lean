import Sbegw.Api.Requests
import Sbegw.Lib.Written

/-!
# Controller state, translated

What `sync_once` makes of the networks, the SSIDs and the DNS policies that a controller sends.  A row
that cannot be honoured is left out and reported.
-/

namespace Sbegw.Unifi

open Text Schema Api

/-! ### Python's view of a row -/

/-- `a or b` -/
def orElse (a b : Json) : Json := if a.truthy then a else b

/-- `value or {}` -/
def orEmpty (value : Json) : Json := orElse value (.obj [])

/-- `re.sub(r"[^a-z0-9]+", "-", …)`; `gap` tells whether a dash stands for what came before. -/
def dashed (gap : Bool) : List Char → List Char
  | [] => []
  | c :: cs =>
    if isDigit c || isLowerAlpha c then c :: dashed false cs
    else if gap then dashed true cs
    else '-' :: dashed true cs

/-- `value.strip("-")` -/
def stripDashes (cs : List Char) : List Char := dropRight (· == '-') (cs.dropWhile (· == '-'))

/-- `_slug(name, suffix)` -/
def slug (name suffix : String) : String :=
  let value := stripDashes (dashed false (lower name).toList)
  let value := (if value.isEmpty then "network".toList else value).take 31
  let value :=
    if suffix = "" then value else value.take (32 - suffix.toList.length) ++ '-' :: suffix.toList
  String.ofList (stripDashes (value.take 39))

/-- `_slug(item.get("name", d), str(item.get("id", ""))[:6].lower())`; only a string has `lower`. -/
def identOf (item : Json) (d : String) : Except Exn String := do
  let id ← getAttr item "id" (.str "")
  let suffix := lower (String.ofList ((pyStr id).toList.take 6))
  match ← getAttr item "name" (.str d) with
  | .str name => .ok (slug name suffix)
  | _ => .error .attribute

/-- `table.get(key)` of a table with string keys. -/
def tableGet (table : Dict String String) (key : Json) : Except Exn (Option String) :=
  match key with
  | .str s => .ok (Dict.lookup s table)
  | .arr _ | .obj _ => .error .type
  | _ => .ok none

/-! ### Networks -/

/-- The entry of a network that can be honoured. -/
def networkEntry (item addressing pool : Json) (ident subnet : String) (enabled : Bool) :
    Except Exn Obj := do
  let start ← getAttr pool "start" .null
  let stop ← getAttr pool "stop" .null
  let isolated := (item.getD "isolationEnabled" .null).truthy
  let get (key : String) : Json := item.getD key .null
  .ok [("name", orElse (get "name") (.str ident)),
    ("purpose", .str (if isolated then "guest" else "corporate")),
    ("vlan", if (get "default").truthy ∨ Json.pyEq (get "vlanId") (.int 1) then .null else get "vlanId"),
    ("zone", .str (if isolated then "guest" else "lan")),
    ("subnet", .str subnet),
    ("dhcp", .obj [("enabled", .bool enabled), ("start", start), ("end", stop),
      ("lease_seconds", addressing.getD "leaseTimeSeconds" (.int 86400)),
      ("dns", orElse (addressing.getD "dnsServerIpAddressesOverride" .null) (.arr [])),
      ("domain", orElse (addressing.getD "domainName" .null) (.str "lan")),
      ("options", .arr []), ("reservations", .arr [])]),
    ("isolation", .bool isolated), ("igmp_snooping", .bool true),
    ("mdns", .bool (item.getD "mdnsForwardingEnabled" (.bool true)).truthy),
    ("internet_access", .bool (item.getD "internetAccessEnabled" (.bool true)).truthy),
    ("wan", .str "auto"), ("controller_id", get "id")]

/-- The local name of a network. -/
def networkIdent (item : Json) : Except Exn String :=
  if (item.getD "default" .null).truthy then .ok "default" else identOf item "network"

/-- `translate_network(item)` -/
def translateNetwork (item : Json) : Except Exn (Option (String × Obj)) := do
  let management ← getAttr item "management" .null
  if management ≠ .str "GATEWAY" ∨ ¬ (item.getD "enabled" (.bool true)).truthy then return none
  if (item.getD "ipv6Configuration" .null).truthy then return none
  let ipv4 := orEmpty (item.getD "ipv4Configuration" .null)
  let host ← getAttr ipv4 "hostIpAddress" .null
  let prefixLength ← getAttr ipv4 "prefixLength" .null
  if ¬ host.truthy ∨ prefixLength = .null then return none
  let ident ← networkIdent item
  let addressing := orEmpty (ipv4.getD "dhcpConfiguration" .null)
  let mode ← getAttr addressing "mode" .null
  if addressing.truthy ∧ mode ≠ .str "SERVER" then return none
  let pool := orEmpty (addressing.getD "ipAddressRange" .null)
  let entry ← networkEntry item addressing pool ident (pyStr host ++ "/" ++ pyStr prefixLength)
    (mode = .str "SERVER")
  return some (ident, entry)

/-! ### SSIDs -/

/-- The security modes that have a local counterpart. -/
def securityModes : Dict String String :=
  [("OPEN", "open"), ("WPA2_PERSONAL", "wpa2"), ("WPA2_WPA3_PERSONAL", "wpa2-wpa3"),
    ("WPA3_PERSONAL", "wpa3")]

/-- `2.4`, as a double. -/
def ghz24 : ℚ := 5404319552844595 / 2251799813685248

/-- `band_map.get(x)` -/
def bandOf (x : Json) : Except Exn (Option String) :=
  match x with
  | .arr _ | .obj _ => .error .type
  | x =>
    if x.num? = some ghz24 then .ok (some "2g")
    else if x.num? = some 5 then .ok (some "5g")
    else if x.num? = some 6 then .ok (some "6g")
    else .ok none

/-- `item.get("network") or {}`, and its `networkId`. -/
def networkRef (item : Json) : Except Exn Json := getAttr (orEmpty (item.getD "network" .null)) "networkId" .null

/-- The passphrase of an SSID: the redacted one of a known SSID stays, that of a new one is refused. -/
def passphraseOf (security : Json) (previous : Option Json) : Except Exn (Option Json) :=
  let passphrase := orElse (security.getD "passphrase" .null) (.str "")
  if passphrase = .str "********" then
    match previous with
    | some old => do
      let before ← getAttr old "security" (.obj [])
      return some (← getAttr before "passphrase" (.str ""))
    | none => .ok none
  else .ok (some passphrase)

/-- The security of an SSID, as far as it has a local counterpart. -/
structure Security where
  mode : String
  passphrase : Json
  owe : Bool

def securityOf (security : Json) (previous : Option Json) : Except Exn (Option Security) := do
  let kind ← getAttr security "type" .null
  match ← tableGet securityModes kind with
  | none => return none
  | some mode =>
    if (security.getD "radiusConfiguration" .null).truthy ∨ (security.getD "presharedKeys" .null).truthy then
      return none
    let encryption := security.getD "encryption" .null
    if encryption = .str "ENHANCED_OPEN_WITH_TRANSITION" then return none
    return (← passphraseOf security previous).map fun passphrase =>
      ⟨mode, passphrase, kind = .str "OPEN" ∧ encryption = .str "ENHANCED_OPEN"⟩

/-- The entry of an SSID that can be honoured. -/
def wifiEntry (item security : Json) (secured : Security) (ident network : String) (bands : List String) :
    Obj :=
  let get (key : String) (d : Bool) : Json := .bool (item.getD key (.bool d)).truthy
  let rekey := security.getD "groupRekeyIntervalSeconds" .null
  let pmf := orElse (security.getD "pmfMode" .null)
    (.str (if secured.mode = "wpa3" then "REQUIRED" else "OPTIONAL"))
  [("ssid", orElse (item.getD "name" .null) (.str ident)),
    ("enabled", get "enabled" true), ("hidden", get "hideName" false), ("uplink", .str "lan"),
    ("network", .str network), ("bands", .arr (bands.map .str)),
    ("client_isolation", get "clientIsolationEnabled" false),
    ("security", .obj [("mode", .str secured.mode), ("passphrase", secured.passphrase),
      ("pmf", .str (lower (pyStr pmf))), ("owe", .bool secured.owe)]),
    ("mlo", get "mloEnabled" false),
    ("fast_roaming", .bool (security.getD "fastRoamingEnabled" .null).truthy),
    ("bss_transition", get "bssTransitionEnabled" true),
    ("band_steering", get "bandSteeringEnabled" true), ("proxy_arp", get "arpProxyEnabled" false),
    ("uapsd", get "uapsdEnabled" true),
    ("multicast_to_unicast", get "multicastToUnicastConversionEnabled" false),
    ("group_rekey_interval", .bool (rekey ≠ .null)),
    ("group_rekey_seconds", orElse rekey (.int 3600)),
    ("controller_id", item.getD "id" .null)]

/-- The types of SSID that are honoured. -/
def ssidTypes : List Json := [.str "STANDARD", .str "IOT_OPTIMIZED"]

/-- What of `item` stands in the way of honouring it, before its security is looked at. -/
def filtered (item : Json) : Bool :=
  (item.getD "hotspotConfiguration" .null).truthy || (item.getD "broadcastingDeviceFilter" .null).truthy ||
    (item.getD "clientFilteringPolicy" .null).truthy

/-- The bands of an SSID. -/
def bandsOf (item type : Json) : Except Exn (List String) := do
  let frequencies := orElse (item.getD "broadcastingFrequenciesGHz" .null)
    (.arr (if type = .str "IOT_OPTIMIZED" then [.float ghz24] else [.float ghz24, .int 5]))
  let bands ← forEach bandOf (← EditM.pyIter frequencies)
  return bands.filterMap id

/-- `translate_wifi(item, network_ids, previous)` -/
def translateWifi (item : Json) (networkIds : Dict String String) (previous : Option Json) :
    Except Exn (Option (String × Obj)) := do
  let type ← getAttr item "type" .null
  if type ∉ ssidTypes ∨ filtered item then return none
  let ident ← identOf item "wifi"
  let security := orEmpty (item.getD "securityConfiguration" .null)
  match ← securityOf security previous with
  | none => return none
  | some secured =>
    let network ← tableGet networkIds (← networkRef item)
    let bands ← bandsOf item type
    return some (ident, wifiEntry item security secured ident (network.getD "default") bands)

/-! ### DNS policies -/

/-- The record types that have a local counterpart. -/
def recordTypes : Dict String String :=
  [("A_RECORD", "A"), ("AAAA_RECORD", "AAAA"), ("CNAME_RECORD", "CNAME"), ("SRV_RECORD", "SRV"),
    ("TXT_RECORD", "TXT")]

/-- A policy: a record or a forwarder. -/
inductive DnsPolicy where
  | record (entry : Json)
  | forwarder (entry : Json)

/-- The value of a record; `none` is `None`. -/
def recordValue (item kind : Json) : Json :=
  if kind = .str "A_RECORD" then item.getD "ipv4Address" .null
  else if kind = .str "AAAA_RECORD" then item.getD "ipv6Address" .null
  else if kind = .str "CNAME_RECORD" then item.getD "targetDomain" .null
  else if kind = .str "TXT_RECORD" then item.getD "text" .null
  else .null

/-- The keys that a service record needs. -/
def serviceKeys : List String := ["service", "protocol", "serverDomain", "port", "priority", "weight"]

/-- `translate_dns(item)` -/
def translateDns (item : Json) : Except Exn (Option DnsPolicy) := do
  let enabled ← getAttr item "enabled" (.bool true)
  if ¬ enabled.truthy then return none
  let get (key : String) : Json := item.getD key .null
  let kind := get "type"
  if kind = .str "FORWARD_DOMAIN" then
    let server := get "ipAddress"
    let domain := orElse (get "domain") (get "name")
    return if domain.truthy ∧ server.truthy then
      some (.forwarder (.obj [("domain", domain), ("server", server)])) else none
  let recordKind ← tableGet recordTypes kind
  let name := orElse (orElse (get "domain") (get "name")) (get "hostname")
  let text (key : String) : String := pyStr (get key)
  let (name, value) ←
    if kind = .str "SRV_RECORD" ∧ ∀ key ∈ serviceKeys, (item.get? key).isSome then do
      let domain ← getItem item "domain"
      pure (.str (text "service" ++ "." ++ text "protocol" ++ "." ++ pyStr domain),
        Json.str (text "serverDomain" ++ "," ++ text "port" ++ "," ++ text "priority" ++ "," ++ text "weight"))
    else pure (name, recordValue item kind)
  match recordKind with
  | some record =>
    return if name.truthy ∧ value ≠ .null then
      some (.record (.obj [("name", name), ("type", .str record), ("value", value)])) else none
  | none => return none

/-! ### What a translation says -/

theorem networkEntry_id {item addressing pool : Json} {ident subnet : String} {enabled : Bool} {value : Obj}
    (h : networkEntry item addressing pool ident subnet enabled = .ok value) :
    Dict.lookup "controller_id" value = some (item.getD "id" .null) := by
  unfold networkEntry at h
  obtain ⟨start, -, h⟩ := except_bind_eq_ok.mp h
  obtain ⟨stop, -, h⟩ := except_bind_eq_ok.mp h
  rw [← Except.ok.inj h]
  rfl

/-- A translated network says which one of the controller it is. -/
theorem translateNetwork_id {item : Json} {ident : String} {value : Obj}
    (h : translateNetwork item = .ok (some (ident, value))) :
    Dict.lookup "controller_id" value = some (item.getD "id" .null) := by
  unfold translateNetwork at h
  obtain ⟨management, -, h⟩ := except_bind_eq_ok.mp h
  split at h
  · exact absurd (Except.ok.inj h) (by simp)
  · split at h
    · exact absurd (Except.ok.inj h) (by simp)
    · obtain ⟨host, -, h⟩ := except_bind_eq_ok.mp h
      obtain ⟨len, -, h⟩ := except_bind_eq_ok.mp h
      split at h
      · exact absurd (Except.ok.inj h) (by simp)
      · obtain ⟨id, -, h⟩ := except_bind_eq_ok.mp h
        obtain ⟨mode, -, h⟩ := except_bind_eq_ok.mp h
        split at h
        · exact absurd (Except.ok.inj h) (by simp)
        · obtain ⟨entry, hentry, h⟩ := except_bind_eq_ok.mp h
          obtain ⟨rfl, rfl⟩ := Prod.mk.inj (Option.some.inj (Except.ok.inj h))
          exact networkEntry_id hentry

theorem tableGet_total {ids : Dict String String} {ref : Json} {n : Option String}
    (h : tableGet ids ref = .ok n) (ids' : Dict String String) : ∃ n', tableGet ids' ref = .ok n' := by
  cases ref with
  | arr xs => exact absurd h (by simp [tableGet])
  | obj kvs => exact absurd h (by simp [tableGet])
  | str s => exact ⟨_, rfl⟩
  | _ => exact ⟨_, rfl⟩

/-- What becomes of an SSID: the ids only decide its network. -/
theorem translateWifi_eq_ok {item : Json} {ids : Dict String String} {previous : Option Json}
    {o : Option (String × Obj)} (h : translateWifi item ids previous = .ok o) :
    (o = none ∧ ∀ ids', translateWifi item ids' previous = .ok none) ∨
      ∃ ident value ref network, o = some (ident, value) ∧ networkRef item = .ok ref ∧
        tableGet ids ref = .ok network ∧
        Dict.lookup "network" value = some (.str (network.getD "default")) ∧
        ∀ ids', ∃ value', translateWifi item ids' previous = .ok (some (ident, value')) := by
  unfold translateWifi at h ⊢
  obtain ⟨type, htype, h⟩ := except_bind_eq_ok.mp h
  simp only [htype, ok_bind]
  split at h
  · next hc =>
    refine Or.inl ⟨(Except.ok.inj h).symm, fun _ => ?_⟩
    rw [if_pos hc]
    rfl
  · next hc =>
    obtain ⟨ident, hident, h⟩ := except_bind_eq_ok.mp h
    obtain ⟨secured, hsecured, h⟩ := except_bind_eq_ok.mp h
    simp only [if_neg hc, hident, hsecured, ok_bind]
    cases secured with
    | none => exact Or.inl ⟨(Except.ok.inj h).symm, fun _ => rfl⟩
    | some secured =>
      obtain ⟨ref, href, h⟩ := except_bind_eq_ok.mp h
      obtain ⟨network, hnetwork, h⟩ := except_bind_eq_ok.mp h
      obtain ⟨bands, hbands, h⟩ := except_bind_eq_ok.mp h
      refine Or.inr ⟨ident, _, ref, network, (Except.ok.inj h).symm, href, hnetwork, rfl, fun ids' => ?_⟩
      obtain ⟨network', hnetwork'⟩ := tableGet_total hnetwork ids'
      simp only [href, hnetwork', hbands, ok_bind]
      exact ⟨_, rfl⟩

end Sbegw.Unifi
