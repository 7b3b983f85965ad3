import Sbegw.Schema.Primitives

/-!
# Validation of system, ports, networks and WANs

The sections are checked in document order; `cfg` is the document at that moment, where a check
looks at another section.
-/

namespace Sbegw.Schema

open Text EditM

/-- `value[k]` outside the edited object. -/
def pyItem (value : Json) (k : String) : Except Exn Json :=
  match value with
  | .obj kvs =>
    match Dict.lookup k kvs with
    | some v => .ok v
    | none => .error (.key (pyRepr k))
  | _ => .error .type

/-- `expected an object` at `base`. -/
def notObject (base : String) : Exn := .validation base "expected an object"

/-- A check on every element of an iterable. -/
def eachChecked {β : Type} (xs : Json) (check : ℕ → Json → Except Exn β) : Except Exn Unit := do
  let xs ← pyIter xs
  forM_ (fun i x => (check i x).map fun _ => ()) 0 xs

/-! ### System -/

def apModeWarning : String :=
  "AP mode: the WAN port joins the LAN bridge, NAT and the DHCP server are off, and clients are " ++
  "addressed by the upstream gateway. This device keeps its LAN address for management and also " ++
  "asks upstream for one."

def validateSystem : EditM Unit := do
  let mode ← field "mode" (.str "gateway") (vEnum · "system.mode" deviceModes)
  when (mode = "ap") (warn apModeWarning)
  let hostname ← setdefault "hostname" (.str "sbe1v1k")
  raiseIf (!hostnameRe (pyStr hostname)) (.validation "system.hostname" "invalid hostname")
  within "ntp" [("enabled", .bool true), ("servers", .arr [])] (fun _ => .attribute) do
    let _ ← field "enabled" (.bool true) (vBool · "system.ntp.enabled")
    field "servers" (.arr []) fun servers =>
      eachChecked servers fun i server => needStr server s!"system.ntp.servers[{i}]" "a hostname or IP"
  within "fan" [] (fun _ => notObject "system.fan") do
    let mode ← field "mode" (.str "auto") (vEnum · "system.fan.mode" fanModes)
    let percent ← field "manual_percent" (.int 50) (vInt · "system.fan.manual_percent" 0 100)
    when (mode = "manual" ∧ 0 < percent ∧ percent < 14)
      (warn ("system.fan: " ++ ofInt percent ++ "% is below this board's minimum fan duty " ++
        "(36/255 = 14%); it will be raised to 14%"))
  within "leds" [] (fun _ => notObject "system.leds") do
    let _ ← field "mode" (.str "status") (vEnum · "system.leds.mode" ledModes)
    let _ ← field "brightness" (.int 100) (vInt · "system.leds.brightness" 0 100)

/-! ### Ports -/

/-- `network not in cfg.get("networks", {})` raises. -/
def knownNetwork (cfg : Obj) (network : Json) (path : String) : Except Exn Unit := do
  if ← pyIn network ((Dict.lookup "networks" cfg).getD (.obj [])) then pure ()
  else .error (.validation path ("unknown network '" ++ pyStr network ++ "'"))

def validatePort (cfg : Obj) (_ : Unit) (pid : String) : EditM Unit := do
  let base := "ports." ++ pid
  let role ← field "role" (.str "lan") (vEnum · (base ++ ".role") portRoles)
  let _ ← field "enabled" (.bool true) (vBool · (base ++ ".enabled"))
  let _ ← field "mtu" (.int 1500) (vInt · (base ++ ".mtu") 576 9216)
  ifSet "name" (vName · (base ++ ".name"))
  let network ← get "network"
  when (role = "lan" ∧ network ≠ .null) (lift (knownNetwork cfg network (base ++ ".network")))
  field "tagged_vlans" (.arr []) fun tagged => do
    let _ ← needArr tagged (base ++ ".tagged_vlans") "a list of VLAN IDs"
    eachChecked tagged fun i vid => vVlan vid s!"{base}.tagged_vlans[{i}]"

def validatePorts (cfg : Obj) : EditM Unit :=
  entriesOf (fun pid => notObject ("ports." ++ pid)) (validatePort cfg) ()

/-! ### Networks -/

/-- The check on one reservation. -/
def checkReservation (iface : Ip.Iface) (rbase : String) (res : Json) : Except Exn Unit := do
  let mac ← pyItem res "mac"
  let _ ← vMac mac (rbase ++ ".mac")
  let address ← pyItem res "address"
  let addr ← ipOf address (rbase ++ ".address") (some 4)
  if iface.contains addr then pure ()
  else .error (.validation (rbase ++ ".address")
    (addr.show ++ " is outside " ++ iface.showNetwork))

/-- `start` and `end` of a DHCP pool. -/
def checkPool (iface : Ip.Iface) (base : String) (start stop : Option Ip.Addr) : Except Exn Unit :=
  match start, stop with
  | some s, some e =>
    if !iface.contains s then
      .error (.validation (base ++ ".start") (s.show ++ " is outside " ++ iface.showNetwork))
    else if !iface.contains e then
      .error (.validation (base ++ ".end") (e.show ++ " is outside " ++ iface.showNetwork))
    else if e.toNat < s.toNat then
      .error (.validation base "start address must not exceed end address")
    else if s.toNat ≤ iface.addr.toNat ∧ iface.addr.toNat ≤ e.toNat then
      .error (.validation base
        ("pool must not include the gateway address " ++ iface.addr.show))
    else .ok ()
  | _, _ => .error (.validation base "DHCP requires both start and end addresses")

/-- `v_ip(d[k], path, 4) if d.get(k) else None` -/
def poolEnd (k path : String) : EditM (Option Ip.Addr) := do
  let x ← get k
  if x.truthy then lift ((ipOf x path (some 4)).map some) else pure none

def validateDhcp (iface : Ip.Iface) (base : String) : EditM Unit := do
  let enabled ← field "enabled" (.bool false) (vBool · (base ++ ".enabled"))
  when enabled do
    let start ← poolEnd "start" (base ++ ".start")
    let stop ← poolEnd "end" (base ++ ".end")
    lift (checkPool iface base start stop)
    let _ ← field "lease_seconds" (.int 86400) (vInt · (base ++ ".lease_seconds") 120 (30 * 86400))
    field "reservations" (.arr []) fun xs =>
      eachChecked xs fun i res => checkReservation iface s!"{base}.reservations[{i}]" res

/-- The VLANs and the subnets that earlier networks use. -/
structure SeenNetworks where
  vlans : List (ℤ × String)
  subnets : List (Ip.Iface × String)

/-- A VLAN id may be used once. -/
def claimVlan (seen : SeenNetworks) (nid base : String) (vlan : Option ℤ) :
    Except Exn SeenNetworks :=
  match vlan with
  | none => .ok seen
  | some v =>
    match seen.vlans.find? fun e => e.1 = v with
    | some e => .error (.validation (base ++ ".vlan")
        ("VLAN " ++ ofInt v ++ " already used by '" ++ e.2 ++ "'"))
    | none => .ok { seen with vlans := seen.vlans ++ [(v, nid)] }

/-- Subnets must not overlap. -/
def claimSubnet (seen : SeenNetworks) (nid base : String) (iface : Ip.Iface) :
    Except Exn SeenNetworks :=
  match seen.subnets.find? fun e => iface.overlaps e.1 with
  | some e => .error (.validation (base ++ ".subnet")
      ("overlaps subnet of network '" ++ e.2 ++ "' (" ++ e.1.showNetwork ++ ")"))
  | none => .ok { seen with subnets := seen.subnets ++ [(iface, nid)] }

/-- `wan not in ("auto", None) and wan not in cfg.get("wans", {})` raises. -/
def knownWan (cfg : Obj) (wan : Json) (path : String) : Except Exn Unit := do
  if wan = .str "auto" ∨ wan = .null then pure ()
  else if ← pyIn wan ((Dict.lookup "wans" cfg).getD (.obj [])) then pure ()
  else .error (.validation path ("unknown WAN '" ++ pyStr wan ++ "'"))

def validateNetwork (cfg : Obj) (seen : SeenNetworks) (nid : String) : EditM SeenNetworks := do
  let base := "networks." ++ nid
  let _ ← lift (vId (.str nid) base)
  let _ ← field "name" (.str nid) (vName · (base ++ ".name"))
  let _ ← field "purpose" (.str "corporate") (vEnum · (base ++ ".purpose") networkPurposes)
  let _ ← field "zone" (.str "lan") (vEnum · (base ++ ".zone") zones)
  let vlan ← get "vlan"
  let seen ← lift (do claimVlan seen nid base (← vVlan vlan (base ++ ".vlan")))
  let subnet ← get "subnet"
  let seen ← (if subnet.truthy then do
      let iface ← lift (cidrOf subnet (base ++ ".subnet") (some 4))
      let seen ← lift (claimSubnet seen nid base iface)
      within "dhcp" [("enabled", .bool false)] (fun _ => notObject (base ++ ".dhcp"))
        (validateDhcp iface (base ++ ".dhcp"))
      pure seen
    else pure seen)
  let _ ← field "isolation" (.bool false) (vBool · (base ++ ".isolation"))
  let _ ← field "internet_access" (.bool true) (vBool · (base ++ ".internet_access"))
  let _ ← field "wan" (.str "auto") (knownWan cfg · (base ++ ".wan"))
  pure seen

/-- The first error of an entry whose value is no object: its key is checked first. -/
def badEntry (kind key : String) : Exn :=
  match vId (.str key) (kind ++ "." ++ key) with
  | .error e => e
  | .ok _ => notObject (kind ++ "." ++ key)

def validateNetworks (cfg : Obj) : EditM Unit := do
  let networks ← self
  raiseIf networks.isEmpty (.validation "networks" "at least one network is required")
  let _ ← entriesOf (badEntry "networks") (validateNetwork cfg) ⟨[], []⟩

/-- A falsy value counts as no networks; any other non-object has no `items()`. -/
def badNetworks (v : Json) : Exn :=
  if v.truthy then .attribute else .validation "networks" "at least one network is required"

/-! ### WANs -/

/-- `d.get(k, v)` of an entry of a section. -/
def attr (o : Json) (k : String) (v : Json) : Json := o.getD k v

/-- The ports that the other enabled WANs name; each of them is asked for `.get`. -/
def claimedBy : Obj → Except Exn (List Json)
  | [] => .ok []
  | (_, w) :: rest =>
    match w with
    | .obj kvs =>
      if ((Dict.lookup "enabled" kvs).getD (.bool true)).truthy then
        match (Dict.lookup "port" kvs).getD .null with
        | .arr _ | .obj _ => .error .type
        | p => (claimedBy rest).map (p :: ·)
      else claimedBy rest
    | _ => .error .attribute

/-- The enabled ports of role `wan`, sorted by name. -/
def wanRolePorts (ports : Obj) : List String :=
  (Dict.sorted ports).filterMap fun e =>
    if attr e.2 "role" .null = .str "wan" ∧ (attr e.2 "enabled" (.bool true)).truthy then some e.1
    else none

/-- The port an enabled WAN backs on: its own while that port has role `wan`, else the only free
port of that role. -/
def wanPort (ports others : Obj) (used : Dict String String) (wid port : String) :
    Except Exn String := do
  if attr (attr (.obj ports) port .null) "role" .null = .str "wan" then pure port
  else
    let claimed ← claimedBy others
    let free := (wanRolePorts ports).filter fun p =>
      !(used.keys.contains p || claimed.contains (.str p))
    match free with
    | [p] => pure p
    | _ => .error (.validation ("wans." ++ wid ++ ".port")
        ("port " ++ port ++ " must have role 'wan' to back an enabled WAN" ++
          if free.isEmpty then "" else "; WAN-role ports free to use: " ++ join ", " free))

/-- The port of a WAN, checked against the ports and the WANs before it. -/
def claimPort (ports : Obj) (used : Dict String String) (base : String) (port : Json) :
    Except Exn String := do
  if !(← pyIn port (.obj ports)) then
    .error (.validation (base ++ ".port") ("unknown port '" ++ pyStr port ++ "'"))
  else match port with
    | .str p =>
      match used.lookup p with
      | some w => .error (.validation (base ++ ".port")
          ("port " ++ p ++ " already used by WAN '" ++ w ++ "'"))
      | none => pure p
    | _ => .error .type

/-- The `port` of a WAN; answers with the port it ends up on. -/
def settlePort (ports others : Obj) (used : Dict String String) (wid : String) (enabled : Bool) :
    EditM String := do
  let named ← get "port"
  let own ← lift (claimPort ports used ("wans." ++ wid) named)
  let port ← lift (if enabled then wanPort ports others used wid own else pure own)
  when (port ≠ own) do
    warn ("WAN '" ++ wid ++ "' moved from " ++ own ++ " to " ++ port ++ ": " ++ own ++
      " is no longer a WAN port and " ++ port ++ " is")
    put "port" (.str port)
  pure port

/-- One WAN; answers with the port it ends up on. -/
def validateWan (ports others : Obj) (used : Dict String String) (wid : String) : EditM String := do
  let base := "wans." ++ wid
  let _ ← lift (vId (.str wid) base)
  let _ ← field "name" (.str wid) (vName · (base ++ ".name"))
  let mode ← field "mode" (.str "dhcp") (vEnum · (base ++ ".mode") wanModes)
  let enabled ← field "enabled" (.bool true) (vBool · (base ++ ".enabled"))
  let _ ← field "priority" (.int 1) (vInt · (base ++ ".priority") 1 32)
  let _ ← field "weight" (.int 1) (vInt · (base ++ ".weight") 1 256)
  let _ ← field "mtu" (.int 1500) (vInt · (base ++ ".mtu") 576 9216)
  let vlan ← get "vlan"
  let _ ← lift (vVlan vlan (base ++ ".vlan"))
  let port ← settlePort ports others used wid enabled
  when (mode = "static") do
    within "static" [] (fun _ => .attribute) do
      let address ← get "address"
      let _ ← lift (cidrOf address (base ++ ".static.address") (some 4))
      let gateway ← get "gateway"
      let _ ← lift (ipOf gateway (base ++ ".static.gateway") (some 4))
  when (mode = "pppoe") do
    within "pppoe" [] (fun _ => .attribute) do
      let username ← get "username"
      raiseIf (!username.truthy) (.validation (base ++ ".pppoe.username") "required for PPPoE")
      let _ ← field "mru" (.int 1492) (vInt · (base ++ ".pppoe.mru") 576 1500)
  ifSet "mac_clone" (vMac · (base ++ ".mac_clone"))
  within "ipv6" [] (fun _ => .attribute) do
    let _ ← field "mode" (.str "dhcpv6-pd") (vEnum · (base ++ ".ipv6.mode") wanIpv6Modes)
  field "dns" (.arr []) fun xs => eachChecked xs fun i dns => ipOf dns s!"{base}.dns[{i}]" none
  pure port

/-- The loop over the WANs: `done` are the ones already checked. -/
def validateWanList (ports : Obj) : Dict String String → Obj → Obj → List String →
    Except Exn (Obj × List String)
  | _, done, [], w => .ok (done, w)
  | used, done, (wid, wan) :: rest, w =>
    match wan with
    | .obj o =>
      match validateWan ports (done ++ rest) used wid o w with
      | .ok (port, o', w') =>
        validateWanList ports (Dict.set port wid used) (done ++ [(wid, .obj o')]) rest w'
      | .error e => .error e
    | _ => .error (badEntry "wans" wid)

/-- `_warn_unused_wan_ports` -/
def warnUnusedWanPorts (ports wans : Obj) : List String :=
  let used := wans.filterMap fun e =>
    if (attr e.2 "enabled" (.bool true)).truthy then some (attr e.2 "port" .null) else none
  let orphans := (wanRolePorts ports).filter fun p => !used.contains (.str p)
  if orphans.isEmpty then []
  else ["port(s) " ++ join ", " orphans ++ " have role 'wan' but no WAN uses them, so they carry " ++
    "no traffic and are not in the LAN bridge. Point a WAN at one (its 'port' field) or set the " ++
    "role back to 'lan'."]

def validateWans (cfg : Obj) : EditM Unit := fun wans w =>
  let ports := ((Dict.lookup "ports" cfg).getD (.obj [])).entries
  match validateWanList ports [] [] wans w with
  | .ok (wans', w') => .ok ((), wans', w' ++ warnUnusedWanPorts ports wans')
  | .error e => .error e

end Sbegw.Schema
