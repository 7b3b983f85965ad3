import Sbegw.Netd.Kernel

/-!
# Applying the networks

What `NetworkManager.apply` and the end of `WifiDaemon.__call__` do to the links, in the order of the
source.
-/

namespace Sbegw.Netd

open Text Kernel Schema

/-! ### LAN ports -/

/-- `cfgp.get("role") == "lan" and cfgp.get("enabled", True)` -/
def isLan (port : Json) : Bool :=
  port.getD "role" .null = .str "lan" && (port.getD "enabled" (.bool true)).truthy

def lanPorts (cfg : Obj) : Obj := (sectionOf cfg "ports").filter fun e => isLan e.2

/-- `x.get("vlan") or 1`, an integer in a validated document. -/
def vlanOr1 (x : Json) : ℤ :=
  match x.getD "vlan" .null with
  | .int i => if i = 0 then 1 else i
  | _ => 1

/-- `networks.get(ports[port].get("network") or "")` -/
def portNetwork (cfg : Obj) (port : Json) : Json :=
  match port.getD "network" .null with
  | .str s => (Dict.lookup s (sectionOf cfg "networks")).getD .null
  | _ => .null

/-- The VLAN of a LAN port's untagged frames. -/
def portPvid (cfg : Obj) (port : Json) : ℤ := vlanOr1 (portNetwork cfg port)

/-- `ports[port].get("tagged_vlans", [])` -/
def taggedVlans (port : Json) : List Json :=
  match port.getD "tagged_vlans" (.arr []) with
  | .arr vs => vs
  | _ => []

/-- `int(vid)` of what a validated list holds: integers, and `None`, which is no number. -/
def vidOf : Json → Except Exn ℤ
  | .int i => .ok i
  | _ => .error .type

def untaggedMember : Member := ⟨true, true⟩

def taggedMember : Member := ⟨false, false⟩

def addTagged (port : String) : List Json → Kernel → Except Exn Kernel
  | [], k => .ok k
  | v :: vs, k => do
    let vid ← vidOf v
    addTagged port vs (bridgeVlanAdd port vid taggedMember k)

/-- One LAN port, if it is there. -/
def applyLanPort (cfg : Obj) (e : String × Json) (k : Kernel) : Except Exn Kernel :=
  if (Dict.lookup e.1 k).isSome then
    addTagged e.1 (taggedVlans e.2)
      (bridgeVlanAdd e.1 (portPvid cfg e.2) untaggedMember (enslave e.1 bridge k))
  else .ok k

def applyLanPorts (cfg : Obj) : Obj → Kernel → Except Exn Kernel
  | [], k => .ok k
  | e :: es, k => do
    let k ← applyLanPort cfg e k
    applyLanPorts cfg es k

/-! ### The bridge of the uplink -/

/-- The port of a WAN, or its VLAN interface. -/
def wanMember (wan : Json) : String :=
  let port := pyStr (wan.getD "port" .null)
  let vlan := wan.getD "vlan" .null
  if vlan = .null then port else port ++ "." ++ pyStr vlan

/-- `ensure_vlan`: it takes a parent that is there. -/
def ensureVlan (parent name : String) (k : Kernel) : Kernel :=
  if (Dict.lookup parent k).isSome then ensure name k else k

def applyWan (wan : Json) (k : Kernel) : Kernel :=
  let k := if wan.getD "vlan" .null = .null then k
    else ensureVlan (pyStr (wan.getD "port" .null)) (wanMember wan) k
  enslave (wanMember wan) wanBridge k

/-- `rtnl.release` of every link of a bridge. -/
def releaseAll (master : String) (k : Kernel) : Kernel :=
  k.map fun e => (e.1, if e.2.master = some master then { e.2 with master := none, vlans := [] } else e.2)

/-- What that is for one link. -/
def released (master : String) (l : Link) : Link :=
  if l.master = some master then { l with master := none, vlans := [] } else l

theorem lookup_releaseAll (j master : String) (k : Kernel) :
    Dict.lookup j (releaseAll master k) = (Dict.lookup j k).map (released master) :=
  Dict.lookup_map_val (released master) j k

/-- The bridge is made while some SSID is on the uplink, and removed when none is. -/
def applyWanBridge (cfg : Obj) (k : Kernel) : Kernel :=
  if wanBridgeNeeded cfg then
    ((sectionOf cfg "wans").filter fun e => (e.2.getD "enabled" (.bool true)).truthy).foldl
      (fun k e => applyWan e.2 k) (ensure wanBridge k)
  else if (Dict.lookup wanBridge k).isSome then delete wanBridge (releaseAll wanBridge k)
  else k

/-! ### Ports of other roles -/

/-- A WAN port of an access point. -/
def isApPort (port : Json) : Bool :=
  port.getD "role" .null = .str "wan" && (port.getD "enabled" (.bool true)).truthy

def applyApPorts (cfg : Obj) (k : Kernel) : Kernel :=
  if apMode cfg then
    ((sectionOf cfg "ports").filter fun e => isApPort e.2).foldl
      (fun k e => bridgeVlanAdd e.1 1 untaggedMember (enslave e.1 bridge k)) k
  else k

/-- Ports that are no longer in a LAN role leave the bridge. -/
def leaves (cfg : Obj) (port : Json) : Bool :=
  port.getD "role" .null ≠ .str "lan" && !(apMode cfg && port.getD "role" .null = .str "wan")

def releasePorts (cfg : Obj) (k : Kernel) : Kernel :=
  ((sectionOf cfg "ports").filter fun e => leaves cfg e.2).foldl
    (fun k e => if ((Dict.lookup e.1 k).bind Link.master) = some bridge then release e.1 k else k) k

/-! ### The interfaces of the networks -/

/-- `vlan in (None, 1)` -/
def onBridge (net : Json) : Bool :=
  net.getD "vlan" .null = .null || Json.pyEq (net.getD "vlan" .null) (.int 1)

/-- One network. -/
def applyNetwork (net : Json) (k : Kernel) : Kernel :=
  let k := if onBridge net then bridgeVlanAdd bridge 1 untaggedMember k
    else ensureVlan bridge (networkInterface net) (bridgeVlanAdd bridge (vlanOr1 net) taggedMember k)
  let subnet := net.getD "subnet" .null
  if subnet.truthy then syncAddresses (networkInterface net) [pyStr subnet] k else k

/-- The VLAN interfaces of the networks. -/
def wantedVlanIfaces (networks : Obj) : List String :=
  (networks.filter fun e => !onBridge e.2).map fun e => networkInterface e.2

/-- VLAN interfaces of networks that are gone are deleted. -/
def deleteStale (networks : Obj) (k : Kernel) : Kernel :=
  k.filter fun e => !(startsWith (bridge ++ ".") e.1 && !(wantedVlanIfaces networks).contains e.1)

def applyNetworks (networks : Obj) (k : Kernel) : Kernel :=
  deleteStale networks (networks.foldl (fun k e => applyNetwork e.2 k) k)

/-- `NetworkManager.apply` -/
def apply (cfg : Obj) (k : Kernel) : Except Exn Kernel := do
  let k ← applyLanPorts cfg (lanPorts cfg) (ensure bridge k)
  let k := applyWanBridge cfg k
  let k := applyApPorts cfg k
  let k := releasePorts cfg k
  pure (applyNetworks (sectionOf cfg "networks") k)

/-! ### BSSes -/

/-- What `_post_apply` reads of a BSS of the plan. -/
structure PlannedBss where
  /-- `bss.get("netdev") or iface` -/
  netdev : String
  bridge : String
  vlan : Json

/-- `bss.get("vlan") or 1` -/
def PlannedBss.pvid (bss : PlannedBss) : ℤ :=
  match bss.vlan with
  | .int i => if i = 0 then 1 else i
  | _ => 1

def applyBss (bss : PlannedBss) (k : Kernel) : Kernel :=
  let k := enslave bss.netdev bss.bridge k
  if bss.bridge = bridge then bridgeVlanAdd bss.netdev bss.pvid untaggedMember k else k

/-- `WifiDaemon._post_apply` -/
def postApply (bsses : List PlannedBss) (k : Kernel) : Kernel := bsses.foldl (fun k b => applyBss b k) k

end Sbegw.Netd
