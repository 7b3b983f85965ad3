import Sbegw.Nft.Rule

/-!
# Interfaces and zones

The interfaces that networks and WANs are known under, and the zones they are put in.  The documents
are validated: sections and their entries are objects.
-/

namespace Sbegw.Netd

open Text Nft Schema

/-- `BRIDGE` -/
def bridge : String := "br-lan"

/-- `WAN_BRIDGE` -/
def wanBridge : String := "br-wan"

/-- What the kernel reports of its links. -/
structure Links where
  /-- the names in `rtnl.links()` -/
  names : List String
  /-- `rtnl.link(name)` is there -/
  present : String → Bool

/-- The entries of a section. -/
def sectionOf (cfg : Obj) (name : String) : Obj := ((Dict.lookup name cfg).getD (.obj [])).entries

/-- `NetworkManager.interface_for` -/
def networkInterface (net : Json) : String :=
  let vlan := net.getD "vlan" .null
  if vlan = .null ∨ Json.pyEq vlan (.int 1) = true then bridge else bridge ++ "." ++ pyStr vlan

/-- `ap_mode` -/
def apMode (cfg : Obj) : Bool := ((Dict.lookup "system" cfg).getD (.obj [])).getD "mode" .null = .str "ap"

/-- `wan_bridged_ssids` -/
def wanBridgedSsids (cfg : Obj) : List String :=
  let networks := (((Dict.lookup "wifi" cfg).getD (.obj [])).getD "networks" (.obj [])).entries
  (networks.filter fun e =>
    (e.2.getD "enabled" (.bool true)).truthy && e.2.getD "uplink" .null = .str "wan").map Prod.fst

/-- `wan_bridge_needed` -/
def wanBridgeNeeded (cfg : Obj) : Bool := !(wanBridgedSsids cfg).isEmpty && !apMode cfg

/-- `WanManager.interface_for` -/
def wanInterface (wan : Json) (cfg : Obj) : String :=
  let port := pyStr (wan.getD "port" (.str "eth3"))
  let vlan := wan.getD "vlan" .null
  let iface := if vlan = .null then port else port ++ "." ++ pyStr vlan
  if wanBridgeNeeded cfg then wanBridge else iface

/-- `WanManager.interfaces` -/
def wanInterfaces (cfg : Obj) : Dict String String :=
  ((sectionOf cfg "wans").filter fun e => (e.2.getD "enabled" (.bool true)).truthy).map
    fun e => (e.1, wanInterface e.2 cfg)

/-- The zones that are there whether or not anything is in them. -/
def baseZones : ZoneMap :=
  ["wan", "lan", "guest", "iot", "dmz", "management", "vpn", "gateway", "containers"].map fun z => (z, [])

/-- `zones.setdefault(zone, []).append(iface)` -/
def addTo (zones : ZoneMap) (zone iface : String) : ZoneMap :=
  Dict.set zone ((Dict.lookup zone zones).getD [] ++ [quoted iface]) zones

/-- A bridge of the container runtime. -/
def isContainerBridge (name : String) : Bool :=
  name == "docker0" || (startsWith "br-" name && name != bridge && name.length == 15)

/-- What `zone_interfaces` puts where, in order: the networks, the WANs, the WireGuard links and the
bridges of the container runtime. -/
def placements (cfg : Obj) (wanIfaces : Dict String String) (links : Links) : List (String × String) :=
  ((sectionOf cfg "networks").map fun e => (pyStr (e.2.getD "zone" (.str "lan")), networkInterface e.2)) ++
    (wanIfaces.map fun e => ("wan", e.2)) ++
    (["wg0", "wg1"].filter links.present).map (fun name => ("vpn", name)) ++
    (links.names.filter isContainerBridge).map fun name => ("containers", name)

/-- `NetworkManager.zone_interfaces` -/
def zoneInterfaces (cfg : Obj) (wanIfaces : Dict String String) (links : Links) : ZoneMap :=
  (placements cfg wanIfaces links).foldl (fun zones e => addTo zones e.1 e.2) baseZones

/-- `wan_ifaces` in `NetDaemon.apply_firewall` -/
def firewallWans (cfg : Obj) : Dict String String := if apMode cfg then [] else wanInterfaces cfg

/-! ### Who is in a zone -/

theorem inZone_addTo (zones : ZoneMap) (zone iface z i : String) :
    InZone (addTo zones zone iface) z i ↔ InZone zones z i ∨ z = zone ∧ i = iface := by
  unfold InZone addTo
  rw [Dict.lookup_set]
  by_cases hz : z = zone
  · subst hz
    simp [quoted_inj]
  · simp [hz]

theorem inZone_foldl (ps : List (String × String)) (zones : ZoneMap) (z i : String) :
    InZone (ps.foldl (fun zones e => addTo zones e.1 e.2) zones) z i ↔
      InZone zones z i ∨ (z, i) ∈ ps := by
  induction ps generalizing zones with
  | nil => simp
  | cons e ps ih =>
    rw [List.foldl_cons, ih, inZone_addTo, List.mem_cons, or_assoc, Prod.ext_iff]

theorem not_inZone_baseZones (z i : String) : ¬ InZone baseZones z i := by
  have hempty : ∀ names : List String,
      (Dict.lookup z (names.map fun name => (name, ([] : List String)))).getD [] = [] := by
    intro names
    induction names with
    | nil => rfl
    | cons name names ih =>
      rw [List.map_cons, Dict.lookup_cons]
      split
      · rfl
      · exact ih
  unfold InZone baseZones
  rw [hempty]
  exact List.not_mem_nil

/-- **Zone membership**: an interface is in a zone when it has been put there. -/
theorem inZone_zoneInterfaces {cfg : Obj} {wanIfaces : Dict String String} {links : Links}
    {z i : String} : InZone (zoneInterfaces cfg wanIfaces links) z i ↔
      (z, i) ∈ placements cfg wanIfaces links := by
  unfold zoneInterfaces
  rw [inZone_foldl]
  exact or_iff_right (not_inZone_baseZones z i)

theorem isSome_addTo {zones : ZoneMap} {z : String} (h : (Dict.lookup z zones).isSome = true)
    (zone iface : String) : (Dict.lookup z (addTo zones zone iface)).isSome = true := by
  unfold addTo
  rw [Dict.lookup_set]
  split
  · rfl
  · exact h

/-- Every zone of the vocabulary is in the map. -/
theorem isSome_zoneInterfaces {z : String} (hz : z ∈ zones) (cfg : Obj)
    (wanIfaces : Dict String String) (links : Links) :
    (Dict.lookup z (zoneInterfaces cfg wanIfaces links)).isSome = true := by
  have hfold : ∀ (ps : List (String × String)) (zones : ZoneMap), (Dict.lookup z zones).isSome = true →
      (Dict.lookup z (ps.foldl (fun zones e => addTo zones e.1 e.2) zones)).isSome = true := by
    intro ps
    induction ps with
    | nil => exact fun _ h => h
    | cons e ps ih => exact fun zones h => ih _ (isSome_addTo h e.1 e.2)
  have hbase : ∀ z ∈ zones, (Dict.lookup z baseZones).isSome = true := by decide
  exact hfold _ _ (hbase z hz)

end Sbegw.Netd
