import Mathlib.Data.List.Dedup
import Mathlib.Data.List.Pairwise
import Sbegw.Json.Equal
import Sbegw.Schema.Subnets
import Sbegw.Netd.Bridged

/-!
# Changes that ask for no confirmation

`_is_risky` compares six sections.  Where they are equal, the bridges, the addresses, the WANs and what the
firewall makes of the zones depend on what the sections leave out: the mode of the device, the SSIDs that are
bridged to the LAN and to the WAN, and the order of networks that share an interface.
-/

namespace Sbegw.Netd

open Text Nft Schema EditM

/-! ### What asks for a confirmation -/

/-- The sections that `_is_risky` compares. -/
def riskySections : List String := ["ports", "networks", "firewall", "wans", "dns", "qos"]

/-- `NetDaemon._is_risky` -/
def isRisky (old new : Obj) : Bool :=
  riskySections.any fun key => !Json.pyEq ((Dict.lookup key old).getD .null) ((Dict.lookup key new).getD .null)

/-! ### Zone sets and the input chain -/

/-- `sorted(set(xs))` -/
def sortedSet (xs : List String) : List String := xs.dedup.insertionSort (· ≤ ·)

/-- The set of a zone. -/
def zoneSetLines (e : String × List String) : List String :=
  ["    set zone_" ++ e.1 ++ " \x7b", "        type ifname"] ++
    (if e.2.isEmpty then [] else ["        elements = " ++ quoteSet (sortedSet e.2)]) ++ ["    \x7d"]

def renderZoneSets (zones : ZoneMap) : List String := (Dict.sorted zones).flatMap zoneSetLines

/-- `fw.get("default_policies", {})` -/
def defaultPolicies (cfg : Obj) : Json := (Json.obj (sectionOf cfg "firewall")).getD "default_policies" (.obj [])

/-- `VERDICTS.get(policies.get(f"{zone}->gateway", "reject"), "reject")` -/
def inputAction (policies : Json) (zone : String) : String :=
  let action := policies.getD (zone ++ "->gateway") (.str "reject")
  if action = .str "allow" then "accept" else if action = .str "drop" then "drop" else "reject"

/-- The lines of a zone: what is allowed to the gateway reaches all of it, the others get DNS and DHCP. -/
def inputLines (policies : Json) (zone : String) : List String :=
  let action := inputAction policies zone
  if zone = "wan" ∨ zone = "gateway" then []
  else if action = "accept" then
    ["        iifname @zone_" ++ zone ++ " counter accept comment \"" ++ zone ++ "->gateway: all ports\""]
  else
    ["        iifname @zone_" ++ zone ++ " udp dport \x7b 53, 67 \x7d counter accept comment \"dns/dhcp only\"",
      "        iifname @zone_" ++ zone ++ " tcp dport 53 counter accept",
      "        iifname @zone_" ++ zone ++ " counter " ++ action]

def inputHead : List String :=
  ["    chain input \x7b",
    "        type filter hook input priority 0; policy drop;",
    "        iif lo accept",
    "        ct state established,related accept",
    "        ct state invalid counter drop",
    "        icmp type \x7b echo-request, destination-unreachable, time-exceeded, parameter-problem \x7d " ++
      "limit rate 20/second accept",
    "        icmpv6 type \x7b echo-request, destination-unreachable, packet-too-big, time-exceeded, " ++
      "parameter-problem, nd-router-solicit, nd-router-advert, nd-neighbor-solicit, nd-neighbor-advert, " ++
      "mld-listener-query, mld-listener-report, mld2-listener-report \x7d accept",
    "        udp dport 546 accept"]

def inputTail : List String :=
  ["        iifname @zone_wan counter drop comment \"wan to gateway\"", "        counter drop", "    \x7d"]

/-- `_render_input_chain` -/
def renderInputChain (cfg : Obj) (zones : ZoneMap) : List String :=
  inputHead ++ (Dict.sorted zones).flatMap (fun e => inputLines (defaultPolicies cfg) e.1) ++ inputTail

/-! ### The management plane -/

/-- An accepted document.  No section has a key twice. -/
structure Settings where
  cfg : Obj
  accepted : ∃ caps raw ws, validate caps raw = .ok (cfg, ws)
  keysNodup : ∀ e ∈ cfg, (Dict.keys e.2.entries).Nodup

/-- The SSIDs whose BSSes are in the LAN bridge. -/
def lanBridgedSsids (cfg : Obj) : List String :=
  let networks := (((Dict.lookup "wifi" cfg).getD (.obj [])).getD "networks" (.obj [])).entries
  (networks.filter fun e =>
    (e.2.getD "enabled" (.bool true)).truthy && !decide (e.2.getD "uplink" .null = .str "wan")).map Prod.fst

/-- The bridge of an access point asks upstream for one more address. -/
def AsksUpstream (cfg : Obj) (iface : String) : Prop := apMode cfg = true ∧ iface = bridge

/-- The zones, as the ruleset is rendered with them. -/
def zonesOf (cfg : Obj) (links : Links) : ZoneMap := zoneInterfaces cfg (firewallWans cfg) links

/-- **The same management plane**: the ports and SSIDs of both bridges, the addresses of the networks'
interfaces, the interfaces of the WANs, and what the ruleset says of packets for the gateway. -/
structure SamePlane (links : Links) (old new : Obj) : Prop where
  lan : ∀ port, OnLan new port ↔ OnLan old port
  wan : ∀ member, OnWan new member ↔ OnWan old member
  lanSsids : ∀ ssid, ssid ∈ lanBridgedSsids new ↔ ssid ∈ lanBridgedSsids old
  wanSsids : ∀ ssid, ssid ∈ wanBridgedSsids new ↔ ssid ∈ wanBridgedSsids old
  subnets : ∀ iface, interfaceSubnet new iface = interfaceSubnet old iface
  leases : ∀ iface, AsksUpstream new iface ↔ AsksUpstream old iface
  wans : ∀ e, e ∈ firewallWans new ↔ e ∈ firewallWans old
  sets : renderZoneSets (zonesOf new links) = renderZoneSets (zonesOf old links)
  input : renderInputChain new (zonesOf new links) = renderInputChain old (zonesOf old links)

/-- The network that is applied last to an interface. -/
def lastNetwork (cfg : Obj) (iface : String) : Option String := (networksOn cfg iface).getLast?.map Prod.fst

/-- The same mode, the same SSIDs on the LAN and on the WAN, and the same network last on each interface. -/
structure SameBeyond (old new : Obj) : Prop where
  mode : apMode new = apMode old
  lanSsids : ∀ ssid, ssid ∈ lanBridgedSsids new ↔ ssid ∈ lanBridgedSsids old
  wanSsids : ∀ ssid, ssid ∈ wanBridgedSsids new ↔ ssid ∈ wanBridgedSsids old
  last : ∀ iface, lastNetwork new iface = lastNetwork old iface

/-! ### What equal sections say -/

theorem vlan_of_pyEq {x y : Option Json} (hx : IsVlan x) (hy : IsVlan y)
    (h : Json.pyEq (x.getD .null) (y.getD .null) = true) : x.getD .null = y.getD .null := by
  rcases hx with hx | ⟨i, rfl, -, -⟩
  · rw [hx, (Json.null_of_pyEq h).mp hx]
  · rcases hy with hy | ⟨j, rfl, -, -⟩
    · rw [hy, (Json.null_of_pyEq h).mpr hy]
    · rw [Json.int_of_pyEq h]

theorem isLan_of_pyEq {x y : Json} (h : Json.pyEq x y = true) : isLan x = isLan y := by
  have hrole := Json.str_of_pyEq (s := "lan") (Json.getD_of_pyEq h "role" (d := .null) rfl)
  unfold isLan
  rw [Json.truthy_of_pyEq (Json.getD_of_pyEq h "enabled" (d := .bool true) rfl), decide_eq_decide.mpr hrole]

theorem isApPort_of_pyEq {x y : Json} (h : Json.pyEq x y = true) : isApPort x = isApPort y := by
  have hrole := Json.str_of_pyEq (s := "wan") (Json.getD_of_pyEq h "role" (d := .null) rfl)
  unfold isApPort
  rw [Json.truthy_of_pyEq (Json.getD_of_pyEq h "enabled" (d := .bool true) rfl), decide_eq_decide.mpr hrole]

section Alike

variable {old new : Settings}

theorem Settings.nodup (s : Settings) (name : String) : (Dict.keys (sectionOf s.cfg name)).Nodup := by
  unfold sectionOf
  cases hl : Dict.lookup name s.cfg with
  | none => exact List.nodup_nil
  | some x => exact s.keysNodup (name, x) (Dict.mem_of_lookup hl)

/-- The entries of a section that is compared are equal. -/
theorem alike_section (h : isRisky old.cfg new.cfg = false) (key : String) (hkey : key ∈ riskySections) :
    Json.pyEq ((Dict.lookup key old.cfg).getD .null) ((Dict.lookup key new.cfg).getD .null) = true ∧
      Json.Alike (sectionOf old.cfg key) (sectionOf new.cfg key) := by
  have heq := List.any_eq_false.mp h key hkey
  rw [Bool.not_eq_true, Bool.not_eq_false'] at heq
  have hentries : ∀ cfg : Obj, ((Dict.lookup key cfg).getD .null).entries = sectionOf cfg key := by
    intro cfg
    unfold sectionOf
    cases Dict.lookup key cfg <;> rfl
  refine ⟨heq, ?_⟩
  rw [← hentries, ← hentries]
  refine Json.alike_of_pyEq heq ?_ ?_
  · rw [hentries]
    exact old.nodup key
  · rw [hentries]
    exact new.nodup key

/-- The networks of an accepted document. -/
theorem Settings.network (s : Settings) {e : String × Json} (he : e ∈ sectionOf s.cfg "networks") :
    IsVlan (e.2.get? "vlan") ∧ OneOf zones (e.2.get? "zone") := by
  obtain ⟨caps, raw, ws, hvalid⟩ := s.accepted
  obtain ⟨networks, hl, hall⟩ := (accepted_of_validate hvalid).networks
  have hnetworks : sectionOf s.cfg "networks" = networks := by
    unfold sectionOf
    rw [hl]
    rfl
  rw [hnetworks] at he
  obtain ⟨-, o, ho, hfacts⟩ := hall e he
  rw [ho]
  exact ⟨hfacts.get (by simp [networkFacts]), hfacts.get (by simp [networkFacts])⟩

/-- Their subnets. -/
theorem Settings.subnets (s : Settings) : (∀ e ∈ sectionOf s.cfg "networks",
      (e.2.getD "subnet" .null).truthy = true → ∃ t, e.2.getD "subnet" .null = .str t ∧
        (Ip.ipInterface t).isSome = true) ∧
    (sectionOf s.cfg "networks").Pairwise fun a b => ∀ i, namedSubnet a.2 = some i → namedSubnet b.2 ≠ some i := by
  obtain ⟨caps, raw, ws, hvalid⟩ := s.accepted
  obtain ⟨networks, hl, htext, hpair⟩ := subnets_of_validate hvalid
  have hnetworks : sectionOf s.cfg "networks" = networks := by
    unfold sectionOf
    rw [hl]
    rfl
  rw [hnetworks]
  exact ⟨htext, hpair⟩

/-- The WANs of an accepted document. -/
theorem Settings.wan (s : Settings) {e : String × Json} (he : e ∈ sectionOf s.cfg "wans") :
    IsVlan (e.2.get? "vlan") ∧ IsStr (e.2.get? "port") := by
  obtain ⟨caps, raw, ws, hvalid⟩ := s.accepted
  obtain ⟨wans, hl, hall, -⟩ := (accepted_of_validate hvalid).wans
  have hwans : sectionOf s.cfg "wans" = wans := by
    unfold sectionOf
    rw [hl]
    rfl
  rw [hwans] at he
  obtain ⟨o, ho, hfacts⟩ := hall e he
  constructor
  · rw [ho]
    exact hfacts.get (by simp [wanFacts])
  · rw [ho]
    exact hfacts.get (by simp [wanFacts])

/-- Equal networks have the same interface, zone and subnet. -/
theorem network_of_pyEq {e e' : String × Json} (he : e ∈ sectionOf old.cfg "networks")
    (he' : e' ∈ sectionOf new.cfg "networks") (h : Json.pyEq e.2 e'.2 = true) :
    networkInterface e.2 = networkInterface e'.2 ∧
      pyStr (e.2.getD "zone" (.str "lan")) = pyStr (e'.2.getD "zone" (.str "lan")) ∧
      (e.2.getD "subnet" .null).truthy = (e'.2.getD "subnet" .null).truthy ∧
      ((e.2.getD "subnet" .null).truthy = true → e.2.getD "subnet" .null = e'.2.getD "subnet" .null) := by
  obtain ⟨hvlan, zone, -, hzone⟩ := old.network he
  obtain ⟨hvlan', -⟩ := new.network he'
  refine ⟨?_, ?_, Json.truthy_of_pyEq (Json.getD_of_pyEq h "subnet" rfl), fun ht => ?_⟩
  · unfold networkInterface
    have hsame : e.2.getD "vlan" .null = e'.2.getD "vlan" .null :=
      vlan_of_pyEq hvlan hvlan' (Json.getD_of_pyEq h "vlan" (d := .null) rfl)
    rw [hsame]
  · have hz : e.2.getD "zone" (.str "lan") = .str zone := by
      unfold Json.getD
      rw [hzone]
      rfl
    rw [hz, (Json.str_of_pyEq (Json.getD_of_pyEq h "zone" (d := .str "lan") (by decide))).mp hz]
  · obtain ⟨t, hs, -⟩ := old.subnets.1 e he ht
    rw [hs, (Json.str_of_pyEq (Json.getD_of_pyEq h "subnet" (d := .null) rfl)).mp hs]

/-- Equal WANs have the same port and VLAN. -/
theorem wan_of_pyEq {e e' : String × Json} (he : e ∈ sectionOf old.cfg "wans")
    (he' : e' ∈ sectionOf new.cfg "wans") (h : Json.pyEq e.2 e'.2 = true) :
    (e.2.getD "enabled" (.bool true)).truthy = (e'.2.getD "enabled" (.bool true)).truthy ∧
      e.2.getD "vlan" .null = e'.2.getD "vlan" .null ∧ ∀ d, e.2.getD "port" d = e'.2.getD "port" d := by
  obtain ⟨hvlan, port, hport⟩ := old.wan he
  obtain ⟨hvlan', -⟩ := new.wan he'
  refine ⟨Json.truthy_of_pyEq (Json.getD_of_pyEq h "enabled" rfl),
    vlan_of_pyEq hvlan hvlan' (Json.getD_of_pyEq h "vlan" (d := .null) rfl), fun d => ?_⟩
  have hp : e.2.getD "port" .null = .str port := by
    unfold Json.getD
    rw [hport]
    rfl
  have hp' := (Json.str_of_pyEq (Json.getD_of_pyEq h "port" (d := .null) rfl)).mp hp
  have hport' : e'.2.get? "port" = some (.str port) := by
    unfold Json.getD at hp'
    cases hget : e'.2.get? "port" with
    | none => rw [hget] at hp'; cases hp'
    | some v => rw [hget] at hp'; exact congrArg some hp'
  unfold Json.getD
  rw [hport, hport']

end Alike

/-! ### Zones -/

theorem flatMap_congr_forall₂ {α β γ : Type} {R : α → β → Prop} {f : α → List γ} {g : β → List γ}
    (hfg : ∀ a b, R a b → f a = g b) {l : List α} {l' : List β} (h : List.Forall₂ R l l') :
    l.flatMap f = l'.flatMap g := by
  induction h with
  | nil => rfl
  | cons hab _ ih => rw [List.flatMap_cons, List.flatMap_cons, hfg _ _ hab, ih]

theorem sortedSet_congr {xs ys : List String} (h : ∀ x, x ∈ xs ↔ x ∈ ys) : sortedSet xs = sortedSet ys := by
  have hperm : xs.dedup.Perm ys.dedup :=
    (List.perm_ext_iff_of_nodup (List.nodup_dedup xs) (List.nodup_dedup ys)).mpr fun x => by
      rw [List.mem_dedup, List.mem_dedup, h]
  unfold sortedSet
  refine List.Perm.eq_of_pairwise' (List.pairwise_insertionSort _ _) (List.pairwise_insertionSort _ _) ?_
  exact (List.perm_insertionSort _ _).trans (hperm.trans (List.perm_insertionSort _ _).symm)

theorem isEmpty_congr {α : Type} {xs ys : List α} (h : ∀ x, x ∈ xs ↔ x ∈ ys) : xs.isEmpty = ys.isEmpty := by
  cases xs with
  | nil =>
    cases ys with
    | nil => rfl
    | cons y ys => exact absurd ((h y).mpr List.mem_cons_self) List.not_mem_nil
  | cons x xs =>
    cases ys with
    | nil => exact absurd ((h x).mp List.mem_cons_self) List.not_mem_nil
    | cons y ys => rfl

theorem keys_addTo {zones : ZoneMap} {zone : String} (h : zone ∈ Dict.keys zones) (iface : String) :
    Dict.keys (addTo zones zone iface) = Dict.keys zones :=
  Dict.keys_set_of_mem _ h

/-- Placing keeps to the zones that are there. -/
theorem keys_placed {ps : List (String × String)} {zones : ZoneMap} (h : ∀ e ∈ ps, e.1 ∈ Dict.keys zones) :
    Dict.keys (ps.foldl (fun zones e => addTo zones e.1 e.2) zones) = Dict.keys zones := by
  induction ps generalizing zones with
  | nil => rfl
  | cons e ps ih =>
    have hkeys : Dict.keys (addTo zones e.1 e.2) = Dict.keys zones := keys_addTo (h e List.mem_cons_self) e.2
    rw [List.foldl_cons, ih fun f hf => hkeys ▸ h f (List.mem_cons_of_mem e hf), hkeys]

theorem keys_zonesOf (s : Settings) (links : Links) : Dict.keys (zonesOf s.cfg links) = Dict.keys baseZones := by
  refine keys_placed fun e he => ?_
  have hbase : ∀ z ∈ Schema.zones, z ∈ Dict.keys baseZones := by decide
  refine hbase e.1 ?_
  unfold placements at he
  simp only [List.mem_append, List.mem_map] at he
  rcases he with ((⟨n, hn, rfl⟩ | ⟨w, -, rfl⟩) | ⟨n, -, rfl⟩) | ⟨n, -, rfl⟩
  · obtain ⟨-, zone, hzone, hlookup⟩ := s.network hn
    have hz : n.2.getD "zone" (.str "lan") = .str zone := by
      unfold Json.getD
      rw [hlookup]
      rfl
    rw [hz]
    exact hzone
  · simp [Schema.zones]
  · simp [Schema.zones]
  · simp [Schema.zones]

/-- What a zone holds: the interfaces that are placed in it, in quotes. -/
theorem mem_placed {z x : String} {ps : List (String × String)} {zones : ZoneMap} :
    x ∈ (Dict.lookup z (ps.foldl (fun zones e => addTo zones e.1 e.2) zones)).getD [] ↔
      x ∈ (Dict.lookup z zones).getD [] ∨ ∃ e ∈ ps, e.1 = z ∧ quoted e.2 = x := by
  induction ps generalizing zones with
  | nil => simp
  | cons e ps ih =>
    rw [List.foldl_cons, ih]
    unfold addTo
    rw [Dict.lookup_set]
    by_cases hz : z = e.1
    · subst hz
      simp [or_assoc, eq_comm]
    · simp [hz, Ne.symm hz]

theorem mem_zonesOf {cfg : Obj} {links : Links} {z x : String} :
    x ∈ (Dict.lookup z (zonesOf cfg links)).getD [] ↔
      x ∈ (Dict.lookup z baseZones).getD [] ∨
        ∃ e ∈ placements cfg (firewallWans cfg) links, e.1 = z ∧ quoted e.2 = x := mem_placed

/-- Zone maps of the same zones with the same interfaces are rendered to the same sets. -/
theorem renderZoneSets_congr {zones zones' : ZoneMap} (hkeys : Dict.keys zones = Dict.keys zones')
    (hnodup : (Dict.keys zones).Nodup)
    (h : ∀ z x, x ∈ (Dict.lookup z zones).getD [] ↔ x ∈ (Dict.lookup z zones').getD []) :
    renderZoneSets zones = renderZoneSets zones' := by
  have hpar := Dict.forall₂_of_keys (R := fun xs ys : List String => ∀ x, x ∈ xs ↔ x ∈ ys) hkeys hnodup
    fun z xs ys hxs hys x => by
      have hx := h z x
      rwa [hxs, hys] at hx
  refine flatMap_congr_forall₂ (fun a b hab => ?_)
    (Dict.forall₂_sorted (fun xs ys : List String => ∀ x, x ∈ xs ↔ x ∈ ys) hpar)
  obtain ⟨hname, hmem⟩ := hab
  unfold zoneSetLines
  rw [hname, isEmpty_congr hmem, sortedSet_congr hmem]

/-! ### Exactly when -/

section Exactly

variable {old new : Settings}

theorem apMode_iff_asks (cfg : Obj) : apMode cfg = true ↔ AsksUpstream cfg bridge := (and_iff_left rfl).symm

theorem mem_networksOn {cfg : Obj} {iface : String} {e : String × Json} (h : (networksOn cfg iface).getLast? = some e) :
    e ∈ sectionOf cfg "networks" ∧ (e.2.getD "subnet" .null).truthy = true := by
  have hmem := List.mem_filter.mp (List.mem_of_mem_getLast? h)
  have hon := hmem.2
  unfold addresses at hon
  exact ⟨hmem.1, (Bool.and_eq_true_iff.mp hon).1⟩

/-- Two networks of a document with one subnet are one. -/
theorem Settings.subnet_inj (s : Settings) {e f : String × Json} (he : e ∈ sectionOf s.cfg "networks")
    (hf : f ∈ sectionOf s.cfg "networks") (ht : (e.2.getD "subnet" .null).truthy = true)
    (h : f.2.getD "subnet" .null = e.2.getD "subnet" .null) : e = f := by
  obtain ⟨htext, hpair⟩ := s.subnets
  obtain ⟨t, hs, hparse⟩ := htext e he ht
  obtain ⟨i, hi⟩ := Option.isSome_iff_exists.mp hparse
  have hempty : t ≠ "" := by
    rintro rfl
    rw [hs] at ht
    cases ht
  have hnamed : ∀ net : Json, net.getD "subnet" .null = .str t → namedSubnet net = some i := by
    intro net hnet
    unfold namedSubnet
    rw [hnet]
    exact (if_neg hempty).trans hi
  have hsymm : Std.Symm fun a b : String × Json => ∀ i, namedSubnet a.2 = some i → namedSubnet b.2 ≠ some i :=
    ⟨fun a b hab i hb ha => hab i ha hb⟩
  by_contra hne
  exact hpair.forall he hf hne i (hnamed e.2 hs) (hnamed f.2 (h.trans hs))

/-- The last networks of an interface are the same exactly when their subnets are. -/
theorem lastNetwork_iff (hrisk : isRisky old.cfg new.cfg = false) (iface : String) :
    lastNetwork new.cfg iface = lastNetwork old.cfg iface ↔
      interfaceSubnet new.cfg iface = interfaceSubnet old.cfg iface := by
  unfold lastNetwork interfaceSubnet
  cases hold : (networksOn old.cfg iface).getLast? with
  | none => simp
  | some e =>
    cases hnew : (networksOn new.cfg iface).getLast? with
    | none => simp
    | some f =>
      obtain ⟨he, ht⟩ := mem_networksOn hold
      obtain ⟨hf, hft⟩ := mem_networksOn hnew
      obtain ⟨e', he', hkey, heq⟩ := (alike_section hrisk "networks" (by decide)).2.left e he
      obtain ⟨-, -, htruthy, hsubnet⟩ := network_of_pyEq he he' heq
      obtain ⟨s, hs, -⟩ := old.subnets.1 e he ht
      obtain ⟨t, hft', -⟩ := new.subnets.1 f hf hft
      rw [Option.map_some, Option.map_some, Option.map_some, Option.map_some, Option.some.injEq, Option.some.injEq]
      constructor
      · intro hid
        rw [hsubnet ht, List.inj_on_of_nodup_map (new.nodup "networks") hf he' (hid.trans hkey.symm)]
      · intro htexts
        rw [hft', hs] at htexts
        have hsame : f.2.getD "subnet" .null = e'.2.getD "subnet" .null := by
          rw [← hsubnet ht, hft', hs]
          exact congrArg Json.str htexts
        rw [← new.subnet_inj he' hf (htruthy ▸ ht) hsame, hkey]

theorem wanBridgeNeeded_congr (h : SameBeyond old.cfg new.cfg) :
    wanBridgeNeeded new.cfg = wanBridgeNeeded old.cfg := by
  unfold wanBridgeNeeded
  rw [h.mode, isEmpty_congr h.wanSsids]

theorem mem_firewallWans_congr (hrisk : isRisky old.cfg new.cfg = false) (h : SameBeyond old.cfg new.cfg)
    (e : String × String) : e ∈ firewallWans new.cfg ↔ e ∈ firewallWans old.cfg := by
  unfold firewallWans
  rw [h.mode]
  split
  · rfl
  · have hmem : ∀ cfg, e ∈ wanInterfaces cfg ↔ ∃ w ∈ sectionOf cfg "wans",
        (w.2.getD "enabled" (.bool true)).truthy = true ∧ (w.1, wanInterface w.2 cfg) = e := by
      intro cfg
      unfold wanInterfaces
      simp only [List.mem_map, List.mem_filter, and_assoc]
    rw [hmem, hmem]
    refine ((alike_section hrisk "wans" (by decide)).2.exists_iff fun w hw w' hw' hkey heq => ?_).symm
    obtain ⟨hon, hvlan, hport⟩ := wan_of_pyEq hw hw' heq
    have hiface : wanInterface w.2 old.cfg = wanInterface w'.2 new.cfg := by
      unfold wanInterface
      rw [hvlan, hport, wanBridgeNeeded_congr h]
    rw [hon, hkey, hiface]

theorem mem_placements_congr (hrisk : isRisky old.cfg new.cfg = false) (h : SameBeyond old.cfg new.cfg)
    (links : Links) (p : String × String) : p ∈ placements new.cfg (firewallWans new.cfg) links ↔
      p ∈ placements old.cfg (firewallWans old.cfg) links := by
  unfold placements
  simp only [List.mem_append, List.mem_map]
  have hnetworks : (∃ n ∈ sectionOf new.cfg "networks",
      (pyStr (n.2.getD "zone" (.str "lan")), networkInterface n.2) = p) ↔
      ∃ n ∈ sectionOf old.cfg "networks", (pyStr (n.2.getD "zone" (.str "lan")), networkInterface n.2) = p := by
    refine ((alike_section hrisk "networks" (by decide)).2.exists_iff fun n hn n' hn' _ heq => ?_).symm
    obtain ⟨hiface, hzone, -, -⟩ := network_of_pyEq hn hn' heq
    rw [hiface, hzone]
  have hwans : (∃ e ∈ firewallWans new.cfg, ("wan", e.2) = p) ↔ ∃ e ∈ firewallWans old.cfg, ("wan", e.2) = p :=
    exists_congr fun e => and_congr_left fun _ => mem_firewallWans_congr hrisk h e
  rw [hnetworks, hwans]

theorem inputAction_congr (hrisk : isRisky old.cfg new.cfg = false) (zone : String) :
    inputAction (defaultPolicies new.cfg) zone = inputAction (defaultPolicies old.cfg) zone := by
  have hfw : Json.pyEq (.obj (sectionOf old.cfg "firewall")) (.obj (sectionOf new.cfg "firewall")) = true := by
    rw [Json.pyEq_obj_iff]
    intro k
    have hk := Json.entries_of_pyEq (alike_section hrisk "firewall" (by decide)).1 k
    have hentries : ∀ cfg : Obj, ((Dict.lookup "firewall" cfg).getD .null).entries = sectionOf cfg "firewall" := by
      intro cfg
      unfold sectionOf
      cases Dict.lookup "firewall" cfg <;> rfl
    rwa [hentries, hentries] at hk
  have haction : Json.pyEq ((defaultPolicies old.cfg).getD (zone ++ "->gateway") (.str "reject"))
      ((defaultPolicies new.cfg).getD (zone ++ "->gateway") (.str "reject")) = true :=
    Json.getD_of_pyEq (Json.getD_of_pyEq hfw "default_policies" rfl) _ (by decide)
  unfold inputAction
  simp only [Json.str_of_pyEq haction]

end Exactly

/-- The default document with another value in a section. -/
def withEntry (key field : String) (value : Json) : Obj :=
  Dict.set key (.obj (Dict.set field value (sectionOf defaultEntries key))) defaultEntries

def defaultSettings : Settings where
  cfg := defaultEntries
  accepted := ⟨Capabilities.empty, defaultEntries, [], by decide +kernel⟩
  keysNodup := by decide

def classifying : Settings where
  cfg := withEntry "dpi" "enabled" (.bool true)
  accepted := ⟨Capabilities.empty, withEntry "dpi" "enabled" (.bool true), [], by decide +kernel⟩
  keysNodup := by decide

def accessPoint : Settings where
  cfg := withEntry "system" "mode" (.str "ap")
  accepted := ⟨Capabilities.empty, withEntry "system" "mode" (.str "ap"),
    ["AP mode: the WAN port joins the LAN bridge, NAT and the DHCP server are off, and clients are addressed by " ++
      "the upstream gateway. This device keeps its LAN address for management and also asks upstream for one."],
    by decide +kernel⟩
  keysNodup := by decide

end Sbegw.Netd
