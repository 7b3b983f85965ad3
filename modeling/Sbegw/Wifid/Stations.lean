import Sbegw.Clientd.Wireless
import Sbegw.Wifid.Plan

/-!
# Stations and MLDs

The links of an MLD share one netdev, yet `wireless_clients` and `mld_states` read the station table and the
counters of the netdev once for each link.  What they count is right just when nothing is there to be counted
twice.
-/

namespace Sbegw.Wifid

open Clientd

/-! ### What the kernel and hostapd say -/

/-- An entry of `station_dump`. -/
structure Station where
  mac : String
  isMlo : Bool
  mldMac : Option String
deriving DecidableEq

/-- The station table of a netdev: each address once. -/
structure Table where
  stations : List Station
  nodup : (stations.map Station.mac).Nodup

/-- The two counters of `rtnl.stats` that are summed. -/
@[ext] structure Counters where
  rxBytes : ℕ
  txBytes : ℕ
deriving DecidableEq

/-- What is asked while the states are gathered. -/
structure Air where
  /-- `nl80211.station_dump` -/
  stations : String → Table
  /-- `rtnl.stats` -/
  stats : String → Counters
  /-- `state` of `hostapd.status`, when it answers -/
  status : PlannedBss → Option String
  /-- the netdev is one of `nl80211.interfaces()` -/
  present : String → Bool
  /-- the fields of an entry that are measured, or only shown -/
  measured : PlannedBss → Station → Obj

/-! ### `wireless_clients` -/

/-- `_netdev(bss)` -/
def netdevOf (b : PlannedBss) : String := (b.netdev.filter fun s => s ≠ "").getD b.interface

/-- `(bss.get("mld") or {}).get("id")` -/
def mldId (b : PlannedBss) : Option String := b.mld.map MldLink.id

/-- One entry of `wireless_clients`. -/
def entry (air : Air) (iface : String) (b : PlannedBss) (sta : Station) : Obj :=
  [("mac", .str sta.mac), ("interface", .str iface), ("bssid", .str b.bssid.text),
    ("wireless_network", .str b.wirelessNetwork), ("radio", .str b.radio), ("band", .str b.band),
    ("is_mlo", .bool sta.isMlo), ("mld_mac", Clientd.optional sta.mldMac), ("mld_ap", Clientd.optional (mldId b))] ++
    air.measured b sta

def wirelessClients (air : Air) (plan : WifiPlan) : List Obj :=
  (Dict.sorted plan.bsses).flatMap fun e => (air.stations (netdevOf e.2)).stations.map (entry air e.1 e.2)

/-! ### `mld_states` -/

/-- What a link says that a BSS serves. -/
structure ServedLink where
  linkId : ℕ
  interface : String
  counters : Counters
  clientCount : ℕ
deriving DecidableEq

/-- An entry of `links`. -/
structure LinkState where
  radio : String
  state : String
  served : Option ServedLink
deriving DecidableEq

/-- The first BSS of the radio that belongs to the MLD. -/
def linkBss (plan : WifiPlan) (mid rid : String) : Option PlannedBss :=
  (plan.bsses.map Prod.snd).find? fun b => b.radio = rid ∧ mldId b = some mid

def linkState (air : Air) (plan : WifiPlan) (mid rid : String) : LinkState :=
  match linkBss plan mid rid with
  | none => ⟨rid, "not-configured", none⟩
  | some b =>
    let iface := netdevOf b
    ⟨rid, (air.status b).getD (if air.present iface then "UNKNOWN" else "DOWN"),
      some ⟨(b.mld.map MldLink.linkId).getD 0, iface, air.stats iface, (air.stations iface).stations.length⟩⟩

/-- `aggregate[k] += stats.get(k, 0)` -/
def Counters.add (total stats : Counters) : Counters :=
  ⟨total.rxBytes + stats.rxBytes, total.txBytes + stats.txBytes⟩

/-- An entry of `mld_states`. -/
structure MldState where
  mld : Mld
  state : String
  isPartial : Bool
  linksDown : List String
  links : List LinkState
  linkCount : ℕ
  linksUp : ℕ
  aggregate : Counters
  mloClientCount : ℕ
deriving DecidableEq

def mldState (air : Air) (plan : WifiPlan) (mld : Mld) : MldState :=
  let links := mld.radios.map (linkState air plan mld.id)
  let up := links.countP fun l => l.state = "ENABLED"
  let mloClients := (wirelessClients air plan).filter fun c => (field c "is_mlo").truthy
  { mld
    state := if 2 ≤ up then "up" else if 0 < up then "degraded" else "down"
    isPartial := decide (0 < up ∧ up < links.length)
    linksDown := (links.filter fun l => l.state ≠ "ENABLED").map fun l => l.radio ++ "(" ++ l.state ++ ")"
    links
    linkCount := links.length
    linksUp := up
    aggregate := (links.filterMap LinkState.served).foldl (fun total l => total.add l.counters) ⟨0, 0⟩
    mloClientCount := (mloClients.filter fun c => field c "mld_ap" = .str mld.id).length }

def mldStates (air : Air) (plan : WifiPlan) : List MldState :=
  (plan.mlds.insertionSort fun a b => a.id ≤ b.id).map (mldState air plan)

/-! ### What is counted once -/

/-- The addresses in the station table of a BSS. -/
def Air.macs (air : Air) (b : PlannedBss) : List String := (air.stations (netdevOf b)).stations.map Station.mac

/-- The BSSes of the plan whose station table has the address. -/
def hosts (air : Air) (plan : WifiPlan) (m : String) : ℕ := plan.bsses.countP fun e => m ∈ air.macs e.2

/-- The MLD has a BSS, and all its BSSes are on the netdev. -/
def OnNetdev (plan : WifiPlan) (mld : Mld) (netdev : String) : Prop :=
  mld.radios.filterMap (linkBss plan mld.id) ≠ [] ∧
    ∀ e ∈ plan.bsses, mldId e.2 = some mld.id → netdevOf e.2 = netdev

/-- The stations of a netdev that use MLO. -/
def Air.mlo (air : Air) (netdev : String) : List Station := (air.stations netdev).stations.filter Station.isMlo

/-- The stations and the counters of a shared netdev are counted once. -/
structure CountedOnce (air : Air) (plan : WifiPlan) : Prop where
  listed : ∀ m, 0 < hosts air plan m → (wirelessClients air plan).countP (fun c => macOf c = m) = 1
  aggregate : ∀ q ∈ mldStates air plan, ∀ netdev, OnNetdev plan q.mld netdev → q.aggregate = air.stats netdev
  mloClients : ∀ q ∈ mldStates air plan, ∀ netdev, OnNetdev plan q.mld netdev →
    q.mloClientCount = (air.mlo netdev).length
  /-- a poll with these clients, whatever the polls before it found -/
  recorded : ∀ vendor rows history lastHistory before s r st, s.wireless = wirelessClients air plan →
    Clientd.poll vendor s ((Session.start rows history lastHistory).after vendor before).st = (.ok r, st) →
    ∀ m, 0 < hosts air plan m → ∃ record, (r.records.filter fun c => macOf c = normaliseMac m) = [record] ∧
      Carries (wirelessClients air plan) (normaliseMac m) record

/-- No station is in the tables of two BSSes, and an MLD with more than one link has counted nothing. -/
structure Unshared (air : Air) (plan : WifiPlan) : Prop where
  stations : ∀ m, hosts air plan m ≤ 1
  counters : ∀ mld ∈ plan.mlds, ∀ netdev, OnNetdev plan mld netdev →
    (mld.radios.filterMap (linkBss plan mld.id)).length = 1 ∨ air.stats netdev = ⟨0, 0⟩

/-! ### The stations -/

variable {air : Air} {plan : WifiPlan}

theorem macOf_entry (iface : String) (b : PlannedBss) (sta : Station) : macOf (entry air iface b sta) = sta.mac := rfl

theorem isMlo_entry (iface : String) (b : PlannedBss) (sta : Station) :
    (field (entry air iface b sta) "is_mlo").truthy = sta.isMlo := rfl

theorem mldAp_entry (iface : String) (b : PlannedBss) (sta : Station) :
    field (entry air iface b sta) "mld_ap" = Clientd.optional (mldId b) := rfl

theorem optional_eq_str {o : Option String} {t : String} : Clientd.optional o = .str t ↔ o = some t := by
  cases o with
  | none => simp [Clientd.optional]
  | some s => simp [Clientd.optional]

/-- A property of the entries is counted over the BSSes. -/
theorem countP_wirelessClients (p : Obj → Bool) :
    (wirelessClients air plan).countP p = (plan.bsses.map fun e =>
      (air.stations (netdevOf e.2)).stations.countP fun sta => p (entry air e.1 e.2 sta)).sum := by
  have hperm : (Dict.sorted plan.bsses).Perm plan.bsses := List.perm_insertionSort _ _
  rw [wirelessClients, List.countP_flatMap, ((hperm.map _).sum_eq)]
  refine congrArg List.sum (List.map_congr_left fun e _ => ?_)
  rw [Function.comp_apply, List.countP_map]
  rfl

theorem countP_mac (t : Table) (m : String) :
    t.stations.countP (fun sta => decide (sta.mac = m)) = if m ∈ t.stations.map Station.mac then 1 else 0 := by
  rw [← List.Nodup.count t.nodup, List.count, List.countP_map]
  exact List.countP_congr fun sta _ => by simp

/-- A sum of ones is a count. -/
theorem sum_map_ite {α : Type} (p : α → Bool) (n : ℕ) (xs : List α) :
    (xs.map fun x => if p x then n else 0).sum = n * xs.countP p := by
  induction xs with
  | nil => rfl
  | cons x xs ih =>
    rw [List.map_cons, List.sum_cons, ih, List.countP_cons]
    split
    · rw [Nat.mul_add, Nat.mul_one, Nat.add_comm]
    · rw [Nat.zero_add, Nat.add_zero]

/-- A station is listed once for each BSS that has it. -/
theorem countP_macOf (m : String) :
    (wirelessClients air plan).countP (fun c => decide (macOf c = m)) = hosts air plan m := by
  rw [countP_wirelessClients, hosts, ← Nat.one_mul (List.countP _ _), ← sum_map_ite]
  refine congrArg List.sum (List.map_congr_left fun e _ => ?_)
  simp only [macOf_entry, decide_eq_true_eq]
  exact countP_mac _ m

theorem listed_iff : (∀ m, 0 < hosts air plan m → (wirelessClients air plan).countP (fun c => macOf c = m) = 1) ↔
    ∀ m, hosts air plan m ≤ 1 := by
  simp only [countP_macOf]
  refine forall_congr' fun m => ?_
  omega

/-! ### The MLDs -/

/-- The MLO stations of an MLD, counted once for each of its BSSes. -/
theorem mloClientCount_eq (mld : Mld) {netdev : String} (h : OnNetdev plan mld netdev) :
    (mldState air plan mld).mloClientCount =
      (air.mlo netdev).length * plan.bsses.countP fun e => decide (mldId e.2 = some mld.id) := by
  show List.length _ = _
  rw [List.filter_filter, ← List.countP_eq_length_filter, countP_wirelessClients, ← sum_map_ite]
  refine congrArg List.sum (List.map_congr_left fun e he => ?_)
  simp only [isMlo_entry, mldAp_entry, optional_eq_str, decide_eq_true_eq]
  split
  · rename_i hid
    rw [h.2 e he hid, Air.mlo, List.countP_eq_length_filter]
    simp [hid]
  · rename_i hid
    simp [hid]

theorem one_le_countP_mldId (mld : Mld) {netdev : String} (h : OnNetdev plan mld netdev) :
    1 ≤ plan.bsses.countP fun e => decide (mldId e.2 = some mld.id) := by
  obtain ⟨b, hb⟩ := List.exists_mem_of_ne_nil _ h.1
  obtain ⟨rid, -, hlink⟩ := List.mem_filterMap.mp hb
  rw [linkBss] at hlink
  obtain ⟨e, he, rfl⟩ := List.mem_map.mp (List.mem_of_find?_eq_some hlink)
  have hid := List.find?_some hlink
  simp only [decide_eq_true_eq] at hid
  exact List.countP_pos_iff.mpr ⟨e, he, by simpa using hid.2⟩

/-- A station of the netdev is in the table of every BSS of the MLD. -/
theorem countP_mldId_le (mld : Mld) {netdev : String} (h : OnNetdev plan mld netdev) {sta : Station}
    (hsta : sta ∈ (air.stations netdev).stations) :
    (plan.bsses.countP fun e => decide (mldId e.2 = some mld.id)) ≤ hosts air plan sta.mac := by
  refine List.countP_mono_left fun e he hid => ?_
  rw [decide_eq_true_eq] at hid ⊢
  rw [Air.macs, h.2 e he hid]
  exact List.mem_map_of_mem hsta

theorem mloClientCount_of_hosts (hhosts : ∀ m, hosts air plan m ≤ 1) (mld : Mld) {netdev : String}
    (h : OnNetdev plan mld netdev) : (mldState air plan mld).mloClientCount = (air.mlo netdev).length := by
  rw [mloClientCount_eq mld h]
  cases hmlo : air.mlo netdev with
  | nil => rw [List.length_nil, Nat.zero_mul]
  | cons sta _ =>
    have hsta : sta ∈ air.mlo netdev := hmlo ▸ List.mem_cons_self
    have hle := countP_mldId_le mld h (List.mem_of_mem_filter hsta)
    have hone := one_le_countP_mldId mld h
    have hhost := hhosts sta.mac
    rw [show (plan.bsses.countP fun e => decide (mldId e.2 = some mld.id)) = 1 by omega, Nat.mul_one]

/-- The links of an MLD that a BSS serves. -/
theorem served_linkState (mld : Mld) : (mld.radios.map (linkState air plan mld.id)).filterMap LinkState.served =
    (mld.radios.filterMap (linkBss plan mld.id)).map fun b =>
      ⟨(b.mld.map MldLink.linkId).getD 0, netdevOf b, air.stats (netdevOf b),
        (air.stations (netdevOf b)).stations.length⟩ := by
  rw [List.filterMap_map, List.map_filterMap]
  refine List.filterMap_congr fun rid _ => ?_
  rw [Function.comp_apply, linkState]
  cases linkBss plan mld.id rid with
  | none => rfl
  | some b => rfl

/-- Counters that are all the same. -/
theorem foldl_counters (stats : Counters) (links : List ServedLink) (h : ∀ l ∈ links, l.counters = stats)
    (total : Counters) : links.foldl (fun total l => total.add l.counters) total =
      ⟨total.rxBytes + links.length * stats.rxBytes, total.txBytes + links.length * stats.txBytes⟩ := by
  induction links generalizing total with
  | nil => simp
  | cons l links ih =>
    rw [List.foldl_cons, ih fun l' hl' => h l' (List.mem_cons_of_mem _ hl'), h l List.mem_cons_self, Counters.add]
    ext
    · simp only [List.length_cons]
      ring
    · simp only [List.length_cons]
      ring

theorem aggregate_eq (mld : Mld) {netdev : String} (h : OnNetdev plan mld netdev) :
    (mldState air plan mld).aggregate =
      ⟨(mld.radios.filterMap (linkBss plan mld.id)).length * (air.stats netdev).rxBytes,
        (mld.radios.filterMap (linkBss plan mld.id)).length * (air.stats netdev).txBytes⟩ := by
  show List.foldl _ _ _ = _
  rw [served_linkState, foldl_counters (air.stats netdev)]
  · simp
  · intro l hl
    obtain ⟨b, hb, rfl⟩ := List.mem_map.mp hl
    obtain ⟨rid, -, hlink⟩ := List.mem_filterMap.mp hb
    rw [linkBss] at hlink
    obtain ⟨e, he, rfl⟩ := List.mem_map.mp (List.mem_of_find?_eq_some hlink)
    have hid := List.find?_some hlink
    simp only [decide_eq_true_eq] at hid
    show air.stats (netdevOf e.2) = _
    rw [h.2 e he hid.2]

theorem mul_eq_self_iff {k : ℕ} (hk : k ≠ 0) (n : ℕ) : k * n = n ↔ k = 1 ∨ n = 0 := by
  constructor
  · intro h
    rcases Nat.eq_zero_or_pos n with hn | hn
    · exact .inr hn
    · exact .inl (Nat.eq_of_mul_eq_mul_right hn (h.trans (Nat.one_mul n).symm))
  · rintro (rfl | rfl)
    · exact Nat.one_mul n
    · exact Nat.mul_zero k

theorem aggregate_iff (mld : Mld) {netdev : String} (h : OnNetdev plan mld netdev) :
    (mldState air plan mld).aggregate = air.stats netdev ↔
      (mld.radios.filterMap (linkBss plan mld.id)).length = 1 ∨ air.stats netdev = ⟨0, 0⟩ := by
  have hk : (mld.radios.filterMap (linkBss plan mld.id)).length ≠ 0 := fun h0 => h.1 (List.eq_nil_of_length_eq_zero h0)
  rw [aggregate_eq mld h, Counters.ext_iff, mul_eq_self_iff hk, mul_eq_self_iff hk, ← or_and_left, Counters.ext_iff]

/-- Every MLD of the plan has its entry, and no other has one. -/
theorem forall_mldStates {p : MldState → Prop} :
    (∀ q ∈ mldStates air plan, p q) ↔ ∀ mld ∈ plan.mlds, p (mldState air plan mld) := by
  rw [mldStates, List.forall_mem_map]
  exact forall_congr' fun mld => by rw [List.mem_insertionSort]

/-! ### The clients database -/

/-- A station that a BSS has is one of the clients of the poll. -/
theorem mem_wirelessClients {m : String} (h : 0 < hosts air plan m) :
    ∃ client ∈ wirelessClients air plan, macOf client = m := by
  rw [← countP_macOf, List.countP_pos_iff] at h
  obtain ⟨client, hin, hm⟩ := h
  exact ⟨client, hin, of_decide_eq_true hm⟩

/-- **Shared netdevs are counted once just when nothing on them is shared**: no station is in the tables of two
BSSes, and the MLDs with several links have counters of zero. -/
theorem counted_once_iff (air : Air) (plan : WifiPlan) : CountedOnce air plan ↔ Unshared air plan := by
  have haggregate : (∀ q ∈ mldStates air plan, ∀ netdev, OnNetdev plan q.mld netdev → q.aggregate = air.stats netdev) ↔
      ∀ mld ∈ plan.mlds, ∀ netdev, OnNetdev plan mld netdev →
        (mld.radios.filterMap (linkBss plan mld.id)).length = 1 ∨ air.stats netdev = ⟨0, 0⟩ := by
    rw [forall_mldStates]
    exact forall₂_congr fun mld _ => forall₂_congr fun netdev h => aggregate_iff mld h
  constructor
  · intro h
    exact ⟨listed_iff.mp h.listed, haggregate.mp h.aggregate⟩
  · intro h
    refine ⟨listed_iff.mpr h.stations, haggregate.mpr h.counters, ?_, ?_⟩
    · rw [forall_mldStates]
      exact fun mld _ netdev hnetdev => mloClientCount_of_hosts h.stations mld hnetdev
    · intro vendor rows history lastHistory before s r st hs hpoll m hm
      obtain ⟨client, hclient, rfl⟩ := mem_wirelessClients hm
      rw [← hs] at hclient ⊢
      exact one_record_of_station vendor rows history lastHistory before hpoll hclient

/-! ### An MLD of two links -/

/-- A link on the netdev of the 2.4 GHz radio. -/
def linkOf (radio band iface : String) (linkId : ℕ) : PlannedBss :=
  ⟨iface, radio, band, "home", ⟨0x02, 0, 0, 0, 0, BitVec.ofNat 8 linkId⟩, [], 0,
    some ⟨"home", "02:00:00:00:00:10", linkId⟩, some "wl2g0"⟩

/-- One network on two bands, as one MLD. -/
def twoLinks : WifiPlan where
  links := []
  mlds := [⟨"home", .str "Home", "02:00:00:00:00:10", "home", ["radio-2g", "radio-5g"], .str "auto", false⟩]
  bsses := [("wl2g0", linkOf "radio-2g" "2g" "wl2g0" 0), ("wl5g0", linkOf "radio-5g" "5g" "wl5g0" 1)]
  warnings := []

/-- A phone on the MLD. -/
def phoneOnAir : Air where
  stations netdev := if netdev = "wl2g0" then ⟨[⟨"3c:00:00:00:00:07", true, none⟩], by simp⟩ else ⟨[], by simp⟩
  stats netdev := if netdev = "wl2g0" then ⟨1000, 9000⟩ else ⟨0, 0⟩
  status _ := some "ENABLED"
  present _ := true
  measured _ _ := []

/-- The phone is listed once for each link. -/
theorem station_listed_twice : ¬ CountedOnce phoneOnAir twoLinks := by
  intro h
  have hhosts : hosts phoneOnAir twoLinks "3c:00:00:00:00:07" = 2 := by decide
  have hlisted := h.listed "3c:00:00:00:00:07" (by rw [hhosts]; exact Nat.two_pos)
  rw [countP_macOf, hhosts] at hlisted
  cases hlisted

end Sbegw.Wifid
