import Mathlib.Data.Set.Finite.Basic
import Sbegw.Nft.PortForwards

/-!
# The sessions of the WANs

A WAN's IP session is on the interface that the WAN is known under; that of a PPPoE WAN is on an interface
that pppd makes.  The zones, masquerading and the port forwards know the former only, and a port forward
whose WAN is disabled is rendered like one for any WAN.
-/

namespace Sbegw.Nft

open Text Schema EditM

/-! ### Rendering -/

/-- `nat` -/
def natOf (cfg : Obj) : Json := (Dict.lookup "nat" cfg).getD (.obj [])

/-- `nat.get("masquerade", True)` -/
def masquerades (cfg : Obj) : Bool := ((natOf cfg).getD "masquerade" (.bool true)).truthy

def masqueradeLine (e : String × String) : Line :=
  ⟨[.oifname (.named e.2)], true, "", some .masquerade, some ("masq " ++ e.1)⟩

/-- The reflection of one network, whose subnet has been validated. -/
def hairpinLines (e : String × Json) : List Line :=
  match Ip.ipInterface (pyStr (e.2.getD "subnet" (.str ""))) with
  | some subnet =>
    [⟨[.addr .ip .saddr subnet.showNetwork, .addr .ip .daddr subnet.showNetwork, .ctDnat], true, "",
      some .masquerade, some ("hairpin " ++ e.1)⟩]
  | none => []

/-- `entry[key]` -/
def entryItem (entry : Json) (key : String) : Except Exn Json :=
  match entry.get? key with
  | some value => .ok value
  | none => .error (.key ("'" ++ key ++ "'"))

/-- An entry of `one_to_one`, on the way out; nothing checks it. -/
def oneToOneLines (entry : Json) : Except Exn (List Line) := do
  let enabled ← pyGet entry "enabled" (.bool true)
  if enabled.truthy then
    let inside ← entryItem entry "internal"
    let outside ← entryItem entry "external"
    pure [⟨[.other ("ip saddr " ++ pyStr inside)], true, "", some (.snat (pyStr outside)), none⟩]
  else pure []

/-- The chain `postrouting` of `_render_nat_table`. -/
def renderPostrouting (cfg : Obj) (wans : Dict String String) : Except Exn (List Line) := do
  let entries ← pyIter ((natOf cfg).getD "one_to_one" (.arr []))
  let static ← collect oneToOneLines entries
  let reflects := ((natOf cfg).getD "hairpin" (.bool true)).truthy
  pure ((if masquerades cfg then (Dict.sorted wans).map masqueradeLine else []) ++
    (if reflects then (Netd.sectionOf cfg "networks").flatMap hairpinLines else []) ++ static)

/-! ### Sessions -/

/-- `mode == "pppoe"` -/
def isPppoe (wan : Json) : Bool := wan.getD "mode" (.str "dhcp") = .str "pppoe"

/-- The enabled WANs. -/
def enabledWans (cfg : Obj) : Obj :=
  (Netd.sectionOf cfg "wans").filter fun e => (e.2.getD "enabled" (.bool true)).truthy

/-- The interface of each enabled WAN's IP session; `ppp` says which ones pppd makes. -/
def sessions (ppp : String → String) (cfg : Obj) : Dict String String :=
  (enabledWans cfg).map fun e => (e.1, if isPppoe e.2 then ppp e.1 else Netd.wanInterface e.2 cfg)

/-- **pppd's interfaces are its own**: no WAN and no network is known under one. -/
structure OwnInterfaces (ppp : String → String) (cfg : Obj) : Prop where
  wans : ∀ e ∈ enabledWans cfg, isPppoe e.2 = true → ∀ f ∈ Netd.firewallWans cfg, f.2 ≠ ppp e.1
  networks : ∀ e ∈ enabledWans cfg, isPppoe e.2 = true →
    ∀ n ∈ Netd.sectionOf cfg "networks", Netd.networkInterface n.2 ≠ ppp e.1

/-- A TCP or UDP packet that arrives, by the session of the WAN `via` if it does by one.  `reads` is what
nft makes of the text after `ip saddr`. -/
structure Inbound (sessions : Dict String String) (reads : String → ℕ → Bool) (via : Option String)
    (p : Packet) : Prop where
  version : p.version = .ip
  transport : p.l4proto = 6 ∨ p.l4proto = 17
  port : p.dport < 65536
  source : p.saddr < 2 ^ 32
  meets : ∀ text, p.meets ("ip saddr " ++ text) = reads text p.saddr
  carried : ∀ w, via = some w → (w, p.iif) ∈ sessions
  elsewhere : via = none → ∀ e ∈ sessions, e.2 ≠ p.iif

/-- The WAN of a forward. -/
def forwardWan (fwd : Obj) : Json := ruleGet fwd "wan" (.str "any")

/-- **The rules of a WAN apply to its session**: what leaves by one is in zone `wan` and is masqueraded (the
NAT table is one of IPv4), a forward that is bound to a WAN takes what arrives by its session only, and one
for any WAN what arrives by any. -/
structure FollowSessions (ppp : String → String) (reads : String → ℕ → Bool) (links : Netd.Links) (t : Obj) :
    Prop where
  zone : ∀ e ∈ sessions ppp t, ∀ p : Packet, p.oif = e.2 →
    (IfName.set ("zone_" ++ "wan")).holds
      (zoneSets (Netd.zoneInterfaces t (Netd.firewallWans t) links)) p.oif = true
  masquerade : masquerades t = true → ∀ lines, renderPostrouting t (Netd.firewallWans t) = .ok lines →
    ∀ e ∈ sessions ppp t, ∀ p : Packet, p.version = .ip → p.oif = e.2 →
      decision (wanSets (Netd.firewallWans t)) lines p = some .masquerade
  bound : ∀ fwd ∈ portForwards t, ∀ w, forwardWan fwd = .str w → w ≠ "any" →
    ∀ via p, Inbound (sessions ppp t) reads via p → Claims (Netd.firewallWans t) fwd p → via = some w
  any : ∀ fwd ∈ portForwards t, forwardEnabled fwd = true → forwardWan fwd = .str "any" →
    ∀ w p, Inbound (sessions ppp t) reads (some w) p →
      (∃ proto ∈ forwardProtos fwd, protoNumber proto = some p.l4proto) →
      inRange (externalPort fwd) p.dport = true → Admits reads fwd p.saddr → Claims (Netd.firewallWans t) fwd p

/-! ### The condition -/

/-- The WAN is enabled, and its interface is its own: the name is no pattern and no other enabled WAN's. -/
def OwnName (wans : Dict String String) (w : String) : Prop :=
  ∃ iface, Dict.lookup w wans = some iface ∧ iface.toList.getLast? ≠ some '*' ∧
    ∀ e ∈ wans, e.2 = iface ∨ iface = "" → e.1 = w

/-- The forward is bound to the WAN and takes packets of some source. -/
structure BoundTo (reads : String → ℕ → Bool) (w : String) (fwd : Obj) : Prop where
  enabled : forwardEnabled fwd = true
  wan : forwardWan fwd = .str w
  notAny : w ≠ "any"
  admits : ∃ a, a < 2 ^ 32 ∧ Admits reads fwd a

/-! ### Zones and masquerading -/

variable {ppp : String → String} {reads : String → ℕ → Bool} {links : Netd.Links} {t : Obj}

/-- Without PPPoE the sessions are where the WANs are known to be. -/
theorem sessions_eq (hmode : Netd.apMode t = false) (h : ∀ e ∈ enabledWans t, isPppoe e.2 = false) :
    sessions ppp t = Netd.firewallWans t := by
  unfold Netd.firewallWans sessions
  rw [hmode]
  refine List.map_congr_left fun e he => ?_
  rw [h e he]
  rfl

theorem inZone_wan {iface : String} : InZone (Netd.zoneInterfaces t (Netd.firewallWans t) links) "wan" iface ↔
    (∃ n ∈ Netd.sectionOf t "networks", pyStr (n.2.getD "zone" (.str "lan")) = "wan" ∧
      Netd.networkInterface n.2 = iface) ∨ ∃ e ∈ Netd.firewallWans t, e.2 = iface := by
  rw [Netd.inZone_zoneInterfaces]
  unfold Netd.placements
  simp only [List.mem_append, List.mem_map, Prod.mk.injEq]
  constructor
  · rintro (((h | ⟨e, he, -, h⟩) | ⟨_, -, hvpn, -⟩) | ⟨_, -, hcontainers, -⟩)
    · exact .inl h
    · exact .inr ⟨e, he, h⟩
    · exact absurd hvpn (by decide)
    · exact absurd hcontainers (by decide)
  · rintro (h | ⟨e, he, h⟩)
    · exact .inl (.inl (.inl h))
    · exact .inl (.inl (.inr ⟨e, he, trivial, h⟩))

/-- pppd's interface is in no zone. -/
theorem not_inZone_wan (hown : OwnInterfaces ppp t) {e : String × Json} (he : e ∈ enabledWans t)
    (hpppoe : isPppoe e.2 = true) :
    ¬ InZone (Netd.zoneInterfaces t (Netd.firewallWans t) links) "wan" (ppp e.1) := by
  rw [inZone_wan]
  rintro (⟨n, hn, -, hiface⟩ | ⟨f, hf, hiface⟩)
  · exact hown.networks e he hpppoe n hn hiface
  · exact hown.wans e he hpppoe f hf hiface

/-- **Masquerading**: the first line of the chain that decides is that of the WAN. -/
theorem decision_postrouting {wans : Dict String String} {lines : List Line} (hon : masquerades t = true)
    (h : renderPostrouting t wans = .ok lines) {e : String × String} (he : e ∈ wans) (sets : Sets) {p : Packet}
    (hp : p.oif = e.2) : decision sets lines p = some .masquerade := by
  unfold renderPostrouting at h
  obtain ⟨entries, -, h⟩ := except_bind_eq_ok.mp h
  obtain ⟨static, -, h⟩ := except_bind_eq_ok.mp h
  rw [← Except.ok.inj h, if_pos hon, List.append_assoc, decision_append]
  have hfirst : decision sets ((Dict.sorted wans).map masqueradeLine) p = some .masquerade := by
    unfold decision
    rw [Chain.first_of_verdict (v := .masquerade) fun l hl => by
      obtain ⟨f, -, rfl⟩ := List.mem_map.mp hl
      rfl]
    refine if_pos (List.any_eq_true.mpr ⟨masqueradeLine e, List.mem_map_of_mem ?_, ?_⟩)
    · exact (List.mem_insertionSort _).mpr he
    · unfold Line.applies masqueradeLine
      rw [List.all_cons, List.all_nil, Bool.and_true]
      show ifMatches e.2 p.oif = true
      rw [hp]
      exact ifMatches_self e.2
  rw [hfirst]
  rfl

/-! ### Bound forwards -/

/-- The interface of a packet that some session carries, or none. -/
def Carried (sessions : Dict String String) (via : Option String) (iface : String) : Prop :=
  (∀ w, via = some w → (w, iface) ∈ sessions) ∧ (via = none → ∀ e ∈ sessions, e.2 ≠ iface)

/-- What a bound forward compares the interface with. -/
theorem forwardIfName_bound {wans : Dict String String} {fwd : Obj} {w : String} (hwan : forwardWan fwd = .str w)
    (hany : w ≠ "any") : forwardIfName wans fwd =
      if Dict.lookup w wans = none ∨ Dict.lookup w wans = some "" then .set "zone_wan_ifaces"
      else .named ((Dict.lookup w wans).getD "") := by
  unfold forwardWan at hwan
  unfold forwardIfName forwardIface
  rw [hwan]
  dsimp only
  rw [if_neg hany]
  cases hlookup : Dict.lookup w wans with
  | none => rfl
  | some iface =>
    by_cases hempty : iface = ""
    · subst hempty
      rfl
    · rw [Option.filter_some_pos (by simpa using hempty), if_neg (by simpa using hempty)]
      rfl

/-- An interface that matches a pattern and that none of the given names is. -/
theorem exists_fresh {name : String} (hstar : name.toList.getLast? = some '*') (names : List String) :
    ∃ iface, ifMatches name iface = true ∧ iface ∉ names := by
  obtain ⟨stem, hstem⟩ := List.getLast?_eq_some_iff.mp hstar
  have hinj : Function.Injective fun n : ℕ => String.ofList (stem ++ List.replicate n 'x') := by
    intro m n h
    have hlist := congrArg List.length (String.ofList_injective h)
    simpa using hlist
  obtain ⟨_, ⟨n, rfl⟩, hn⟩ := (Set.infinite_range_of_injective hinj).exists_notMem_finset names.toFinset
  refine ⟨_, ?_, fun hmem => hn (List.mem_toFinset.mpr hmem)⟩
  unfold ifMatches
  rw [hstem, List.reverse_append]
  simp

/-- A packet that a forward should leave alone, unless its WAN has an interface of its own. -/
theorem exists_stray {wans : Dict String String} {fwd : Obj} {w : String} (hwan : forwardWan fwd = .str w)
    (hany : w ≠ "any") (hne : wans ≠ []) (hnot : ¬ OwnName wans w) : ∃ via iface, Carried wans via iface ∧
      via ≠ some w ∧ (forwardIfName wans fwd).holds (wanSets wans) iface = true := by
  have hby : ∀ e ∈ wans, Carried wans (some e.1) e.2 := fun e he =>
    ⟨fun v hv => Option.some.inj hv ▸ he, fun hv => absurd hv (by simp)⟩
  rw [forwardIfName_bound hwan hany]
  cases hlookup : Dict.lookup w wans with
  | none =>
    obtain ⟨e, he⟩ := List.exists_mem_of_ne_nil wans hne
    refine ⟨some e.1, e.2, hby e he, fun hv => ?_, holds_wanSets.mpr ⟨e, he, rfl⟩⟩
    exact Dict.lookup_eq_none_iff.mp hlookup (List.mem_map.mpr ⟨e, he, Option.some.inj hv⟩)
  | some iface =>
    by_cases hstar : iface.toList.getLast? = some '*'
    · -- a pattern takes the packets of an interface that nobody knows
      obtain ⟨other, hmatch, hother⟩ := exists_fresh hstar (wans.map Prod.snd)
      refine ⟨none, other, ⟨fun v hv => absurd hv (by simp), fun _ e he heq => ?_⟩, by simp, ?_⟩
      · exact hother (List.mem_map.mpr ⟨e, he, heq⟩)
      · have hempty : iface ≠ "" := fun h => by simp [h] at hstar
        rw [if_neg (by simpa using hempty)]
        exact hmatch
    · have hshared : ∃ e ∈ wans, (e.2 = iface ∨ iface = "") ∧ e.1 ≠ w := by
        by_contra hnone
        push Not at hnone
        exact hnot ⟨iface, hlookup, hstar, hnone⟩
      obtain ⟨e, he, hsame, hother⟩ := hshared
      refine ⟨some e.1, e.2, hby e he, fun hv => hother (Option.some.inj hv), ?_⟩
      by_cases hempty : iface = ""
      · rw [if_pos (.inr (by rw [hempty]))]
        exact holds_wanSets.mpr ⟨e, he, rfl⟩
      · rw [if_neg (by simpa using hempty), hsame.resolve_right hempty]
        exact ifMatches_self iface

/-- A forward whose WAN has an interface of its own takes the packets of its session only. -/
theorem via_of_ownName {wans : Dict String String} {fwd : Obj} {w : String} (hwan : forwardWan fwd = .str w)
    (hany : w ≠ "any") (hnamed : wans = [] ∨ OwnName wans w) {via : Option String} {iface : String}
    (hcarried : Carried wans via iface) (h : (forwardIfName wans fwd).holds (wanSets wans) iface = true) :
    via = some w := by
  rw [forwardIfName_bound hwan hany] at h
  rcases hnamed with rfl | ⟨own, hlookup, hstar, halone⟩
  · rw [if_pos (.inl rfl)] at h
    obtain ⟨e, he, -⟩ := holds_wanSets.mp h
    exact absurd he List.not_mem_nil
  · have hin : ∃ e ∈ wans, e.2 = iface ∧ (e.2 = own ∨ own = "") := by
      rw [hlookup] at h
      by_cases hempty : own = ""
      · rw [if_pos (.inr (by rw [hempty]))] at h
        obtain ⟨e, he, heq⟩ := holds_wanSets.mp h
        exact ⟨e, he, heq, .inr hempty⟩
      · rw [if_neg (by simpa using hempty)] at h
        have heq : own = iface := (ifMatches_of_not_star hstar).mp h
        exact ⟨(w, own), Dict.mem_of_lookup hlookup, heq, .inl rfl⟩
    obtain ⟨e, he, heq, hown⟩ := hin
    cases hvia : via with
    | none => exact absurd heq (hcarried.2 hvia e he)
    | some v =>
      have hmem : (v, iface) ∈ wans := hcarried.1 v hvia
      have hsame : iface = own ∨ own = "" := heq ▸ hown
      rw [show v = w from halone (v, iface) hmem hsame]

/-! ### Exactly when -/

theorem inbound_arriving (reads : String → ℕ → Bool) {sessions : Dict String String} {via : Option String}
    {iface : String} (hcarried : Carried sessions via iface) {l4proto dport saddr : ℕ}
    (hproto : l4proto = 6 ∨ l4proto = 17) (hport : dport < 65536) (hsource : saddr < 2 ^ 32) :
    Inbound sessions reads via (arriving reads iface l4proto dport saddr) where
  version := rfl
  transport := hproto
  port := hport
  source := hsource
  meets := meets_arriving reads iface l4proto dport saddr
  carried := hcarried.1
  elsewhere := hcarried.2

/-- **WAN-bound rules** apply to exactly their WAN's traffic when no enabled WAN is PPPoE and every bound
forward is bound to an enabled WAN with an interface of its own, unless no WAN is enabled. -/
theorem follow_sessions_iff {caps : Capabilities} {cfg : Obj} {ws : List String}
    (h : validate caps cfg = .ok (t, ws)) (hmode : Netd.apMode t = false) (hown : OwnInterfaces ppp t)
    (reads : String → ℕ → Bool) (links : Netd.Links) : FollowSessions ppp reads links t ↔
      (∀ e ∈ enabledWans t, isPppoe e.2 = false) ∧
        ∀ fwd ∈ portForwards t, ∀ w, BoundTo reads w fwd →
          Netd.firewallWans t = [] ∨ OwnName (Netd.firewallWans t) w := by
  constructor
  · intro hfollow
    have hplain : ∀ e ∈ enabledWans t, isPppoe e.2 = false := by
      intro e he
      by_contra hpppoe
      rw [Bool.not_eq_false] at hpppoe
      have hsession : (e.1, ppp e.1) ∈ sessions ppp t := List.mem_map.mpr ⟨e, he, by rw [if_pos hpppoe]⟩
      have hzone := hfollow.zone _ hsession { arriving reads "" 6 0 0 with oif := ppp e.1 } rfl
      exact not_inZone_wan hown he hpppoe ((set_holds_zone _ _ _).mp hzone)
    refine ⟨hplain, fun fwd hfwd w hbound => ?_⟩
    by_contra hnot
    push Not at hnot
    obtain ⟨via, iface, hcarried, hvia, hholds⟩ := exists_stray hbound.wan hbound.notAny hnot.1 hnot.2
    rw [← sessions_eq hmode hplain] at hcarried
    obtain ⟨a, ha, hadmits⟩ := hbound.admits
    obtain ⟨wans, hall⟩ := forwards_of_accepted (accepted_of_validate h)
    obtain ⟨-, lo, hi, hrange, hlo, hle, hhi⟩ := forward_fields (hall fwd hfwd)
    obtain ⟨proto, hproto⟩ := exists_proto_of_forward (hall fwd hfwd)
    obtain ⟨n, hn, hnum⟩ := protoNumber_of_forward (hall fwd hfwd) hproto
    obtain ⟨port, rfl⟩ := Int.eq_ofNat_of_zero_le (show 0 ≤ lo by omega)
    have hinbound : Inbound (sessions ppp t) reads via (arriving reads iface n port a) :=
      inbound_arriving reads hcarried hn (by omega) ha
    refine hvia (hfollow.bound fwd hfwd w hbound.wan hbound.notAny via _ hinbound (claims_iff_holds.mpr ?_))
    exact ⟨hbound.enabled, ⟨proto, hproto, hnum⟩, (inRange_iff hrange port).mpr ⟨le_refl _, hle⟩, hholds,
      (admits_iff hinbound.meets _ fwd).mpr hadmits⟩
  · rintro ⟨hplain, hbound⟩
    have hsessions : sessions ppp t = Netd.firewallWans t := sessions_eq hmode hplain
    refine ⟨fun e he p hp => ?_, fun hon lines hlines e he p _ hp => ?_,
      fun fwd hfwd w hwan hany via p hin hclaims => ?_, fun fwd _ hon hwan w p hin hproto hport hadmits => ?_⟩
    · rw [hsessions] at he
      exact (set_holds_zone _ _ _).mpr (inZone_wan.mpr (.inr ⟨e, he, hp.symm⟩))
    · rw [hsessions] at he
      exact decision_postrouting hon hlines he _ hp
    · obtain ⟨hon, -, -, hholds, hsource⟩ := claims_iff_holds.mp hclaims
      have hto : BoundTo reads w fwd :=
        ⟨hon, hwan, hany, p.saddr, hin.source, (admits_iff hin.meets _ fwd).mp hsource⟩
      have hcarried : Carried (Netd.firewallWans t) via p.iif := hsessions ▸ ⟨hin.carried, hin.elsewhere⟩
      exact via_of_ownName hwan hany (hbound fwd hfwd w hto) hcarried hholds
    · have hmem : (w, p.iif) ∈ Netd.firewallWans t := hsessions ▸ hin.carried w rfl
      have hany : forwardIfName (Netd.firewallWans t) fwd = .set "zone_wan_ifaces" := by
        unfold forwardWan at hwan
        unfold forwardIfName forwardIface
        rw [hwan]
        rfl
      refine claims_iff_holds.mpr ⟨hon, hproto, hport, ?_, (admits_iff hin.meets _ fwd).mpr hadmits⟩
      rw [hany]
      exact holds_wanSets.mpr ⟨_, hmem, rfl⟩

/-! ### One WAN, and two that are missed -/

/-- A forward of port 80 that is bound to a WAN. -/
def webOn (wan : String) : Json := .obj (Dict.set "wan" (.str wan) (toServer "web" "tcp" "80").entries)

def withWans (wans : Obj) (fwds : List Json) : Obj := Dict.set "wans" (.obj wans) (withForwards fwds)

/-- The default WAN, and a forward that is bound to it. -/
theorem follow_sessions_wan1 :
    FollowSessions (fun _ => "ppp0") (fun _ _ => true) noLinks (withForwards [webOn "wan1"]) := by
  have hvalid : validate Capabilities.empty (withForwards [webOn "wan1"]) =
      .ok (withForwards [webOn "wan1"], []) := by decide +kernel
  have hplain : ∀ e ∈ enabledWans (withForwards [webOn "wan1"]), isPppoe e.2 = false := by decide
  have hwans : Netd.firewallWans (withForwards [webOn "wan1"]) = [("wan1", "eth3")] := by decide +kernel
  refine (follow_sessions_iff hvalid (by decide) ⟨fun e he hp => ?_, fun e he hp => ?_⟩ _ _).mpr
    ⟨hplain, fun fwd hfwd w hbound => .inr ?_⟩
  · exact absurd hp (by simp [hplain e he])
  · exact absurd hp (by simp [hplain e he])
  · obtain rfl : fwd = (webOn "wan1").entries := List.mem_singleton.mp hfwd
    obtain rfl : "wan1" = w := Json.str.inj hbound.wan
    rw [hwans]
    exact ⟨"eth3", rfl, by decide, by decide⟩

/-- A WAN in PPPoE mode. -/
def pppoeWan : Json :=
  .obj (Dict.set "mode" (.str "pppoe") (Dict.set "pppoe" (.obj [("username", .str "user"),
    ("password", .str "secret"), ("service", .null), ("mru", .int 1492)]) defaultWan))

/-- A disabled WAN. -/
def spareWan : Json := .obj (Dict.set "enabled" (.bool false) (Dict.set "port" (.str "eth2") defaultWan))

/-- The session of a PPPoE WAN is in no zone; and a forward that is bound to a disabled WAN takes what
arrives on another. -/
theorem sessions_missed :
    ((validate Capabilities.empty (withWans [("wan1", pppoeWan)] [])).toOption.isSome = true ∧
      OwnInterfaces (fun _ => "ppp0") (withWans [("wan1", pppoeWan)] []) ∧
      ¬ FollowSessions (fun _ => "ppp0") (fun _ _ => true) noLinks (withWans [("wan1", pppoeWan)] [])) ∧
    (validate Capabilities.empty (withWans [("wan1", .obj defaultWan), ("wan2", spareWan)] [webOn "wan2"])
      ).toOption.isSome = true ∧
    ¬ FollowSessions (fun _ => "ppp0") (fun _ _ => true) noLinks
      (withWans [("wan1", .obj defaultWan), ("wan2", spareWan)] [webOn "wan2"]) := by
  refine ⟨⟨by decide +kernel, ⟨by decide +kernel, by decide +kernel⟩, fun hfollow => ?_⟩, by decide +kernel,
    fun hfollow => ?_⟩
  · have hzone := hfollow.zone ("wan1", "ppp0") (by decide +kernel)
      { arriving (fun _ _ => true) "" 6 0 0 with oif := "ppp0" } rfl
    exact absurd ((set_holds_zone _ _ _).mp hzone) (by decide +kernel)
  · have hcarried : Carried (sessions (fun _ => "ppp0") (withWans [("wan1", .obj defaultWan),
        ("wan2", spareWan)] [webOn "wan2"])) (some "wan1") "eth3" :=
      ⟨fun v hv => by obtain rfl := Option.some.inj hv; decide +kernel, fun hv => absurd hv (by decide)⟩
    have hclaims := hfollow.bound _ (List.mem_singleton_self _) "wan2" rfl (by decide) _ _
      (inbound_arriving (fun _ _ => true) hcarried (.inl rfl) (show 80 < 65536 by decide)
        (show 0 < 2 ^ 32 by decide))
    refine absurd (hclaims (claims_iff_holds.mpr ?_)) (by decide)
    exact ⟨by decide, ⟨"tcp", by decide +kernel, by decide⟩, by decide +kernel, by decide +kernel,
      by decide +kernel⟩

end Sbegw.Nft
