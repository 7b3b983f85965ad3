import Sbegw.Nft.Defaults

/-!
# Into a tunnel

The lines of the tunnels repeat the default policies towards the internet.  The other grounds on which
a packet is kept from the internet, a rule of the user or a network without internet access, are not
repeated; the same packet is followed to a WAN interface and into a tunnel.
-/

namespace Sbegw.Nft

open Text Schema EditM

variable {zones : ZoneMap} {p : Packet} {cfg : Obj}

/-- The packet, were it to leave by the interface. -/
def Packet.toward (p : Packet) (iface : String) : Packet := { p with oif := iface }

/-- The interface is in no zone. -/
def Zoneless (zones : ZoneMap) (iface : String) : Prop := ∀ z, ¬ InZone zones z iface

/-- The lines of the tunnels let in what enters by the interface: the internet is allowed to its zones,
or nothing is said of it and the interface is a tunnel itself. -/
def Admitted (cfg : Obj) (zones : ZoneMap) (iif : String) : Prop :=
  internetVerdict cfg zones iif = some .accept ∨
    internetVerdict cfg zones iif = none ∧ IsTunnel cfg iif

/-- The packet is denied: by the rule that decides, or where there is none by the flag of a network or
by the defaults. -/
def Denied (cfg : Obj) (zones : ZoneMap) (p : Packet) : Prop :=
  match rulesVerdict cfg zones p with
  | some v => v ≠ .accept
  | none => Flagged cfg zones p ∨ defaultVerdict cfg zones p ≠ .accept

/-- A rule of the user denies the packet, or none matches it and the flag of a network does. -/
def Forbidden (cfg : Obj) (zones : ZoneMap) (p : Packet) : Prop :=
  match rulesVerdict cfg zones p with
  | some v => v ≠ .accept
  | none => Flagged cfg zones p

/-! ### Out of all zones -/

/-- What a line of a rule matches leaves by an interface of a zone. -/
theorem inZone_of_ruleLines {rule : Obj} {groups schedules : Json} {ls : List Line}
    (h : ruleLines rule groups schedules = .ok ls) {l : Line} (hl : l ∈ ls)
    (happ : l.applies (zoneSets zones) p = true) :
    InZone zones (pyStr (ruleGet rule "dst_zone" (.str "wan"))) p.oif := by
  obtain ⟨f, -, k, hk, hlk⟩ := (mem_collect h l).mp hl
  cases hr : renderRule rule f groups schedules with
  | error e => simp [hr, Except.map] at hk
  | ok r =>
    rw [hr] at hk
    obtain rfl := Except.ok.inj hk
    rw [Option.mem_toList] at hlk
    subst hlk
    obtain ⟨parts⟩ := parts_of_renderRule hr
    unfold Line.applies at happ
    rw [List.all_eq_true] at happ
    have hoif := happ (.oifname (.set ("zone_" ++ pyStr (ruleGet rule "dst_zone" (.str "wan")))))
      (by rw [parts.guards_eq]; simp [zoneMatches])
    exact (set_holds_zone zones _ p.oif).mp hoif

theorem ruleMatches_zoneless (hz : Zoneless zones p.oif) (r : Obj) : ruleMatches cfg zones p r = false := by
  unfold ruleMatches
  cases hls : ruleLines r (groupsOf cfg) (schedulesOf cfg) with
  | error e => rfl
  | ok ls =>
    rw [← Bool.not_eq_true]
    intro hany
    obtain ⟨l, hl, happ⟩ := List.any_eq_true.mp hany
    exact hz _ (inZone_of_ruleLines hls hl happ)

theorem not_between_zoneless (hz : Zoneless zones p.oif) (src dst : String) : ¬ Between zones src dst p :=
  fun h => hz dst h.2

theorem not_flagged_zoneless (hz : Zoneless zones p.oif) : ¬ Flagged cfg zones p := by
  rintro ⟨e, -, ⟨-, hb⟩ | ⟨-, hb⟩⟩
  · exact not_between_zoneless hz _ _ hb
  · exact not_between_zoneless hz _ _ hb

theorem policyVerdict_zoneless (hz : Zoneless zones p.oif) : policyVerdict cfg zones p = none := by
  unfold policyVerdict
  rw [Option.map_eq_none_iff, List.find?_eq_none]
  intro e _ hb
  exact not_between_zoneless hz _ _ (of_decide_eq_true hb)

/-- What the defaults say of a packet into a tunnel. -/
theorem accept_zoneless (hz : Zoneless zones p.oif) (ht : IsTunnel cfg p.oif) :
    defaultVerdict cfg zones p = .accept ↔ Admitted cfg zones p.iif := by
  unfold defaultVerdict tunnelVerdict Admitted
  rw [policyVerdict_zoneless hz, if_pos ht, Option.none_or]
  cases internetVerdict cfg zones p.iif with
  | some v => simp
  | none =>
    by_cases hi : IsTunnel cfg p.iif
    · simp [hi]
    · simp [hi]

/-! ### The verdict of a new packet -/

theorem networksVerdict_cases (cfg : Obj) (zones : ZoneMap) (p : Packet) :
    ¬ Flagged cfg zones p ∧ networksVerdict zones p (Netd.sectionOf cfg "networks") = none ∨
      Flagged cfg zones p ∧ ∃ v ≠ Verdict.accept,
        networksVerdict zones p (Netd.sectionOf cfg "networks") = some v := by
  rw [← decision_networks]
  cases hd : decision (zoneSets zones) ((Netd.sectionOf cfg "networks").flatMap flagLines) p with
  | none => exact .inl ⟨decision_flagLines_eq_none.mp hd, rfl⟩
  | some v =>
    refine .inr ⟨?_, v, ?_, rfl⟩
    · by_contra hflag
      rw [decision_flagLines_eq_none.mpr hflag] at hd
      cases hd
    · rintro rfl
      exact decision_flagLines _ p hd

/-- A new packet passes if it is on a bridge, forwarded to a port or not denied. -/
theorem accept_iff {lines : List Line} (h : forwardChain cfg zones = .ok lines) (hct : p.ct = .new) :
    verdict zones lines p = .accept ↔ Bridged zones p ∨ p.dnat = true ∨ ¬ Denied cfg zones p := by
  by_cases hp : Fresh zones p
  · have hskip : Bridged zones p ∨ p.dnat = true ∨ ¬ Denied cfg zones p ↔ ¬ Denied cfg zones p := by
      simp [hp.bridged, hp.dnat]
    rw [verdict_fresh h hp, hskip]
    unfold Denied
    cases rulesVerdict cfg zones p with
    | some v => simp
    | none =>
      rcases networksVerdict_cases cfg zones p with ⟨hflag, hn⟩ | ⟨hflag, v, hv, hn⟩
      · simp [hn, hflag]
      · simp [hn, hflag, hv]
  · rw [verdict_not_fresh h hp, hct]
    have hskip : Bridged zones p ∨ p.dnat = true := by
      by_contra hskip
      rw [not_or] at hskip
      exact hp ⟨hct, hskip.1, by simpa using hskip.2⟩
    exact iff_of_true rfl (or_assoc.mp (.inl hskip))

/-- The defaults alone are asked of a packet into a tunnel. -/
theorem denied_zoneless (hz : Zoneless zones p.oif) (ht : IsTunnel cfg p.oif) :
    Denied cfg zones p ↔ ¬ Admitted cfg zones p.iif := by
  have hrules : rulesVerdict cfg zones p = none :=
    rulesVerdict_eq_none.mpr fun r _ => ruleMatches_zoneless hz r
  unfold Denied
  rw [hrules, ← accept_zoneless hz ht]
  exact or_iff_right (not_flagged_zoneless hz)

/-- Where the WAN interface is in the zone of the internet only, the defaults do not deny what the
tunnels let in: the rules and the networks do. -/
theorem denied_of_admitted {w : String} (hw : InZone zones "wan" w) (hsole : ∀ z, InZone zones z w → z = "wan")
    (h : Admitted cfg zones p.iif) :
    Denied cfg zones (p.toward w) ↔ Forbidden cfg zones (p.toward w) := by
  -- between zones, the policies that count are those towards the internet
  have hpolicy : policyVerdict cfg zones (p.toward w) = internetVerdict cfg zones p.iif := by
    unfold policyVerdict internetVerdict wanPolicies
    rw [List.find?_filter]
    congr 2
    funext e
    rw [Bool.eq_iff_iff]
    simp only [decide_eq_true_eq]
    show InZone zones _ p.iif ∧ InZone zones _ w ↔ _
    constructor
    · rintro ⟨hsrc, hdst⟩
      simp [hsrc, hsole _ hdst]
    · intro hboth
      exact ⟨hboth.2, by rw [hboth.1]; exact hw⟩
  have hdefault : defaultVerdict cfg zones (p.toward w) = .accept := by
    unfold defaultVerdict tunnelVerdict
    rw [hpolicy]
    show ((internetVerdict cfg zones p.iif).or ((if IsTunnel cfg w then internetVerdict cfg zones p.iif
      else none).or (if IsTunnel cfg p.iif then some .accept else none))).getD .drop = _
    rcases h with h | ⟨h, ht⟩
    · rw [h]
      rfl
    · rw [h, if_pos ht]
      simp
  unfold Denied Forbidden
  rw [hdefault]
  simp

/-- The two ways of one packet. -/
theorem keeps_denial_iff {lines : List Line} (hl : forwardChain cfg zones = .ok lines) (hnew : p.ct = .new)
    (w : String) {tun : String} (ht : IsTunnel cfg tun) (hz : Zoneless zones tun) :
    (verdict zones lines (p.toward w) ≠ .accept → verdict zones lines (p.toward tun) ≠ .accept) ↔
      (Bridged zones (p.toward tun) ∨ Admitted cfg zones p.iif →
        Bridged zones (p.toward w) ∨ p.dnat = true ∨ ¬ Denied cfg zones (p.toward w)) := by
  have hwan : verdict zones lines (p.toward w) = .accept ↔ Bridged zones (p.toward w) ∨ p.dnat = true ∨
      ¬ Denied cfg zones (p.toward w) := accept_iff hl hnew
  have htun : verdict zones lines (p.toward tun) = .accept ↔ Bridged zones (p.toward tun) ∨
      p.dnat = true ∨ ¬ Denied cfg zones (p.toward tun) := accept_iff hl hnew
  have hdenied : Denied cfg zones (p.toward tun) ↔ ¬ Admitted cfg zones p.iif := denied_zoneless hz ht
  rw [hdenied, not_not] at htun
  rw [ne_eq, ne_eq, hwan, htun]
  constructor
  · intro h hin
    by_contra hkept
    exact h hkept (hin.imp_right .inr)
  · rintro h hkept (hb | hd | ha)
    · exact hkept (h (.inl hb))
    · exact hkept (.inr (.inl hd))
    · exact hkept (h (.inr ha))

/-- **Tunnels and the denial of the internet.** What is kept from a WAN interface is kept from the
tunnels exactly where the tunnels do not let it in themselves, or nothing keeps it from the WAN.  Of
what keeps it from there the tunnels honour the defaults, and neither the rules nor the networks. -/
theorem tunnel_keeps_denial {t : Obj} (wanIfaces : Dict String String) (links : Netd.Links)
    {lines : List Line} (hl : forwardChain t (Netd.zoneInterfaces t wanIfaces links) = .ok lines)
    {p : Packet} (hnew : p.ct = .new) {w : String}
    (hw : InZone (Netd.zoneInterfaces t wanIfaces links) "wan" w) {tun : String} (ht : IsTunnel t tun)
    (hz : Zoneless (Netd.zoneInterfaces t wanIfaces links) tun) :
    ((verdict (Netd.zoneInterfaces t wanIfaces links) lines (p.toward w) ≠ .accept →
          verdict (Netd.zoneInterfaces t wanIfaces links) lines (p.toward tun) ≠ .accept) ↔
        (Bridged (Netd.zoneInterfaces t wanIfaces links) (p.toward tun) ∨
            Admitted t (Netd.zoneInterfaces t wanIfaces links) p.iif →
          Bridged (Netd.zoneInterfaces t wanIfaces links) (p.toward w) ∨ p.dnat = true ∨
            ¬ Denied t (Netd.zoneInterfaces t wanIfaces links) (p.toward w))) ∧
      ((∀ z, InZone (Netd.zoneInterfaces t wanIfaces links) z w → z = "wan") →
        Admitted t (Netd.zoneInterfaces t wanIfaces links) p.iif →
        (Denied t (Netd.zoneInterfaces t wanIfaces links) (p.toward w) ↔
          Forbidden t (Netd.zoneInterfaces t wanIfaces links) (p.toward w))) :=
  ⟨keeps_denial_iff hl hnew w ht hz, fun hsole hin => denied_of_admitted hw hsole hin⟩

/-! ### A network without internet -/

def usualZones : ZoneMap := Netd.zoneInterfaces defaultEntries [("wan1", "eth3")] noLinks

/-- From an interface that is in no zone. -/
def stranger : Packet := { outbound .ip with iif := "eth9" }

theorem zoneless_tun0 : Zoneless usualZones "tun0" := by
  intro z hz
  have hnone : ∀ e ∈ Netd.placements defaultEntries [("wan1", "eth3")] noLinks, e.2 ≠ "tun0" := by
    decide
  exact hnone _ (Netd.inZone_zoneInterfaces.mp hz) rfl

/-- What is in no zone is kept from the WAN and from the tunnels. -/
theorem tunnel_keeps_denial_stranger :
    verdict usualZones (chainOf defaultEntries usualZones) (stranger.toward "eth3") = .drop ∧
      verdict usualZones (chainOf defaultEntries usualZones) (stranger.toward "tun0") ≠ .accept := by
  have hchain : forwardChain defaultEntries usualZones = .ok (chainOf defaultEntries usualZones) := by
    decide
  have hout : ¬ (Bridged usualZones (stranger.toward "tun0") ∨
      Admitted defaultEntries usualZones stranger.iif) := by
    unfold Admitted
    decide
  have hdrop : verdict usualZones (chainOf defaultEntries usualZones) (stranger.toward "eth3") = .drop := by
    decide
  have hkeeps := (tunnel_keeps_denial [("wan1", "eth3")] noLinks hchain (p := stranger) rfl (w := "eth3")
    (by decide) (by decide) zoneless_tun0).1.mpr fun hin => absurd hin hout
  have hne : verdict usualZones (chainOf defaultEntries usualZones) (stranger.toward "eth3") ≠ .accept := by
    rw [hdrop]
    decide
  exact ⟨hdrop, hkeeps hne⟩

/-- The network of the LAN without internet access. -/
def offlineLan : Obj :=
  Dict.set "networks"
    (.obj [("default", .obj (Dict.set "internet_access" (.bool false) defaultNetwork))]) defaultEntries

/-- Its clients reach the internet through a tunnel. -/
theorem tunnel_reaches_internet :
    validate Capabilities.empty offlineLan = .ok (offlineLan, []) ∧
      Netd.zoneInterfaces offlineLan [("wan1", "eth3")] noLinks = usualZones ∧
      forwardChain offlineLan usualZones = .ok (chainOf offlineLan usualZones) ∧
      InZone usualZones "wan" "eth3" ∧ IsTunnel offlineLan "tun0" ∧ Zoneless usualZones "tun0" ∧
      verdict usualZones (chainOf offlineLan usualZones) ((outbound .ip).toward "eth3") = .reject ∧
      verdict usualZones (chainOf offlineLan usualZones) ((outbound .ip).toward "tun0") = .accept :=
  ⟨by decide +kernel, by decide +kernel, by decide +kernel, by decide +kernel, by decide +kernel,
    zoneless_tun0, by decide +kernel, by decide +kernel⟩

end Sbegw.Nft
