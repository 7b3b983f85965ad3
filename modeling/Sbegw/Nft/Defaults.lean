import Sbegw.Nft.Policy

/-!
# Past the user's rules

What the lines after the user's rules say of a packet, read off the configuration: the flags of the
networks in document order, then the default policies, then the tunnels.
-/

namespace Sbegw.Nft

open Text Schema EditM

variable {zones : ZoneMap} {p : Packet}

/-! ### The flags of a network -/

/-- The two settings of a network that deny something. -/
inductive Flag where
  | isolation
  | internetAccess
deriving DecidableEq

namespace Flag

def key : Flag → String
  | isolation => "isolation"
  | internetAccess => "internet_access"

/-- The flag of the network is set so that it denies. -/
def denies (net : Json) : Flag → Bool
  | isolation => isolated net
  | internetAccess => offline net

/-- The zone that the packets are denied. -/
def toward (net : Json) : Flag → String
  | isolation => netZone net
  | internetAccess => "wan"

def verdict : Flag → Verdict
  | isolation => .drop
  | internetAccess => .reject

def line (nid : String) (net : Json) : Flag → Line
  | isolation => isolationLine nid net
  | internetAccess => offlineLine nid net

/-- The lines of one flag: one or none. -/
def lines (e : String × Json) (flag : Flag) : List Line :=
  if flag.denies e.2 then [flag.line e.1 e.2] else []

end Flag

theorem flagLines_eq (e : String × Json) :
    flagLines e = Flag.isolation.lines e ++ Flag.internetAccess.lines e := rfl

instance (zones : ZoneMap) (src dst : String) (p : Packet) : Decidable (Between zones src dst p) :=
  inferInstanceAs (Decidable (_ ∧ _))

/-- The packet is one that the flag of the network is about. -/
def Concerns (zones : ZoneMap) (p : Packet) (flag : Flag) (net : Json) : Prop :=
  Between zones (netZone net) (flag.toward net) p

instance (zones : ZoneMap) (p : Packet) (flag : Flag) (net : Json) : Decidable (Concerns zones p flag net) :=
  inferInstanceAs (Decidable (Between _ _ _ _))

/-- What one flag of a network says. -/
def flagVerdict (zones : ZoneMap) (p : Packet) (net : Json) (flag : Flag) : Option Verdict :=
  if flag.denies net = true ∧ Concerns zones p flag net then some flag.verdict else none

/-- What the flags of the networks say: the first that denies does. -/
def networksVerdict (zones : ZoneMap) (p : Packet) (networks : Obj) : Option Verdict :=
  networks.findSome? fun e =>
    (flagVerdict zones p e.2 .isolation).or (flagVerdict zones p e.2 .internetAccess)

/-! ### Default policies and tunnels -/

/-- What the default policies say: the first in the order of their keys. -/
def policyVerdict (cfg : Obj) (zones : ZoneMap) (p : Packet) : Option Verdict :=
  ((Dict.sorted (policiesOf cfg)).find? fun e =>
    Between zones (policyEnds e.1).1 (policyEnds e.1).2 p).map fun e => verdictOf e.2

/-- What the default policies say of the internet, for the zones of the interface. -/
def internetVerdict (cfg : Obj) (zones : ZoneMap) (iif : String) : Option Verdict :=
  ((wanPolicies (policiesOf cfg)).find? fun e => InZone zones (policyEnds e.1).1 iif).map
    fun e => verdictOf e.2

/-- The interface is a tunnel. -/
def IsTunnel (cfg : Obj) (iface : String) : Prop :=
  ∃ pattern ∈ tunnelPatterns (firewallOf cfg), ifMatches pattern iface = true

instance (cfg : Obj) (iface : String) : Decidable (IsTunnel cfg iface) :=
  inferInstanceAs (Decidable (∃ pattern ∈ _, _))

/-- What is said of a packet into a tunnel or out of one. -/
def tunnelVerdict (cfg : Obj) (zones : ZoneMap) (p : Packet) : Option Verdict :=
  (if IsTunnel cfg p.oif then internetVerdict cfg zones p.iif else none).or
    (if IsTunnel cfg p.iif then some .accept else none)

/-- What the configuration says of a packet that no network denies. -/
def defaultVerdict (cfg : Obj) (zones : ZoneMap) (p : Packet) : Verdict :=
  ((policyVerdict cfg zones p).or (tunnelVerdict cfg zones p)).getD .drop

/-! ### The lines say that -/

theorem applies_flag (zones : ZoneMap) (p : Packet) (nid : String) (net : Json) (flag : Flag) :
    (flag.line nid net).applies (zoneSets zones) p = true ↔ Concerns zones p flag net := by
  cases flag with
  | isolation => exact applies_zoneLine
  | internetAccess => exact applies_zoneLine

theorem verdict_flag (nid : String) (net : Json) (flag : Flag) :
    (flag.line nid net).verdict = some flag.verdict := by
  cases flag with
  | isolation => rfl
  | internetAccess => rfl

theorem decision_flag (zones : ZoneMap) (p : Packet) (e : String × Json) (flag : Flag) :
    decision (zoneSets zones) (flag.lines e) p = flagVerdict zones p e.2 flag := by
  unfold Flag.lines flagVerdict decision
  by_cases hd : flag.denies e.2 = true
  · rw [if_pos hd, Chain.first_cons, Chain.first_nil, verdict_flag]
    by_cases hc : Concerns zones p flag e.2
    · rw [if_pos ((applies_flag zones p e.1 e.2 flag).mpr hc), if_pos ⟨hd, hc⟩]
      rfl
    · rw [if_neg (mt (applies_flag zones p e.1 e.2 flag).mp hc), if_neg fun h => hc h.2]
  · rw [if_neg hd, if_neg fun h => hd h.1]
    rfl

theorem decision_networks (zones : ZoneMap) (p : Packet) (networks : Obj) :
    decision (zoneSets zones) (networks.flatMap flagLines) p = networksVerdict zones p networks := by
  unfold networksVerdict
  rw [decision, Chain.first_flatMap]
  congr 1
  funext e
  show decision (zoneSets zones) (flagLines e) p = _
  rw [flagLines_eq, decision_append, decision_flag, decision_flag]

theorem decision_policies (cfg : Obj) (zones : ZoneMap) (p : Packet) :
    decision (zoneSets zones) ((Dict.sorted (policiesOf cfg)).map policyLine) p =
      policyVerdict cfg zones p := by
  have hone : ∀ e ∈ Dict.sorted (policiesOf cfg), (policyLine e).verdict = some (verdictOf e.2) :=
    fun _ _ => rfl
  unfold policyVerdict
  rw [decision, Chain.first_map_verdict hone]
  congr 2
  funext e
  rw [Bool.eq_iff_iff, decide_eq_true_eq]
  exact applies_zoneLine

/-- The lines of one pattern. -/
theorem decision_tunnel (cfg : Obj) (zones : ZoneMap) (p : Packet) (pattern : String) :
    decision (zoneSets zones) ((wanPolicies (policiesOf cfg)).map (tunnelLine pattern)) p =
      if ifMatches pattern p.oif = true then internetVerdict cfg zones p.iif else none := by
  have hone : ∀ e ∈ wanPolicies (policiesOf cfg), (tunnelLine pattern e).verdict = some (verdictOf e.2) :=
    fun _ _ => rfl
  rw [decision, Chain.first_map_verdict hone]
  split
  · next hoif =>
    unfold internetVerdict
    congr 2
    funext e
    rw [Bool.eq_iff_iff, decide_eq_true_eq, applies_tunnelLine]
    exact and_iff_left hoif
  · next hoif =>
    rw [Option.map_eq_none_iff, List.find?_eq_none]
    intro e _ happ
    exact hoif (applies_tunnelLine.mp happ).2

theorem decision_tunnels (cfg : Obj) (zones : ZoneMap) (p : Packet) (patterns : List String) :
    decision (zoneSets zones)
        (patterns.flatMap fun pattern => (wanPolicies (policiesOf cfg)).map (tunnelLine pattern)) p =
      if ∃ pattern ∈ patterns, ifMatches pattern p.oif = true then internetVerdict cfg zones p.iif
      else none := by
  induction patterns with
  | nil => simp [decision]
  | cons pattern patterns ih =>
    rw [List.flatMap_cons, decision_append, ih, decision_tunnel]
    by_cases h : ifMatches pattern p.oif = true
    · have hcons : ∃ q ∈ pattern :: patterns, ifMatches q p.oif = true := ⟨pattern, List.mem_cons_self, h⟩
      rw [if_pos h, if_pos hcons]
      split
      · exact Option.or_self
      · exact Option.or_none
    · have hrest : (∃ q ∈ patterns, ifMatches q p.oif = true) ↔
          ∃ q ∈ pattern :: patterns, ifMatches q p.oif = true := by simp [h]
      rw [if_neg h, Option.none_or]
      exact if_congr hrest rfl rfl

theorem decision_returns (cfg : Obj) (zones : ZoneMap) (p : Packet) :
    decision (zoneSets zones) ((tunnelPatterns (firewallOf cfg)).map returnLine) p =
      if IsTunnel cfg p.iif then some .accept else none := by
  have hone : ∀ l ∈ (tunnelPatterns (firewallOf cfg)).map returnLine, l.verdict = some Verdict.accept := by
    intro l hl
    obtain ⟨pattern, -, rfl⟩ := List.mem_map.mp hl
    rfl
  rw [decision, Chain.first_of_verdict hone]
  congr 1
  rw [List.any_map, eq_iff_iff, List.any_eq_true]
  exact exists_congr fun pattern => and_congr_right fun _ => applies_returnLine

/-- The lines after those of the networks. -/
def policyLines (fw : Json) : List Line :=
  let policies := (fw.getD "default_policies" (.obj [])).entries
  let patterns := tunnelPatterns fw
  (Dict.sorted policies).map policyLine ++
    patterns.flatMap (fun p => (wanPolicies policies).map (tunnelLine p)) ++ patterns.map returnLine ++
    [dropLine]

theorem zoneDefaults_eq (fw : Json) (networks : Obj) :
    zoneDefaults fw networks = networks.flatMap flagLines ++ policyLines fw := by
  unfold zoneDefaults policyLines
  simp only [List.append_assoc]

theorem decision_policyLines (cfg : Obj) (zones : ZoneMap) (p : Packet) :
    decision (zoneSets zones) (policyLines (firewallOf cfg)) p = some (defaultVerdict cfg zones p) := by
  have hdrop : decision (zoneSets zones) [dropLine] p = some .drop := rfl
  unfold policyLines defaultVerdict tunnelVerdict
  simp only
  rw [decision_append, decision_append, decision_append, decision_returns, hdrop]
  rw [show ((firewallOf cfg).getD "default_policies" (.obj [])).entries = policiesOf cfg from rfl]
  rw [decision_policies, decision_tunnels, Option.or_assoc, Option.or_assoc]
  show ((policyVerdict cfg zones p).or ((if IsTunnel cfg p.oif then internetVerdict cfg zones p.iif
    else none).or _)) = _
  cases policyVerdict cfg zones p with
  | some v => rfl
  | none =>
    rw [Option.none_or, Option.none_or, ← Option.or_assoc]
    exact Option.or_some

/-- **Past the user's rules.** -/
theorem decision_zoneDefaults (cfg : Obj) (zones : ZoneMap) (p : Packet) (networks : Obj) :
    decision (zoneSets zones) (zoneDefaults (firewallOf cfg) networks) p =
      some ((networksVerdict zones p networks).getD (defaultVerdict cfg zones p)) := by
  rw [zoneDefaults_eq, decision_append, decision_networks, decision_policyLines]
  exact Option.or_some

/-! ### Which packets get there -/

/-- The packet of a flow that has to be decided: it is new, on no bridge and not forwarded to a port. -/
structure Fresh (zones : ZoneMap) (p : Packet) : Prop where
  new : p.ct = .new
  bridged : ¬ Bridged zones p
  dnat : p.dnat = false

/-- What the user's rules say. -/
def rulesVerdict (cfg : Obj) (zones : ZoneMap) (p : Packet) : Option Verdict :=
  ((byIndex (rulesInForce cfg)).find? (ruleMatches cfg zones p)).map ruleVerdict

theorem verdict_fresh {cfg : Obj} {lines : List Line} (h : forwardChain cfg zones = .ok lines)
    (hp : Fresh zones p) : verdict zones lines p =
      (rulesVerdict cfg zones p).getD
        ((networksVerdict zones p (Netd.sectionOf cfg "networks")).getD (defaultVerdict cfg zones p)) := by
  have hskip : ¬ (Bridged zones p ∨ p.dnat = true) := by simp [hp.bridged, hp.dnat]
  unfold verdict
  rw [decision_forwardChain h, hp.new]
  simp only [if_neg hskip, decision_zoneDefaults]
  show ((rulesVerdict cfg zones p).or _).getD .drop = _
  cases rulesVerdict cfg zones p with
  | none => rfl
  | some v => rfl

/-- Any other packet is decided whatever the configuration says. -/
theorem verdict_not_fresh {cfg : Obj} {lines : List Line} (h : forwardChain cfg zones = .ok lines)
    (hp : ¬ Fresh zones p) : verdict zones lines p = if p.ct = .invalid then .drop else .accept := by
  unfold verdict
  rw [decision_forwardChain h]
  cases hct : p.ct with
  | new =>
    have hskip : Bridged zones p ∨ p.dnat = true := by
      by_contra hskip
      rw [not_or] at hskip
      exact hp ⟨hct, hskip.1, by simpa using hskip.2⟩
    simp [hskip]
  | established => rfl
  | related => rfl
  | invalid => rfl

theorem rulesVerdict_eq_none {cfg : Obj} : rulesVerdict cfg zones p = none ↔
    ∀ r ∈ rulesInForce cfg, ruleMatches cfg zones p r = false := by
  unfold rulesVerdict
  rw [Option.map_eq_none_iff]
  constructor
  · exact none_matches
  · intro h
    rw [List.find?_eq_none]
    intro r hr
    rw [h r ((List.mem_insertionSort _).mp hr)]
    decide

end Sbegw.Nft
