import Mathlib.Data.String.Basic
import Sbegw.Netd.Risk

/-!
# Packets for the gateway itself

The input chain, line by line.  What comes over loopback or belongs to a flow is let in, and some ICMP; beyond that the
zone decides that the interface is in: all of the gateway, or name service and DHCP alone.  A WAN is in none of these.
-/

namespace Sbegw.Nft

open Text Schema Netd

/-! ### Lines -/

/-- The message types that are let in. -/
def icmpTypes : List String := ["echo-request", "destination-unreachable", "time-exceeded", "parameter-problem"]

def icmpv6Types : List String :=
  ["echo-request", "destination-unreachable", "packet-too-big", "time-exceeded", "parameter-problem",
    "nd-router-solicit", "nd-router-advert", "nd-neighbor-solicit", "nd-neighbor-advert", "mld-listener-query",
    "mld-listener-report", "mld2-listener-report"]

/-- A match of the input chain. -/
inductive InputMatch where
  | loopback
  | ctState (states : List CtState)
  | icmp
  | icmpv6
  | ports (proto : String) (ports : List ℕ)
  | zone (name : String)

namespace InputMatch

/-- One port, or a set. -/
def portsText : List ℕ → String
  | [p] => ofNat p
  | ps => quoteSet (ps.map ofNat)

def text : InputMatch → String
  | loopback => "iif lo"
  | ctState states => "ct state " ++ join "," (states.map CtState.text)
  | icmp => "icmp type " ++ quoteSet icmpTypes ++ " limit rate 20/second"
  | icmpv6 => "icmpv6 type " ++ quoteSet icmpv6Types
  | ports proto ps => proto ++ " dport " ++ portsText ps
  | zone name => "iifname @zone_" ++ name

/-- The match holds of a packet.  A match on a message type is on the packets of that protocol. -/
def holds (zones : ZoneMap) (p : Packet) : InputMatch → Bool
  | loopback => p.iif == "lo"
  | ctState states => states.contains p.ct
  | icmp => p.version == .ip && protoNumber "icmp" == some p.l4proto && p.meets icmp.text
  | icmpv6 => p.version == .ip6 && protoNumber "icmpv6" == some p.l4proto && p.meets icmpv6.text
  | ports proto ps => protoNumber proto == some p.l4proto && ps.contains p.dport
  | zone name => decide (InZone zones name p.iif)

end InputMatch

structure InputLine where
  guards : List InputMatch
  counter : Bool
  verdict : Verdict
  comment : Option String

def InputLine.text (l : InputLine) : String :=
  join " " (l.guards.map InputMatch.text ++ (if l.counter then ["counter"] else []) ++ [l.verdict.text] ++
    l.comment.toList.map fun c => "comment " ++ quoted c)

def InputLine.applies (zones : ZoneMap) (l : InputLine) (p : Packet) : Bool :=
  l.guards.all (InputMatch.holds zones p)

/-- What a zone that is not allowed to the gateway gets: reject or drop. -/
def restriction (action : String) : Verdict := if action = "drop" then .drop else .reject

/-- The lines of a zone. -/
def zoneInputLines (policies : Json) (zone : String) : List InputLine :=
  if zone = "wan" ∨ zone = "gateway" then []
  else if inputAction policies zone = "accept" then
    [⟨[.zone zone], true, .accept, some (zone ++ "->gateway: all ports")⟩]
  else
    [⟨[.zone zone, .ports "udp" [53, 67]], true, .accept, some "dns/dhcp only"⟩,
      ⟨[.zone zone, .ports "tcp" [53]], true, .accept, none⟩,
      ⟨[.zone zone], true, restriction (inputAction policies zone), none⟩]

def inputHeadLines : List InputLine :=
  [⟨[.loopback], false, .accept, none⟩, ⟨[.ctState [.established, .related]], false, .accept, none⟩,
    ⟨[.ctState [.invalid]], true, .drop, none⟩, ⟨[.icmp], false, .accept, none⟩, ⟨[.icmpv6], false, .accept, none⟩,
    ⟨[.ports "udp" [546]], false, .accept, none⟩]

def inputTailLines : List InputLine :=
  [⟨[.zone "wan"], true, .drop, some "wan to gateway"⟩, ⟨[], true, .drop, none⟩]

/-- The input chain. -/
def inputChain (policies : Json) (zones : ZoneMap) : List InputLine :=
  inputHeadLines ++ (Dict.sorted zones).flatMap (fun e => zoneInputLines policies e.1) ++ inputTailLines

/-- What the chain says of a packet: its policy is to drop. -/
def inputVerdict (cfg : Obj) (zones : ZoneMap) (p : Packet) : Verdict :=
  (Chain.first (InputLine.applies zones) (fun l => some l.verdict) (inputChain (defaultPolicies cfg) zones) p).getD
    .drop

/-! ### The text -/

theorem inputAction_cases (policies : Json) (zone : String) : inputAction policies zone = "accept" ∨
    inputAction policies zone = "drop" ∨ inputAction policies zone = "reject" := by
  unfold inputAction
  dsimp only
  split
  · exact .inl rfl
  · split
    · exact .inr (.inl rfl)
    · exact .inr (.inr rfl)

theorem text_restriction {action : String} (h : action = "drop" ∨ action = "reject") :
    (restriction action).text = action := by
  rcases h with rfl | rfl
  · rfl
  · rfl

/-- The text of a line, as the renderer indents it. -/
def InputLine.indented (l : InputLine) : String := "        " ++ l.text

theorem portsText_served : InputMatch.portsText [53, 67] = "\x7b 53, 67 \x7d" ∧ InputMatch.portsText [53] = "53" := by
  decide

theorem inputLines_eq (policies : Json) (zone : String) :
    inputLines policies zone = (zoneInputLines policies zone).map InputLine.indented := by
  unfold inputLines zoneInputLines
  dsimp only
  split
  · rfl
  · rcases inputAction_cases policies zone with h | h
    · rw [h, if_pos rfl, if_pos rfl]
      simp only [List.map_cons, List.map_nil, List.cons.injEq, and_true]
      refine String.toList_inj.mp ?_
      simp [InputLine.indented, InputLine.text, InputMatch.text, Verdict.text, quoted, join]
    · have hne : inputAction policies zone ≠ "accept" := by
        rcases h with h | h
        · rw [h]
          decide
        · rw [h]
          decide
      rw [if_neg hne, if_neg hne]
      have htext := text_restriction h
      simp only [List.map_cons, List.map_nil, List.cons.injEq, and_true]
      refine ⟨String.toList_inj.mp ?_, String.toList_inj.mp ?_, String.toList_inj.mp ?_⟩
      · simp [InputLine.indented, InputLine.text, InputMatch.text, Verdict.text, quoted, join, portsText_served]
      · simp [InputLine.indented, InputLine.text, InputMatch.text, Verdict.text, join, portsText_served]
      · simp [InputLine.indented, InputLine.text, InputMatch.text, join, htext]

/-- **What is rendered is the chain.** -/
theorem renderInputChain_eq (cfg : Obj) (zones : ZoneMap) : renderInputChain cfg zones =
    ["    chain input \x7b", "        type filter hook input priority 0; policy drop;"] ++
      (inputChain (defaultPolicies cfg) zones).map InputLine.indented ++ ["    \x7d"] := by
  have hhead : inputHead = ["    chain input \x7b", "        type filter hook input priority 0; policy drop;"] ++
      inputHeadLines.map InputLine.indented := by decide +kernel
  have htail : inputTail = inputTailLines.map InputLine.indented ++ ["    \x7d"] := by decide
  unfold renderInputChain inputChain
  rw [hhead, htail, List.map_append, List.map_append, List.map_flatMap]
  simp only [inputLines_eq, List.append_assoc]

/-! ### What is let in -/

/-- Name service and DHCP. -/
def Resolves (p : Packet) : Prop :=
  (p.l4proto = 17 ∧ (p.dport = 53 ∨ p.dport = 67)) ∨ (p.l4proto = 6 ∧ p.dport = 53)

instance (p : Packet) : Decidable (Resolves p) := inferInstanceAs (Decidable (_ ∨ _))

/-- ICMP of the types that are let in, and the answers of a DHCPv6 server. -/
def Control (p : Packet) : Prop :=
  (p.version = .ip ∧ p.l4proto = 1 ∧ p.meets InputMatch.icmp.text = true) ∨
    (p.version = .ip6 ∧ p.l4proto = 58 ∧ p.meets InputMatch.icmpv6.text = true) ∨ (p.l4proto = 17 ∧ p.dport = 546)

instance (p : Packet) : Decidable (Control p) := inferInstanceAs (Decidable (_ ∨ _ ∨ _))

/-- What the zone says of a packet. -/
def zoneVerdict (policies : Json) (p : Packet) (zone : String) : Verdict :=
  if inputAction policies zone = "accept" ∨ Resolves p then .accept else restriction (inputAction policies zone)

/-- The zones that decide about packets for the gateway. -/
def Deciding (zone : String) : Prop := zone ≠ "wan" ∧ zone ≠ "gateway"

instance (zone : String) : Decidable (Deciding zone) := inferInstanceAs (Decidable (_ ∧ _))

section Verdict

variable {cfg : Obj} {zones : ZoneMap} {p : Packet}

theorem holds_ports {proto : String} {n : ℕ} (h : protoNumber proto = some n) (ps : List ℕ) :
    (InputMatch.ports proto ps).holds zones p = decide (p.l4proto = n ∧ p.dport ∈ ps) := by
  show (protoNumber proto == some p.l4proto && ps.contains p.dport) = _
  rw [h, Bool.decide_and, List.contains_eq_mem]
  congr 1
  rw [Option.some_beq_some, beq_eq_decide]
  exact decide_eq_decide.mpr eq_comm

theorem holds_message (version : Family) {proto : String} {n : ℕ} (h : protoNumber proto = some n) (text : String) :
    (p.version == version && protoNumber proto == some p.l4proto && p.meets text) =
      decide (p.version = version ∧ p.l4proto = n ∧ p.meets text = true) := by
  rw [h, Bool.decide_and, Bool.decide_and, Bool.and_assoc, beq_eq_decide, Option.some_beq_some, beq_eq_decide,
    Bool.decide_eq_true]
  congr 2
  exact decide_eq_decide.mpr eq_comm

theorem first_zoneInputLines (policies : Json) (zone : String) :
    Chain.first (InputLine.applies zones) (fun l => some l.verdict) (zoneInputLines policies zone) p =
      if Deciding zone ∧ InZone zones zone p.iif then some (zoneVerdict policies p zone) else none := by
  unfold zoneInputLines
  by_cases hz : zone = "wan" ∨ zone = "gateway"
  · have hnot : ¬ (Deciding zone ∧ InZone zones zone p.iif) := fun h => hz.elim h.1.1 h.1.2
    rw [if_pos hz, if_neg hnot]
    rfl
  · have hdec : Deciding zone := not_or.mp hz
    rw [if_neg hz]
    by_cases hin : InZone zones zone p.iif
    · have hboth : Deciding zone ∧ InZone zones zone p.iif := ⟨hdec, hin⟩
      have hzone : (InputMatch.zone zone).holds zones p = true := decide_eq_true hin
      have hudp := @holds_ports zones p "udp" _ rfl [53, 67]
      have htcp := @holds_ports zones p "tcp" _ rfl [53]
      rw [if_pos hboth]
      unfold zoneVerdict
      by_cases hallow : inputAction policies zone = "accept"
      · rw [if_pos hallow, if_pos (.inl hallow)]
        simp [Chain.first, InputLine.applies, hzone]
      · rw [if_neg hallow]
        simp only [Chain.first, InputLine.applies, List.all_cons, List.all_nil, Bool.and_true, hzone, Bool.true_and,
          hudp, htcp, hallow, false_or, Resolves, List.mem_cons, List.not_mem_nil, or_false, decide_eq_true_eq,
          Option.some_or, if_true]
        by_cases h₁ : p.l4proto = 17 ∧ (p.dport = 53 ∨ p.dport = 67)
        · rw [if_pos h₁, if_pos (.inl h₁)]
        · by_cases h₂ : p.l4proto = 6 ∧ p.dport = 53
          · rw [if_neg h₁, if_pos h₂, if_pos (.inr h₂)]
          · rw [if_neg h₁, if_neg h₂, if_neg (not_or.mpr ⟨h₁, h₂⟩)]
    · have hnot : ¬ (Deciding zone ∧ InZone zones zone p.iif) := fun h => hin h.2
      rw [if_neg hnot]
      have hzone : (InputMatch.zone zone).holds zones p = false := decide_eq_false hin
      split <;> simp [Chain.first, InputLine.applies, hzone]

/-- The zone whose lines decide: the first, in the order of the names, that the interface is in. -/
def Foremost (zones : ZoneMap) (iface zone : String) : Prop :=
  zone ∈ Dict.keys zones ∧ Deciding zone ∧ InZone zones zone iface ∧
    ∀ z ∈ Dict.keys zones, Deciding z → InZone zones z iface → zone ≤ z

theorem findSome?_ite {α β : Type} (q : α → Bool) (f : α → β) (l : List α) :
    (l.findSome? fun a => if q a = true then some (f a) else none) = (l.find? q).map f := by
  induction l with
  | nil => rfl
  | cons a l ih =>
    rw [List.findSome?_cons, List.find?_cons]
    cases q a with
    | true => rfl
    | false => exact ih

theorem find?_sorted {q : String × List String → Bool} {e : String × List String}
    (h : (Dict.sorted zones).find? q = some e) : q e = true ∧ e ∈ zones ∧ ∀ x ∈ zones, q x = true → e.1 ≤ x.1 := by
  have hsort : Dict.sorted zones = zones.insertionSort fun x y : String × List String => x.1 ≤ y.1 := by
    unfold Dict.sorted
    congr
  rw [hsort] at h
  obtain ⟨before, after, rfl, hq, hbefore, hafter⟩ :=
    Chain.find?_insertionSort (K := String) (fun e : String × List String => e.1) q h
  refine ⟨hq, List.mem_append_right _ List.mem_cons_self, fun x hx hqx => ?_⟩
  rcases List.mem_append.mp hx with hx | hx
  · exact (hbefore x hx hqx).le
  · rcases List.mem_cons.mp hx with rfl | hx
    · exact le_refl _
    · exact hafter x hx hqx

/-- The lines of the zones decide as the foremost zone of the interface says. -/
theorem first_zones (policies : Json) (v : Verdict) :
    Chain.first (InputLine.applies zones) (fun l => some l.verdict)
        ((Dict.sorted zones).flatMap fun e => zoneInputLines policies e.1) p = some v ↔
      ∃ z, Foremost zones p.iif z ∧ v = zoneVerdict policies p z := by
  rw [Chain.first_flatMap]
  simp only [first_zoneInputLines]
  rw [show (fun e : String × List String => if Deciding e.1 ∧ InZone zones e.1 p.iif then
      some (zoneVerdict policies p e.1) else none) = fun e : String × List String =>
        if decide (Deciding e.1 ∧ InZone zones e.1 p.iif) = true then some (zoneVerdict policies p e.1) else none from
    funext fun e => by simp only [decide_eq_true_eq]]
  rw [findSome?_ite, Option.map_eq_some_iff]
  constructor
  · rintro ⟨e, hfind, rfl⟩
    obtain ⟨hq, he, hleast⟩ := find?_sorted hfind
    obtain ⟨hdec, hin⟩ := of_decide_eq_true hq
    refine ⟨e.1, ⟨List.mem_map_of_mem (f := Prod.fst) he, hdec, hin, fun z hz hdec' hin' => ?_⟩, rfl⟩
    obtain ⟨e', he', rfl⟩ := List.mem_map.mp hz
    exact hleast e' he' (decide_eq_true ⟨hdec', hin'⟩)
  · rintro ⟨z, ⟨hz, hdec, hin, hleast⟩, rfl⟩
    obtain ⟨e, he, rfl⟩ := List.mem_map.mp hz
    have hq : decide (Deciding e.1 ∧ InZone zones e.1 p.iif) = true := decide_eq_true ⟨hdec, hin⟩
    cases hfind : (Dict.sorted zones).find? fun e => decide (Deciding e.1 ∧ InZone zones e.1 p.iif) with
    | none => exact absurd hq (List.find?_eq_none.mp hfind e ((List.mem_insertionSort _).mpr he))
    | some e' =>
      obtain ⟨hq', he', hleast'⟩ := find?_sorted hfind
      obtain ⟨hdec', hin'⟩ := of_decide_eq_true hq'
      refine ⟨e', rfl, congrArg _ (le_antisymm ?_ ?_)⟩
      · exact hleast' e he hq
      · exact hleast e'.1 (List.mem_map_of_mem (f := Prod.fst) he') hdec' hin'

/-- The packet is of a flow that is known, or over loopback. -/
def Trusted (p : Packet) : Prop := p.iif = "lo" ∨ p.ct = .established ∨ p.ct = .related

instance (p : Packet) : Decidable (Trusted p) := inferInstanceAs (Decidable (_ ∨ _ ∨ _))

theorem first_inputHeadLines : Chain.first (InputLine.applies zones) (fun l => some l.verdict) inputHeadLines p =
    if Trusted p then some .accept else if p.ct = .invalid then some .drop
    else if Control p then some .accept else none := by
  have hlo : InputMatch.loopback.holds zones p = decide (p.iif = "lo") := beq_eq_decide _ _
  have hflow : (InputMatch.ctState [.established, .related]).holds zones p =
      decide (p.ct = .established ∨ p.ct = .related) := by
    show [CtState.established, .related].contains p.ct = _
    simp [List.contains_eq_mem]
  have hinvalid : (InputMatch.ctState [.invalid]).holds zones p = decide (p.ct = .invalid) := by
    show [CtState.invalid].contains p.ct = _
    simp [List.contains_eq_mem]
  have hicmp : InputMatch.icmp.holds zones p =
      decide (p.version = .ip ∧ p.l4proto = 1 ∧ p.meets InputMatch.icmp.text = true) :=
    @holds_message p .ip "icmp" _ rfl _
  have hicmpv6 : InputMatch.icmpv6.holds zones p =
      decide (p.version = .ip6 ∧ p.l4proto = 58 ∧ p.meets InputMatch.icmpv6.text = true) :=
    @holds_message p .ip6 "icmpv6" _ rfl _
  have hudp := @holds_ports zones p "udp" _ rfl [546]
  simp only [inputHeadLines, Chain.first, InputLine.applies, List.all_cons, List.all_nil, Bool.and_true, hlo, hflow,
    hinvalid, hicmp, hicmpv6, hudp, decide_eq_true_eq, Option.some_or, List.mem_singleton]
  by_cases h₁ : p.iif = "lo"
  · have htrust : Trusted p := .inl h₁
    rw [if_pos h₁, if_pos htrust]
  · by_cases h₂ : p.ct = .established ∨ p.ct = .related
    · have htrust : Trusted p := .inr h₂
      rw [if_neg h₁, if_pos h₂, if_pos htrust]
    · have htrust : ¬ Trusted p := not_or.mpr ⟨h₁, h₂⟩
      rw [if_neg h₁, if_neg h₂, if_neg htrust]
      congr 1
      by_cases h₃ : p.version = .ip ∧ p.l4proto = 1 ∧ p.meets InputMatch.icmp.text = true
      · have hcontrol : Control p := .inl h₃
        rw [if_pos h₃, if_pos hcontrol]
      · by_cases h₄ : p.version = .ip6 ∧ p.l4proto = 58 ∧ p.meets InputMatch.icmpv6.text = true
        · have hcontrol : Control p := .inr (.inl h₄)
          rw [if_neg h₃, if_pos h₄, if_pos hcontrol]
        · by_cases h₅ : p.l4proto = 17 ∧ p.dport = 546
          · have hcontrol : Control p := .inr (.inr h₅)
            rw [if_neg h₃, if_neg h₄, if_pos h₅, if_pos hcontrol]
          · have hcontrol : ¬ Control p := not_or.mpr ⟨h₃, not_or.mpr ⟨h₄, h₅⟩⟩
            rw [if_neg h₃, if_neg h₄, if_neg h₅, if_neg hcontrol]

theorem first_inputTailLines : Chain.first (InputLine.applies zones) (fun l => some l.verdict) inputTailLines p =
    some .drop := by
  simp only [inputTailLines, Chain.first, InputLine.applies, List.all_nil, if_true, Option.some_or, ite_self]

theorem zoneVerdict_eq_accept {policies : Json} {zone : String} :
    zoneVerdict policies p zone = .accept ↔ inputAction policies zone = "accept" ∨ Resolves p := by
  unfold zoneVerdict restriction
  split
  · next h => exact iff_of_true rfl h
  · next h =>
    refine iff_of_false ?_ h
    split
    · exact fun h => nomatch h
    · exact fun h => nomatch h

/-- **Default deny**: a packet for the gateway is let in if it is trusted, is control traffic, or the foremost zone of
its interface is allowed to the gateway; name service and DHCP from any zone but that of the WANs. -/
theorem input_default_deny (cfg : Obj) (zones : ZoneMap) (p : Packet) : inputVerdict cfg zones p = .accept ↔
    Trusted p ∨ p.ct ≠ .invalid ∧ (Control p ∨ ∃ z, Foremost zones p.iif z ∧
      (inputAction (defaultPolicies cfg) z = "accept" ∨ Resolves p)) := by
  unfold inputVerdict inputChain
  rw [Chain.first_append, Chain.first_append, first_inputHeadLines, first_inputTailLines]
  by_cases htrust : Trusted p
  · simp [htrust]
  · by_cases hinvalid : p.ct = .invalid
    · simp [htrust, hinvalid]
    · by_cases hcontrol : Control p
      · simp [htrust, hinvalid, hcontrol]
      · simp only [htrust, hinvalid, hcontrol, if_false, Option.none_or, false_or, ne_eq, not_false_eq_true, true_and]
        cases hz : Chain.first (InputLine.applies zones) (fun l => some l.verdict)
            ((Dict.sorted zones).flatMap fun e => zoneInputLines (defaultPolicies cfg) e.1) p with
        | none =>
          refine iff_of_false (fun h => nomatch h) ?_
          rintro ⟨z, hfore, -⟩
          have hsome := (first_zones (defaultPolicies cfg) _).mpr ⟨z, hfore, rfl⟩
          rw [hz] at hsome
          cases hsome
        | some v =>
          obtain ⟨z, hfore, rfl⟩ := (first_zones (defaultPolicies cfg) v).mp hz
          show zoneVerdict (defaultPolicies cfg) p z = .accept ↔ _
          rw [zoneVerdict_eq_accept]
          refine ⟨fun h => ⟨z, hfore, h⟩, ?_⟩
          rintro ⟨z', hfore', h⟩
          have hsame : z' = z := le_antisymm (hfore'.2.2.2 z hfore.1 hfore.2.1 hfore.2.2.1)
            (hfore.2.2.2 z' hfore'.1 hfore'.2.1 hfore'.2.2.1)
          rw [← hsame]
          exact h

end Verdict

end Sbegw.Nft
