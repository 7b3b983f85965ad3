import Sbegw.Nft.Policy

/-!
# Port forwards

The lines of the NAT table that a port forward is rendered to, and when two forwards claim one packet.
A repeated forward is told by its protocol, the text of its port and its WAN, while the lines compare
protocols, port numbers, interfaces and sources.
-/

namespace Sbegw.Nft

open Text Schema EditM

/-! ### Rendering -/

/-- `nat.get("port_forwards", [])` -/
def portForwards (cfg : Obj) : List Obj :=
  match pyIter (((Dict.lookup "nat" cfg).getD (.obj [])).getD "port_forwards" (.arr [])) with
  | .ok xs => xs.map Json.entries
  | .error _ => []

/-- `fwd.get("enabled", True)` -/
def forwardEnabled (fwd : Obj) : Bool := (ruleGet fwd "enabled" (.bool true)).truthy

/-- The protocols of the lines of a forward. -/
def forwardProtos (fwd : Obj) : List String :=
  let proto := pyStr (ruleGet fwd "protocol" (.str "tcp"))
  if proto = "tcp-udp" then ["tcp", "udp"] else [proto]

/-- `wan_interfaces.get(wan) if wan != "any" else None`; an empty name counts as none. -/
def forwardIface (wans : Dict String String) (fwd : Obj) : Option String :=
  match ruleGet fwd "wan" (.str "any") with
  | .str wan => if wan = "any" then none else (Dict.lookup wan wans).filter (· ≠ "")
  | _ => none

/-- `fwd["external_port"]`, as it is printed. -/
def externalPort (fwd : Obj) : String := pyStr (ruleGet fwd "external_port" .null)

/-- The match on the source, if the forward gives one; nothing checks its text. -/
def sourceMatches (fwd : Obj) : List Match :=
  let source := ruleGet fwd "source" .null
  if source.truthy then [.other ("ip saddr " ++ pyStr source)] else []

/-- The interface match of a forward. -/
def forwardIfName (wans : Dict String String) (fwd : Obj) : IfName :=
  match forwardIface wans fwd with
  | some name => .named name
  | none => .set "zone_wan_ifaces"

/-- The line of a forward for one of its protocols. -/
def forwardLine (wans : Dict String String) (fwd : Obj) (proto : String) : Line :=
  let target := pyStr (ruleGet fwd "internal_address" .null) ++ ":" ++
    pyStr (ruleGet fwd "internal_port" (ruleGet fwd "external_port" .null))
  ⟨[.iifname (forwardIfName wans fwd), .protoPort proto (externalPort fwd)] ++ sourceMatches fwd, true, "",
    some (.dnat target), some (pyStr (ruleGet fwd "id" .null))⟩

/-- The port forwards of `_render_nat_table`. -/
def forwardLines (wans : Dict String String) (fwd : Obj) : List Line :=
  if forwardEnabled fwd then (forwardProtos fwd).map (forwardLine wans fwd) else []

/-- The one set of the NAT table. -/
def wanSets (wans : Dict String String) : Sets := [("zone_wan_ifaces", wans.map fun e => quoted e.2)]

/-! ### The property -/

/-- A TCP or UDP packet that arrives on a WAN.  `reads` is what nft makes of the text after `ip saddr`. -/
structure Arrives (wans : Dict String String) (reads : String → ℕ → Bool) (p : Packet) : Prop where
  version : p.version = .ip
  transport : p.l4proto = 6 ∨ p.l4proto = 17
  port : p.dport < 65536
  source : p.saddr < 2 ^ 32
  wan : ∃ e ∈ wans, e.2 = p.iif
  meets : ∀ text, p.meets ("ip saddr " ++ text) = reads text p.saddr

/-- A line of the forward matches the packet. -/
def Claims (wans : Dict String String) (fwd : Obj) (p : Packet) : Prop :=
  ∃ l ∈ forwardLines wans fwd, l.applies (wanSets wans) p = true

/-- **Port forwards never contend**: no packet is claimed by two of them. -/
def NeverContend (t : Obj) (reads : String → ℕ → Bool) : Prop :=
  (portForwards t).Pairwise fun f g => ∀ p, Arrives (Netd.firewallWans t) reads p →
    ¬ (Claims (Netd.firewallWans t) f p ∧ Claims (Netd.firewallWans t) g p)

/-! ### The condition -/

/-- The forward takes packets of the interface, which belongs to a WAN. -/
def Takes (wans : Dict String String) (fwd : Obj) (iface : String) : Prop :=
  ∀ name, forwardIface wans fwd = some name → ifMatches name iface = true

/-- The forward takes packets from the address. -/
def Admits (reads : String → ℕ → Bool) (fwd : Obj) (a : ℕ) : Prop :=
  (ruleGet fwd "source" .null).truthy = true → reads (pyStr (ruleGet fwd "source" .null)) a = true

/-- The ports of the first end before those of the second begin. -/
def EndsBefore (f g : Obj) : Prop :=
  ∀ r s, portRange (externalPort f) = some r → portRange (externalPort g) = some s → r.2 < s.1

/-- Two forwards differ in their protocols, their port numbers, the interfaces of their WANs or their
sources, or one of them is disabled. -/
def Apart (wans : Dict String String) (reads : String → ℕ → Bool) (f g : Obj) : Prop :=
  forwardEnabled f = false ∨ forwardEnabled g = false ∨
    (∀ proto ∈ forwardProtos f, proto ∉ forwardProtos g) ∨ EndsBefore f g ∨ EndsBefore g f ∨
    (∀ e ∈ wans, ¬ (Takes wans f e.2 ∧ Takes wans g e.2)) ∨
    ∀ a, a < 2 ^ 32 → ¬ (Admits reads f a ∧ Admits reads g a)

/-- A forward of any WAN takes packets of all of them. -/
theorem takes_any {fwd : Obj} (h : ruleGet fwd "wan" (.str "any") = .str "any") (wans : Dict String String)
    (iface : String) : Takes wans fwd iface := by
  intro name hname
  unfold forwardIface at hname
  rw [h] at hname
  exact absurd hname (by simp)

/-! ### Port ranges -/

theorem portNumbers_eq_ok {path : String} : ∀ {parts : List String} {ns : List ℤ},
    portNumbers path parts = .ok ns → parts.mapM readInt = some ns ∧ ns.length = parts.length
  | [], ns, h => by
    obtain rfl := Except.ok.inj h
    exact ⟨rfl, rfl⟩
  | p :: ps, ns, h => by
    unfold portNumbers at h
    split at h
    · exact absurd h (by simp)
    · next n hn =>
      cases hrest : portNumbers path ps with
      | error e => simp [hrest, Except.map] at h
      | ok ms =>
        rw [hrest] at h
        obtain rfl : n :: ms = ns := Except.ok.inj h
        obtain ⟨hmap, hlen⟩ := portNumbers_eq_ok hrest
        rw [List.mapM_cons, hn, hmap]
        exact ⟨rfl, by rw [List.length_cons, List.length_cons, hlen]⟩

/-- The ports of an accepted text: a range within 1 and 65535. -/
theorem portRange_of_ports {x : Json} (h : IsPorts x) :
    ∃ lo hi : ℤ, portRange (pyStr x) = some (lo, hi) ∧ 1 ≤ lo ∧ lo ≤ hi ∧ hi ≤ 65535 := by
  obtain ⟨path, s, h⟩ := h
  unfold vPortRange at h
  simp only at h
  split at h
  · exact absurd h (by simp)
  · next hlen =>
    obtain ⟨ns, hns, h⟩ := except_bind_eq_ok.mp h
    obtain ⟨hmap, hlength⟩ := portNumbers_eq_ok hns
    have hne : split '-' (strip (pyStr x)) ≠ [] := by
      simp [split, splitChars_ne_nil]
    split at h
    · exact absurd h (by simp)
    · next hbound =>
      have hall : ∀ n ∈ ns, 1 ≤ n ∧ n ≤ 65535 := by
        intro n hn
        by_contra hout
        refine hbound (List.any_eq_true.mpr ⟨n, hn, ?_⟩)
        simp only [Bool.not_eq_true', Bool.and_eq_false_iff, decide_eq_false_iff_not]
        omega
      unfold portRange
      rw [hmap]
      rcases ns with _ | ⟨lo, _ | ⟨hi, _ | ⟨n, ns⟩⟩⟩
      · exact absurd (List.length_eq_zero_iff.mp hlength.symm) hne
      · obtain ⟨h1, h2⟩ := hall lo (by simp)
        exact ⟨lo, lo, rfl, h1, le_refl lo, h2⟩
      · obtain ⟨h1, -⟩ := hall lo (by simp)
        obtain ⟨-, h2⟩ := hall hi (by simp)
        refine ⟨lo, hi, rfl, h1, ?_, h2⟩
        by_contra hlt
        simp only at h
        rw [if_pos (not_le.mp hlt)] at h
        exact absurd h (by simp)
      · simp only [List.length_cons] at hlength
        omega

theorem inRange_iff {spec : String} {lo hi : ℤ} (h : portRange spec = some (lo, hi)) (port : ℕ) :
    inRange spec port = true ↔ lo ≤ port ∧ (port : ℤ) ≤ hi := by
  unfold inRange
  rw [h]
  simp

/-! ### What a forward claims -/

/-- The fields of an accepted forward that decide what it claims. -/
theorem forward_fields {wans : Obj} {fwd : Obj} (h : Holds (forwardFacts wans) fwd) :
    (∃ proto ∈ ["tcp", "udp", "tcp-udp"], forwardProtos fwd =
        if proto = "tcp-udp" then ["tcp", "udp"] else [proto]) ∧
      ∃ lo hi : ℤ, portRange (externalPort fwd) = some (lo, hi) ∧ 1 ≤ lo ∧ lo ≤ hi ∧ hi ≤ 65535 := by
  constructor
  · have hfact : OneOf ["tcp", "udp", "tcp-udp"] (Dict.lookup "protocol" fwd) := h.get (by simp [forwardFacts])
    obtain ⟨proto, hin, hproto⟩ := hfact
    refine ⟨proto, hin, ?_⟩
    simp only [forwardProtos, ruleGet, hproto, Option.getD_some, pyStr]
  · have hfact : There IsPorts (Dict.lookup "external_port" fwd) := h.get (by simp [forwardFacts])
    obtain ⟨x, hx, hports⟩ := hfact
    have hext : externalPort fwd = pyStr x := by
      simp only [externalPort, ruleGet, hx, Option.getD_some]
    rw [hext]
    exact portRange_of_ports hports

theorem admits_iff {reads : String → ℕ → Bool} {p : Packet}
    (hmeets : ∀ text, p.meets ("ip saddr " ++ text) = reads text p.saddr) (sets : Sets) (fwd : Obj) :
    (sourceMatches fwd).all (Match.holds sets p) = true ↔ Admits reads fwd p.saddr := by
  unfold sourceMatches Admits
  by_cases ht : (ruleGet fwd "source" .null).truthy = true
  · simp [ht, Match.holds, hmeets]
  · simp [ht]

/-- What a forward claims, match by match. -/
theorem claims_iff_holds {wans : Dict String String} {p : Packet} {fwd : Obj} :
    Claims wans fwd p ↔ forwardEnabled fwd = true ∧
      (∃ proto ∈ forwardProtos fwd, protoNumber proto = some p.l4proto) ∧
      inRange (externalPort fwd) p.dport = true ∧
      (forwardIfName wans fwd).holds (wanSets wans) p.iif = true ∧
      (sourceMatches fwd).all (Match.holds (wanSets wans) p) = true := by
  have hline : ∀ proto, (forwardLine wans fwd proto).applies (wanSets wans) p = true ↔
      (forwardIfName wans fwd).holds (wanSets wans) p.iif = true ∧
        (protoNumber proto = some p.l4proto ∧ inRange (externalPort fwd) p.dport = true) ∧
          (sourceMatches fwd).all (Match.holds (wanSets wans) p) = true := by
    intro proto
    simp only [Line.applies, forwardLine, List.cons_append, List.nil_append, List.all_cons, Match.holds,
      Bool.and_eq_true, beq_iff_eq]
  unfold Claims forwardLines
  constructor
  · rintro ⟨l, hl, happlies⟩
    split at hl
    · next hon =>
      obtain ⟨proto, hproto, rfl⟩ := List.mem_map.mp hl
      obtain ⟨hiface, ⟨hnum, hport⟩, hsource⟩ := (hline proto).mp happlies
      exact ⟨hon, ⟨proto, hproto, hnum⟩, hport, hiface, hsource⟩
    · exact absurd hl List.not_mem_nil
  · rintro ⟨hon, ⟨proto, hproto, hnum⟩, hport, hiface, hsource⟩
    refine ⟨forwardLine wans fwd proto, ?_, (hline proto).mpr ⟨hiface, ⟨hnum, hport⟩, hsource⟩⟩
    rw [if_pos hon]
    exact List.mem_map_of_mem hproto

theorem holds_wanSets {wans : Dict String String} {iface : String} :
    (IfName.set "zone_wan_ifaces").holds (wanSets wans) iface = true ↔ ∃ e ∈ wans, e.2 = iface := by
  simp only [IfName.holds, wanSets, Dict.lookup_cons, if_true, Option.getD_some, List.contains_iff_mem,
    List.mem_map, quoted_inj]

/-- **The meaning of a forward's lines**, for the packets that arrive on a WAN. -/
theorem claims_iff {wans : Dict String String} {reads : String → ℕ → Bool} {p : Packet}
    (harrives : Arrives wans reads p) (fwd : Obj) :
    Claims wans fwd p ↔ forwardEnabled fwd = true ∧
      (∃ proto ∈ forwardProtos fwd, protoNumber proto = some p.l4proto) ∧
      inRange (externalPort fwd) p.dport = true ∧ Takes wans fwd p.iif ∧ Admits reads fwd p.saddr := by
  have hiface : (forwardIfName wans fwd).holds (wanSets wans) p.iif = true ↔ Takes wans fwd p.iif := by
    unfold forwardIfName Takes
    cases hf : forwardIface wans fwd with
    | some n => simp [IfName.holds]
    | none => exact iff_of_true (holds_wanSets.mpr harrives.wan) fun n hn => absurd hn (by simp)
  rw [claims_iff_holds, hiface, admits_iff harrives.meets]

/-- The protocols of a forward are the two that have ports. -/
theorem proto_of_forward {wans fwd : Obj} (h : Holds (forwardFacts wans) fwd) {proto : String}
    (hproto : proto ∈ forwardProtos fwd) :
    proto = "tcp" ∧ protoNumber proto = some 6 ∨ proto = "udp" ∧ protoNumber proto = some 17 := by
  obtain ⟨⟨q, hq, heq⟩, -⟩ := forward_fields h
  have htwo : proto = "tcp" ∨ proto = "udp" := by
    rw [heq] at hproto
    simp only [List.mem_cons, List.not_mem_nil, or_false] at hq
    rcases hq with rfl | rfl | rfl
    · exact .inl (by simpa using hproto)
    · exact .inr (by simpa using hproto)
    · simpa using hproto
  rcases htwo with rfl | rfl
  · exact .inl ⟨rfl, by decide⟩
  · exact .inr ⟨rfl, by decide⟩

theorem protoNumber_of_forward {wans fwd : Obj} (h : Holds (forwardFacts wans) fwd) {proto : String}
    (hproto : proto ∈ forwardProtos fwd) : ∃ n, (n = 6 ∨ n = 17) ∧ protoNumber proto = some n := by
  rcases proto_of_forward h hproto with ⟨-, hnum⟩ | ⟨-, hnum⟩
  · exact ⟨6, .inl rfl, hnum⟩
  · exact ⟨17, .inr rfl, hnum⟩

theorem exists_proto_of_forward {wans fwd : Obj} (h : Holds (forwardFacts wans) fwd) :
    ∃ proto, proto ∈ forwardProtos fwd := by
  obtain ⟨⟨q, -, heq⟩, -⟩ := forward_fields h
  rw [heq]
  split
  · exact ⟨"tcp", by simp⟩
  · exact ⟨q, by simp⟩

/-- A packet that arrives on an interface. -/
def arriving (reads : String → ℕ → Bool) (iface : String) (l4proto dport saddr : ℕ) : Packet where
  iif := iface
  oif := ""
  version := .ip
  saddr := saddr
  daddr := 0
  l4proto := l4proto
  sport := 0
  dport := dport
  ct := .new
  dnat := false
  meets := fun text => reads (String.ofList (text.toList.drop 9)) saddr

theorem meets_arriving (reads : String → ℕ → Bool) (iface : String) (l4proto dport saddr : ℕ) (text : String) :
    (arriving reads iface l4proto dport saddr).meets ("ip saddr " ++ text) = reads text saddr := by
  show reads (String.ofList (("ip saddr " ++ text).toList.drop 9)) saddr = reads text saddr
  have hdrop : ("ip saddr " ++ text).toList.drop 9 = text.toList := by
    rw [String.toList_append]
    rfl
  rw [hdrop, String.ofList_toList]

theorem arrives_arriving {wans : Dict String String} {e : String × String} (he : e ∈ wans)
    (reads : String → ℕ → Bool) {l4proto dport saddr : ℕ} (hproto : l4proto = 6 ∨ l4proto = 17)
    (hport : dport < 65536) (hsource : saddr < 2 ^ 32) :
    Arrives wans reads (arriving reads e.2 l4proto dport saddr) where
  version := rfl
  transport := hproto
  port := hport
  source := hsource
  wan := ⟨e, he, rfl⟩
  meets := meets_arriving reads e.2 l4proto dport saddr

/-- **Two forwards** claim no common packet exactly when they are apart. -/
theorem apart_iff {wans' f g : Obj} (hf : Holds (forwardFacts wans') f) (hg : Holds (forwardFacts wans') g)
    (wans : Dict String String) (reads : String → ℕ → Bool) :
    (∀ p, Arrives wans reads p → ¬ (Claims wans f p ∧ Claims wans g p)) ↔ Apart wans reads f g := by
  obtain ⟨-, flo, fhi, hfrange, hf1, hf2, hf3⟩ := forward_fields hf
  obtain ⟨-, glo, ghi, hgrange, hg1, hg2, hg3⟩ := forward_fields hg
  have hfg : EndsBefore f g ↔ fhi < glo := by simp [EndsBefore, hfrange, hgrange]
  have hgf : EndsBefore g f ↔ ghi < flo := by simp [EndsBefore, hfrange, hgrange]
  unfold Apart
  rw [hfg, hgf]
  constructor
  · intro hnever
    by_contra hnot
    push Not at hnot
    obtain ⟨hfon, hgon, ⟨proto, hfp, hgp⟩, h1, h2, ⟨e, he, hft, hgt⟩, a, ha, hfa, hga⟩ := hnot
    obtain ⟨n, hn, hnum⟩ := protoNumber_of_forward hf hfp
    -- the first port that both ranges hold
    obtain ⟨port, hport⟩ := Int.eq_ofNat_of_zero_le (show 0 ≤ max flo glo by omega)
    have harrives := arrives_arriving he reads hn (show port < 65536 by omega) ha
    refine hnever _ harrives ⟨(claims_iff harrives f).mpr ⟨by simpa using hfon, ⟨proto, hfp, hnum⟩, ?_, hft, hfa⟩,
      (claims_iff harrives g).mpr ⟨by simpa using hgon, ⟨proto, hgp, hnum⟩, ?_, hgt, hga⟩⟩
    · rw [inRange_iff hfrange]
      show flo ≤ (port : ℤ) ∧ (port : ℤ) ≤ fhi
      omega
    · rw [inRange_iff hgrange]
      show glo ≤ (port : ℤ) ∧ (port : ℤ) ≤ ghi
      omega
  · rintro hapart p harrives ⟨hcf, hcg⟩
    obtain ⟨hfon, ⟨q, hfq, hfnum⟩, hfport, hft, hfa⟩ := (claims_iff harrives f).mp hcf
    obtain ⟨hgon, ⟨r, hgr, hgnum⟩, hgport, hgt, hga⟩ := (claims_iff harrives g).mp hcg
    rw [inRange_iff hfrange] at hfport
    rw [inRange_iff hgrange] at hgport
    rcases hapart with h | h | h | h | h | h | h
    · exact absurd (hfon.symm.trans h) (by decide)
    · exact absurd (hgon.symm.trans h) (by decide)
    · -- a common number is a common protocol
      have hsame : q = r := by
        have hnum := hfnum.trans hgnum.symm
        rcases proto_of_forward hf hfq with ⟨rfl, hq⟩ | ⟨rfl, hq⟩ <;>
          rcases proto_of_forward hg hgr with ⟨rfl, hr⟩ | ⟨rfl, hr⟩
        · rfl
        · exact absurd (hq.symm.trans (hnum.trans hr)) (by decide)
        · exact absurd (hq.symm.trans (hnum.trans hr)) (by decide)
        · rfl
      exact h q hfq (hsame ▸ hgr)
    · omega
    · omega
    · obtain ⟨e, he, heq⟩ := harrives.wan
      exact h e he ⟨heq ▸ hft, heq ▸ hgt⟩
    · exact h p.saddr harrives.source ⟨hfa, hga⟩

/-- The forwards of an accepted document. -/
theorem forwards_of_accepted {t : Obj} (h : Accepted t) :
    ∃ wans, ∀ fwd ∈ portForwards t, Holds (forwardFacts wans) fwd := by
  obtain ⟨wans, -, -, nat, hnat, hfacts⟩ := h.wans
  refine ⟨wans, fun fwd hfwd => ?_⟩
  have hlist : Elems (Holds (forwardFacts wans)) (Dict.lookup "port_forwards" nat) :=
    hfacts.get (by simp [natFacts])
  obtain ⟨xs, hxs, hall⟩ := hlist
  have hiter : pyIter (((Dict.lookup "nat" t).getD (.obj [])).getD "port_forwards" (.arr [])) = .ok xs := by
    rw [hnat]
    exact hxs
  unfold portForwards at hfwd
  rw [hiter] at hfwd
  obtain ⟨x, hx, rfl⟩ := List.mem_map.mp hfwd
  obtain ⟨o, rfl, ho⟩ := hall x hx
  exact ho

/-- **Port forwards never contend** exactly when any two of them are apart. -/
theorem never_contend_iff {caps : Capabilities} {cfg t : Obj} {w : List String}
    (h : validate caps cfg = .ok (t, w)) (reads : String → ℕ → Bool) :
    NeverContend t reads ↔ (portForwards t).Pairwise (Apart (Netd.firewallWans t) reads) := by
  obtain ⟨wans, hall⟩ := forwards_of_accepted (accepted_of_validate h)
  exact List.Pairwise.iff_of_mem fun hf hg => apart_iff (hall _ hf) (hall _ hg) _ reads

/-! ### Two that are apart, and two that are not -/

/-- A forward to the server at `192.168.2.10`. -/
def toServer (id proto port : String) : Json :=
  .obj [("id", .str id), ("name", .str id), ("enabled", .bool true), ("protocol", .str proto),
    ("external_port", .str port), ("internal_address", .str "192.168.2.10"), ("internal_port", .str port),
    ("wan", .str "any")]

def withForwards (fwds : List Json) : Obj :=
  Dict.set "nat" (.obj [("masquerade", .bool true), ("hairpin", .bool true), ("port_forwards", .arr fwds)])
    defaultEntries

/-- Two ports of one server. -/
theorem never_contend_two_ports :
    NeverContend (withForwards [toServer "web" "tcp" "80", toServer "tls" "tcp" "443"]) fun _ _ => true := by
  have hvalid : validate Capabilities.empty (withForwards [toServer "web" "tcp" "80", toServer "tls" "tcp" "443"]) =
      .ok (withForwards [toServer "web" "tcp" "80", toServer "tls" "tcp" "443"], []) := by decide +kernel
  refine (never_contend_iff hvalid fun _ _ => true).mpr ?_
  have hlist : portForwards (withForwards [toServer "web" "tcp" "80", toServer "tls" "tcp" "443"]) =
      [(toServer "web" "tcp" "80").entries, (toServer "tls" "tcp" "443").entries] := rfl
  rw [hlist, List.pairwise_pair]
  refine .inr (.inr (.inr (.inl fun r s hr hs => ?_)))
  have hr' : portRange (externalPort (toServer "web" "tcp" "80").entries) = some (80, 80) := by decide +kernel
  have hs' : portRange (externalPort (toServer "tls" "tcp" "443").entries) = some (443, 443) := by decide +kernel
  rw [hr', Option.some.injEq] at hr
  rw [hs', Option.some.injEq] at hs
  rw [← hr, ← hs]
  decide

/-- A TCP packet to port 80 is claimed by the forward of the port and by that of a range for both
protocols. -/
theorem forwards_contend :
    (validate Capabilities.empty (withForwards [toServer "web" "tcp" "80", toServer "any" "tcp-udp" "79-81"])
      ).toOption.isSome = true ∧
    ¬ NeverContend (withForwards [toServer "web" "tcp" "80", toServer "any" "tcp-udp" "79-81"])
      fun _ _ => true := by
  have hvalid : validate Capabilities.empty (withForwards [toServer "web" "tcp" "80",
      toServer "any" "tcp-udp" "79-81"]) =
      .ok (withForwards [toServer "web" "tcp" "80", toServer "any" "tcp-udp" "79-81"], []) := by
    decide +kernel
  refine ⟨by rw [hvalid]; rfl, fun hnever => ?_⟩
  have hlist : portForwards (withForwards [toServer "web" "tcp" "80", toServer "any" "tcp-udp" "79-81"]) =
      [(toServer "web" "tcp" "80").entries, (toServer "any" "tcp-udp" "79-81").entries] := rfl
  unfold NeverContend at hnever
  rw [hlist, List.pairwise_pair] at hnever
  have hwan : ("wan1", "eth3") ∈ Netd.firewallWans (withForwards [toServer "web" "tcp" "80",
      toServer "any" "tcp-udp" "79-81"]) := by decide +kernel
  have harrives := arrives_arriving hwan (fun _ _ => true) (.inl rfl) (show 80 < 65536 by decide)
    (show 0 < 2 ^ 32 by decide)
  refine hnever _ harrives ⟨(claims_iff harrives _).mpr ?_, (claims_iff harrives _).mpr ?_⟩
  · exact ⟨by decide, ⟨"tcp", by decide +kernel, by decide⟩, by decide +kernel, takes_any rfl _ _,
      fun _ => rfl⟩
  · exact ⟨by decide, ⟨"tcp", by decide +kernel, by decide⟩, by decide +kernel, takes_any rfl _ _,
      fun _ => rfl⟩

end Sbegw.Nft
