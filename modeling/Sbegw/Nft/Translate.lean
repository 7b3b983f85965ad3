import Sbegw.Lib.IpNetwork
import Sbegw.Nft.Sessions

/-!
# Address translation

The two chains of the NAT table, read from the top.  On the way in the first enabled port forward that takes the packet
gives its destination, and the first address of `one_to_one` where there is none.  What has been given a destination
passes the forward chain, whatever the rules and the zones say.  On the way out, what leaves by a WAN and what is
reflected within a network is masqueraded; `one_to_one` gives a source to the rest alone.
-/

namespace Sbegw.Nft

open Text Schema EditM

/-! ### Rendering -/

/-- `dnat to` what. -/
def forwardTarget (fwd : Obj) : String :=
  pyStr (ruleGet fwd "internal_address" .null) ++ ":" ++
    pyStr (ruleGet fwd "internal_port" (ruleGet fwd "external_port" .null))

/-- A forward of the list: an enabled one needs an address, a port and an id. -/
def forwardItems (wans : Dict String String) (fwd : Json) : Except Exn (List Line) := do
  let enabled ← pyGet fwd "enabled" (.bool true)
  if enabled.truthy then
    let _ ← entryItem fwd "internal_address"
    let _ ← entryItem fwd "external_port"
    let _ ← entryItem fwd "id"
    pure (forwardLines wans fwd.entries)
  else pure []

/-- An entry of `one_to_one`, on the way in. -/
def oneToOneInLines (entry : Json) : Except Exn (List Line) := do
  let enabled ← pyGet entry "enabled" (.bool true)
  if enabled.truthy then
    let outside ← entryItem entry "external"
    let inside ← entryItem entry "internal"
    pure [⟨[.other ("ip daddr " ++ pyStr outside)], true, "", some (.dnat (pyStr inside)),
      some ("1:1 " ++ pyStr (entry.getD "id" (.str "")))⟩]
  else pure []

/-- The chain `prerouting` of `_render_nat_table`. -/
def renderPrerouting (cfg : Obj) (wans : Dict String String) : Except Exn (List Line) := do
  let fwds ← pyIter ((natOf cfg).getD "port_forwards" (.arr []))
  let forwards ← collect (forwardItems wans) fwds
  let entries ← pyIter ((natOf cfg).getD "one_to_one" (.arr []))
  let static ← collect oneToOneInLines entries
  pure (forwards ++ static)

/-! ### Who is meant -/

/-- The forward is enabled and takes the packet. -/
structure Published (wans : Dict String String) (reads : String → ℕ → Bool) (p : Packet) (fwd : Obj) : Prop where
  enabled : forwardEnabled fwd = true
  proto : ∃ proto ∈ forwardProtos fwd, protoNumber proto = some p.l4proto
  port : inRange (externalPort fwd) p.dport = true
  takes : Takes wans fwd p.iif
  admits : Admits reads fwd p.saddr

/-- The entries of `one_to_one`. -/
def staticEntries (cfg : Obj) : List Json :=
  match pyIter ((natOf cfg).getD "one_to_one" (.arr [])) with
  | .ok entries => entries
  | .error _ => []

/-- An address of the entry, as it is printed. -/
def entryText (key : String) (entry : Json) : String := pyStr (entry.getD key .null)

/-- The entry is enabled, and its address under the key is read as one that `a` is among. -/
def Mapped (reads : String → ℕ → Bool) (key : String) (a : ℕ) (entry : Json) : Prop :=
  (entry.getD "enabled" (.bool true)).truthy = true ∧ reads (entryText key entry) a = true

/-- The address is one of the network's IPv4 subnet. -/
def OfNetwork (net : Json) (a : ℕ) : Prop :=
  ∃ i, Ip.ipInterface (pyStr (net.getD "subnet" (.str ""))) = some i ∧ i.addr.version = 4 ∧ i.networkAddress ≤ a ∧
    a < i.networkAddress + i.size

/-- `nat.get("hairpin", True)` -/
def reflects (cfg : Obj) : Bool := ((natOf cfg).getD "hairpin" (.bool true)).truthy

/-- The packet is given the address of the gateway as its source. -/
def Masqueraded (cfg : Obj) (wans : Dict String String) (p : Packet) : Prop :=
  (masquerades cfg = true ∧ ∃ e ∈ wans, ifMatches e.2 p.oif = true) ∨
    (reflects cfg = true ∧ p.dnat = true ∧
      ∃ n ∈ Netd.sectionOf cfg "networks", OfNetwork n.2 p.saddr ∧ OfNetwork n.2 p.daddr)

section

variable {cfg : Obj} {wans : Dict String String} {zones : ZoneMap} {reads : String → ℕ → Bool} {p : Packet}

/-! ### The lines, block by block -/

theorem forwardItems_ok {fwd : Json} {lines : List Line} (h : forwardItems wans fwd = .ok lines) :
    lines = forwardLines wans fwd.entries := by
  unfold forwardItems at h
  obtain ⟨enabled, hon, h⟩ := except_bind_eq_ok.mp h
  cases fwd with
  | obj kvs =>
    obtain rfl := Except.ok.inj hon
    have hon' : forwardEnabled kvs = ((Dict.lookup "enabled" kvs).getD (.bool true)).truthy := rfl
    split at h
    · obtain ⟨_, -, h⟩ := except_bind_eq_ok.mp h
      obtain ⟨_, -, h⟩ := except_bind_eq_ok.mp h
      obtain ⟨_, -, h⟩ := except_bind_eq_ok.mp h
      exact (Except.ok.inj h).symm
    · next hoff =>
      rw [← Except.ok.inj h]
      unfold forwardLines
      rw [Json.entries, hon', if_neg hoff]
  | _ => cases hon

/-- The item of an entry is what `getD` finds. -/
theorem entryItem_ok {entry : Json} {key : String} {value : Json} (h : entryItem entry key = .ok value) :
    pyStr value = entryText key entry := by
  unfold entryItem at h
  unfold entryText Json.getD
  cases hget : entry.get? key with
  | none =>
    rw [hget] at h
    cases h
  | some v =>
    rw [hget] at h
    rw [Except.ok.inj h]
    rfl

theorem pyGet_ok {entry v d : Json} {key : String} (h : pyGet entry key d = .ok v) : v = entry.getD key d := by
  cases entry with
  | obj kvs => exact (Except.ok.inj h).symm
  | _ => cases h

theorem oneToOneInLines_ok {entry : Json} {lines : List Line} (h : oneToOneInLines entry = .ok lines) :
    (∀ l ∈ lines, l.verdict = some (.dnat (entryText "internal" entry))) ∧
      ∀ sets, (∀ text, p.meets ("ip daddr " ++ text) = reads text p.daddr) →
        ((∃ l ∈ lines, l.applies sets p = true) ↔ Mapped reads "external" p.daddr entry) := by
  unfold oneToOneInLines at h
  obtain ⟨enabled, hon, h⟩ := except_bind_eq_ok.mp h
  obtain rfl := pyGet_ok hon
  unfold Mapped
  split at h
  · next ht =>
    obtain ⟨outside, hout, h⟩ := except_bind_eq_ok.mp h
    obtain ⟨inside, hin, h⟩ := except_bind_eq_ok.mp h
    obtain rfl := Except.ok.inj h
    refine ⟨fun l hl => ?_, fun sets hmeets => ?_⟩
    · rw [List.mem_singleton.mp hl, ← entryItem_ok hin]
    · simp [Line.applies, Match.holds, hmeets, ht, entryItem_ok hout]
  · next hoff =>
    obtain rfl := Except.ok.inj h
    exact ⟨fun l hl => absurd hl List.not_mem_nil, fun sets _ => by simp [hoff]⟩

theorem oneToOneLines_ok {entry : Json} {lines : List Line} (h : oneToOneLines entry = .ok lines) :
    (∀ l ∈ lines, l.verdict = some (.snat (entryText "external" entry))) ∧
      ∀ sets, (∀ text, p.meets ("ip saddr " ++ text) = reads text p.saddr) →
        ((∃ l ∈ lines, l.applies sets p = true) ↔ Mapped reads "internal" p.saddr entry) := by
  unfold oneToOneLines at h
  obtain ⟨enabled, hon, h⟩ := except_bind_eq_ok.mp h
  obtain rfl := pyGet_ok hon
  unfold Mapped
  split at h
  · next ht =>
    obtain ⟨inside, hin, h⟩ := except_bind_eq_ok.mp h
    obtain ⟨outside, hout, h⟩ := except_bind_eq_ok.mp h
    obtain rfl := Except.ok.inj h
    refine ⟨fun l hl => ?_, fun sets hmeets => ?_⟩
    · rw [List.mem_singleton.mp hl, ← entryItem_ok hout]
    · simp [Line.applies, Match.holds, hmeets, ht, entryItem_ok hin]
  · next hoff =>
    obtain rfl := Except.ok.inj h
    exact ⟨fun l hl => absurd hl List.not_mem_nil, fun sets _ => by simp [hoff]⟩

/-- What a loop over entries has collected decides as the first entry that is meant. -/
theorem decision_collect {f : Json → Except Exn (List Line)} {entries : List Json} {lines : List Line} {sets : Sets}
    {v : Json → Verdict} {q : Json → Prop} (h : collect f entries = .ok lines)
    (hf : ∀ e ∈ entries, ∀ ls, f e = .ok ls → (∀ l ∈ ls, l.verdict = some (v e)) ∧
      ((∃ l ∈ ls, l.applies sets p = true) ↔ q e)) :
    (∀ u, decision sets lines p = some u ↔ ∃ e, Chain.Leads q entries e ∧ u = v e) ∧
      (decision sets lines p = none ↔ ∀ e ∈ entries, ¬ q e) := by
  have hok := ok_of_collect h
  rw [collect_eq_flatMap h]
  have hblock : ∀ e ∈ entries, (∀ l ∈ (f e).toOption.getD [], l.verdict = some (v e)) ∧
      ((∃ l ∈ (f e).toOption.getD [], l.applies sets p = true) ↔ q e) := by
    intro e he
    obtain ⟨ls, hls⟩ := hok e he
    rw [hls]
    exact hf e he ls hls
  refine ⟨fun u => Chain.first_flatMap_eq_some (fun e he => (hblock e he).1) fun e he => (hblock e he).2, ?_⟩
  unfold decision
  rw [Chain.first_flatMap_eq_none fun e he => (hblock e he).1]
  exact forall₂_congr fun e he => not_congr (hblock e he).2

/-! ### On the way in -/

theorem published_iff (harrives : Arrives wans reads p) (fwd : Obj) :
    (∃ l ∈ forwardLines wans fwd, l.applies (wanSets wans) p = true) ↔ Published wans reads p fwd := by
  refine (claims_iff harrives fwd).trans ⟨?_, ?_⟩
  · rintro ⟨h₁, h₂, h₃, h₄, h₅⟩
    exact ⟨h₁, h₂, h₃, h₄, h₅⟩
  · rintro ⟨h₁, h₂, h₃, h₄, h₅⟩
    exact ⟨h₁, h₂, h₃, h₄, h₅⟩

theorem verdict_forwardLines {fwd : Obj} {l : Line} (h : l ∈ forwardLines wans fwd) :
    l.verdict = some (.dnat (forwardTarget fwd)) := by
  unfold forwardLines at h
  split at h
  · obtain ⟨proto, -, rfl⟩ := List.mem_map.mp h
    rfl
  · cases h

/-- **The chain `prerouting`**: the first forward that takes the packet, or the first address of `one_to_one`. -/
theorem decision_prerouting {pre : List Line} (h : renderPrerouting cfg wans = .ok pre)
    (harrives : Arrives wans reads p) (hdaddr : ∀ text, p.meets ("ip daddr " ++ text) = reads text p.daddr)
    (v : Verdict) :
    decision (wanSets wans) pre p = some v ↔
      (∃ fwd, Chain.Leads (Published wans reads p) (portForwards cfg) fwd ∧ v = .dnat (forwardTarget fwd)) ∨
        ((∀ fwd ∈ portForwards cfg, ¬ Published wans reads p fwd) ∧
          ∃ e, Chain.Leads (Mapped reads "external" p.daddr) (staticEntries cfg) e ∧
            v = .dnat (entryText "internal" e)) := by
  unfold renderPrerouting at h
  obtain ⟨fwds, hfwds, h⟩ := except_bind_eq_ok.mp h
  obtain ⟨forwards, hforwards, h⟩ := except_bind_eq_ok.mp h
  obtain ⟨entries, hentries, h⟩ := except_bind_eq_ok.mp h
  obtain ⟨static, hstatic, h⟩ := except_bind_eq_ok.mp h
  obtain rfl := Except.ok.inj h
  have hlist : portForwards cfg = fwds.map Json.entries := by
    have hnat : ((Dict.lookup "nat" cfg).getD (.obj [])).getD "port_forwards" (.arr []) =
        (natOf cfg).getD "port_forwards" (.arr []) := rfl
    unfold portForwards
    rw [hnat, hfwds]
  have hstaticEntries : staticEntries cfg = entries := by
    unfold staticEntries
    rw [hentries]
  obtain ⟨hsome, hnone⟩ := @decision_collect p _ _ _ (wanSets wans)
    (fun fwd => Verdict.dnat (forwardTarget fwd.entries)) (fun fwd => Published wans reads p fwd.entries) hforwards
    fun fwd _ ls hls => by
      rw [forwardItems_ok hls]
      exact ⟨fun l hl => verdict_forwardLines hl, published_iff harrives _⟩
  obtain ⟨hsome', -⟩ := @decision_collect p _ _ _ (wanSets wans) (fun e => Verdict.dnat (entryText "internal" e))
    (Mapped reads "external" p.daddr) hstatic fun e _ ls hls => by
      obtain ⟨hverdict, happlies⟩ := @oneToOneInLines_ok reads p e ls hls
      exact ⟨hverdict, happlies _ hdaddr⟩
  rw [decision_append, hlist, hstaticEntries]
  have hforward : (∃ fwd, Chain.Leads (Published wans reads p) (fwds.map Json.entries) fwd ∧
      v = .dnat (forwardTarget fwd)) ↔ decision (wanSets wans) forwards p = some v := by
    rw [hsome]
    constructor
    · rintro ⟨fwd, hleads, rfl⟩
      obtain ⟨x, hx, rfl⟩ := Chain.leads_map.mp hleads
      exact ⟨x, hx, rfl⟩
    · rintro ⟨x, hx, rfl⟩
      exact ⟨x.entries, Chain.leads_map.mpr ⟨x, hx, rfl⟩, rfl⟩
  have hnobody : (∀ fwd ∈ fwds.map Json.entries, ¬ Published wans reads p fwd) ↔
      decision (wanSets wans) forwards p = none := by
    rw [hnone, List.forall_mem_map]
  rw [hforward, hnobody, ← hsome' v]
  cases decision (wanSets wans) forwards p with
  | none => simp
  | some u => simp

/-! ### On the way out -/

theorem colon_of_networkAddr {i : Ip.Iface} (h : i.addr.version ≠ 4) : ':' ∈ i.showNetwork.toList := by
  have hshow : ':' ∈ i.networkAddr.show.toList := by
    unfold Ip.Iface.networkAddr
    cases haddr : i.addr with
    | v4 os =>
      rw [haddr] at h
      exact absurd rfl h
    | v6 hs scope =>
      dsimp only
      unfold Ip.Addr.show
      rw [String.toList_ofList]
      unfold Ip.showHextets
      dsimp only
      split
      · simp
      · simp [List.range_succ, List.intercalate, List.intersperse]
  unfold Ip.Iface.showNetwork
  rw [String.toList_append, String.toList_append]
  exact List.mem_append_left _ (List.mem_append_left _ hshow)

/-- The text of a subnet's network stands for the addresses of the subnet. -/
theorem inPrefix_showNetwork {s : String} {i : Ip.Iface} (h : Ip.ipInterface s = some i) (a : ℕ) :
    inPrefix .ip i.showNetwork a = true ↔
      i.addr.version = 4 ∧ i.networkAddress ≤ a ∧ a < i.networkAddress + i.size := by
  by_cases h4 : i.addr.version = 4
  · obtain ⟨j, hj, hversion, hfirst, hsize⟩ := Ip.ipInterface_showNetwork h h4
    unfold inPrefix
    rw [hj]
    simp only [hversion, hfirst, hsize, Family.version, h4, beq_self_eq_true, Bool.true_and, Bool.and_eq_true,
      decide_eq_true_eq, true_and]
  · refine iff_of_false (fun hin => ?_) fun hin => h4 hin.1
    have hcolon : i.showNetwork.toList.contains ':' = false := colon_of_inPrefix hin
    rw [List.contains_eq_mem, decide_eq_false_iff_not] at hcolon
    exact hcolon (colon_of_networkAddr h4)

theorem applies_hairpin {e : String × Json} {sets : Sets} (hp : p.version = .ip) :
    (∃ l ∈ hairpinLines e, l.applies sets p = true) ↔
      p.dnat = true ∧ OfNetwork e.2 p.saddr ∧ OfNetwork e.2 p.daddr := by
  unfold hairpinLines OfNetwork
  cases hi : Ip.ipInterface (pyStr (e.2.getD "subnet" (.str ""))) with
  | none => simp
  | some i =>
    simp only [List.mem_singleton, exists_eq_left, Line.applies, List.all_cons, List.all_nil, Bool.and_true,
      Match.holds, AddrSide.of, Bool.and_eq_true, beq_iff_eq, hp, true_and, inPrefix_showNetwork hi, Option.some.injEq,
      exists_eq_left']
    tauto

/-- The lines of `postrouting` before those of `one_to_one`. -/
def masqueradeLines (cfg : Obj) (wans : Dict String String) : List Line :=
  (if masquerades cfg then (Dict.sorted wans).map masqueradeLine else []) ++
    (if reflects cfg then (Netd.sectionOf cfg "networks").flatMap hairpinLines else [])

theorem masqueraded_iff (hp : p.version = .ip) :
    ((masqueradeLines cfg wans).any fun l => l.applies (wanSets wans) p) = true ↔ Masqueraded cfg wans p := by
  have hwan : (∃ l ∈ if masquerades cfg then (Dict.sorted wans).map masqueradeLine else [],
      l.applies (wanSets wans) p = true) ↔ masquerades cfg = true ∧ ∃ e ∈ wans, ifMatches e.2 p.oif = true := by
    by_cases hon : masquerades cfg = true
    · rw [if_pos hon]
      simp only [List.mem_map, hon, true_and, exists_exists_and_eq_and]
      refine exists_congr fun e => and_congr (List.mem_insertionSort _) ?_
      simp [Line.applies, masqueradeLine, Match.holds, IfName.holds]
    · rw [if_neg hon]
      simp [hon]
  have hreflected : (∃ l ∈ if reflects cfg then (Netd.sectionOf cfg "networks").flatMap hairpinLines else [],
      l.applies (wanSets wans) p = true) ↔ reflects cfg = true ∧ p.dnat = true ∧
        ∃ n ∈ Netd.sectionOf cfg "networks", OfNetwork n.2 p.saddr ∧ OfNetwork n.2 p.daddr := by
    by_cases hon : reflects cfg = true
    · rw [if_pos hon]
      simp only [List.mem_flatMap, hon, true_and]
      constructor
      · rintro ⟨l, ⟨n, hn, hl⟩, happlies⟩
        obtain ⟨hdnat, hsource, hdest⟩ := (applies_hairpin hp).mp ⟨l, hl, happlies⟩
        exact ⟨hdnat, n, hn, hsource, hdest⟩
      · rintro ⟨hdnat, n, hn, hsource, hdest⟩
        obtain ⟨l, hl, happlies⟩ := (@applies_hairpin p n (wanSets wans) hp).mpr ⟨hdnat, hsource, hdest⟩
        exact ⟨l, ⟨n, hn, hl⟩, happlies⟩
    · rw [if_neg hon]
      simp [hon]
  rw [List.any_eq_true]
  unfold masqueradeLines Masqueraded
  simp only [List.mem_append, or_and_right, exists_or]
  exact or_congr hwan hreflected

theorem verdict_masqueradeLines : ∀ l ∈ masqueradeLines cfg wans, l.verdict = some .masquerade := by
  intro l hl
  rcases List.mem_append.mp hl with hl | hl
  · split at hl
    · obtain ⟨e, -, rfl⟩ := List.mem_map.mp hl
      rfl
    · cases hl
  · split at hl
    · obtain ⟨n, -, hl⟩ := List.mem_flatMap.mp hl
      unfold hairpinLines at hl
      split at hl
      · rw [List.mem_singleton.mp hl]
      · cases hl
    · cases hl

/-- **The chain `postrouting`**: `one_to_one` is left with what is not masqueraded. -/
theorem decision_postrouting_iff {post : List Line} (h : renderPostrouting cfg wans = .ok post) (hp : p.version = .ip)
    (hsaddr : ∀ text, p.meets ("ip saddr " ++ text) = reads text p.saddr) (v : Verdict) :
    decision (wanSets wans) post p = some v ↔ (Masqueraded cfg wans p ∧ v = .masquerade) ∨
      (¬ Masqueraded cfg wans p ∧ ∃ e, Chain.Leads (Mapped reads "internal" p.saddr) (staticEntries cfg) e ∧
        v = .snat (entryText "external" e)) := by
  unfold renderPostrouting at h
  obtain ⟨entries, hentries, h⟩ := except_bind_eq_ok.mp h
  obtain ⟨static, hstatic, h⟩ := except_bind_eq_ok.mp h
  have hpost : masqueradeLines cfg wans ++ static = post := Except.ok.inj h
  have hstaticEntries : staticEntries cfg = entries := by
    unfold staticEntries
    rw [hentries]
  obtain ⟨hsome, -⟩ := @decision_collect p _ _ _ (wanSets wans) (fun e => Verdict.snat (entryText "external" e))
    (Mapped reads "internal" p.saddr) hstatic fun e _ ls hls => by
      obtain ⟨hverdict, happlies⟩ := @oneToOneLines_ok reads p e ls hls
      exact ⟨hverdict, happlies _ hsaddr⟩
  have hfirst : decision (wanSets wans) (masqueradeLines cfg wans) p =
      if (masqueradeLines cfg wans).any (fun l => l.applies (wanSets wans) p) then some .masquerade else none :=
    Chain.first_of_verdict verdict_masqueradeLines p
  rw [← hpost, decision_append, hfirst, hstaticEntries, ← hsome v]
  by_cases hm : Masqueraded cfg wans p
  · rw [if_pos ((masqueraded_iff hp).mpr hm)]
    simp [hm, eq_comm]
  · rw [if_neg fun hany => hm ((masqueraded_iff hp).mp hany)]
    simp [hm]

/-! ### What has been given a destination -/

theorem verdict_of_dnat {lines : List Line} (h : forwardChain cfg zones = .ok lines) (hct : p.ct = .new)
    (hdnat : p.dnat = true) : verdict zones lines p = .accept := by
  unfold verdict
  rw [decision_forwardChain h, hct]
  dsimp only
  rw [if_pos (.inr hdnat)]
  rfl

end

/-- **Address translation**, for every configuration that is rendered.  What arrives on a WAN for a port forward is
translated by the first that takes it; a packet with a new destination passes the forward chain, whatever its addresses
are then; and where it leaves, its source is the gateway's if it leaves by a WAN or is reflected, and is left to
`one_to_one` otherwise. -/
theorem nat_translation {cfg : Obj} {wans : Dict String String} {zones : ZoneMap} {pre post lines : List Line}
    (hpre : renderPrerouting cfg wans = .ok pre) (hpost : renderPostrouting cfg wans = .ok post)
    (hlines : forwardChain cfg zones = .ok lines) (reads : String → ℕ → Bool) :
    (∀ p, Arrives wans reads p → (∀ text, p.meets ("ip daddr " ++ text) = reads text p.daddr) → ∀ v,
      decision (wanSets wans) pre p = some v ↔
        (∃ fwd, Chain.Leads (Published wans reads p) (portForwards cfg) fwd ∧ v = .dnat (forwardTarget fwd)) ∨
          ((∀ fwd ∈ portForwards cfg, ¬ Published wans reads p fwd) ∧
            ∃ e, Chain.Leads (Mapped reads "external" p.daddr) (staticEntries cfg) e ∧
              v = .dnat (entryText "internal" e))) ∧
    (∀ p : Packet, p.ct = .new → p.dnat = true → verdict zones lines p = .accept) ∧
    ∀ p : Packet, p.version = .ip → (∀ text, p.meets ("ip saddr " ++ text) = reads text p.saddr) → ∀ v,
      decision (wanSets wans) post p = some v ↔ (Masqueraded cfg wans p ∧ v = .masquerade) ∨
        (¬ Masqueraded cfg wans p ∧ ∃ e, Chain.Leads (Mapped reads "internal" p.saddr) (staticEntries cfg) e ∧
          v = .snat (entryText "external" e)) :=
  ⟨fun _ harrives hdaddr v => decision_prerouting hpre harrives hdaddr v, fun _ => verdict_of_dnat hlines,
    fun _ hp hsaddr v => decision_postrouting_iff hpost hp hsaddr v⟩

/-- A forward of port 80, and a server with an address of its own. -/
def publishing : Obj :=
  Dict.set "nat" (.obj [("masquerade", .bool true), ("hairpin", .bool true),
    ("port_forwards", .arr [toServer "web" "tcp" "80"]),
    ("one_to_one", .arr [.obj [("external", .str "203.0.113.9"), ("internal", .str "192.168.2.20")]])]) defaultEntries

/-- What arrives for port 80 goes to the server; and what the other server sends out is masqueraded all the same. -/
theorem nat_translation_publishing : ∃ pre post lines,
    renderPrerouting publishing [("wan1", "eth3")] = .ok pre ∧
    renderPostrouting publishing [("wan1", "eth3")] = .ok post ∧ forwardChain publishing homeZones = .ok lines ∧
    decision (wanSets [("wan1", "eth3")]) pre (arriving (fun _ _ => true) "eth3" 6 80 0) =
      some (.dnat "192.168.2.10:80") ∧
    verdict homeZones lines { arriving (fun _ _ => true) "eth3" 6 80 0 with oif := "br-lan", dnat := true } = .accept ∧
    decision (wanSets [("wan1", "eth3")]) post { arriving (fun _ _ => true) "br-lan" 6 80 0 with oif := "eth3" } =
      some .masquerade := by
  have hok : (renderPrerouting publishing [("wan1", "eth3")]).toOption.isSome = true ∧
      (renderPostrouting publishing [("wan1", "eth3")]).toOption.isSome = true ∧
      (forwardChain publishing homeZones).toOption.isSome = true := by decide
  have hget : ∀ {x : Except Exn (List Line)}, x.toOption.isSome = true → ∃ ls, x = .ok ls := by
    intro x hx
    cases x with
    | error e => cases hx
    | ok ls => exact ⟨ls, rfl⟩
  obtain ⟨pre, hpre⟩ := hget hok.1
  obtain ⟨post, hpost⟩ := hget hok.2.1
  obtain ⟨lines, hlines⟩ := hget hok.2.2
  obtain ⟨hin, hthrough, hout⟩ := nat_translation hpre hpost hlines fun _ _ => true
  have harrives : Arrives [("wan1", "eth3")] (fun _ _ => true) (arriving (fun _ _ => true) "eth3" 6 80 0) :=
    arrives_arriving List.mem_cons_self (fun _ _ => true) (.inl rfl) (by decide) (by decide)
  refine ⟨pre, post, lines, hpre, hpost, hlines, (hin _ harrives (fun _ => rfl) _).mpr (.inl ?_), hthrough _ rfl rfl,
    (hout _ rfl (fun _ => rfl) _).mpr (.inl ⟨.inl ⟨by decide, ("wan1", "eth3"), List.mem_cons_self, by decide⟩, rfl⟩)⟩
  refine ⟨(toServer "web" "tcp" "80").entries, ⟨[], [], rfl, ?_, fun _ h => absurd h List.not_mem_nil⟩, by decide⟩
  exact ⟨by decide, ⟨"tcp", by decide, by decide⟩, by decide, takes_any rfl _ _, fun _ => rfl⟩

end Sbegw.Nft
