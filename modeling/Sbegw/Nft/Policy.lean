import Mathlib.Data.List.Dedup
import Sbegw.Nft.Forward

/-!
# The policy of the forward chain

The lines of the chain come from six sources.  `Granted` says, in terms of the configuration, when a
packet may be forwarded at all; the rendered lines, read from top to bottom, are compared with it.
-/

namespace Sbegw.Nft

open Text Schema EditM

/-! ### The policy -/

/-- The rules that count, in document order. -/
def rulesInForce (cfg : Obj) : List Obj := (enabledRules (rulesOf cfg)).toOption.getD []

/-- A line of the rule matches the packet. -/
def ruleMatches (cfg : Obj) (zones : ZoneMap) (p : Packet) (rule : Obj) : Bool :=
  ((ruleLines rule (groupsOf cfg) (schedulesOf cfg)).toOption.getD []).any fun l =>
    l.applies (zoneSets zones) p

/-- What a rule says of a packet it matches. -/
def ruleVerdict (rule : Obj) : Verdict := verdictOf (ruleGet rule "action" (.str "drop"))

/-- The rule that decides: of the enabled rules that match the packet, the first of the least index. -/
def Decides (cfg : Obj) (zones : ZoneMap) (p : Packet) (rule : Obj) : Prop :=
  ∃ before after, rulesInForce cfg = before ++ rule :: after ∧ ruleMatches cfg zones p rule = true ∧
    (∀ r ∈ before, ruleMatches cfg zones p r = true → ruleIndex rule < ruleIndex r) ∧
    ∀ r ∈ after, ruleMatches cfg zones p r = true → ruleIndex rule ≤ ruleIndex r

/-- The packet enters and leaves the same bridge of some zone. -/
def Switched (zones : ZoneMap) (p : Packet) : Prop :=
  p.iif = p.oif ∧ startsWith "br-" p.iif = true ∧ '.' ∉ p.iif.toList ∧
    ∃ e ∈ zones, quoted p.iif ∈ e.2

/-- The packet is between two zones. -/
def Between (zones : ZoneMap) (src dst : String) (p : Packet) : Prop :=
  InZone zones src p.iif ∧ InZone zones dst p.oif

/-- The isolation or the missing internet access of some network concerns the packet. -/
def Flagged (cfg : Obj) (zones : ZoneMap) (p : Packet) : Prop :=
  ∃ e ∈ Netd.sectionOf cfg "networks",
    (isolated e.2 = true ∧ Between zones (netZone e.2) (netZone e.2) p) ∨
      (offline e.2 = true ∧ Between zones (netZone e.2) "wan" p)

/-- `fw.get("default_policies", {})` -/
def policiesOf (cfg : Obj) : Obj := ((firewallOf cfg).getD "default_policies" (.obj [])).entries

/-- A default policy for the zones of the packet says allow. -/
def PolicyAllows (cfg : Obj) (zones : ZoneMap) (p : Packet) : Prop :=
  ∃ e ∈ policiesOf cfg, e.2 = .str "allow" ∧ Between zones (policyEnds e.1).1 (policyEnds e.1).2 p

/-- The packet enters a tunnel from a zone that may reach the internet by default, or comes out of
a tunnel. -/
def TunnelAllows (cfg : Obj) (zones : ZoneMap) (p : Packet) : Prop :=
  ∃ pattern ∈ tunnelPatterns (firewallOf cfg),
    (ifMatches pattern p.oif = true ∧ ∃ e ∈ policiesOf cfg, e.2 = .str "allow" ∧
      (policyEnds e.1).2 = "wan" ∧ InZone zones (policyEnds e.1).1 p.iif) ∨ ifMatches pattern p.iif = true

/-- **Who may pass.** -/
inductive Granted (cfg : Obj) (zones : ZoneMap) (p : Packet) : Prop
  | established (h : p.ct = .established)
  | related (h : p.ct = .related)
  | switched (h : Switched zones p)
  | dnat (h : p.dnat = true)
  | rule (r : Obj) (h : Decides cfg zones p r) (hallow : ruleGet r "action" (.str "drop") = .str "allow")
  | default (hrules : ∀ r ∈ rulesInForce cfg, ruleMatches cfg zones p r = false)
      (hflags : ¬ Flagged cfg zones p) (h : PolicyAllows cfg zones p ∨ TunnelAllows cfg zones p)

/-- A bridge line matches both interfaces of the packet. -/
def Bridged (zones : ZoneMap) (p : Packet) : Prop :=
  ∃ b ∈ bridges zones, ifMatches b p.iif = true ∧ ifMatches b p.oif = true

instance (zones : ZoneMap) (p : Packet) : Decidable (Bridged zones p) :=
  inferInstanceAs (Decidable (∃ b ∈ bridges zones, _))

/-! ### Line by line -/

variable {sets : Sets} {zones : ZoneMap} {p : Packet}

theorem decision_append (a b : List Line) (p : Packet) :
    decision sets (a ++ b) p = (decision sets a p).or (decision sets b p) :=
  Chain.first_append a b p

theorem applies_zoneLine {src dst comment : String} {v : Verdict} :
    (zoneLine src dst v comment).applies (zoneSets zones) p = true ↔ Between zones src dst p := by
  unfold Line.applies zoneLine Between
  rw [List.all_cons, List.all_cons, List.all_nil, Bool.and_true, Bool.and_eq_true]
  show (IfName.set _).holds _ _ = true ∧ (IfName.set _).holds _ _ = true ↔ _
  rw [set_holds_zone, set_holds_zone]

theorem applies_bridgeLine {b : String} :
    (bridgeLine b).applies sets p = true ↔ ifMatches b p.iif = true ∧ ifMatches b p.oif = true := by
  unfold Line.applies bridgeLine
  rw [List.all_cons, List.all_cons, List.all_nil, Bool.and_true, Bool.and_eq_true]
  rfl

theorem applies_tunnelLine {pattern : String} {e : String × Json} :
    (tunnelLine pattern e).applies (zoneSets zones) p = true ↔
      InZone zones (policyEnds e.1).1 p.iif ∧ ifMatches pattern p.oif = true := by
  unfold Line.applies tunnelLine
  rw [List.all_cons, List.all_cons, List.all_nil, Bool.and_true, Bool.and_eq_true]
  show (IfName.set _).holds _ _ = true ∧ ifMatches pattern p.oif = true ↔ _
  rw [set_holds_zone]

theorem applies_returnLine {pattern : String} :
    (returnLine pattern).applies sets p = true ↔ ifMatches pattern p.iif = true := by
  unfold Line.applies returnLine
  rw [List.all_cons, List.all_nil, Bool.and_true]
  rfl

/-! ### Source by source -/

theorem decision_headLines (sets : Sets) (p : Packet) :
    decision sets headLines p =
      match p.ct with
      | .established | .related => some .accept
      | .invalid => some .drop
      | .new => none := by
  unfold decision headLines
  simp only [Chain.first_cons, Chain.first_nil, Line.applies, List.all_cons, List.all_nil, Bool.and_true,
    Match.holds]
  cases hct : p.ct <;> simp

theorem decision_bridges (sets : Sets) (zones : ZoneMap) (p : Packet) :
    decision sets ((bridges zones).map bridgeLine) p = if Bridged zones p then some .accept else none := by
  have hone : ∀ l ∈ (bridges zones).map bridgeLine, l.verdict = some Verdict.accept := by
    intro l hl
    obtain ⟨b, -, rfl⟩ := List.mem_map.mp hl
    rfl
  unfold decision
  rw [Chain.first_of_verdict hone]
  congr 1
  rw [List.any_map, eq_iff_iff, List.any_eq_true]
  exact exists_congr fun b => and_congr_right fun _ => applies_bridgeLine

theorem decision_dnatLine (sets : Sets) (p : Packet) :
    decision sets [dnatLine] p = if p.dnat then some .accept else none := by
  unfold decision dnatLine
  rw [Chain.first_cons, Chain.first_nil]
  simp [Line.applies, Match.holds]

/-- All lines of a rule say the same. -/
theorem verdict_of_ruleLines {rule : Obj} {groups schedules : Json} {ls : List Line}
    (h : ruleLines rule groups schedules = .ok ls) : ∀ l ∈ ls, l.verdict = some (ruleVerdict rule) := by
  intro l hl
  obtain ⟨f, -, k, hk, hlk⟩ := (mem_collect h l).mp hl
  cases hr : renderRule rule f groups schedules with
  | error e => simp [hr, Except.map] at hk
  | ok r =>
    rw [hr] at hk
    obtain rfl := Except.ok.inj hk
    rw [Option.mem_toList] at hlk
    subst hlk
    obtain ⟨parts⟩ := parts_of_renderRule hr
    exact parts.verdict_eq

/-- The lines of the chain, source by source. -/
theorem forwardChain_eq_ok {cfg : Obj} {lines : List Line} (h : forwardChain cfg zones = .ok lines) :
    lines = headLines ++ (bridges zones).map bridgeLine ++ [dnatLine] ++
      (byIndex (rulesInForce cfg)).flatMap
        (fun r => (ruleLines r (groupsOf cfg) (schedulesOf cfg)).toOption.getD []) ++
      zoneDefaults (firewallOf cfg) (Netd.sectionOf cfg "networks") ∧
    ∀ r ∈ rulesInForce cfg, ∃ ls, ruleLines r (groupsOf cfg) (schedulesOf cfg) = .ok ls := by
  obtain ⟨user, huser, h⟩ := except_bind_eq_ok.mp h
  obtain rfl := Except.ok.inj h
  obtain ⟨rules, hrules, huser⟩ := except_bind_eq_ok.mp huser
  obtain ⟨enabled, henabled, huser⟩ := except_bind_eq_ok.mp huser
  have hforce : rulesInForce cfg = enabled := by
    unfold rulesInForce rulesOf
    rw [hrules]
    show (enabledRules rules).toOption.getD [] = enabled
    rw [henabled]
    rfl
  rw [hforce, ← collect_eq_flatMap huser]
  exact ⟨rfl, fun r hr => ok_of_collect huser r ((List.mem_insertionSort _).mpr hr)⟩

/-- The rule of the least index decides. -/
theorem decision_user {cfg : Obj} (hok : ∀ r ∈ rulesInForce cfg, ∃ ls,
    ruleLines r (groupsOf cfg) (schedulesOf cfg) = .ok ls) (p : Packet) :
    decision (zoneSets zones) ((byIndex (rulesInForce cfg)).flatMap fun r =>
        (ruleLines r (groupsOf cfg) (schedulesOf cfg)).toOption.getD []) p =
      ((byIndex (rulesInForce cfg)).find? (ruleMatches cfg zones p)).map ruleVerdict := by
  refine Chain.first_flatMap_verdict (fun r hr l hl => ?_) p
  obtain ⟨ls, hls⟩ := hok r ((List.mem_insertionSort _).mp hr)
  rw [hls] at hl
  exact verdict_of_ruleLines hls l hl

theorem decides_of_find? {cfg : Obj} {rule : Obj}
    (h : (byIndex (rulesInForce cfg)).find? (ruleMatches cfg zones p) = some rule) :
    Decides cfg zones p rule :=
  Chain.find?_insertionSort ruleIndex (ruleMatches cfg zones p) h

theorem verdictOf_eq_accept {action : Json} : verdictOf action = .accept ↔ action = .str "allow" := by
  unfold verdictOf
  split
  · next h => simp [h]
  · next h =>
    split
    · simp [h]
    · simp [h]

/-- The flags only deny. -/
theorem decision_flagLines (networks : Obj) (p : Packet) :
    decision sets (networks.flatMap flagLines) p ≠ some .accept := by
  intro h
  obtain ⟨l, hl, -, hv⟩ := Chain.exists_of_first h
  obtain ⟨e, -, hl⟩ := List.mem_flatMap.mp hl
  unfold flagLines at hl
  rcases List.mem_append.mp hl with hl | hl
  · split at hl
    · obtain rfl := List.mem_singleton.mp hl
      cases hv
    · simp at hl
  · split at hl
    · obtain rfl := List.mem_singleton.mp hl
      cases hv
    · simp at hl

theorem decision_flagLines_eq_none {cfg : Obj} :
    decision (zoneSets zones) ((Netd.sectionOf cfg "networks").flatMap flagLines) p = none ↔
      ¬ Flagged cfg zones p := by
  unfold decision
  rw [Chain.first_eq_none]
  unfold Flagged
  constructor
  · rintro h ⟨e, he, hflag⟩
    rcases hflag with ⟨hiso, hb⟩ | ⟨hoff, hb⟩
    · have hmem : isolationLine e.1 e.2 ∈ (Netd.sectionOf cfg "networks").flatMap flagLines :=
        List.mem_flatMap.mpr ⟨e, he, by simp [flagLines, hiso]⟩
      cases h _ hmem (applies_zoneLine.mpr hb)
    · have hmem : offlineLine e.1 e.2 ∈ (Netd.sectionOf cfg "networks").flatMap flagLines :=
        List.mem_flatMap.mpr ⟨e, he, by simp [flagLines, hoff]⟩
      cases h _ hmem (applies_zoneLine.mpr hb)
  · intro h l hl happ
    obtain ⟨e, he, hl⟩ := List.mem_flatMap.mp hl
    refine absurd ⟨e, he, ?_⟩ h
    unfold flagLines at hl
    rcases List.mem_append.mp hl with hl | hl
    · split at hl
      · next hiso =>
        obtain rfl := List.mem_singleton.mp hl
        exact .inl ⟨hiso, applies_zoneLine.mp happ⟩
      · simp at hl
    · split at hl
      · next hoff =>
        obtain rfl := List.mem_singleton.mp hl
        exact .inr ⟨hoff, applies_zoneLine.mp happ⟩
      · simp at hl

theorem mem_wanPolicies {policies : Obj} {e : String × Json} :
    e ∈ wanPolicies policies ↔ e ∈ policies ∧ (policyEnds e.1).2 = "wan" := by
  unfold wanPolicies Dict.sorted
  rw [List.mem_filter, List.mem_insertionSort, decide_eq_true_eq]

/-- What the defaults accept. -/
theorem accept_of_zoneDefaults {cfg : Obj} (h : decision (zoneSets zones)
      (zoneDefaults (firewallOf cfg) (Netd.sectionOf cfg "networks")) p = some .accept) :
    ¬ Flagged cfg zones p ∧ (PolicyAllows cfg zones p ∨ TunnelAllows cfg zones p) := by
  unfold zoneDefaults at h
  simp only [List.append_assoc] at h
  rw [decision_append] at h
  cases hflags : decision (zoneSets zones) ((Netd.sectionOf cfg "networks").flatMap flagLines) p with
  | some v =>
    rw [hflags] at h
    exact absurd (hflags.trans h) (decision_flagLines _ p)
  | none =>
    rw [hflags] at h
    refine ⟨decision_flagLines_eq_none.mp hflags, ?_⟩
    obtain ⟨l, hl, happ, hv⟩ := Chain.exists_of_first (show Chain.first _ _ _ p = _ from h)
    simp only [List.mem_append] at hl
    rcases hl with hl | hl | hl | hl
    · obtain ⟨e, he, rfl⟩ := List.mem_map.mp hl
      exact .inl ⟨e, (List.mem_insertionSort _).mp he, verdictOf_eq_accept.mp (Option.some.inj hv),
        applies_zoneLine.mp happ⟩
    · obtain ⟨pattern, hpattern, hl⟩ := List.mem_flatMap.mp hl
      obtain ⟨e, he, rfl⟩ := List.mem_map.mp hl
      obtain ⟨hmem, hwan⟩ := mem_wanPolicies.mp he
      obtain ⟨hiif, hoif⟩ := applies_tunnelLine.mp happ
      exact .inr ⟨pattern, hpattern, .inl ⟨hoif, e, hmem, verdictOf_eq_accept.mp (Option.some.inj hv),
        hwan, hiif⟩⟩
    · obtain ⟨pattern, hpattern, rfl⟩ := List.mem_map.mp hl
      exact .inr ⟨pattern, hpattern, .inr (applies_returnLine.mp happ)⟩
    · obtain rfl := List.mem_singleton.mp hl
      cases hv

/-! ### The whole chain -/

/-- **Reading the chain from the top.** -/
theorem decision_forwardChain {cfg : Obj} {lines : List Line} (h : forwardChain cfg zones = .ok lines)
    (p : Packet) : decision (zoneSets zones) lines p =
      match p.ct with
      | .established | .related => some .accept
      | .invalid => some .drop
      | .new =>
        if Bridged zones p ∨ p.dnat = true then some .accept
        else (((byIndex (rulesInForce cfg)).find? (ruleMatches cfg zones p)).map ruleVerdict).or
          (decision (zoneSets zones) (zoneDefaults (firewallOf cfg) (Netd.sectionOf cfg "networks")) p) := by
  obtain ⟨rfl, hok⟩ := forwardChain_eq_ok h
  rw [decision_append, decision_append, decision_append, decision_append, decision_headLines,
    decision_bridges, decision_dnatLine, decision_user hok]
  cases p.ct with
  | new =>
    by_cases hb : Bridged zones p
    · simp [hb]
    · by_cases hd : p.dnat = true
      · simp [hb, hd]
      · simp [hb, hd]
  | _ => rfl

/-- No rule matches where none is found. -/
theorem none_matches {cfg : Obj}
    (h : (byIndex (rulesInForce cfg)).find? (ruleMatches cfg zones p) = none) :
    ∀ r ∈ rulesInForce cfg, ruleMatches cfg zones p r = false := by
  intro r hr
  rw [List.find?_eq_none] at h
  simpa using h r ((List.mem_insertionSort _).mpr hr)

/-- What the chain accepts, besides what a bridge line lets through. -/
theorem granted_of_accept {cfg : Obj} {lines : List Line} (h : forwardChain cfg zones = .ok lines)
    (hv : verdict zones lines p = .accept) :
    Granted cfg zones p ∨ p.ct = .new ∧ Bridged zones p := by
  have hacc : decision (zoneSets zones) lines p = some .accept := by
    unfold verdict at hv
    cases hd : decision (zoneSets zones) lines p with
    | none => simp [hd] at hv
    | some v => rw [hd] at hv; exact congrArg some hv
  rw [decision_forwardChain h] at hacc
  cases hct : p.ct with
  | established => exact .inl (.established hct)
  | related => exact .inl (.related hct)
  | invalid => simp [hct] at hacc
  | new =>
    simp only [hct] at hacc
    by_cases hb : Bridged zones p
    · exact .inr ⟨rfl, hb⟩
    by_cases hd : p.dnat = true
    · exact .inl (.dnat hd)
    rw [if_neg (by simp [hb, hd])] at hacc
    left
    cases hf : (byIndex (rulesInForce cfg)).find? (ruleMatches cfg zones p) with
    | some r =>
      rw [hf] at hacc
      exact .rule r (decides_of_find? hf) (verdictOf_eq_accept.mp (Option.some.inj hacc))
    | none =>
      rw [hf] at hacc
      obtain ⟨hflags, hallow⟩ := accept_of_zoneDefaults hacc
      exact .default (none_matches hf) hflags hallow

/-! ### Every line is in order -/

/-- The set that a match refers to. -/
def Match.setName : Match → Option String
  | .iifname (.set name) => some name
  | .oifname (.set name) => some name
  | _ => none

/-- The sets that a line refers to. -/
def Line.setNames (l : Line) : List String := l.guards.filterMap Match.setName

/-- A line of the filter table: it decides by letting pass or not, and refers to sets of zones. -/
structure Proper (l : Line) : Prop where
  verdict : ∀ v, l.verdict = some v → v = .accept ∨ v = .reject ∨ v = .drop
  sets : ∀ name ∈ l.setNames, ∃ z ∈ Schema.zones, name = "zone_" ++ z

theorem verdictOf_total (action : Json) :
    verdictOf action = .accept ∨ verdictOf action = .reject ∨ verdictOf action = .drop := by
  unfold verdictOf
  split
  · exact .inl rfl
  · split
    · exact .inr (.inl rfl)
    · exact .inr (.inr rfl)

theorem proper_zoneLine {src dst comment : String} {v : Verdict}
    (hv : v = .accept ∨ v = .reject ∨ v = .drop) (hsrc : src ∈ Schema.zones) (hdst : dst ∈ Schema.zones) :
    Proper (zoneLine src dst v comment) := by
  refine ⟨fun u hu => Option.some.inj hu ▸ hv, fun name hname => ?_⟩
  have hnames : name = "zone_" ++ src ∨ name = "zone_" ++ dst := by
    simpa [Line.setNames, zoneLine, Match.setName] using hname
  rcases hnames with rfl | rfl
  · exact ⟨src, hsrc, rfl⟩
  · exact ⟨dst, hdst, rfl⟩

theorem setName_of_addrExpr {spec : Json} {side : AddrSide} {f : Family} {groups : Json} {m : Match}
    (h : addrExpr spec side f groups = .ok (some m)) : m.setName = none := by
  cases spec with
  | str s =>
    by_cases hgroup : startsWith "group:" s = true
    · simp only [addrExpr, hgroup, ↓reduceIte] at h
      obtain ⟨members, -, h⟩ := except_bind_eq_ok.mp h
      obtain ⟨ours, -, h⟩ := except_bind_eq_ok.mp h
      by_cases hempty : ours.isEmpty = true
      · rw [if_pos hempty] at h
        cases h
      · rw [if_neg hempty] at h
        obtain ⟨texts, -, h⟩ := except_bind_eq_ok.mp h
        obtain rfl := Option.some.inj (Except.ok.inj h)
        rfl
    · simp only [addrExpr, hgroup, Bool.false_eq_true, ↓reduceIte] at h
      by_cases hcolon : s.toList.contains ':' = f.colon
      · rw [if_pos hcolon] at h
        obtain rfl := Option.some.inj (Except.ok.inj h)
        rfl
      · rw [if_neg hcolon] at h
        cases h
  | _ => cases h

theorem setName_of_addressMatch {rule : Obj} {field : String} {side : AddrSide} {f : Family} {groups : Json}
    {ms : List Match} (h : addressMatch rule field side f groups = .ok (some ms)) :
    ms.filterMap Match.setName = [] := by
  unfold addressMatch at h
  simp only at h
  by_cases ht : (ruleGet rule field .null).truthy = true
  · rw [if_pos ht] at h
    cases he : addrExpr (ruleGet rule field .null) side f groups with
    | error e => simp [he, Except.map] at h
    | ok o =>
      rw [he] at h
      cases o with
      | none => cases h
      | some m =>
        obtain rfl : [m] = ms := Option.some.inj (Except.ok.inj h)
        simp [setName_of_addrExpr he]
  · rw [if_neg ht] at h
    obtain rfl : [] = ms := Option.some.inj (Except.ok.inj h)
    rfl

theorem setName_of_portMatch {rule : Obj} {field : String} {side : PortSide} {ms : List Match}
    (h : portMatch rule field side = .ok ms) : ms.filterMap Match.setName = [] := by
  unfold portMatch at h
  simp only at h
  by_cases ht : (ruleGet rule field .null).truthy = true
  · rw [if_pos ht] at h
    cases hspec : ruleGet rule field .null with
    | str s =>
      rw [hspec] at h
      obtain rfl : [Match.port side s] = ms := Except.ok.inj h
      rfl
    | _ =>
      rw [hspec] at h
      cases h
  · rw [if_neg ht] at h
    obtain rfl := Except.ok.inj h
    rfl

theorem setName_protocolMatch (protocol : Json) :
    (protocolMatch protocol).filterMap Match.setName = [] := by
  unfold protocolMatch protoExpr
  split
  · rfl
  · split
    · rfl
    · split
      · rfl
      · rfl

theorem setName_markMatches (rule : Obj) (f : Family) :
    (markMatches rule f).filterMap Match.setName = [] := by
  unfold markMatches
  rw [List.filterMap_append, List.append_eq_nil_iff]
  constructor
  · split
    · rfl
    · rfl
  · split
    · rfl
    · rfl

/-- The lines of an accepted rule. -/
theorem proper_ruleLines {rule : Obj} {groups schedules : Json} {ls : List Line}
    (hrule : Holds ruleFacts rule) (h : ruleLines rule groups schedules = .ok ls) :
    ∀ l ∈ ls, Proper l := by
  intro l hl
  have hv := verdict_of_ruleLines h l hl
  obtain ⟨f, -, k, hk, hlk⟩ := (mem_collect h l).mp hl
  cases hr : renderRule rule f groups schedules with
  | error e => simp [hr, Except.map] at hk
  | ok r =>
    rw [hr] at hk
    obtain rfl := Except.ok.inj hk
    rw [Option.mem_toList] at hlk
    subst hlk
    obtain ⟨parts⟩ := parts_of_renderRule hr
    refine ⟨fun v hlv => ?_, fun name hname => ?_⟩
    · obtain rfl := Option.some.inj (hv.symm.trans hlv)
      exact verdictOf_total _
    · have hother : (parts.texts.map Match.other).filterMap Match.setName = [] := by
        simp [List.filterMap_map, Match.setName]
      obtain ⟨src, hsrc, hlsrc⟩ : OneOf Schema.zones (Dict.lookup "src_zone" rule) :=
        hrule.get (by simp [ruleFacts])
      obtain ⟨dst, hdst, hldst⟩ : OneOf Schema.zones (Dict.lookup "dst_zone" rule) :=
        hrule.get (by simp [ruleFacts])
      unfold Line.setNames at hname
      rw [parts.guards_eq] at hname
      simp only [List.filterMap_append, setName_protocolMatch, setName_of_addressMatch parts.src_eq,
        setName_of_addressMatch parts.dst_eq, setName_of_portMatch parts.sport_eq,
        setName_of_portMatch parts.dport_eq, setName_markMatches, hother, List.append_nil] at hname
      have hnames : name = "zone_" ++ src ∨ name = "zone_" ++ dst := by
        simpa [zoneMatches, Match.setName, ruleGet, hlsrc, hldst, pyStr] using hname
      rcases hnames with rfl | rfl
      · exact ⟨src, hsrc, rfl⟩
      · exact ⟨dst, hdst, rfl⟩

theorem mem_enabledRules : ∀ {rules : List Json} {enabled : List Obj},
    enabledRules rules = .ok enabled → ∀ r ∈ enabled, ∃ x ∈ rules, x.entries = r
  | [], enabled, h, r, hr => by
    obtain rfl := Except.ok.inj h
    simp at hr
  | x :: rules, enabled, h, r, hr => by
    obtain ⟨b, -, h⟩ := except_bind_eq_ok.mp h
    obtain ⟨rest, hrest, h⟩ := except_bind_eq_ok.mp h
    obtain rfl := Except.ok.inj h
    have hmem : r = x.entries ∨ r ∈ rest := by
      split at hr
      · exact List.mem_cons.mp hr
      · exact .inr hr
    rcases hmem with rfl | hmem
    · exact ⟨x, List.mem_cons_self, rfl⟩
    · obtain ⟨y, hy, heq⟩ := mem_enabledRules hrest r hmem
      exact ⟨y, List.mem_cons_of_mem _ hy, heq⟩

/-- The rules in force have been checked. -/
theorem holds_of_mem_rulesInForce {t : Obj} (h : Accepted t) {r : Obj} (hr : r ∈ rulesInForce t) :
    Holds ruleFacts r := by
  unfold rulesInForce at hr
  cases he : enabledRules (rulesOf t) with
  | error e => simp [he, Except.toOption] at hr
  | ok enabled =>
    rw [he] at hr
    obtain ⟨x, hx, hentries⟩ := mem_enabledRules he r hr
    obtain ⟨rule, rfl, hrule⟩ := holds_of_mem_rulesOf h hx
    obtain rfl : rule = r := hentries
    exact hrule

theorem netZone_mem {t : Obj} (h : Accepted t) {e : String × Json}
    (he : e ∈ Netd.sectionOf t "networks") : netZone e.2 ∈ Schema.zones := by
  obtain ⟨networks, hnet, hall⟩ := h.networks
  have hsection : Netd.sectionOf t "networks" = networks := by
    unfold Netd.sectionOf
    rw [hnet]
    rfl
  rw [hsection] at he
  obtain ⟨-, o, ho, hfacts⟩ := hall e he
  obtain ⟨z, hz, hlz⟩ : OneOf Schema.zones (Dict.lookup "zone" o) := hfacts.get (by simp [networkFacts])
  have hzone : netZone e.2 = z := by
    unfold netZone
    rw [ho]
    show pyStr ((Dict.lookup "zone" o).getD (.str "lan")) = z
    rw [hlz]
    rfl
  rw [hzone]
  exact hz

theorem isPolicy_of_mem {t : Obj} (h : Accepted t) {e : String × Json} (he : e ∈ policiesOf t) :
    IsPolicy e.1 e.2 := by
  obtain ⟨fw, hfw, hfacts⟩ := h.firewall
  obtain ⟨kvs, hkvs, hall⟩ : IsPolicies (Dict.lookup "default_policies" fw) :=
    hfacts.get (by simp [firewallFacts])
  have hpolicies : policiesOf t = kvs := by
    unfold policiesOf firewallOf
    rw [hfw]
    show ((Dict.lookup "default_policies" fw).getD (.obj [])).entries = kvs
    rw [hkvs]
    rfl
  rw [hpolicies] at he
  exact hall e he

theorem policyEnds_mem {key : String} {action : Json} (h : IsPolicy key action) :
    (policyEnds key).1 ∈ Schema.zones ∧ (policyEnds key).2 ∈ Schema.zones := by
  obtain ⟨src, dst, hcut, hsrc, hdst⟩ := h.ends
  unfold policyEnds
  rw [hcut]
  exact ⟨hsrc, hdst⟩

theorem proper_of_setNames {l : Line} (hv : ∀ v, l.verdict = some v → v = .accept ∨ v = .reject ∨ v = .drop)
    (hsets : l.setNames = []) : Proper l :=
  ⟨hv, fun name hname => by simp [hsets] at hname⟩

theorem proper_headLines : ∀ l ∈ headLines, Proper l := by
  intro l hl
  refine proper_of_setNames ?_ ?_
  · intro v hv
    simp only [headLines, List.mem_cons, List.not_mem_nil, or_false] at hl
    rcases hl with rfl | rfl | rfl
    · exact .inl (Option.some.inj hv).symm
    · exact .inr (.inr (Option.some.inj hv).symm)
    · cases hv
  · have hall : ∀ l ∈ headLines, l.setNames = [] := by decide
    exact hall l hl

theorem proper_flagLines {t : Obj} (h : Accepted t) :
    ∀ l ∈ (Netd.sectionOf t "networks").flatMap flagLines, Proper l := by
  intro l hl
  obtain ⟨e, he, hl⟩ := List.mem_flatMap.mp hl
  have hzone : netZone e.2 ∈ Schema.zones := netZone_mem h he
  unfold flagLines at hl
  rcases List.mem_append.mp hl with hl | hl
  · split at hl
    · obtain rfl := List.mem_singleton.mp hl
      exact proper_zoneLine (.inr (.inr rfl)) hzone hzone
    · simp at hl
  · split at hl
    · obtain rfl := List.mem_singleton.mp hl
      exact proper_zoneLine (.inr (.inl rfl)) hzone (by decide)
    · simp at hl

theorem proper_tunnelLine {pattern : String} {e : String × Json}
    (h : (policyEnds e.1).1 ∈ Schema.zones) : Proper (tunnelLine pattern e) := by
  refine ⟨fun v hv => Option.some.inj hv ▸ verdictOf_total _, fun name hname => ?_⟩
  have hnames : name = "zone_" ++ (policyEnds e.1).1 := by
    simpa [Line.setNames, tunnelLine, Match.setName] using hname
  exact ⟨_, h, hnames⟩

theorem proper_zoneDefaults {t : Obj} (h : Accepted t) :
    ∀ l ∈ zoneDefaults (firewallOf t) (Netd.sectionOf t "networks"), Proper l := by
  intro l hl
  unfold zoneDefaults at hl
  simp only [List.mem_append] at hl
  rcases hl with (((hl | hl) | hl) | hl) | hl
  · exact proper_flagLines h l hl
  · obtain ⟨e, he, rfl⟩ := List.mem_map.mp hl
    obtain ⟨hsrc, hdst⟩ := policyEnds_mem (isPolicy_of_mem h ((List.mem_insertionSort _).mp he))
    exact proper_zoneLine (verdictOf_total _) hsrc hdst
  · obtain ⟨pattern, -, hl⟩ := List.mem_flatMap.mp hl
    obtain ⟨e, he, rfl⟩ := List.mem_map.mp hl
    exact proper_tunnelLine (policyEnds_mem (isPolicy_of_mem h (mem_wanPolicies.mp he).1)).1
  · obtain ⟨pattern, -, rfl⟩ := List.mem_map.mp hl
    exact proper_of_setNames (fun v hv => .inl (Option.some.inj hv).symm) rfl
  · obtain rfl := List.mem_singleton.mp hl
    exact proper_of_setNames (fun v hv => .inr (.inr (Option.some.inj hv).symm)) rfl

/-- Every line of the chain of an accepted document is in order. -/
theorem proper_forwardChain {t : Obj} (ht : Accepted t) {lines : List Line}
    (h : forwardChain t zones = .ok lines) : ∀ l ∈ lines, Proper l := by
  obtain ⟨rfl, hok⟩ := forwardChain_eq_ok h
  intro l hl
  simp only [List.mem_append] at hl
  rcases hl with (((hl | hl) | hl) | hl) | hl
  · exact proper_headLines l hl
  · obtain ⟨b, -, rfl⟩ := List.mem_map.mp hl
    exact proper_of_setNames (fun v hv => .inl (Option.some.inj hv).symm) rfl
  · obtain rfl := List.mem_singleton.mp hl
    exact proper_of_setNames (fun v hv => .inl (Option.some.inj hv).symm) rfl
  · obtain ⟨r, hr, hl⟩ := List.mem_flatMap.mp hl
    have hforce : r ∈ rulesInForce t := (List.mem_insertionSort _).mp hr
    obtain ⟨ls, hls⟩ := hok r hforce
    rw [hls] at hl
    exact proper_ruleLines (holds_of_mem_rulesInForce ht hforce) hls l hl
  · exact proper_zoneDefaults ht l hl

/-! ### Default deny -/

/-- The forward chain denies by default: it accepts a packet only on one of the grounds, decides
every other one, always drops what belongs to no connection, lets the first rule of the least index
decide before the defaults of the zones, and refers to sets that are there. -/
structure DefaultDeny (cfg : Obj) (zones : ZoneMap) (lines : List Line) (p : Packet) : Prop where
  sound : verdict zones lines p = .accept → Granted cfg zones p
  total : verdict zones lines p = .accept ∨ verdict zones lines p = .reject ∨ verdict zones lines p = .drop
  invalid : p.ct = .invalid → verdict zones lines p = .drop
  rules : p.ct = .new → ¬ Switched zones p → p.dnat = false →
    (∃ r ∈ rulesInForce cfg, ruleMatches cfg zones p r = true) →
    ∃ r, Decides cfg zones p r ∧ verdict zones lines p = ruleVerdict r
  declared : ∀ l ∈ lines, ∀ name ∈ l.setNames, (Dict.lookup name (zoneSets zones)).isSome = true

theorem verdict_total {t : Obj} (ht : Accepted t) {lines : List Line}
    (h : forwardChain t zones = .ok lines) (p : Packet) : verdict zones lines p = .accept ∨
      verdict zones lines p = .reject ∨ verdict zones lines p = .drop := by
  unfold verdict
  cases hd : decision (zoneSets zones) lines p with
  | none => exact .inr (.inr rfl)
  | some v =>
    obtain ⟨l, hl, -, hv⟩ := Chain.exists_of_first (show Chain.first _ _ _ p = _ from hd)
    exact (proper_forwardChain ht h l hl).verdict v hv

theorem verdict_invalid {cfg : Obj} {lines : List Line} (h : forwardChain cfg zones = .ok lines)
    (hct : p.ct = .invalid) : verdict zones lines p = .drop := by
  unfold verdict
  rw [decision_forwardChain h, hct]
  rfl

/-- What a bridge line matches is accepted. -/
theorem verdict_bridged {cfg : Obj} {lines : List Line} (h : forwardChain cfg zones = .ok lines)
    (hct : p.ct = .new) (hb : Bridged zones p) : verdict zones lines p = .accept := by
  unfold verdict
  rw [decision_forwardChain h, hct]
  simp [hb]

/-- Past the bridges and the port forwards, the rule of the least index that matches decides. -/
theorem verdict_decides {cfg : Obj} {lines : List Line} (h : forwardChain cfg zones = .ok lines)
    (hct : p.ct = .new) (hb : ¬ Bridged zones p) (hd : p.dnat = false)
    (hr : ∃ r ∈ rulesInForce cfg, ruleMatches cfg zones p r = true) :
    ∃ r, Decides cfg zones p r ∧ verdict zones lines p = ruleVerdict r := by
  cases hf : (byIndex (rulesInForce cfg)).find? (ruleMatches cfg zones p) with
  | none =>
    obtain ⟨r, hmem, hmatch⟩ := hr
    rw [none_matches hf r hmem] at hmatch
    exact absurd hmatch (by decide)
  | some r =>
    refine ⟨r, decides_of_find? hf, ?_⟩
    unfold verdict
    rw [decision_forwardChain h, hct]
    simp [hb, hd, hf]

/-- Names that are neither patterns nor in quotes of their own match the same bridge only. -/
theorem switched_of_bridged (hplain : ∀ e ∈ zones, ∀ i ∈ e.2, ∃ name, i = quoted name ∧
    stripQuotes i = name ∧ name.toList.getLast? ≠ some '*') (h : Bridged zones p) : Switched zones p := by
  obtain ⟨b, hb, hiif, hoif⟩ := h
  unfold bridges at hb
  rw [List.mem_insertionSort, List.mem_dedup, List.mem_filter] at hb
  obtain ⟨hb, hbr⟩ := hb
  obtain ⟨i, hi, rfl⟩ := List.mem_map.mp hb
  obtain ⟨e, he, hi⟩ := List.mem_flatMap.mp hi
  obtain ⟨name, rfl, hname, hstar⟩ := hplain e he i hi
  rw [hname] at hbr hiif hoif
  rw [ifMatches_of_not_star hstar] at hiif hoif
  subst hiif
  rw [Bool.and_eq_true, Bool.not_eq_true', ← Bool.not_eq_true, List.contains_iff_mem] at hbr
  exact ⟨hoif, hbr.1, hbr.2, e, he, hi⟩

/-- **Default deny.** For a packet of an accepted document the chain does what the policy says, exactly
unless a bridge line lets the packet through that is there for no bridge of its own: the name of the
interface is a pattern. -/
theorem default_deny {caps : Capabilities} {cfg t : Obj} {w : List String}
    (h : validate caps cfg = .ok (t, w)) (wanIfaces : Dict String String) (links : Netd.Links)
    {lines : List Line} (hl : forwardChain t (Netd.zoneInterfaces t wanIfaces links) = .ok lines)
    (p : Packet) :
    DefaultDeny t (Netd.zoneInterfaces t wanIfaces links) lines p ↔
      (p.ct = .new → Bridged (Netd.zoneInterfaces t wanIfaces links) p →
        Granted t (Netd.zoneInterfaces t wanIfaces links) p) := by
  have ht : Accepted t := accepted_of_validate h
  constructor
  · intro hdeny hct hb
    exact hdeny.sound (verdict_bridged hl hct hb)
  · intro hcond
    refine ⟨fun hacc => ?_, verdict_total ht hl p, verdict_invalid hl, fun hct hs hd hr => ?_,
      fun l hmem name hname => ?_⟩
    · rcases granted_of_accept hl hacc with hg | ⟨hct, hb⟩
      · exact hg
      · exact hcond hct hb
    · by_cases hb : Bridged (Netd.zoneInterfaces t wanIfaces links) p
      · -- let through by a pattern, but the policy allows it: by the rule that decides
        have hacc := verdict_bridged hl hct hb
        cases hcond hct hb with
        | established h => simp [h] at hct
        | related h => simp [h] at hct
        | switched h => exact absurd h hs
        | dnat h => simp [hd] at h
        | rule r hdec hallow =>
          refine ⟨r, hdec, ?_⟩
          rw [hacc, ruleVerdict, verdictOf_eq_accept.mpr hallow]
        | default hrules _ _ =>
          obtain ⟨r, hmem, hmatch⟩ := hr
          rw [hrules r hmem] at hmatch
          exact absurd hmatch (by decide)
      · exact verdict_decides hl hct hb hd hr
    · obtain ⟨z, hz, rfl⟩ := (proper_forwardChain ht hl l hmem).sets name hname
      rw [lookup_zoneSets]
      exact Netd.isSome_zoneInterfaces hz t wanIfaces links

/-! ### A port that is a pattern -/

/-- No links. -/
def noLinks : Netd.Links := ⟨[], fun _ => false⟩

/-- Within the bridge of the LAN. -/
def withinLan : Packet := { outbound .ip with oif := "br-lan" }

/-- The lines of the forward chain, none if it cannot be rendered. -/
def chainOf (cfg : Obj) (zones : ZoneMap) : List Line := (forwardChain cfg zones).toOption.getD []

theorem default_deny_lan :
    DefaultDeny defaultEntries (Netd.zoneInterfaces defaultEntries [("wan1", "eth3")] noLinks)
      (chainOf defaultEntries (Netd.zoneInterfaces defaultEntries [("wan1", "eth3")] noLinks)) withinLan := by
  have hvalid : validate Capabilities.empty defaultEntries = .ok (defaultEntries, []) := by decide +kernel
  refine (default_deny hvalid [("wan1", "eth3")] noLinks (by decide +kernel) withinLan).mpr fun _ _ =>
    .switched ?_
  exact ⟨rfl, by decide, by decide, by decide +kernel⟩

/-- A WAN on a port whose name is a pattern. -/
def patternPort : Obj :=
  Dict.set "ports" (.obj (defaultPorts ++ [("br-*", (Dict.lookup "eth3" defaultPorts).getD .null)]))
    (Dict.set "wans" (.obj [("wan1", .obj (Dict.set "port" (.str "br-*") defaultWan))]) defaultEntries)

/-- A bridge of the container runtime. -/
def dockerLinks : Netd.Links := ⟨["br-0123456789ab"], fun _ => false⟩

/-- From a container to the LAN. -/
def fromContainer : Packet := { outbound .ip with iif := "br-0123456789ab", oif := "br-lan" }

/-- The zones of that document. -/
def patternZones : ZoneMap :=
  Netd.zoneInterfaces patternPort (Netd.firewallWans patternPort) dockerLinks

/-- Nothing grants that packet passage. -/
theorem not_granted_fromContainer : ¬ Granted patternPort patternZones fromContainer := by
  intro hg
  cases hg with
  | established h => exact absurd h (by decide)
  | related h => exact absurd h (by decide)
  | switched h => exact absurd h.1 (by decide)
  | dnat h => exact absurd h (by decide)
  | rule r h _ =>
    obtain ⟨before, after, hrules, -⟩ := h
    have hnil : rulesInForce patternPort = [] := by decide
    simp [hnil] at hrules
  | default _ _ h =>
    rcases h with ⟨e, he, hallow, hb⟩ | ⟨pattern, hpattern, h⟩
    · have hnone : ∀ e ∈ policiesOf patternPort, e.2 = .str "allow" →
          ¬ (InZone patternZones (policyEnds e.1).1 fromContainer.iif ∧
            InZone patternZones (policyEnds e.1).2 fromContainer.oif) := by decide
      exact hnone e he hallow hb
    · have hnone : ∀ pattern ∈ tunnelPatterns (firewallOf patternPort),
          ifMatches pattern fromContainer.oif = false ∧ ifMatches pattern fromContainer.iif = false := by
        decide
      obtain ⟨hoif, hiif⟩ := hnone pattern hpattern
      simp [hoif, hiif] at h

/-- A container reaches the LAN, past the policy that drops its packets. -/
theorem pattern_port_opens :
    validate Capabilities.empty patternPort = .ok (patternPort,
      ["port(s) eth3 have role 'wan' but no WAN uses them, so they carry no traffic and are not in the LAN " ++
        "bridge. Point a WAN at one (its 'port' field) or set the role back to 'lan'."]) ∧
      forwardChain patternPort patternZones = .ok (chainOf patternPort patternZones) ∧
      ¬ DefaultDeny patternPort patternZones (chainOf patternPort patternZones) fromContainer := by
  refine ⟨by decide +kernel, by decide +kernel, fun hdeny => ?_⟩
  have hacc : verdict patternZones (chainOf patternPort patternZones) fromContainer = .accept := by
    decide
  exact not_granted_fromContainer (hdeny.sound hacc)

end Sbegw.Nft
