import Sbegw.Nft.Rule

/-!
# What a firewall rule means

A rule speaks of packets: their version, the zones of their interfaces, their protocol, addresses and
ports.  `Means` says so in these terms; the lines that the renderer emits are compared with it.
-/

namespace Sbegw.Nft

open Text Schema EditM

/-! ### The meaning of the fields -/

/-- A group table: the members of each group, and the object of the configuration that holds them. -/
structure GroupTable where
  json : Json
  members : String → List String
  reads : ∀ name, groupMembers json name = .ok ((members name).map .str)

/-- The version is one that the family of a rule names. -/
def Named (family : Json) (v : Family) : Prop :=
  (family = .str "ipv4" → v = .ip) ∧ (family = .str "ipv6" → v = .ip6)

/-- The protocol of the packet is the rule's. -/
def ProtocolIs (protocol : String) (p : Packet) : Prop :=
  protocol = "any" ∨ protocol = "tcp-udp" ∧ (p.l4proto = 6 ∨ p.l4proto = 17) ∨
    protoNumber protocol = some p.l4proto

/-- What an address field stands for: a group's members, or itself. -/
def addressTexts (groups : GroupTable) (spec : String) : List String :=
  if startsWith "group:" spec then groups.members (groupName spec) else [spec]

/-- The address is in one of the given networks. -/
def AddressIn (groups : GroupTable) (spec : Json) (v : Family) (a : ℕ) : Prop :=
  spec.truthy = true → ∃ m ∈ addressTexts groups (pyStr spec), inPrefix v m a = true

/-- The port is in the given range. -/
def PortIn (spec : Json) (port : ℕ) : Prop := spec.truthy = true → inRange (pyStr spec) port = true

/-- The matches on the MAC address, the DSCP value and the schedule of a rule that has them. -/
def FurtherMatches (rule : Obj) (schedules : Json) (p : Packet) : Prop :=
  ((ruleGet rule "mac" .null).truthy = true →
      p.meets ("ether saddr " ++ pyStr (ruleGet rule "mac" .null)) = true) ∧
    (ruleGet rule "dscp" .null ≠ .null →
      p.meets ("dscp " ++ pyStr (ruleGet rule "dscp" .null)) = true) ∧
    ∀ texts, scheduleTexts rule schedules = .ok texts → ∀ t ∈ texts, p.meets t = true

/-- The packet is between the rule's zones and has its protocol, addresses and ports, whatever its
version. -/
structure Fits (rule : Obj) (groups : GroupTable) (schedules : Json) (zones : ZoneMap) (p : Packet) :
    Prop where
  iif : InZone zones (pyStr (ruleGet rule "src_zone" (.str "lan"))) p.iif
  oif : InZone zones (pyStr (ruleGet rule "dst_zone" (.str "wan"))) p.oif
  protocol : ProtocolIs (pyStr (ruleGet rule "protocol" (.str "any"))) p
  saddr : AddressIn groups (ruleGet rule "src_address" .null) p.version p.saddr
  daddr : AddressIn groups (ruleGet rule "dst_address" .null) p.version p.daddr
  sport : PortIn (ruleGet rule "src_port" .null) p.sport
  dport : PortIn (ruleGet rule "dst_port" .null) p.dport
  further : FurtherMatches rule schedules p

/-- **The meaning of a rule.** -/
def Means (rule : Obj) (groups : GroupTable) (schedules : Json) (zones : ZoneMap) (p : Packet) : Prop :=
  Named (ruleGet rule "family" (.str "both")) p.version ∧ Fits rule groups schedules zones p

/-- Some line that is emitted for the rule matches the packet. -/
def Emits (rule : Obj) (groups : GroupTable) (schedules : Json) (zones : ZoneMap) (p : Packet) : Prop :=
  ∃ lines, ruleLines rule groups.json schedules = .ok lines ∧
    ∃ l ∈ lines, l.applies (zoneSets zones) p = true

/-! ### When a line is emitted -/

/-- A match of the rule is on the header of one version. -/
def Bound (rule : Obj) : Prop :=
  (ruleGet rule "src_address" .null).truthy = true ∨ (ruleGet rule "dst_address" .null).truthy = true ∨
    ruleGet rule "dscp" .null ≠ .null

instance (rule : Obj) : Decidable (Bound rule) := inferInstanceAs (Decidable (_ ∨ _))

/-- A pass for one of the families of the rule reaches packets of the version. -/
def Reaches (rule : Obj) (v : Family) : Prop :=
  ∃ f ∈ families (ruleGet rule "family" (.str "both")),
    skips (ruleGet rule "protocol" (.str "any")) f = false ∧ (Bound rule → f = v)

/-- The ports are given as texts, and the schedule can be read. -/
def Readable (rule : Obj) (schedules : Json) : Prop :=
  ((ruleGet rule "src_port" .null).truthy = true → ∃ s, ruleGet rule "src_port" .null = .str s) ∧
    ((ruleGet rule "dst_port" .null).truthy = true → ∃ s, ruleGet rule "dst_port" .null = .str s) ∧
    ∃ texts, scheduleTexts rule schedules = .ok texts

/-! ### Addresses -/

/-- An address only matches networks of its own version, and these are told apart by the colon. -/
theorem colon_of_inPrefix {f : Family} {spec : String} {a : ℕ} (h : inPrefix f spec a = true) :
    spec.toList.contains ':' = f.colon := by
  unfold inPrefix at h
  split at h
  · next i hi =>
    simp only [Bool.and_eq_true, beq_iff_eq] at h
    have hversion := Ip.colon_iff_version hi
    rw [h.1.1] at hversion
    cases f with
    | ip => simpa [Family.version, Family.colon] using hversion
    | ip6 => simpa [Family.version, Family.colon] using hversion
  · simp at h

theorem membersOf_map (f : Family) (ms : List String) :
    membersOf f (ms.map .str) =
      .ok ((ms.filter fun m => m.toList.contains ':' = f.colon).map .str) := by
  induction ms with
  | nil => rfl
  | cons m ms ih =>
    have hcolon : pyIn (.str ":") (.str m) = .ok (m.toList.contains ':') :=
      congrArg Except.ok (isInfixOf_singleton rfl m)
    rw [List.map_cons, membersOf, hcolon, ok_bind, ih, ok_bind, List.filter_cons]
    by_cases h : m.toList.contains ':' = f.colon
    · rw [if_pos h, if_pos (decide_eq_true h)]
      rfl
    · rw [if_neg h, if_neg (by simpa using h)]
      rfl

theorem strings_map (ms : List String) : strings (ms.map .str) = .ok ms := by
  induction ms with
  | nil => rfl
  | cons m ms ih =>
    rw [List.map_cons, strings, ih]
    rfl

/-- The members that a pass keeps decide like all of them, for packets of its version. -/
theorem any_kept (f : Family) (ms : List String) (a : ℕ) :
    ((ms.filter fun m => m.toList.contains ':' = f.colon).any fun m => inPrefix f m a) = true ↔
      ∃ m ∈ ms, inPrefix f m a = true := by
  rw [List.any_eq_true]
  constructor
  · rintro ⟨m, hm, ha⟩
    exact ⟨m, (List.mem_filter.mp hm).1, ha⟩
  · rintro ⟨m, hm, ha⟩
    exact ⟨m, List.mem_filter.mpr ⟨hm, decide_eq_true (colon_of_inPrefix ha)⟩, ha⟩

/-- `_addr_expr`: no match where no member is of the family, else one that holds of the packets of the
family with an address in a member. -/
theorem addrExpr_spec (s : String) (side : AddrSide) (f : Family) (groups : GroupTable) :
    ∃ r, addrExpr (.str s) side f groups.json = .ok r ∧ ∀ sets p,
      (∃ m, r = some m ∧ m.holds sets p = true) ↔
        f = p.version ∧ ∃ m ∈ addressTexts groups s, inPrefix f m (side.of p) = true := by
  unfold addrExpr addressTexts
  by_cases hgroup : startsWith "group:" s = true
  · simp only [hgroup, ↓reduceIte, groups.reads, ok_bind, membersOf_map, List.isEmpty_map,
      strings_map]
    have hany := any_kept f (groups.members (groupName s))
    cases hkept : (groups.members (groupName s)).filter fun m => m.toList.contains ':' = f.colon with
    | nil =>
      refine ⟨none, rfl, fun sets p => ?_⟩
      rw [← hany, hkept]
      simp
    | cons m ms =>
      refine ⟨some (.addrs f side (m :: ms)), rfl, fun sets p => ?_⟩
      rw [← hany, hkept]
      simp [Match.holds]
  · simp only [hgroup, Bool.false_eq_true, ↓reduceIte]
    by_cases hcolon : s.toList.contains ':' = f.colon
    · refine ⟨_, if_pos hcolon, fun sets p => ?_⟩
      simp [Match.holds]
    · refine ⟨_, if_neg hcolon, fun sets p => ?_⟩
      constructor
      · rintro ⟨m, hm, -⟩
        simp at hm
      · rintro ⟨-, m, hm, ha⟩
        obtain rfl := List.mem_singleton.mp hm
        exact absurd (colon_of_inPrefix ha) hcolon

/-! ### The matches of a line -/

variable {rule : Obj} {groups : GroupTable} {schedules : Json} {zones : ZoneMap}

theorem addressMatch_spec {field : String} (side : AddrSide) (f : Family) (groups : GroupTable)
    (hstr : (ruleGet rule field .null).truthy = true → ∃ s, ruleGet rule field .null = .str s) :
    ∃ r, addressMatch rule field side f groups.json = .ok r ∧ ∀ sets p,
      (∃ ms, r = some ms ∧ ms.all (Match.holds sets p) = true) ↔
        ((ruleGet rule field .null).truthy = true → f = p.version) ∧
          AddressIn groups (ruleGet rule field .null) p.version (side.of p) := by
  unfold addressMatch AddressIn
  by_cases ht : (ruleGet rule field .null).truthy = true
  · obtain ⟨s, hs⟩ := hstr ht
    obtain ⟨r, hr, hspec⟩ := addrExpr_spec s side f groups
    refine ⟨r.map fun m => [m], by rw [if_pos ht, hs, hr]; rfl, fun sets p => ?_⟩
    have hm : (∃ ms, (r.map fun m => [m]) = some ms ∧ ms.all (Match.holds sets p) = true) ↔
        ∃ m, r = some m ∧ m.holds sets p = true := by
      cases r <;> simp
    rw [hm, hspec sets p, hs]
    constructor
    · rintro ⟨hf, m, hmem, ha⟩
      exact ⟨fun _ => hf, fun _ => ⟨m, hmem, hf ▸ ha⟩⟩
    · rintro ⟨hf, ha⟩
      obtain ⟨m, hmem, hin⟩ := ha (hs ▸ ht)
      have hfv := hf (hs ▸ ht)
      exact ⟨hfv, m, hmem, hfv ▸ hin⟩
  · exact ⟨some [], by simp [ht], fun sets p => by simp [ht]⟩

theorem addressMatch_ok {field : String} {side : AddrSide} {f : Family} {ms : List Match}
    (hstr : (ruleGet rule field .null).truthy = true → ∃ s, ruleGet rule field .null = .str s)
    (h : addressMatch rule field side f groups.json = .ok (some ms)) (sets : Sets) (p : Packet) :
    ms.all (Match.holds sets p) = true ↔
      ((ruleGet rule field .null).truthy = true → f = p.version) ∧
        AddressIn groups (ruleGet rule field .null) p.version (side.of p) := by
  obtain ⟨r, hr, hspec⟩ := addressMatch_spec side f groups hstr
  obtain rfl : r = some ms := Except.ok.inj (hr.symm.trans h)
  rw [← hspec sets p]
  simp

theorem portMatch_ok {field : String} {side : PortSide} {ms : List Match}
    (h : portMatch rule field side = .ok ms) :
    ((ruleGet rule field .null).truthy = true → ∃ s, ruleGet rule field .null = .str s) ∧
      ∀ sets p, ms.all (Match.holds sets p) = true ↔ PortIn (ruleGet rule field .null) (side.of p) := by
  unfold portMatch at h
  unfold PortIn
  by_cases ht : (ruleGet rule field .null).truthy = true
  · simp only [ht, ↓reduceIte] at h
    cases hspec : ruleGet rule field .null with
    | str s =>
      rw [hspec] at h ht
      obtain rfl : [Match.port side s] = ms := Except.ok.inj h
      exact ⟨fun _ => ⟨s, rfl⟩, fun sets p => by simp [ht, Match.holds, pyStr]⟩
    | _ =>
      rw [hspec] at h
      cases h
  · simp only [ht, Bool.false_eq_true, ↓reduceIte, Except.ok.injEq] at h
    subst h
    exact ⟨fun h => absurd h ht, fun sets p => by simp [ht]⟩

theorem portMatch_of_str {field : String} (side : PortSide)
    (h : (ruleGet rule field .null).truthy = true → ∃ s, ruleGet rule field .null = .str s) :
    ∃ ms, portMatch rule field side = .ok ms := by
  unfold portMatch
  by_cases ht : (ruleGet rule field .null).truthy = true
  · obtain ⟨s, hs⟩ := h ht
    exact ⟨[.port side s], by rw [if_pos ht, hs]; rfl⟩
  · exact ⟨[], if_neg ht⟩

theorem protocolMatch_spec {proto : String} (hp : proto ∈ protocols) (sets : Sets) (p : Packet) :
    (protocolMatch (.str proto)).all (Match.holds sets p) = true ↔ ProtocolIs proto p := by
  have hone : ∀ s, s ≠ "any" → s ≠ "tcp-udp" → protocolMatch (.str s) = [.l4proto [s]] →
      ((protocolMatch (.str s)).all (Match.holds sets p) = true ↔ ProtocolIs s p) := by
    intro s hany hboth hs
    rw [hs]
    simp [Match.holds, ProtocolIs, hany, hboth]
  simp only [protocols, List.mem_cons, List.not_mem_nil, or_false] at hp
  rcases hp with rfl | rfl | rfl | rfl | rfl | rfl | rfl | rfl
  · exact ⟨fun _ => .inl rfl, fun _ => rfl⟩
  · exact hone "tcp" (by decide) (by decide) rfl
  · exact hone "udp" (by decide) (by decide) rfl
  · have hboth : protocolMatch (.str "tcp-udp") = [.l4proto ["tcp", "udp"]] := rfl
    have htcp : protoNumber "tcp" = some 6 := rfl
    have hudp : protoNumber "udp" = some 17 := rfl
    rw [hboth, List.all_cons, List.all_nil, Bool.and_true]
    simp only [Match.holds, List.any_cons, List.any_nil, Bool.or_false, htcp, hudp, Bool.or_eq_true,
      beq_iff_eq, Option.some.injEq]
    constructor
    · intro h
      exact .inr (.inl ⟨rfl, h.imp Eq.symm Eq.symm⟩)
    · rintro (h | ⟨-, h⟩ | h)
      · exact absurd h (by decide)
      · exact h.imp Eq.symm Eq.symm
      · have hnone : protoNumber "tcp-udp" = none := rfl
        rw [hnone] at h
        exact absurd h (by simp)
  · exact hone "icmp" (by decide) (by decide) rfl
  · exact hone "icmpv6" (by decide) (by decide) rfl
  · exact hone "esp" (by decide) (by decide) rfl
  · exact hone "gre" (by decide) (by decide) rfl

theorem zoneMatches_spec (rule : Obj) (zones : ZoneMap) (p : Packet) :
    (zoneMatches rule).all (Match.holds (zoneSets zones) p) = true ↔
      InZone zones (pyStr (ruleGet rule "src_zone" (.str "lan"))) p.iif ∧
        InZone zones (pyStr (ruleGet rule "dst_zone" (.str "wan"))) p.oif := by
  unfold zoneMatches
  rw [List.all_cons, List.all_cons, List.all_nil, Bool.and_true, Bool.and_eq_true]
  show (IfName.set _).holds _ _ = true ∧ (IfName.set _).holds _ _ = true ↔ _
  rw [set_holds_zone, set_holds_zone]

theorem markMatches_spec (rule : Obj) (f : Family) (sets : Sets) (p : Packet) :
    (markMatches rule f).all (Match.holds sets p) = true ↔
      ((ruleGet rule "mac" .null).truthy = true →
          p.meets ("ether saddr " ++ pyStr (ruleGet rule "mac" .null)) = true) ∧
        (ruleGet rule "dscp" .null ≠ .null → f = p.version) ∧
        (ruleGet rule "dscp" .null ≠ .null →
          p.meets ("dscp " ++ pyStr (ruleGet rule "dscp" .null)) = true) := by
  unfold markMatches
  rw [List.all_append, Bool.and_eq_true]
  by_cases hmac : (ruleGet rule "mac" .null).truthy = true
  · by_cases hdscp : ruleGet rule "dscp" .null = .null
    · simp [hmac, hdscp, Match.holds]
    · simp [hmac, hdscp, Match.holds]
  · by_cases hdscp : ruleGet rule "dscp" .null = .null
    · simp [hmac, hdscp]
    · simp [hmac, hdscp, Match.holds]

/-! ### The pass of one family -/

/-- The line that a pass emits, if it emits one, applies to the packet. -/
def PassApplies (rule : Obj) (f : Family) (groups : GroupTable) (schedules : Json) (zones : ZoneMap)
    (p : Packet) : Prop :=
  ∃ l, renderRule rule f groups.json schedules = .ok (some l) ∧ l.applies (zoneSets zones) p = true

theorem protocol_of_holds (h : Holds ruleFacts rule) :
    ∃ proto ∈ protocols, ruleGet rule "protocol" (.str "any") = .str proto := by
  obtain ⟨proto, hin, hl⟩ : OneOf protocols (Dict.lookup "protocol" rule) := h.get (by simp [ruleFacts])
  exact ⟨proto, hin, by rw [ruleGet, hl]; rfl⟩

theorem id_of_holds (h : Holds ruleFacts rule) : ∃ rid, pyItem (.obj rule) "id" = .ok (.str rid) := by
  obtain ⟨rid, hl⟩ : IsStr (Dict.lookup "id" rule) := h.get (by simp [ruleFacts])
  exact ⟨rid, by simp [pyItem, hl]⟩

theorem address_of_holds (h : Holds ruleFacts rule) {field : String}
    (hf : field = "src_address" ∨ field = "dst_address") :
    (ruleGet rule field .null).truthy = true → ∃ s, ruleGet rule field .null = .str s := by
  have hfact : IfSet (fun x => ∃ s, x = .str s) (Dict.lookup field rule) := by
    rcases hf with rfl | rfl
    · exact h.get (by simp [ruleFacts])
    · exact h.get (by simp [ruleFacts])
  exact hfact

theorem renderRule_ok (h : Holds ruleFacts rule) (hread : Readable rule schedules) (f : Family)
    (groups : GroupTable) : ∃ r, renderRule rule f groups.json schedules = .ok r := by
  obtain ⟨rid, hid⟩ := id_of_holds h
  obtain ⟨src, hsrc, -⟩ := addressMatch_spec .saddr f groups (address_of_holds h (.inl rfl))
  obtain ⟨dst, hdst, -⟩ := addressMatch_spec .daddr f groups (address_of_holds h (.inr rfl))
  obtain ⟨sport, hsport⟩ := portMatch_of_str .sport hread.1
  obtain ⟨dport, hdport⟩ := portMatch_of_str .dport hread.2.1
  obtain ⟨texts, htexts⟩ := hread.2.2
  unfold renderRule
  by_cases hskip : skips (ruleGet rule "protocol" (.str "any")) f = true
  · exact ⟨none, if_pos hskip⟩
  rw [if_neg hskip, hsrc, ok_bind]
  cases src with
  | none => exact ⟨none, rfl⟩
  | some src =>
    simp only [hdst, ok_bind]
    cases dst with
    | none => exact ⟨none, rfl⟩
    | some dst =>
      simp only [hsport, hdport, htexts, hid, ok_bind]
      exact ⟨_, rfl⟩

/-- A pass emits no line only where it skips the protocol or an address is of the other family. -/
theorem fits_none (h : Holds ruleFacts rule) {f : Family} {p : Packet}
    (hnone : renderRule rule f groups.json schedules = .ok none)
    (hskip : skips (ruleGet rule "protocol" (.str "any")) f = false)
    (hread : Readable rule schedules) (hfits : Fits rule groups schedules zones p)
    (hbound : Bound rule → f = p.version) : False := by
  obtain ⟨rid, hid⟩ := id_of_holds h
  obtain ⟨src, hsrc, hsaddr⟩ := addressMatch_spec .saddr f groups (address_of_holds h (.inl rfl))
  obtain ⟨dst, hdst, hdaddr⟩ := addressMatch_spec .daddr f groups (address_of_holds h (.inr rfl))
  obtain ⟨sport, hsport⟩ := portMatch_of_str .sport hread.1
  obtain ⟨dport, hdport⟩ := portMatch_of_str .dport hread.2.1
  obtain ⟨texts, htexts⟩ := hread.2.2
  obtain ⟨src, rfl, -⟩ := (hsaddr [] p).mpr ⟨fun ht => hbound (.inl ht), hfits.saddr⟩
  obtain ⟨dst, rfl, -⟩ := (hdaddr [] p).mpr ⟨fun ht => hbound (.inr (.inl ht)), hfits.daddr⟩
  unfold renderRule at hnone
  rw [if_neg (by simp [hskip]), hsrc, ok_bind] at hnone
  simp only [hdst, hsport, hdport, htexts, hid, ok_bind] at hnone
  cases hnone

/-- A line applies to the packets that fit the rule and have the version it is bound to. -/
theorem applies_iff (h : Holds ruleFacts rule) {f : Family} {l : Line}
    (parts : Parts rule f groups.json schedules l) (p : Packet) :
    l.applies (zoneSets zones) p = true ↔
      Fits rule groups schedules zones p ∧ (Bound rule → f = p.version) := by
  obtain ⟨proto, hproto, hprotocol⟩ := protocol_of_holds h
  have hs := addressMatch_ok (address_of_holds h (.inl rfl)) parts.src_eq (zoneSets zones) p
  have hd := addressMatch_ok (address_of_holds h (.inr rfl)) parts.dst_eq (zoneSets zones) p
  have htimes : (parts.texts.map Match.other).all (Match.holds (zoneSets zones) p) = true ↔
      ∀ texts, scheduleTexts rule schedules = .ok texts → ∀ t ∈ texts, p.meets t = true := by
    rw [parts.texts_eq, List.all_map, List.all_eq_true]
    constructor
    · intro ht texts htexts
      obtain rfl := Except.ok.inj htexts
      exact ht
    · exact fun ht => ht parts.texts rfl
  have hproto : (protocolMatch (ruleGet rule "protocol" (.str "any"))).all
      (Match.holds (zoneSets zones) p) = true ↔
        ProtocolIs (pyStr (ruleGet rule "protocol" (.str "any"))) p := by
    rw [hprotocol]
    exact protocolMatch_spec hproto _ p
  unfold Line.applies
  rw [parts.guards_eq]
  simp only [List.all_append, Bool.and_eq_true, zoneMatches_spec, hproto, hs, hd,
    (portMatch_ok parts.sport_eq).2, (portMatch_ok parts.dport_eq).2, markMatches_spec, htimes]
  constructor
  · rintro ⟨⟨⟨⟨⟨⟨⟨⟨hiif, hoif⟩, hpr⟩, hsb, hsin⟩, hdb, hdin⟩, hsp⟩, hdp⟩, hmac, hmb, hdscp⟩, ht⟩
    refine ⟨⟨hiif, hoif, hpr, hsin, hdin, hsp, hdp, hmac, hdscp, ht⟩, ?_⟩
    rintro (hb | hb | hb)
    · exact hsb hb
    · exact hdb hb
    · exact hmb hb
  · rintro ⟨⟨hiif, hoif, hpr, hsin, hdin, hsp, hdp, hmac, hdscp, ht⟩, hb⟩
    exact ⟨⟨⟨⟨⟨⟨⟨⟨hiif, hoif⟩, hpr⟩, fun h => hb (.inl h), hsin⟩, fun h => hb (.inr (.inl h)), hdin⟩,
      hsp⟩, hdp⟩, hmac, fun h => hb (.inr (.inr h)), hdscp⟩, ht⟩

/-- **One pass.** -/
theorem passApplies_iff (h : Holds ruleFacts rule) (f : Family) (p : Packet) :
    PassApplies rule f groups schedules zones p ↔
      skips (ruleGet rule "protocol" (.str "any")) f = false ∧ Readable rule schedules ∧
        Fits rule groups schedules zones p ∧ (Bound rule → f = p.version) := by
  constructor
  · rintro ⟨l, hl, happ⟩
    obtain ⟨parts⟩ := parts_of_renderRule hl
    obtain ⟨hfits, hbound⟩ := (applies_iff h parts p).mp happ
    exact ⟨parts.applicable, ⟨(portMatch_ok parts.sport_eq).1, (portMatch_ok parts.dport_eq).1,
      parts.texts, parts.texts_eq⟩, hfits, hbound⟩
  · rintro ⟨hskip, hread, hfits, hbound⟩
    obtain ⟨r, hr⟩ := renderRule_ok h hread f groups
    cases r with
    | none => exact (fits_none h hr hskip hread hfits hbound).elim
    | some l =>
      obtain ⟨parts⟩ := parts_of_renderRule hr
      exact ⟨l, hr, (applies_iff h parts p).mpr ⟨hfits, hbound⟩⟩

/-- **All passes.** -/
theorem emits_iff (h : Holds ruleFacts rule) (p : Packet) :
    Emits rule groups schedules zones p ↔
      Fits rule groups schedules zones p ∧ Readable rule schedules ∧ Reaches rule p.version := by
  constructor
  · rintro ⟨lines, hlines, l, hl, happ⟩
    obtain ⟨f, hf, k, hk, hlk⟩ := (mem_collect hlines l).mp hl
    cases hr : renderRule rule f groups.json schedules with
    | error e => simp [hr, Except.map] at hk
    | ok r =>
      rw [hr] at hk
      obtain rfl := Except.ok.inj hk
      rw [Option.mem_toList] at hlk
      subst hlk
      obtain ⟨hskip, hread, hfits, hbound⟩ := (passApplies_iff h f p).mp ⟨l, hr, happ⟩
      exact ⟨hfits, hread, f, hf, hskip, hbound⟩
  · rintro ⟨hfits, hread, f, hf, hskip, hbound⟩
    have hall : ∀ g ∈ families (ruleGet rule "family" (.str "both")),
        ∃ k, (renderRule rule g groups.json schedules).map Option.toList = .ok k := by
      intro g _
      obtain ⟨r, hr⟩ := renderRule_ok h hread g groups
      exact ⟨r.toList, by rw [hr]; rfl⟩
    obtain ⟨lines, hlines⟩ := collect_of_forall hall
    obtain ⟨l, hl, happ⟩ := (passApplies_iff h f p).mpr ⟨hskip, hread, hfits, hbound⟩
    refine ⟨lines, hlines, l, ?_, happ⟩
    rw [mem_collect hlines]
    exact ⟨f, hf, [l], by rw [hl]; rfl, List.mem_singleton_self l⟩

/-! ### Rules of accepted documents -/

/-- `cfg.get("firewall", {})` -/
def firewallOf (cfg : Obj) : Json := (Dict.lookup "firewall" cfg).getD (.obj [])

/-- `fw.get("rules", [])`, as a loop goes through it. -/
def rulesOf (cfg : Obj) : List Json :=
  match pyIter ((firewallOf cfg).getD "rules" (.arr [])) with
  | .ok rules => rules
  | .error _ => []

/-- `fw.get("schedules", {})` -/
def schedulesOf (cfg : Obj) : Json := (firewallOf cfg).getD "schedules" (.obj [])

theorem holds_of_mem_rulesOf {t : Obj} (h : Accepted t) {r : Json} (hr : r ∈ rulesOf t) :
    ∃ rule, r = .obj rule ∧ Holds ruleFacts rule := by
  obtain ⟨fw, hfw, hfacts⟩ := h.firewall
  obtain ⟨rules, hiter, hall⟩ : Elems (Holds ruleFacts) (Dict.lookup "rules" fw) :=
    hfacts.get (by simp [firewallFacts])
  have hrules : rulesOf t = rules := by
    unfold rulesOf firewallOf
    rw [hfw]
    show (match pyIter ((Dict.lookup "rules" fw).getD (.arr [])) with
      | .ok rules => rules
      | .error _ => []) = rules
    rw [hiter]
  rw [hrules] at hr
  exact hall r hr

/-! ### A rule for IPv4 that also takes IPv6 -/

/-- The default document with other rules. -/
def withRules (rules : List Json) : Obj :=
  Dict.set "firewall" ((firewallOf defaultEntries).put "rules" (.arr rules)) defaultEntries

/-- Allow IPv4 from the LAN to the internet. -/
def allowIpv4 : Obj :=
  [("id", .str "r1"), ("name", .str "r1"), ("action", .str "allow"), ("enabled", .bool true),
    ("log", .bool false), ("index", .int 1), ("family", .str "ipv4"), ("src_zone", .str "lan"),
    ("dst_zone", .str "wan"), ("protocol", .str "any")]

/-- No groups. -/
def noGroups : GroupTable := ⟨.obj [], fun _ => [], fun _ => rfl⟩

def homeZones : ZoneMap := [("wan", ["\"eth3\""]), ("lan", ["\"br-lan\""])]

/-- A packet from the LAN to the internet. -/
def outbound (version : Family) : Packet :=
  { iif := "br-lan", oif := "eth3", version, saddr := 0, daddr := 0, l4proto := 6, sport := 40000,
    dport := 443, ct := .new, dnat := false, meets := fun _ => false }

theorem validate_allowIpv4 :
    validate Capabilities.empty (withRules [.obj allowIpv4]) = .ok (withRules [.obj allowIpv4], []) := by
  decide +kernel

theorem mem_allowIpv4 : .obj allowIpv4 ∈ rulesOf (withRules [.obj allowIpv4]) := by
  decide

/-- **Rule semantics.** The lines of an accepted rule match what the rule means exactly where the
version of a packet that fits it otherwise takes effect: a family reaches the packets of the other
version too, unless an address or a DSCP value binds the line to one version, and a rule with an
integer as its port has no lines at all. -/
theorem rule_semantics {caps : Capabilities} {cfg t : Obj} {w : List String}
    (h : validate caps cfg = .ok (t, w)) {rule : Obj} (hr : .obj rule ∈ rulesOf t)
    (groups : GroupTable) (zones : ZoneMap) (p : Packet) :
    (Emits rule groups (schedulesOf t) zones p ↔ Means rule groups (schedulesOf t) zones p) ↔
      (Fits rule groups (schedulesOf t) zones p →
        (Readable rule (schedulesOf t) ∧ Reaches rule p.version ↔
          Named (ruleGet rule "family" (.str "both")) p.version)) := by
  obtain ⟨rule', hobj, hfacts⟩ := holds_of_mem_rulesOf (accepted_of_validate h) hr
  obtain rfl := Json.obj.inj hobj
  rw [emits_iff hfacts, Means]
  tauto

theorem rule_semantics_ipv4 :
    Emits allowIpv4 noGroups (schedulesOf (withRules [.obj allowIpv4])) homeZones (outbound .ip) ↔
      Means allowIpv4 noGroups (schedulesOf (withRules [.obj allowIpv4])) homeZones (outbound .ip) := by
  refine (rule_semantics validate_allowIpv4 mem_allowIpv4 noGroups homeZones (outbound .ip)).mpr ?_
  intro _
  have hread : Readable allowIpv4 (schedulesOf (withRules [.obj allowIpv4])) :=
    ⟨fun h => absurd h (by decide), fun h => absurd h (by decide), [], by decide⟩
  have hreach : Reaches allowIpv4 .ip := ⟨.ip, by decide, by decide, fun _ => rfl⟩
  exact ⟨fun _ => ⟨fun _ => rfl, fun h => absurd h (by decide)⟩, fun _ => ⟨hread, hreach⟩⟩

/-- A rule for IPv4 without addresses lets IPv6 packets through. -/
theorem family_ignored :
    Emits allowIpv4 noGroups (schedulesOf (withRules [.obj allowIpv4])) homeZones (outbound .ip6) ∧
      ¬ Means allowIpv4 noGroups (schedulesOf (withRules [.obj allowIpv4])) homeZones
        (outbound .ip6) ∧
      validate Capabilities.empty (withRules [.obj allowIpv4]) = .ok (withRules [.obj allowIpv4], []) ∧
      .obj allowIpv4 ∈ rulesOf (withRules [.obj allowIpv4]) := by
  refine ⟨⟨[⟨[.iifname (.set "zone_lan"), .oifname (.set "zone_wan")], true, "", some .accept,
    some "r1"⟩], by decide, _, List.mem_singleton_self _, by decide⟩, ?_,
    validate_allowIpv4, mem_allowIpv4⟩
  rintro ⟨⟨hipv4, -⟩, -⟩
  exact absurd (hipv4 rfl) (by decide)

end Sbegw.Nft
