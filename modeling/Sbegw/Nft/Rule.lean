import Sbegw.Nft.Line
import Sbegw.Schema.Accepted

/-!
# Firewall rules

How a rule of the firewall section becomes lines of the forward chain: one pass for each family the
rule names, each of which gives a line or none.
-/

namespace Sbegw.Nft

open Text Schema EditM

/-! ### Rendering -/

/-- `value.get(key, d)`; only an object has a `get`. -/
def pyGet (value : Json) (key : String) (d : Json) : Except Exn Json :=
  match value with
  | .obj kvs => .ok ((Dict.lookup key kvs).getD d)
  | _ => .error .attribute

/-- `rule.get(key, d)` -/
def ruleGet (rule : Obj) (key : String) (d : Json) : Json := (Dict.lookup key rule).getD d

/-- `VERDICTS.get(action, "drop")` -/
def verdictOf (action : Json) : Verdict :=
  if action = .str "allow" then .accept else if action = .str "reject" then .reject else .drop

/-- `_families` -/
def families (family : Json) : List Family :=
  if family = .str "ipv4" then [.ip] else if family = .str "ipv6" then [.ip6] else [.ip, .ip6]

/-- `_proto_expr` -/
def protoExpr (protocol : String) : List Match :=
  if protocol = "tcp-udp" then [.l4proto ["tcp", "udp"]]
  else if ["tcp", "udp", "icmp", "icmpv6", "esp", "gre"].contains protocol then [.l4proto [protocol]]
  else []

/-- `(groups.get("address", {}).get(name) or {}).get("members", [])` -/
def groupMembers (groups : Json) (name : String) : Except Exn (List Json) := do
  let address ← pyGet groups "address" (.obj [])
  let group ← pyGet address name .null
  let members ← pyGet (if group.truthy then group else .obj []) "members" (.arr [])
  pyIter members

/-- The members of a family: those of IPv6 hold a `:`. -/
def membersOf (f : Family) : List Json → Except Exn (List Json)
  | [] => .ok []
  | m :: ms => do
    let colon ← pyIn (.str ":") m
    let rest ← membersOf f ms
    pure (if colon = f.colon then m :: rest else rest)

/-- `", ".join` takes strings. -/
def strings : List Json → Except Exn (List String)
  | [] => .ok []
  | .str s :: xs => (strings xs).map (s :: ·)
  | _ :: _ => .error .type

/-- The part of a group reference after the colon. -/
def groupName (spec : String) : String := ((cut ":" spec).map Prod.snd).getD ""

/-- `_addr_expr` -/
def addrExpr (spec : Json) (side : AddrSide) (f : Family) (groups : Json) :
    Except Exn (Option Match) :=
  match spec with
  | .str s =>
    if startsWith "group:" s then do
      let members ← groupMembers groups (groupName s)
      let members ← membersOf f members
      if members.isEmpty then pure none
      else do
        let members ← strings members
        pure (some (.addrs f side members))
    else if s.toList.contains ':' = f.colon then .ok (some (.addr f side s))
    else .ok none
  | _ => .error .attribute

/-- `_port_expr`: the `replace` it calls is a method of strings, and changes nothing. -/
def portExpr (spec : Json) (side : PortSide) : Except Exn Match :=
  match spec with
  | .str s => .ok (.port side s)
  | _ => .error .attribute

/-- `_schedule_expr`, as the list of its parts. -/
def scheduleExpr (schedule : Json) : Except Exn (List String) := do
  let days ← pyGet schedule "days" .null
  let start ← pyGet schedule "start" .null
  let stop ← pyGet schedule "end" .null
  let day ← (if days.truthy then do
      let ds ← pyIter days
      pure ["meta day " ++ quoteSet (ds.map fun d => quoted (pyStr d))]
    else pure [])
  pure (day ++ if start.truthy && stop.truthy then
    ["meta hour " ++ quoted (pyStr start) ++ "-" ++ quoted (pyStr stop)] else [])

/-- The match on one of the addresses, if the rule gives it; `none` where it is not of the family. -/
def addressMatch (rule : Obj) (field : String) (side : AddrSide) (f : Family) (groups : Json) :
    Except Exn (Option (List Match)) :=
  let spec := ruleGet rule field .null
  if spec.truthy then (addrExpr spec side f groups).map (Option.map fun m => [m]) else .ok (some [])

/-- The match on one of the ports, if the rule gives it. -/
def portMatch (rule : Obj) (field : String) (side : PortSide) : Except Exn (List Match) :=
  let spec := ruleGet rule field .null
  if spec.truthy then (portExpr spec side).map fun m => [m] else .ok []

/-- The schedule of a rule. -/
def scheduleTexts (rule : Obj) (schedules : Json) : Except Exn (List String) :=
  match schedules with
  | .obj kvs =>
    let name := ruleGet rule "schedule" .null
    match if name.truthy then name else .str "" with
    | .str s =>
      let schedule := (Dict.lookup s kvs).getD .null
      if schedule.truthy then scheduleExpr schedule else .ok []
    | .arr _ | .obj _ => .error .type
    | _ => .ok []
  | _ => .error .attribute

/-- The two interface matches of a rule. -/
def zoneMatches (rule : Obj) : List Match :=
  [.iifname (.set ("zone_" ++ pyStr (ruleGet rule "src_zone" (.str "lan")))),
    .oifname (.set ("zone_" ++ pyStr (ruleGet rule "dst_zone" (.str "wan"))))]

/-- The match on the protocol. -/
def protocolMatch (protocol : Json) : List Match :=
  if protocol = .str "any" then [] else protoExpr (pyStr protocol)

/-- ICMP has no pass for IPv6, and ICMPv6 none for IPv4. -/
def skips (protocol : Json) (f : Family) : Bool :=
  (protocol = .str "icmp" ∧ f = .ip6) ∨ (protocol = .str "icmpv6" ∧ f = .ip)

/-- The matches on the MAC address and the DSCP value. -/
def markMatches (rule : Obj) (f : Family) : List Match :=
  let mac := ruleGet rule "mac" .null
  let dscp := ruleGet rule "dscp" .null
  (if mac.truthy then [.other ("ether saddr " ++ pyStr mac)] else []) ++
    if dscp = .null then [] else [.dscp f (pyStr dscp)]

/-- `_render_rule` -/
def renderRule (rule : Obj) (f : Family) (groups schedules : Json) : Except Exn (Option Line) :=
  let protocol := ruleGet rule "protocol" (.str "any")
  if skips protocol f then .ok none
  else do
    match ← addressMatch rule "src_address" .saddr f groups with
    | none => pure none
    | some src =>
      match ← addressMatch rule "dst_address" .daddr f groups with
      | none => pure none
      | some dst =>
        let sport ← portMatch rule "src_port" .sport
        let dport ← portMatch rule "dst_port" .dport
        let schedule ← scheduleTexts rule schedules
        let rid ← pyItem (.obj rule) "id"
        pure (some
          { guards := zoneMatches rule ++ protocolMatch protocol ++ src ++ dst ++ sport ++ dport ++
              markMatches rule f ++ schedule.map .other
            counter := true
            statement := if (ruleGet rule "log" .null).truthy then
              "log prefix " ++ quoted ("sbegw-" ++ pyStr rid ++ ": ") ++ " level info" else ""
            verdict := some (verdictOf (ruleGet rule "action" (.str "drop")))
            comment := some (pyStr rid) })

/-- `for x in xs: lines += f(x)` -/
def collect {X Y : Type} (f : X → Except Exn (List Y)) : List X → Except Exn (List Y)
  | [] => .ok []
  | x :: xs => do
    let lines ← f x
    let rest ← collect f xs
    pure (lines ++ rest)

theorem mem_collect {X Y : Type} {f : X → Except Exn (List Y)} : ∀ {xs : List X} {ls : List Y},
    collect f xs = .ok ls → ∀ y, y ∈ ls ↔ ∃ x ∈ xs, ∃ k, f x = .ok k ∧ y ∈ k
  | [], ls, h, y => by
    obtain rfl := Except.ok.inj h
    simp
  | x :: xs, ls, h, y => by
    obtain ⟨k, hk, h⟩ := except_bind_eq_ok.mp h
    obtain ⟨rest, hrest, h⟩ := except_bind_eq_ok.mp h
    obtain rfl := Except.ok.inj h
    rw [List.mem_append, mem_collect hrest y, List.exists_mem_cons_iff]
    simp [hk]

theorem collect_of_forall {X Y : Type} {f : X → Except Exn (List Y)} : ∀ {xs : List X},
    (∀ x ∈ xs, ∃ k, f x = .ok k) → ∃ ls, collect f xs = .ok ls
  | [], _ => ⟨[], rfl⟩
  | x :: xs, h => by
    obtain ⟨k, hk⟩ := h x List.mem_cons_self
    obtain ⟨rest, hrest⟩ := collect_of_forall fun y hy => h y (List.mem_cons_of_mem _ hy)
    exact ⟨k ++ rest, by rw [collect, hk, ok_bind, hrest, ok_bind]; rfl⟩

theorem ok_of_collect {X Y : Type} {f : X → Except Exn (List Y)} : ∀ {xs : List X} {ls : List Y},
    collect f xs = .ok ls → ∀ x ∈ xs, ∃ k, f x = .ok k
  | [], _, _ => by simp
  | x :: xs, ls, h => by
    obtain ⟨k, hk, h⟩ := except_bind_eq_ok.mp h
    obtain ⟨rest, hrest, -⟩ := except_bind_eq_ok.mp h
    exact List.forall_mem_cons.mpr ⟨⟨k, hk⟩, ok_of_collect hrest⟩

/-- What a loop has collected, item by item. -/
theorem collect_eq_flatMap {X Y : Type} {f : X → Except Exn (List Y)} : ∀ {xs : List X} {ls : List Y},
    collect f xs = .ok ls → ls = xs.flatMap fun x => (f x).toOption.getD []
  | [], ls, h => (Except.ok.inj h).symm
  | x :: xs, ls, h => by
    obtain ⟨k, hk, h⟩ := except_bind_eq_ok.mp h
    obtain ⟨rest, hrest, h⟩ := except_bind_eq_ok.mp h
    obtain rfl := Except.ok.inj h
    rw [List.flatMap_cons, hk, collect_eq_flatMap hrest]
    rfl

/-- The lines of one rule. -/
def ruleLines (rule : Obj) (groups schedules : Json) : Except Exn (List Line) :=
  collect (fun f => (renderRule rule f groups schedules).map Option.toList)
    (families (ruleGet rule "family" (.str "both")))

/-! ### What a rendered line is made of -/

/-- What the pass of a rule has read when it emits a line. -/
structure Parts (rule : Obj) (f : Family) (groups schedules : Json) (l : Line) where
  src : List Match
  dst : List Match
  sport : List Match
  dport : List Match
  texts : List String
  applicable : skips (ruleGet rule "protocol" (.str "any")) f = false
  src_eq : addressMatch rule "src_address" .saddr f groups = .ok (some src)
  dst_eq : addressMatch rule "dst_address" .daddr f groups = .ok (some dst)
  sport_eq : portMatch rule "src_port" .sport = .ok sport
  dport_eq : portMatch rule "dst_port" .dport = .ok dport
  texts_eq : scheduleTexts rule schedules = .ok texts
  guards_eq : l.guards = zoneMatches rule ++ protocolMatch (ruleGet rule "protocol" (.str "any")) ++ src ++
    dst ++ sport ++ dport ++ markMatches rule f ++ texts.map .other
  verdict_eq : l.verdict = some (verdictOf (ruleGet rule "action" (.str "drop")))

/-- Every emitted line has its parts. -/
theorem parts_of_renderRule {rule : Obj} {f : Family} {groups schedules : Json} {l : Line}
    (h : renderRule rule f groups schedules = .ok (some l)) :
    Nonempty (Parts rule f groups schedules l) := by
  unfold renderRule at h
  by_cases hskip : skips (ruleGet rule "protocol" (.str "any")) f = true
  · rw [if_pos hskip] at h
    cases h
  rw [if_neg hskip] at h
  obtain ⟨src, hsrc, h⟩ := except_bind_eq_ok.mp h
  cases src with
  | none => cases h
  | some src =>
    obtain ⟨dst, hdst, h⟩ := except_bind_eq_ok.mp h
    cases dst with
    | none => cases h
    | some dst =>
      obtain ⟨sport, hsport, h⟩ := except_bind_eq_ok.mp h
      obtain ⟨dport, hdport, h⟩ := except_bind_eq_ok.mp h
      obtain ⟨texts, htexts, h⟩ := except_bind_eq_ok.mp h
      obtain ⟨rid, hrid, h⟩ := except_bind_eq_ok.mp h
      obtain rfl := Option.some.inj (Except.ok.inj h)
      exact ⟨⟨src, dst, sport, dport, texts, by simpa using hskip, hsrc, hdst, hsport, hdport, htexts,
        rfl, rfl⟩⟩

/-! ### Zones -/

/-- The interfaces of each zone, in quotes. -/
abbrev ZoneMap := Dict String (List String)

/-- The sets of the filter table: one for each zone. -/
def zoneSets (zones : ZoneMap) : Sets := zones.map fun e => ("zone_" ++ e.1, e.2)

/-- The interface is in the zone. -/
def InZone (zones : ZoneMap) (zone iface : String) : Prop :=
  quoted iface ∈ (Dict.lookup zone zones).getD []

instance (zones : ZoneMap) (zone iface : String) : Decidable (InZone zones zone iface) :=
  inferInstanceAs (Decidable (_ ∈ _))

theorem lookup_zoneSets (zones : ZoneMap) (zone : String) :
    Dict.lookup ("zone_" ++ zone) (zoneSets zones) = Dict.lookup zone zones := by
  induction zones with
  | nil => rfl
  | cons e zones ih =>
    show Dict.lookup _ (("zone_" ++ e.1, e.2) :: zoneSets zones) = Dict.lookup _ ((e.1, e.2) :: zones)
    rw [Dict.lookup_cons, Dict.lookup_cons, ih]
    by_cases he : e.1 = zone
    · rw [if_pos (congrArg _ he), if_pos he]
    · rw [if_neg fun h => he ((String.append_right_inj _).mp h), if_neg he]

@[simp] theorem set_holds_zone (zones : ZoneMap) (zone iface : String) :
    (IfName.set ("zone_" ++ zone)).holds (zoneSets zones) iface = true ↔ InZone zones zone iface := by
  show ((Dict.lookup ("zone_" ++ zone) (zoneSets zones)).getD []).contains (quoted iface) = true ↔ _
  rw [lookup_zoneSets, List.contains_iff_mem]
  rfl

end Sbegw.Nft
