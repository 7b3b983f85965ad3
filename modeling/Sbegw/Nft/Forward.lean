import Sbegw.Nft.Meaning
import Sbegw.Netd

/-!
# The forward chain

What the gateway does with a packet it forwards: a list of lines from six sources, of which the first
that decides does.
-/

namespace Sbegw.Nft

open Text Schema EditM

/-! ### Rendering -/

/-- `i.strip('"')` -/
def stripQuotes (s : String) : String :=
  String.ofList (dropRight (· == '"') (s.toList.dropWhile (· == '"')))

/-- The bridges among the interfaces of the zones: not their VLAN interfaces. -/
def bridges (zones : ZoneMap) : List String :=
  (((zones.flatMap Prod.snd).map stripQuotes).filter fun i =>
    startsWith "br-" i && !i.toList.contains '.').dedup.insertionSort (· ≤ ·)

/-- The lines before everything else. -/
def headLines : List Line :=
  [⟨[.ctState [.established, .related]], false, "", some .accept, none⟩,
    ⟨[.ctState [.invalid]], true, "", some .drop, none⟩,
    ⟨[.other "tcp flags syn"], false, "tcp option maxseg size set rt mtu", none, none⟩]

/-- Frames that enter and leave the same bridge. -/
def bridgeLine (b : String) : Line :=
  ⟨[.iifname (.named b), .oifname (.named b)], true, "", some .accept, some ("switched within " ++ b)⟩

def dnatLine : Line := ⟨[.ctDnat], true, "", some .accept, some "port forwards"⟩

/-- The enabled rules. -/
def enabledRules : List Json → Except Exn (List Obj)
  | [] => .ok []
  | r :: rs => do
    let enabled ← pyGet r "enabled" (.bool true)
    let rest ← enabledRules rs
    pure (if enabled.truthy then r.entries :: rest else rest)

/-- `r.get("index", 0)`, an integer in a validated document. -/
def ruleIndex (rule : Obj) : ℤ :=
  match ruleGet rule "index" (.int 0) with
  | .int i => i
  | _ => 0

/-- Rules in the order of their index. -/
def byIndex (rules : List Obj) : List Obj := rules.insertionSort fun a b => ruleIndex a ≤ ruleIndex b

/-- From one zone to another. -/
def zoneLine (src dst : String) (verdict : Verdict) (comment : String) : Line :=
  ⟨[.iifname (.set ("zone_" ++ src)), .oifname (.set ("zone_" ++ dst))], true, "", some verdict,
    some comment⟩

/-- `net.get("zone", "lan")` -/
def netZone (net : Json) : String := pyStr (net.getD "zone" (.str "lan"))

/-- `net.get("isolation")` -/
def isolated (net : Json) : Bool := (net.getD "isolation" .null).truthy

/-- `not net.get("internet_access", True)` -/
def offline (net : Json) : Bool := !(net.getD "internet_access" (.bool true)).truthy

def isolationLine (nid : String) (net : Json) : Line :=
  zoneLine (netZone net) (netZone net) .drop ("isolate " ++ nid)

def offlineLine (nid : String) (net : Json) : Line :=
  zoneLine (netZone net) "wan" .reject ("no internet: " ++ nid)

/-- The lines of one network. -/
def flagLines (e : String × Json) : List Line :=
  (if isolated e.2 then [isolationLine e.1 e.2] else []) ++
    if offline e.2 then [offlineLine e.1 e.2] else []

/-- A default policy: `src, _, dst = key.partition("->")` -/
def policyEnds (key : String) : String × String := (cut "->" key).getD (key, "")

def policyLine (e : String × Json) : Line :=
  zoneLine (policyEnds e.1).1 (policyEnds e.1).2 (verdictOf e.2) e.1

/-- The policies towards the internet. -/
def wanPolicies (policies : Obj) : Obj :=
  (Dict.sorted policies).filter fun e => (policyEnds e.1).2 = "wan"

/-- Into a tunnel, as the policy says of the internet. -/
def tunnelLine (pattern : String) (e : String × Json) : Line :=
  ⟨[.iifname (.set ("zone_" ++ (policyEnds e.1).1)), .oifname (.named pattern)], true, "",
    some (verdictOf e.2), some ((policyEnds e.1).1 ++ "->tunnel")⟩

/-- Out of a tunnel. -/
def returnLine (pattern : String) : Line :=
  ⟨[.iifname (.named pattern)], true, "", some .accept, some "tunnel->any"⟩

def dropLine : Line := ⟨[], true, "", some .drop, none⟩

/-- `fw.get("tunnel_interfaces", []) or []` -/
def tunnelPatterns (fw : Json) : List String :=
  match fw.getD "tunnel_interfaces" (.arr []) with
  | .arr ps => ps.map pyStr
  | _ => []

/-- The lines of the user's rules. -/
def userLines (fw groups schedules : Json) : Except Exn (List Line) := do
  let rules ← pyIter (fw.getD "rules" (.arr []))
  let rules ← enabledRules rules
  collect (fun rule => ruleLines rule groups schedules) (byIndex rules)

/-- The lines after the user's rules. -/
def zoneDefaults (fw : Json) (networks : Obj) : List Line :=
  let policies := (fw.getD "default_policies" (.obj [])).entries
  let patterns := tunnelPatterns fw
  networks.flatMap flagLines ++ (Dict.sorted policies).map policyLine ++
    patterns.flatMap (fun p => (wanPolicies policies).map (tunnelLine p)) ++ patterns.map returnLine ++
    [dropLine]

/-- `_render_forward_chain` -/
def renderForwardChain (fw groups schedules : Json) (networks : Obj) (zones : ZoneMap) :
    Except Exn (List Line) := do
  let user ← userLines fw groups schedules
  pure (headLines ++ (bridges zones).map bridgeLine ++ [dnatLine] ++ user ++ zoneDefaults fw networks)

/-- `fw.get("groups", {})` -/
def groupsOf (cfg : Obj) : Json := (firewallOf cfg).getD "groups" (.obj [])

/-- The forward chain of a document. -/
def forwardChain (cfg : Obj) (zones : ZoneMap) : Except Exn (List Line) :=
  renderForwardChain (firewallOf cfg) (groupsOf cfg) (schedulesOf cfg) (Netd.sectionOf cfg "networks") zones

/-- What a chain says of a packet: its policy is to drop what no line decides. -/
def verdict (zones : ZoneMap) (lines : List Line) (p : Packet) : Verdict :=
  (decision (zoneSets zones) lines p).getD .drop

end Sbegw.Nft
