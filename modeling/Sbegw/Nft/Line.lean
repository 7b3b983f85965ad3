import Sbegw.Lib.Chain
import Sbegw.Schema.Primitives

/-!
# Lines of a ruleset

The rules of an nftables chain as the renderer writes them: what a line matches, what it does with a
packet it matches, and its text.  `Match.holds` is what nft makes of a match.
-/

namespace Sbegw.Nft

open Text

/-! ### Packets -/

/-- The IP version of a packet, and the keyword of the matches on its header. -/
inductive Family where
  | ip
  | ip6
deriving DecidableEq

namespace Family

def text : Family → String
  | ip => "ip"
  | ip6 => "ip6"

/-- The version number. -/
def version : Family → ℕ
  | ip => 4
  | ip6 => 6

/-- The addresses of this version hold a `:`. -/
def colon : Family → Bool
  | ip => false
  | ip6 => true

end Family

/-- What connection tracking knows of a packet's flow. -/
inductive CtState where
  | new
  | established
  | related
  | invalid
deriving DecidableEq

def CtState.text : CtState → String
  | new => "new"
  | established => "established"
  | related => "related"
  | invalid => "invalid"

/-- A packet on its way through a chain. -/
structure Packet where
  iif : String
  oif : String
  version : Family
  saddr : ℕ
  daddr : ℕ
  /-- the number of the transport protocol -/
  l4proto : ℕ
  sport : ℕ
  dport : ℕ
  ct : CtState
  /-- `ct status dnat` -/
  dnat : Bool
  /-- whether a match on anything else (MAC address, DSCP value, time of day) holds -/
  meets : String → Bool

/-! ### Matches -/

/-- The named sets of a table, with their elements as written. -/
abbrev Sets := Dict String (List String)

/-- An interface in quotes. -/
def quoted (iface : String) : String := "\"" ++ iface ++ "\""

/-- A quoted name as a pattern: a `*` at its end matches any rest. -/
def ifMatches (name iface : String) : Bool :=
  match name.toList.reverse with
  | '*' :: stem => stem.reverse.isPrefixOf iface.toList
  | _ => name == iface

/-- What an interface is compared with. -/
inductive IfName where
  /-- `@name`, a named set -/
  | set (name : String)
  /-- `"name"` -/
  | named (name : String)
deriving DecidableEq

namespace IfName

def text : IfName → String
  | set name => "@" ++ name
  | named name => quoted name

def holds (sets : Sets) (iface : String) : IfName → Bool
  | set name => ((Dict.lookup name sets).getD []).contains (quoted iface)
  | named name => ifMatches name iface

end IfName

/-- `saddr` or `daddr`. -/
inductive AddrSide where
  | saddr
  | daddr
deriving DecidableEq

namespace AddrSide

def text : AddrSide → String
  | saddr => "saddr"
  | daddr => "daddr"

def of (p : Packet) : AddrSide → ℕ
  | saddr => p.saddr
  | daddr => p.daddr

end AddrSide

/-- `sport` or `dport`. -/
inductive PortSide where
  | sport
  | dport
deriving DecidableEq

namespace PortSide

def text : PortSide → String
  | sport => "sport"
  | dport => "dport"

def of (p : Packet) : PortSide → ℕ
  | sport => p.sport
  | dport => p.dport

end PortSide

/-- The numbers of the transport protocols the renderer names. -/
def protoNumber (name : String) : Option ℕ :=
  [("icmp", 1), ("tcp", 6), ("udp", 17), ("gre", 47), ("esp", 50), ("icmpv6", 58)].lookup name

/-- An address of the given version is in the network that the text stands for. -/
def inPrefix (f : Family) (spec : String) (a : ℕ) : Bool :=
  match Ip.ipInterface spec with
  | some i => i.addr.version == f.version && decide (i.networkAddress ≤ a) &&
      decide (a < i.networkAddress + i.size)
  | none => false

/-- The first and the last port of `port` or `port-port`. -/
def portRange (spec : String) : Option (ℤ × ℤ) :=
  match (split '-' (strip spec)).mapM readInt with
  | some [p] => some (p, p)
  | some [lo, hi] => some (lo, hi)
  | _ => none

/-- A port is in the range that the text stands for. -/
def inRange (spec : String) (port : ℕ) : Bool :=
  match portRange spec with
  | some (lo, hi) => decide (lo ≤ port) && decide ((port : ℤ) ≤ hi)
  | none => false

/-- A match. -/
inductive Match where
  | iifname (n : IfName)
  | oifname (n : IfName)
  | ctState (states : List CtState)
  | ctDnat
  | l4proto (protos : List String)
  | addr (f : Family) (side : AddrSide) (spec : String)
  | addrs (f : Family) (side : AddrSide) (members : List String)
  | port (side : PortSide) (spec : String)
  /-- `tcp dport 80` -/
  | protoPort (proto : String) (spec : String)
  | dscp (f : Family) (value : String)
  /-- anything else, by its text -/
  | other (text : String)
deriving DecidableEq

/-- `_quote_set` -/
def quoteSet (values : List String) : String := "\x7b " ++ join ", " values ++ " \x7d"

namespace Match

def text : Match → String
  | iifname n => "iifname " ++ n.text
  | oifname n => "oifname " ++ n.text
  | ctState states => "ct state " ++ join "," (states.map CtState.text)
  | ctDnat => "ct status dnat"
  | l4proto [p] => "meta l4proto " ++ p
  | l4proto ps => "meta l4proto " ++ quoteSet ps
  | addr f side spec => f.text ++ " " ++ side.text ++ " " ++ spec
  | addrs f side members => f.text ++ " " ++ side.text ++ " " ++ quoteSet members
  | port side spec => "th " ++ side.text ++ " " ++ spec
  | protoPort proto spec => proto ++ " dport " ++ spec
  | dscp f value => f.text ++ " dscp " ++ value
  | other t => t

/-- The match holds of a packet. -/
def holds (sets : Sets) (p : Packet) : Match → Bool
  | iifname n => n.holds sets p.iif
  | oifname n => n.holds sets p.oif
  | ctState states => states.contains p.ct
  | ctDnat => p.dnat
  | l4proto protos => protos.any fun n => protoNumber n == some p.l4proto
  | addr f side spec => f == p.version && inPrefix f spec (side.of p)
  | addrs f side members => f == p.version && members.any fun m => inPrefix f m (side.of p)
  | port side spec => inRange spec (side.of p)
  | protoPort proto spec => protoNumber proto == some p.l4proto && inRange spec p.dport
  | dscp f value => f == p.version && p.meets ("dscp " ++ value)
  | other t => p.meets t

end Match

/-! ### Lines -/

/-- What a line decides. -/
inductive Verdict where
  | accept
  | reject
  | drop
  | masquerade
  | dnat (target : String)
  | snat (target : String)
deriving DecidableEq

def Verdict.text : Verdict → String
  | accept => "accept"
  | reject => "reject"
  | drop => "drop"
  | masquerade => "masquerade"
  | dnat target => "dnat to " ++ target
  | snat target => "snat to " ++ target

/-- A line of a chain. -/
structure Line where
  guards : List Match
  counter : Bool
  /-- a statement that decides nothing, such as a log; empty where there is none -/
  statement : String
  verdict : Option Verdict
  comment : Option String
deriving DecidableEq

namespace Line

def text (l : Line) : String :=
  join " " ((l.guards.map Match.text ++ [if l.counter then "counter" else "", l.statement] ++
    l.verdict.toList.map Verdict.text ++
    l.comment.toList.map fun c => "comment " ++ quoted c).filter (· ≠ ""))

/-- All matches of the line hold. -/
def applies (sets : Sets) (l : Line) (p : Packet) : Bool := l.guards.all (Match.holds sets p)

end Line

/-- The verdict of the first line that applies and has one. -/
def decision (sets : Sets) (lines : List Line) (p : Packet) : Option Verdict :=
  Chain.first (Line.applies sets) Line.verdict lines p

/-! ### Quoted names and texts of addresses -/

theorem quoted_inj {a b : String} : quoted a = quoted b ↔ a = b := by
  unfold quoted
  rw [String.append_left_inj, String.append_right_inj]

/-- A name that does not end in `*` matches itself only. -/
theorem ifMatches_of_not_star {name iface : String} (h : name.toList.getLast? ≠ some '*') :
    ifMatches name iface = true ↔ name = iface := by
  unfold ifMatches
  split
  · next stem hs =>
    have hl : name.toList = stem.reverse ++ ['*'] := by
      rw [← List.reverse_reverse name.toList, hs, List.reverse_cons]
    rw [hl] at h
    simp at h
  · exact beq_iff_eq

/-- A name matches itself, star or not. -/
theorem ifMatches_self (name : String) : ifMatches name name = true := by
  unfold ifMatches
  split
  · next stem hs =>
    have hl : name.toList = stem.reverse ++ ['*'] := by
      rw [← List.reverse_reverse name.toList, hs, List.reverse_cons]
    rw [List.isPrefixOf_iff_prefix, hl]
    exact ⟨['*'], rfl⟩
  · exact beq_self_eq_true name

end Sbegw.Nft
