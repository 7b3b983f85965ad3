import Sbegw.Lib.Text

/-!
# IP addresses

The text forms of IPv4 and IPv6 addresses, interfaces and networks, as Python's `ipaddress` module
reads and prints them.  An IPv4 address is its four octets, an IPv6 address its eight hextets and
an optional scope.
-/

namespace Ip

open Text

/-- An address. -/
inductive Addr where
  | v4 (octets : List ℕ)
  | v6 (hextets : List ℕ) (scope : Option (List Char))
deriving DecidableEq

namespace Addr

/-- `addr.version`. -/
def version : Addr → ℕ
  | v4 _ => 4
  | v6 _ _ => 6

/-- `addr.max_prefixlen`. -/
def maxPrefixlen : Addr → ℕ
  | v4 _ => 32
  | v6 _ _ => 128

/-- The address as one number. -/
def toNat : Addr → ℕ
  | v4 os => os.foldl (fun n o => n * 256 + o) 0
  | v6 hs _ => hs.foldl (fun n h => n * 65536 + h) 0

end Addr

/-! ### Reading -/

/-- The value of a digit in base 16. -/
def hexValue (c : Char) : ℕ :=
  if isDigit c then c.toNat - '0'.toNat
  else if isLowerAlpha c then c.toNat - 'a'.toNat + 10 else c.toNat - 'A'.toNat + 10

/-- A string of digits read in base `b`. -/
def readBase (b : ℕ) (cs : List Char) : ℕ := cs.foldl (fun n c => n * b + hexValue c) 0

/-- `_parse_octet`: up to three ASCII digits without a leading zero, at most 255. -/
def parseOctet (cs : List Char) : Option ℕ :=
  if cs.isEmpty || !cs.all isDigit || 3 < cs.length || (cs != ['0'] && cs.head? == some '0') then none
  else if 255 < readBase 10 cs then none else some (readBase 10 cs)

/-- `IPv4Address`. -/
def parseV4 (cs : List Char) : Option (List ℕ) :=
  match splitChars '.' cs with
  | [a, b, c, d] => do
    let a ← parseOctet a
    let b ← parseOctet b
    let c ← parseOctet c
    let d ← parseOctet d
    pure [a, b, c, d]
  | _ => none

/-- `_parse_hextet`: one to four hexadecimal digits. -/
def parseHextet (cs : List Char) : Option ℕ :=
  if cs.isEmpty || !cs.all isHex || 4 < cs.length then none else some (readBase 16 cs)

/-- The last part of an IPv6 address may be an IPv4 address; it stands for two hextets. -/
def expandV4 (parts : List (List Char)) : Option (List (List Char)) :=
  match parts.getLast? with
  | none => none
  | some l =>
    if l.contains '.' then
      (parseV4 l).bind fun os =>
        match os with
        | [a, b, c, d] => some (parts.dropLast ++
            [Nat.toDigits 16 (a * 256 + b), Nat.toDigits 16 (c * 256 + d)])
        | _ => none
    else some parts

/-- The positions of the empty parts between the first and the last one. -/
def skipIndices (parts : List (List Char)) : List ℕ :=
  (List.range parts.length).filter fun i =>
    decide (0 < i ∧ i + 1 < parts.length) && (parts.getD i ['0']).isEmpty

/-- `_ip_int_from_string` of IPv6. -/
def parseHextets (cs : List Char) : Option (List ℕ) :=
  (if (splitChars ':' cs).length < 3 then none else expandV4 (splitChars ':' cs)).bind fun parts =>
    if 9 < parts.length then none
    else match skipIndices parts with
      | [] =>
        if parts.length = 8 then parts.mapM parseHextet else none
      | [i] =>
        let hi := if (parts.headD []).isEmpty then parts.take (i - 1) else parts.take i
        let lo := if (parts.getLastD []).isEmpty then (parts.drop (i + 1)).dropLast else parts.drop (i + 1)
        -- a leading or trailing `:` only stands next to the `::`
        if ((parts.headD []).isEmpty && hi != []) || ((parts.getLastD []).isEmpty && lo != []) ||
            8 ≤ hi.length + lo.length then none
        else do
          let h ← hi.mapM parseHextet
          let l ← lo.mapM parseHextet
          pure (h ++ List.replicate (8 - (hi.length + lo.length)) 0 ++ l)
      | _ => none

/-- `IPv6Address`: the hextets and the scope after `%`. -/
def parseV6 (cs : List Char) : Option (List ℕ × Option (List Char)) :=
  match splitChars '%' cs with
  | [a] => (parseHextets a).map fun hs => (hs, none)
  | [a, s] => if s.isEmpty then none else (parseHextets a).map fun hs => (hs, some s)
  | _ => none

/-- `ipaddress.ip_address(s)`, `none` where it raises `ValueError`. -/
def ipAddress (s : String) : Option Addr :=
  if s.toList.contains '/' then none
  else match parseV4 s.toList with
    | some os => some (.v4 os)
    | none => (parseV6 s.toList).map fun p => .v6 p.1 p.2

/-! ### Printing -/

/-- The hextets of a run of zeros of length at least two are printed as `::`: the position and the
length of the first longest run. -/
def longestZeros (hs : List ℕ) : ℕ × ℕ :=
  (List.range hs.length).foldl (fun best i =>
    let len := ((hs.drop i).takeWhile (· == 0)).length
    if best.2 < len then (i, len) else best) (0, 0)

/-- The text of a list of hextets. -/
def showHextets (hs : List ℕ) : List Char :=
  let (i, len) := longestZeros hs
  let text (l : List ℕ) := ([':'].intercalate (l.map (Nat.toDigits 16)))
  if 1 < len then text (hs.take i) ++ [':', ':'] ++ text (hs.drop (i + len)) else text hs

/-- `str(addr)`. -/
def Addr.show : Addr → String
  | .v4 os => String.ofList (['.'].intercalate (os.map (Nat.toDigits 10)))
  | .v6 hs none => String.ofList (showHextets hs)
  | .v6 hs (some s) => String.ofList (showHextets hs ++ '%' :: s)

/-! ### Interfaces and networks -/

/-- An address with its prefix length. -/
structure Iface where
  addr : Addr
  prefixlen : ℕ
deriving DecidableEq

/-- `_prefix_from_ip_int`: the length of a mask of leading ones. -/
def prefixOfMask (n : ℕ) : Option ℕ :=
  (List.range 33).find? fun p => n == 2 ^ 32 - 2 ^ (32 - p)

/-- `_make_netmask` of IPv4: a prefix length, a netmask or a hostmask. -/
def prefixV4 (cs : List Char) : Option ℕ :=
  if !cs.isEmpty && cs.all isDigit && readBase 10 cs ≤ 32 then some (readBase 10 cs)
  else (parseV4 cs).bind fun os =>
    let n := (Addr.v4 os).toNat
    (prefixOfMask n).orElse fun _ => prefixOfMask (2 ^ 32 - 1 - n)

/-- `_make_netmask` of IPv6: a prefix length. -/
def prefixV6 (cs : List Char) : Option ℕ :=
  if !cs.isEmpty && cs.all isDigit && readBase 10 cs ≤ 128 then some (readBase 10 cs) else none

/-- `ipaddress.ip_interface(s)`, `none` where it raises `ValueError`. -/
def ipInterface (s : String) : Option Iface :=
  match splitChars '/' s.toList with
  | [a] =>
    match parseV4 a with
    | some os => some ⟨.v4 os, 32⟩
    | none => (parseV6 a).map fun p => ⟨.v6 p.1 p.2, 128⟩
  | [a, m] =>
    match parseV4 a, prefixV4 m with
    | some os, some p => some ⟨.v4 os, p⟩
    | _, _ =>
      match parseV6 a, prefixV6 m with
      | some q, some p => some ⟨.v6 q.1 q.2, p⟩
      | _, _ => none
  | _ => none

/-- `str(iface)`. -/
def Iface.show (i : Iface) : String := i.addr.show ++ "/" ++ Text.ofNat i.prefixlen

/-- How many addresses a network of this prefix length has. -/
def Iface.size (i : Iface) : ℕ := 2 ^ (i.addr.maxPrefixlen - i.prefixlen)

/-- The first address of `iface.network`. -/
def Iface.networkAddress (i : Iface) : ℕ := i.addr.toNat / i.size * i.size

/-- `addr in iface.network`. -/
def Iface.contains (i : Iface) (a : Addr) : Bool :=
  i.addr.version == a.version && i.networkAddress ≤ a.toNat && a.toNat < i.networkAddress + i.size

/-- `iface.network.overlaps(other.network)`. -/
def Iface.overlaps (i j : Iface) : Bool :=
  i.addr.version == j.addr.version && i.networkAddress < j.networkAddress + j.size &&
    j.networkAddress < i.networkAddress + i.size

/-- The network address of an interface, as an address. -/
def Iface.networkAddr (i : Iface) : Addr :=
  match i.addr with
  | .v4 _ =>
    let n := i.networkAddress
    .v4 [n / 16777216 % 256, n / 65536 % 256, n / 256 % 256, n % 256]
  | .v6 _ _ =>
    let n := i.networkAddress
    .v6 ((List.range 8).map fun k => n / 65536 ^ (7 - k) % 65536) none

/-- `str(iface.network)`. -/
def Iface.showNetwork (i : Iface) : String :=
  i.networkAddr.show ++ "/" ++ Text.ofNat i.prefixlen

/-! ### The version of a text -/

theorem isDigit_of_parseOctet {cs : List Char} {n : ℕ} (h : parseOctet cs = some n) :
    ∀ c ∈ cs, isDigit c = true := by
  unfold parseOctet at h
  split at h
  · simp at h
  · next hc =>
    simp only [Bool.or_eq_true, Bool.not_eq_true', not_or] at hc
    have hall := hc.1.1.2
    simpa using hall

/-- The text of an IPv4 address holds no `:`. -/
theorem colon_of_parseV4 {cs : List Char} {os : List ℕ} (h : parseV4 cs = some os) : ':' ∉ cs := by
  rw [mem_splitChars (show ':' ≠ '.' by decide)]
  rintro ⟨p, hp, hc⟩
  unfold parseV4 at h
  split at h
  · next a b c d hs =>
    simp only [Option.bind_eq_bind, Option.bind_eq_some_iff] at h
    obtain ⟨w, hw, x, hx, y, hy, z, hz, -⟩ := h
    have hdigit : isDigit ':' = true := by
      rw [hs] at hp
      simp only [List.mem_cons, List.not_mem_nil, or_false] at hp
      rcases hp with rfl | rfl | rfl | rfl
      · exact isDigit_of_parseOctet hw _ hc
      · exact isDigit_of_parseOctet hx _ hc
      · exact isDigit_of_parseOctet hy _ hc
      · exact isDigit_of_parseOctet hz _ hc
    exact absurd hdigit (by decide)
  · simp at h

theorem colon_of_prefixV4 {cs : List Char} {n : ℕ} (h : prefixV4 cs = some n) : ':' ∉ cs := by
  intro hc
  unfold prefixV4 at h
  split at h
  · next hd =>
    simp only [Bool.and_eq_true] at hd
    have hdigit := List.all_eq_true.mp hd.1.2 _ hc
    exact absurd hdigit (by decide)
  · rw [Option.bind_eq_some_iff] at h
    obtain ⟨os, hos, -⟩ := h
    exact colon_of_parseV4 hos hc

theorem colon_of_parseHextets {cs : List Char} {hs : List ℕ} (h : parseHextets cs = some hs) :
    ':' ∈ cs := by
  unfold parseHextets at h
  rw [Option.bind_eq_some_iff] at h
  obtain ⟨parts, hparts, -⟩ := h
  split at hparts
  · simp at hparts
  · next hlen => exact mem_of_splitChars (by omega)

/-- The text of an IPv6 address holds a `:`. -/
theorem colon_of_parseV6 {cs : List Char} {r : List ℕ × Option (List Char)} (h : parseV6 cs = some r) :
    ':' ∈ cs := by
  rw [mem_splitChars (show ':' ≠ '%' by decide)]
  unfold parseV6 at h
  split at h
  · next a hs =>
    rw [Option.map_eq_some_iff] at h
    obtain ⟨hx, hhx, -⟩ := h
    exact ⟨a, by simp [hs], colon_of_parseHextets hhx⟩
  · next a s hs =>
    split at h
    · simp at h
    · rw [Option.map_eq_some_iff] at h
      obtain ⟨hx, hhx, -⟩ := h
      exact ⟨a, by simp [hs], colon_of_parseHextets hhx⟩
  · simp at h

/-- **The version shows in the text**: an IPv6 network is written with a `:`, an IPv4 network without
one. -/
theorem colon_iff_version {s : String} {i : Iface} (h : ipInterface s = some i) :
    ':' ∈ s.toList ↔ i.addr.version = 6 := by
  rw [mem_splitChars (show ':' ≠ '/' by decide)]
  unfold ipInterface at h
  split at h
  · next a hs =>
    rw [hs]
    cases h4 : parseV4 a with
    | some os =>
      simp only [h4, Option.some.injEq] at h
      have hno := colon_of_parseV4 h4
      simp [← h, Addr.version, hno]
    | none =>
      simp only [h4, Option.map_eq_some_iff] at h
      obtain ⟨r, hr, rfl⟩ := h
      have hyes := colon_of_parseV6 hr
      simp [Addr.version, hyes]
  · next a m hs =>
    rw [hs]
    split at h
    · next os p h4 hp =>
      simp only [Option.some.injEq] at h
      have hno := colon_of_parseV4 h4
      have hno' := colon_of_prefixV4 hp
      simp [← h, Addr.version, hno, hno']
    · split at h
      · next q p hq hp =>
        simp only [Option.some.injEq] at h
        have hyes := colon_of_parseV6 hq
        simp [← h, Addr.version, hyes]
      · simp at h
  · simp at h

/-- The size of a network is positive, so it holds its first address. -/
theorem size_pos (i : Iface) : 0 < i.size := Nat.two_pow_pos _

end Ip
