import Sbegw.Edit
import Sbegw.Lib.Ip

/-!
# Primitive validators

The vocabulary of the schema and the checks on single values: identifiers, names, enumerations,
integers, MAC and IP addresses, port ranges, passphrases.
-/

namespace Sbegw.Schema

open Text

def schemaVersion : ℤ := 4

def portRoles : List String := ["lan", "wan", "disabled"]

def networkPurposes : List String :=
  ["corporate", "guest", "iot", "voice", "management", "dmz", "vpn"]

def zones : List String :=
  ["wan", "lan", "gateway", "vpn", "guest", "iot", "dmz", "management", "containers"]

def wanModes : List String := ["dhcp", "static", "pppoe", "disabled"]

def wanIpv6Modes : List String := ["disabled", "dhcpv6", "dhcpv6-pd", "slaac", "static"]

def fwActions : List String := ["allow", "reject", "drop"]

def bandNames : List String := ["2g", "5g", "6g"]

def widths : List ℕ := [20, 40, 80, 160, 240, 320]

def securityModes : List String :=
  ["open", "wpa2", "wpa2-wpa3", "wpa3", "wpa2-enterprise", "wpa3-enterprise"]

def applications : List String := ["standard", "hotspot", "iot"]

def broadcastingAps : List String := ["all", "group", "specific"]

def advancedModes : List String := ["auto", "manual"]

def multicastFilterings : List String := ["off", "auto", "custom"]

def rfEnvironments : List String := ["indoor", "outdoor", "any"]

def sixGhzPowerModes : List String := ["lpi", "sp", "vlp"]

def roles : List String :=
  ["owner", "super-admin", "network-admin", "security-admin", "helpdesk", "read-only"]

def deviceModes : List String := ["gateway", "ap"]

def ssidUplinks : List String := ["lan", "wan"]

def fanModes : List String := ["auto", "quiet", "balanced", "cool", "max", "manual"]

def ledModes : List String := ["status", "identify", "off"]

/-! ### Patterns -/

/-- A string of one to `n` characters, the first of class `p`, the others of class `q`; the pattern
ends in `$`. -/
def headTail (p q : Char → Bool) (n : ℕ) (s : String) : Bool :=
  match chopNewline s.toList with
  | [] => false
  | c :: cs => p c && cs.all q && cs.length < n

/-- `ID_RE` -/
def idRe : String → Bool :=
  headTail (fun c => isLowerAlpha c || isDigit c) (fun c => isLowerAlpha c || isDigit c || c == '-') 39

/-- `NAME_RE` -/
def nameRe : String → Bool :=
  headTail isAlnum (fun c => isAlnum c || " ._()/+-".toList.contains c) 63

/-- `MAC_RE`: six pairs of lower-case hexadecimal digits. -/
def macRe (s : String) : Bool :=
  let parts := splitChars ':' (chopNewline s.toList)
  parts.length == 6 && parts.all fun p => p.length == 2 && p.all isHexLower

/-- The pattern of `system.hostname`. -/
def hostnameRe : String → Bool := headTail isAlnum (fun c => isAlnum c || c == '-') 63

/-- The pattern of `wifi.country`. -/
def countryRe (s : String) : Bool :=
  let cs := chopNewline s.toList
  cs.length == 2 && cs.all isUpperAlpha

/-- A label of a DNS name: at most 63 characters of class `q`, the first and the last of class `p`. -/
def isLabel (p q : Char → Bool) (cs : List Char) : Bool :=
  !cs.isEmpty && cs.length ≤ 63 && cs.all q && cs.head?.any p && cs.getLast?.any p

/-- `_DOMAIN_RE`: labels joined by dots, with an optional dot at the end; underscores everywhere but
in the last label. -/
def domainRe (s : String) : Bool :=
  let cs := chopNewline s.toList
  let body := match cs.reverse with | '.' :: rest => rest.reverse | _ => cs
  let labels := splitChars '.' body
  1 ≤ body.length && body.length ≤ 253 &&
    labels.dropLast.all (isLabel (fun c => isAlnum c || c == '_')
      (fun c => isAlnum c || c == '_' || c == '-')) &&
    (labels.getLast?).any (isLabel isAlnum (fun c => isAlnum c || c == '-'))

/-- What follows `http://` or `https://`. -/
def afterHttp (cs : List Char) : Option (List Char) :=
  (stripPrefix? "http://".toList cs).orElse fun _ => stripPrefix? "https://".toList cs

/-- `^https?://[^\s/]+(?::[0-9]{1,5})?/inform/?$`; the port is part of what `[^\s/]+` takes. -/
def informRe (s : String) : Bool :=
  match afterHttp (chopNewline s.toList) with
  | none => false
  | some cs =>
    let host := cs.takeWhile fun c => c != '/' && !isSpace c
    let rest := cs.drop host.length
    !host.isEmpty && (rest == "/inform".toList || rest == "/inform/".toList)

/-- `^https?://[^\s]+/proxy/network/integration/v1$` -/
def integrationRe (s : String) : Bool :=
  match afterHttp (chopNewline s.toList) with
  | none => false
  | some cs =>
    cs.all (fun c => !isSpace c) &&
      match stripPrefix? "/proxy/network/integration/v1".toList.reverse cs.reverse with
      | some host => !host.isEmpty
      | none => false

/-- `^[0-9a-fA-F-]{16,64}$` -/
def siteIdRe (s : String) : Bool :=
  let cs := chopNewline s.toList
  16 ≤ cs.length && cs.length ≤ 64 && cs.all fun c => isHex c || c == '-'

/-! ### Python conversions -/

/-- `str(value)` as far as a pattern or `int` can accept it: a float prints a `.`, an `e` form or a
sign, and a list or an object its brackets. -/
def pyStr : Json → String
  | .null => "None"
  | .bool b => if b then "True" else "False"
  | .int i => ofInt i
  | .float _ => "."
  | .str s => s
  | .arr _ => "["
  | .obj _ => "\x7b"

/-- `repr(s)` of a string. -/
def pyRepr (s : String) : String :=
  let quote := if s.toList.contains '\'' && !s.toList.contains '"' then "\"" else "'"
  let esc (c : Char) : List Char :=
    if c == '\\' then ['\\', '\\'] else if c == '\n' then ['\\', 'n']
    else if c == '\r' then ['\\', 'r'] else if c == '\t' then ['\\', 't']
    else if c == '\'' && quote == "'" then ['\\', '\''] else [c]
  quote ++ String.ofList (s.toList.flatMap esc) ++ quote

/-- `x in c` for a JSON container: a key of an object, an element of a list, a part of a string. -/
def pyIn (x c : Json) : Except Exn Bool :=
  match c with
  | .obj kvs =>
    match x with
    | .str s => .ok (Dict.lookup s kvs).isSome
    | .arr _ | .obj _ => .error .type
    | _ => .ok false
  | .arr xs => .ok (xs.any fun y => Json.pyEq x y)
  | .str t => match x with | .str s => .ok (isInfixOf s t) | _ => .error .type
  | _ => .error .type

/-! ### Single values -/

/-- `_need(value, path, dict, what)` -/
def needObj (value : Json) (path what : String) : Except Exn Obj :=
  match value with
  | .obj kvs => .ok kvs
  | _ => .error (.validation path ("expected " ++ what))

/-- `_need(value, path, list, what)` -/
def needArr (value : Json) (path what : String) : Except Exn (List Json) :=
  match value with
  | .arr xs => .ok xs
  | _ => .error (.validation path ("expected " ++ what))

/-- `_need(value, path, str, what)` -/
def needStr (value : Json) (path what : String) : Except Exn String :=
  match value with
  | .str s => .ok s
  | _ => .error (.validation path ("expected " ++ what))

def vId (value : Json) (path : String) : Except Exn String := do
  let s ← needStr value path "an identifier string"
  if idRe s then pure s
  else .error (.validation path "must be lowercase alphanumeric with dashes, <=39 chars")

def vName (value : Json) (path : String) : Except Exn String := do
  let s ← needStr value path "a name string"
  if nameRe s then pure s
  else .error (.validation path "1-63 chars, letters/digits/space/._- only")

def vEnum (value : Json) (path : String) (allowed : List String) : Except Exn String :=
  match value with
  | .str s =>
    if allowed.contains s then .ok s
    else .error (.validation path ("must be one of " ++ join ", " allowed))
  | _ => .error (.validation path ("must be one of " ++ join ", " allowed))

def vInt (value : Json) (path : String) (low high : ℤ) : Except Exn ℤ :=
  match value with
  | .int i =>
    if low ≤ i ∧ i ≤ high then .ok i
    else .error (.validation path ("must be between " ++ ofInt low ++ " and " ++ ofInt high))
  | _ => .error (.validation path "expected an integer")

def vBool (value : Json) (path : String) : Except Exn Bool :=
  match value with
  | .bool b => .ok b
  | _ => .error (.validation path "expected a boolean")

def vVlan (value : Json) (path : String) : Except Exn (Option ℤ) :=
  match value with
  | .null => .ok none
  | v => (vInt v path 1 4094).map some

def vMac (value : Json) (path : String) : Except Exn String := do
  let s ← needStr value path "a MAC address"
  let mac := replace '-' ':' (lower (strip s))
  if macRe mac then pure mac else .error (.validation path "must be aa:bb:cc:dd:ee:ff")

/-- `v_ip` up to the address itself. -/
def ipOf (value : Json) (path : String) (version : Option ℕ) : Except Exn Ip.Addr := do
  let s ← needStr value path "an IP address"
  match Ip.ipAddress s with
  | none => .error (.validation path (pyRepr s ++ " does not appear to be an IPv4 or IPv6 address"))
  | some addr =>
    match version with
    | some v =>
      if addr.version = v then pure addr
      else .error (.validation path ("must be IPv" ++ ofNat v))
    | none => pure addr

def vIp (value : Json) (path : String) (version : Option ℕ) : Except Exn String :=
  (ipOf value path version).map Ip.Addr.show

/-- `v_cidr` up to the interface itself. -/
def cidrOf (value : Json) (path : String) (version : Option ℕ) : Except Exn Ip.Iface := do
  let s ← needStr value path "an address in CIDR form"
  match Ip.ipInterface s with
  | none => .error (.validation path
      (pyRepr s ++ " does not appear to be an IPv4 or IPv6 interface"))
  | some iface =>
    if version.any (fun v => iface.addr.version != v) then
      .error (.validation path ("must be IPv" ++ ofNat (version.getD 0)))
    else if iface.prefixlen = iface.addr.maxPrefixlen then
      .error (.validation path "needs a subnet prefix, e.g. 192.168.2.1/24")
    else pure iface

def vCidr (value : Json) (path : String) (version : Option ℕ) : Except Exn String :=
  (cidrOf value path version).map Ip.Iface.show

/-- The numbers of a port range, from the parts between the dashes. -/
def portNumbers (path : String) : List String → Except Exn (List ℤ)
  | [] => .ok []
  | p :: ps =>
    match readInt p with
    | none => .error (.validation path "ports must be numeric")
    | some n => (portNumbers path ps).map (n :: ·)

def vPortRange (value : Json) (path : String) : Except Exn String := do
  let text := strip (pyStr value)
  let parts := split '-' text
  if 2 < parts.length then .error (.validation path "expected port or port-port")
  else
    let nums ← portNumbers path parts
    if nums.any (fun n => !(1 ≤ n && n ≤ 65535)) then
      .error (.validation path "ports must be 1-65535")
    else match nums with
      | [lo, hi] =>
        if hi < lo then .error (.validation path "range start must not exceed end") else pure text
      | _ => pure text

def vPsk (value : Json) (path : String) : Except Exn String := do
  let s ← needStr value path "a passphrase"
  if 8 ≤ s.length ∧ s.length ≤ 63 then pure s
  else .error (.validation path "WPA passphrase must be 8-63 characters")

/-- The length of the UTF-8 encoding of a string. -/
def utf8Len (s : String) : ℕ := (s.toList.map Char.utf8Size).sum

def vSsid (value : Json) (path : String) : Except Exn String := do
  let s ← needStr value path "an SSID"
  if 1 ≤ utf8Len s ∧ utf8Len s ≤ 32 then pure s
  else .error (.validation path "SSID must be 1-32 bytes of UTF-8")

/-- `_domain` -/
def domain (value : Json) (path : String) : Except Exn String := do
  let s ← needStr value path "a DNS name"
  let name := rstrip '.' (lower (strip s))
  if domainRe name then pure name else .error (.validation path "invalid DNS name")

/-! ### Editing a field -/

/-- `check(d.setdefault(k, v))` -/
def field {β : Type} (k : String) (v : Json) (check : Json → Except Exn β) : EditM β := do
  let x ← EditM.setdefault k v
  EditM.lift (check x)

/-- `if d.get(k): check(d[k])` -/
def ifSet {β : Type} (k : String) (check : Json → Except Exn β) : EditM Unit := do
  let x ← EditM.get k
  if x.truthy then EditM.lift ((check x).map fun _ => ()) else pure ()

end Sbegw.Schema
