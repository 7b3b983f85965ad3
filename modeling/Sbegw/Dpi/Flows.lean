import Sbegw.Nft.Rule
import Sbegw.Lib.Tally
import Mathlib.Algebra.Order.Floor.Ring
import Mathlib.Data.Rat.Floor

/-!
# Flow accounting

`DpiEngine.ingest` adds the bytes of a finished flow to the bucket of its hour, its client and its protocol;
earlier events of the flow may have told its service.  Amounts in the table are numbers without a bound:
SQLite keeps them exactly below 2^63.
-/

namespace Sbegw.Dpi

open Text Schema Nft

/-! ### Classification -/

/-- `APP_MAP` -/
def appMap : Dict String (ℕ × ℕ × String) :=
  [("http", 13, 222, "HTTP"), ("http2", 13, 222, "HTTP"), ("tls", 20, 185, "SSL/TLS"), ("ssl", 20, 185, "SSL/TLS"),
    ("quic", 13, 190, "QUIC"), ("dns", 9, 61, "DNS"), ("ssh", 10, 1, "SSH"), ("ftp", 3, 1, "FTP"),
    ("smtp", 5, 1, "SMTP"), ("pop3", 5, 2, "POP3"), ("imap", 5, 3, "IMAP"), ("smb", 9, 110, "SMB"),
    ("dcerpc", 9, 110, "RPC"), ("bittorrent-dht", 1, 2, "BitTorrent"), ("dhcp", 9, 62, "DHCP"), ("ntp", 9, 63, "NTP"),
    ("rdp", 10, 7, "Remote Desktop"), ("mqtt", 14, 8, "MQTT"), ("modbus", 14, 9, "Modbus"), ("snmp", 9, 64, "SNMP"),
    ("sip", 7, 1, "SIP"), ("rtsp", 7, 2, "RTSP")]

/-- `SERVICE_MAP` -/
def serviceMap : List (List String × ℕ × ℕ × String × String) :=
  [(["youtube.com", "googlevideo.com", "youtu.be"], 6, 1001, "YouTube", "Streaming"),
    (["netflix.com", "nflxvideo.net", "nflximg.net"], 6, 1002, "Netflix", "Streaming"),
    (["spotify.com", "scdn.co"], 6, 1003, "Spotify", "Streaming"),
    (["tiktok.com", "tiktokcdn.com", "byteoversea.com"], 18, 1010, "TikTok", "Social"),
    (["facebook.com", "fbcdn.net", "facebook.net"], 18, 1011, "Facebook", "Social"),
    (["instagram.com", "cdninstagram.com"], 18, 1012, "Instagram", "Social"),
    (["whatsapp.com", "whatsapp.net"], 4, 1020, "WhatsApp", "Messaging"),
    (["discord.com", "discord.gg", "discordapp.com"], 4, 1021, "Discord", "Messaging"),
    (["zoom.us", "zoom.com"], 7, 1030, "Zoom", "Conferencing"),
    (["teams.microsoft.com", "skype.com"], 7, 1031, "Microsoft Teams", "Conferencing"),
    (["icloud.com", "apple-cloudkit.com"], 12, 1040, "iCloud", "Cloud"),
    (["dropbox.com", "dropboxapi.com"], 12, 1041, "Dropbox", "Cloud"),
    (["amazonaws.com", "cloudfront.net"], 12, 1042, "Amazon Web Services", "Cloud"),
    (["github.com", "githubusercontent.com"], 13, 1050, "GitHub", "Web"),
    (["steamcontent.com", "steampowered.com"], 8, 1060, "Steam", "Gaming"),
    (["xboxlive.com"], 8, 1061, "Xbox Live", "Gaming")]

/-- What a flow is counted as. -/
structure Service where
  protocol : String
  category : ℕ
  application : ℕ
  display : String
deriving DecidableEq

/-- `str.upper`, as far as ASCII goes. -/
def upper (s : String) : String := String.ofList (s.toList.map Char.toUpper)

/-- `_app` -/
def appOf (protocol : String) : Service :=
  let key := lower (if protocol = "" then "unknown" else protocol)
  match Dict.lookup key appMap with
  | some (category, application, display) => ⟨protocol, category, application, display⟩
  | none => ⟨protocol, 255, 65535, if key ≠ "unknown" then upper key else "Unknown"⟩

/-- `_service`, of a host name that is a text. -/
def serviceOf (hostname : String) : Option Service :=
  let host := rstrip '.' (lower hostname)
  if host = "" then none
  else
    (serviceMap.find? fun e => e.1.any fun suffix => host = suffix || endsWith ("." ++ suffix) host).map fun e =>
      ⟨replace ' ' '-' (lower e.2.2.2.1), e.2.1, e.2.2.1, e.2.2.2.1⟩

/-- `_service(hostname)`: only a text has a `lower`. -/
def service (hostname : Json) : Except Exn (Option Service) :=
  if hostname.truthy then
    match hostname with
    | .str s => .ok (serviceOf s)
    | _ => .error .attribute
  else .ok none

/-! ### Events -/

/-- `event.get(key) or {}` -/
def partOf (event : Obj) (key : String) : Json :=
  let value := ruleGet event key .null
  if value.truthy then value else .obj []

/-- The host name that a TLS, HTTP or DNS event tells. -/
def hostnameOf (event : Obj) (kind : String) : Except Exn Json :=
  if kind = "tls" then pyGet (partOf event "tls") "sni" .null
  else if kind = "http" then pyGet (partOf event "http") "hostname" .null
  else do
    let name ← pyGet (partOf event "dns") "rrname" .null
    if name.truthy then pure name else pyGet (partOf event "dns") "query" .null

/-- `str(event.get("flow_id") or "")` -/
def flowId (event : Obj) : String :=
  let value := ruleGet event "flow_id" .null
  if value.truthy then pyStr value else ""

/-- `ipaddress.ip_address` of a number. -/
def addrOfInt (i : ℤ) : Option Ip.Addr :=
  let n := i.toNat
  if i < 0 then none
  else if n < 2 ^ 32 then some (.v4 [n / 16777216 % 256, n / 65536 % 256, n / 256 % 256, n % 256])
  else if n < 2 ^ 128 then some (.v6 ((List.range 8).map fun k => n / 65536 ^ (7 - k) % 65536) none)
  else none

/-- `ipaddress.ip_address(event[key])`, where it raises neither a `KeyError` nor a `ValueError`. -/
def addressOf (event : Obj) (key : String) : Option Ip.Addr :=
  match Dict.lookup key event with
  | some (.str s) => Ip.ipAddress s
  | some (.int i) => addrOfInt i
  | some (.bool b) => addrOfInt (if b then 1 else 0)
  | _ => none

/-- `int(value)` -/
def pyInt (value : Json) : Except Exn ℤ :=
  match value with
  | .int i => .ok i
  | .bool b => .ok (if b then 1 else 0)
  | .float q => .ok (q.num.tdiv q.den)
  | .str s =>
    match readInt s with
    | some i => .ok i
    | none => .error (.value ("invalid literal for int() with base 10: " ++ pyRepr s))
  | _ => .error .type

/-- `max(0, int(flow.get(key) or 0))` -/
def amountOf (flow : Json) (key : String) : Except Exn ℕ := do
  let value ← pyGet flow key .null
  if value.truthy then (pyInt value).map Int.toNat else pure 0

/-- `str(event.get("app_proto") or event.get("proto") or "unknown").lower()` -/
def protocolOf (event : Obj) : String :=
  let app := ruleGet event "app_proto" .null
  let proto := ruleGet event "proto" .null
  lower (if app.truthy then pyStr app else if proto.truthy then pyStr proto else "unknown")

/-! ### Flows -/

/-- `_subnets` -/
def subnets (cfg : Obj) : List Ip.Iface :=
  ((Dict.lookup "networks" cfg).getD (.obj [])).entries.filterMap fun e =>
    match e.2.getD "subnet" (.str "") with
    | .str s => Ip.ipInterface s
    | _ => none

/-- `cfg.get("dpi", {}).get("include_ipv6", True)` -/
def includeIpv6 (cfg : Obj) : Bool := (((Dict.lookup "dpi" cfg).getD (.obj [])).getD "include_ipv6" (.bool true)).truthy

/-- The ends of a flow that is counted: exactly one is local, and the flag says whether it is the source. -/
def endsOf (cfg : Obj) (event : Obj) : Option (Ip.Addr × Bool) :=
  match addressOf event "src_ip", addressOf event "dest_ip" with
  | some src, some dst =>
    let srcLocal := (subnets cfg).any fun n => n.contains src
    let dstLocal := (subnets cfg).any fun n => n.contains dst
    if !includeIpv6 cfg && (src.version = 6 || dst.version = 6) then none
    else if srcLocal = dstLocal then none
    else some (if srcLocal then src else dst, srcLocal)
  | _, _ => none

/-- A flow that is accepted. -/
structure Flow where
  client : String
  clientIp : String
  service : Service
  rxBytes : ℕ
  txBytes : ℕ
  rxPackets : ℕ
  txPackets : ℕ
  timestamp : ℚ
deriving DecidableEq

/-- What a flow carried, to the server and to the client. -/
structure Carried where
  toServer : ℕ
  toClient : ℕ
  pktsServer : ℕ
  pktsClient : ℕ

def carriedOf (event : Obj) : Except Exn Carried := do
  let flow := partOf event "flow"
  let toServer ← amountOf flow "bytes_toserver"
  let toClient ← amountOf flow "bytes_toclient"
  let pktsServer ← amountOf flow "pkts_toserver"
  let pktsClient ← amountOf flow "pkts_toclient"
  pure ⟨toServer, toClient, pktsServer, pktsClient⟩

/-- The flow of an event, seen from its local end. -/
def flowOf (event : Obj) (known : Option Service) (identity : String → String) (now : ℚ)
    (ends : Ip.Addr × Bool) (c : Carried) : Flow :=
  let clientIp := ends.1.show
  { client := identity clientIp
    clientIp := clientIp
    service := known.getD (appOf (protocolOf event))
    rxBytes := if ends.2 then c.toClient else c.toServer
    txBytes := if ends.2 then c.toServer else c.toClient
    rxPackets := if ends.2 then c.pktsClient else c.pktsServer
    txPackets := if ends.2 then c.pktsServer else c.pktsClient
    timestamp := now }

/-- SQLite takes integers of 64 bits. -/
def Flow.binds (f : Flow) : Bool :=
  [f.rxBytes, f.txBytes, f.rxPackets, f.txPackets].all fun n => n < 2 ^ 63

end Sbegw.Dpi
