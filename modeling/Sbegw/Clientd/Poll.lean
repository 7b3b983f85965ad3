import Sbegw.Clientd
import Sbegw.Lib.Binary64
import Sbegw.Lib.Ip
import Mathlib.Data.List.Sort
import Mathlib.Data.String.Basic

/-!
# Polling the clients

`ClientDatabase.poll` merges the leases, the neighbour tables, the forwarding table of the bridge and the
Wi-Fi stations into one item for each address, and compares the items with those of the poll before.
-/

namespace Sbegw.Clientd

open Text

/-! ### What a poll reads -/

/-- A lease of dnsmasq. -/
structure Lease where
  mac : String
  address : String
  hostname : Option String

/-- An entry of `ip -j neigh show`. -/
structure Neighbour where
  lladdr : Option String
  dst : String
  state : List String

/-- An entry of `bridge -j fdb show`. -/
structure FdbRecord where
  mac : Option String
  ifname : Option String
  flags : List String
  vlan : Json

/-- What a poll is called with, what it asks the kernel for, and its two clocks. -/
structure Sources where
  cfg : Obj
  leases : List Lease
  neighbours4 : List Neighbour
  neighbours6 : List Neighbour
  fdb : List FdbRecord
  wireless : List Obj
  now : ℚ
  monotonic : ℚ

/-- `client["mac"]` of a station. -/
def macOf (client : Obj) : String :=
  match Dict.lookup "mac" client with
  | some (.str s) => s
  | _ => ""

/-- `d[k]`, and `None` for an absent key. -/
def field (item : Obj) (k : String) : Json := (Dict.lookup k item).getD .null

/-- A text, or `None`. -/
def optional : Option String → Json
  | none => .null
  | some s => .str s

/-! ### The merge -/

/-- What `entry` makes of an address that is new. -/
def blank (mac : String) : Obj :=
  [("mac", .str mac), ("ipv4", .null), ("ipv6", .arr []), ("hostname", .null), ("network", .null),
    ("vlan", .null), ("port", .null), ("connection", .str "unknown"), ("wireless", .null),
    ("online", .bool true)]

/-- `item = entry(mac)`, and what is done to the item. -/
def amend (mac : String) (f : Obj → Obj) (merged : Dict String Obj) : Dict String Obj :=
  Dict.set (normaliseMac mac) (f ((Dict.lookup (normaliseMac mac) merged).getD (blank (normaliseMac mac)))) merged

/-- `item[k] = item[k] or v` -/
def orElse (k : String) (v : Json) (item : Obj) : Obj :=
  Dict.set k (if (field item k).truthy then field item k else v) item

/-- The entries of a list. -/
def listOf : Json → List Json
  | .arr xs => xs
  | _ => []

/-- `item["ipv6"].append(addr)` -/
def appendIpv6 (addr : String) (item : Obj) : Obj :=
  Dict.set "ipv6" (.arr (listOf (field item "ipv6") ++ [.str addr])) item

def addLease (merged : Dict String Obj) (lease : Lease) : Dict String Obj :=
  amend lease.mac (fun item =>
    orElse "hostname" (optional lease.hostname)
      (if lease.address.toList.contains ':' then appendIpv6 lease.address item
      else Dict.set "ipv4" (.str lease.address) item)) merged

/-- The neighbour did not answer. -/
def Neighbour.failed (n : Neighbour) : Bool := n.state.contains "FAILED"

/-- The address of the entry; `None` and the empty text are skipped. -/
def Neighbour.mac? (n : Neighbour) : Option String := n.lladdr.filter fun s => s ≠ ""

/-- The addresses of an item with those of a neighbour entry. -/
def withNeighbour (family : ℕ) (n : Neighbour) (item : Obj) : Obj :=
  if family = 4 then orElse "ipv4" (.str n.dst) item
  else if n.dst ≠ "" ∧ .str n.dst ∉ listOf (field item "ipv6") then appendIpv6 n.dst item
  else item

def addNeighbour (family : ℕ) (merged : Dict String Obj) (n : Neighbour) : Dict String Obj :=
  match n.mac? with
  | none => merged
  | some mac =>
    amend mac (fun item =>
      if n.failed then Dict.set "online" (.bool false) (withNeighbour family n item)
      else withNeighbour family n item) merged

def addRecord (merged : Dict String Obj) (record : FdbRecord) : Dict String Obj :=
  match record.mac.filter fun s => s ≠ "", record.ifname.filter fun s => s ≠ "" with
  | some mac, some port =>
    if record.flags = ["self"] then merged
    else
      amend mac (fun item =>
        let item := Dict.set "port" (.str port) item
        let item := Dict.set "vlan" (if record.vlan.truthy then record.vlan else field item "vlan") item
        Dict.set "connection" (.str (if startsWith "wl" port then "wireless" else "wired")) item) merged
  | _, _ => merged

def addWireless (merged : Dict String Obj) (client : Obj) : Dict String Obj :=
  amend (macOf client) (fun item =>
    let item := Dict.set "wireless" (.obj client) (Dict.set "connection" (.str "wireless") item)
    let network := field client "network"
    let item := Dict.set "network" (if network.truthy then network else field item "network") item
    let vlan := field client "vlan"
    let item := Dict.set "vlan" (if vlan.truthy then vlan else field item "vlan") item
    Dict.set "port" (field client "interface") item) merged

/-- The four sources merged by address. -/
def mergeSources (s : Sources) : Dict String Obj :=
  let merged := s.leases.foldl addLease []
  let merged := s.neighbours4.foldl (addNeighbour 4) merged
  let merged := s.neighbours6.foldl (addNeighbour 6) merged
  let merged := s.fdb.foldl addRecord merged
  s.wireless.foldl addWireless merged

/-! ### Networks -/

/-- `subnet_index` -/
def subnetIndex (cfg : Obj) : Except Exn (List (Ip.Iface × String)) :=
  ((Dict.lookup "networks" cfg).getD (.obj [])).entries.filterMapM fun e =>
    match e.2.getD "subnet" .null with
    | .str s =>
      if s = "" then .ok none
      else match Ip.ipInterface s with
        | some iface => .ok (some (iface, e.1))
        | none => .error (.value "subnet")
    | v => if v.truthy then .error (.value "subnet") else .ok none

/-- The network that the address of an item is in. -/
def resolveNetwork (index : List (Ip.Iface × String)) (item : Obj) : Obj :=
  if (field item "network").truthy then item
  else
    match field item "ipv4" with
    | .str s =>
      match Ip.ipAddress s with
      | none => item
      | some address =>
        match index.find? fun e => e.1.contains address with
        | none => item
        | some e => Dict.set "network" (.str e.2) item
    | _ => item

/-! ### What is stored -/

/-- A row that is written to `client_history`. -/
structure Write where
  mac : String
  event : String
  detail : Json
deriving DecidableEq

/-- A column that is set when there is a value. -/
def coalesce (k : String) (v : Json) (row : Obj) : Obj := if v = .null then row else Dict.set k v row

/-- `_upsert(mac, item)`: the row that is answered, the table, and what goes to the history. -/
def upsert (vendor : String → Option String) (now : ℚ) (mac : String) (item : Obj) (rows : Dict String Obj) :
    Obj × Dict String Obj × List Write :=
  match Dict.lookup mac rows with
  | none =>
    let row := coalesce "network" (field item "network") <| coalesce "vendor" (optional (vendor mac)) <|
      coalesce "hostname" (field item "hostname")
        [("mac", .str mac), ("first_seen", .float now), ("last_seen", .float now), ("blocked", .int 0),
          ("quarantined", .int 0), ("rx_bytes", .int 0), ("tx_bytes", .int 0)]
    let network := field item "network"
    (row, Dict.set mac row rows, [⟨mac, "first-seen", if network.truthy then network else .str ""⟩])
  | some row =>
    -- the row as it was before the update
    (row, Dict.set mac (coalesce "network" (field item "network")
      (coalesce "hostname" (field item "hostname") (Dict.set "last_seen" (.float now) row))) rows, [])

/-- `a or b` -/
def either (a b : Json) : Json := if a.truthy then a else b

/-- `item.update({...})` with the columns of the row. -/
def withRow (mac : String) (row item : Obj) : Obj :=
  Dict.update item
    [("name", either (field row "name") (either (field item "hostname") (.str mac))),
      ("hostname", either (field item "hostname") (field row "hostname")), ("vendor", field row "vendor"),
      ("first_seen", field row "first_seen"), ("last_seen", field row "last_seen"),
      ("blocked", .bool (field row "blocked").truthy), ("quarantined", .bool (field row "quarantined").truthy),
      ("fixed_ip", field row "fixed_ip"), ("note", field row "note"),
      ("tags", (Dict.lookup "tags" row).getD (.arr [])), ("down_limit_kbps", field row "down_limit_kbps"),
      ("up_limit_kbps", field row "up_limit_kbps")]

/-- The clock and the two counters of the last poll that saw the client. -/
structure Sample where
  ts : ℚ
  rx : ℚ
  tx : ℚ

/-- `rate(cur, prev, dt)` -/
def rate (cur prev dt : ℚ) : ℚ := if dt ≤ 0 ∨ cur < prev then 0 else (cur - prev) / dt

/-- `round(rate(...) * 8, 1)` -/
def bitRate (cur prev dt : ℚ) : ℚ := Binary64.roundEven (rate cur prev dt * 8 * 10) / 10

/-- A counter of the station. -/
def counter (item : Obj) (k : String) : ℚ := (((field item "wireless").getD k (.int 0)).num?).getD 0

/-- The rates since the last sample; there are none for the first one, or while both counters are zero. -/
def ratesOf (sample : Sample) : Option Sample → ℚ × ℚ
  | none => (0, 0)
  | some prev =>
    if sample.rx = 0 ∧ sample.tx = 0 then (0, 0)
    else (bitRate sample.rx prev.rx (sample.ts - prev.ts), bitRate sample.tx prev.tx (sample.ts - prev.ts))

/-- The rates and the counters of an item. -/
def withRates (sample : Sample) (prev : Option Sample) (item : Obj) : Obj :=
  Dict.update item [("rx_rate_bps", .float (ratesOf sample prev).1), ("tx_rate_bps", .float (ratesOf sample prev).2),
    ("rx_bytes", .float sample.rx), ("tx_bytes", .float sample.tx)]

/-! ### The poll -/

/-- The database with the samples of its clients. -/
structure PollState where
  db : ClientDatabase
  samples : Dict String Sample

/-- The sample of this poll. -/
def sampleOf (s : Sources) (item : Obj) : Sample := ⟨s.monotonic, counter item "rx_bytes", counter item "tx_bytes"⟩

/-- One client of a poll: its row, its samples and the item that is reported. -/
def visit (vendor : String → Option String) (s : Sources) (mac : String) (item : Obj) (st : PollState) :
    Obj × List Write × PollState :=
  let r := upsert vendor s.now mac item st.db.rows
  let item := withRow mac r.1 item
  (withRates (sampleOf s item) (Dict.lookup mac st.samples) item, r.2.2,
    { db := { st.db with rows := r.2.1 }, samples := Dict.set mac (sampleOf s item) st.samples })

/-- The loop over the merged clients. -/
def visitAll (vendor : String → Option String) (s : Sources) :
    Dict String Obj → PollState → List Obj × List Write × PollState
  | [], st => ([], [], st)
  | (mac, item) :: rest, st =>
    let r := visit vendor s mac item st
    let q := visitAll vendor s rest r.2.2
    (r.1 :: q.1, r.2.1 ++ q.2.1, q.2.2)

/-- `c.get("online", True)` -/
def isOnline (item : Obj) : Bool := ((Dict.lookup "online" item).getD (.bool true)).truthy

/-- The clients of the last poll that no source names any more; a set, so in no order. -/
def gone (live merged : Dict String Obj) : Dict String Obj :=
  live.filter fun e => (Dict.lookup e.1 merged).isNone

/-- `sorted(out, key=...)`: who is online first, then by name. -/
def reportOrder (a b : Obj) : Bool :=
  let name (c : Obj) : String := match field c "name" with | .str s => s | _ => ""
  if isOnline a = isOnline b then decide (name a ≤ name b) else isOnline a

/-- What a poll answers, and the rows that it writes to the history. -/
structure Report where
  records : List Obj
  writes : List Write

/-- The rows are written one after the other. -/
def writeAll (now : ℚ) (writes : List Write) (db : ClientDatabase) : ClientDatabase :=
  writes.foldl (fun db w => (db.record ⟨now, fun _ v => v, false, false⟩ w.mac w.event w.detail).2) db

/-- `poll(cfg, leases, wireless)` -/
def poll (vendor : String → Option String) (s : Sources) (st : PollState) : Except Exn Report × PollState :=
  match subnetIndex s.cfg with
  | .error e => (.error e, st)
  | .ok index =>
    let merged := (mergeSources s).map fun e => (e.1, resolveNetwork index e.2)
    let r := visitAll vendor s merged st
    let left := gone st.db.live merged
    let out := r.1 ++ left.map fun e => Dict.set "online" (.bool false) e.2
    let writes := r.2.1 ++ left.map fun e => ⟨e.1, "offline", .str ""⟩
    let live := (out.filter isOnline).foldl (fun live c => Dict.set (macOf c) c live) []
    (.ok ⟨out.insertionSort fun a b => reportOrder a b = true, writes⟩,
      { r.2.2 with db := { writeAll s.now writes r.2.2.db with live := live } })

end Sbegw.Clientd
