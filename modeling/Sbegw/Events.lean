import Sbegw.Json
import Sbegw.Lib.Text

/-!
# The event history

`EventBus.emit` suppresses what repeats under one key within a window and stores the rest, one row for
each event.  What the rows count is compared here with the calls that were made.
-/

namespace Sbegw.Events

open Text

/-! ### The history in SQLite -/

/-- A row of `events`; `data` is the value that the dumped text stands for. -/
structure Row where
  id : ℕ
  ts : ℚ
  kind : String
  severity : String
  subsystem : String
  message : String
  data : Obj
  count : ℕ

/-- The table `events`: the rows in the order of their ids, and the last id that was handed out. -/
structure Table where
  rows : List Row
  seq : ℕ
  ascending : rows.Pairwise fun r s => r.id < s.id
  bounded : ∀ r ∈ rows, r.id ≤ seq

/-- What `INSERT INTO events` leaves, with the row it is given. -/
def Table.insert (t : Table) (row : Row) : Table where
  rows := t.rows ++ [{ row with id := t.seq + 1 }]
  seq := t.seq + 1
  ascending := by
    rw [List.pairwise_append]
    refine ⟨t.ascending, List.pairwise_singleton _ _, fun r hr s hs => ?_⟩
    rw [List.mem_singleton.mp hs]
    exact Nat.lt_succ_of_le (t.bounded r hr)
  bounded r hr := by
    rcases List.mem_append.mp hr with hr | hr
    · exact Nat.le_succ_of_le (t.bounded r hr)
    · rw [List.mem_singleton.mp hr]

/-- `DELETE FROM events WHERE id NOT IN (SELECT id FROM events ORDER BY id DESC LIMIT retain)` -/
def Table.prune (t : Table) (retain : ℕ) : Table where
  rows := t.rows.drop (t.rows.length - retain)
  seq := t.seq
  ascending := t.ascending.sublist (List.drop_sublist _ _)
  bounded r hr := t.bounded r (List.mem_of_mem_drop hr)

/-! ### Events -/

/-- `SEVERITIES` -/
def severities : List String := ["debug", "info", "notice", "warning", "error", "critical"]

/-- `EVENT_SEVERITY` -/
def eventSeverity : Dict String String :=
  [("WAN_UP", "notice"), ("WAN_DOWN", "error"), ("WAN_DEGRADED", "warning"),
    ("WAN_ACQUIRING", "info"), ("WAN_NO_INTERNET", "warning"),
    ("PORT_UP", "info"), ("PORT_DOWN", "warning"),
    ("VPN_UP", "notice"), ("VPN_DOWN", "warning"),
    ("BGP_UP", "notice"), ("BGP_DOWN", "error"),
    ("OSPF_UP", "notice"), ("OSPF_DOWN", "error"),
    ("CONFIG_COMMITTED", "info"), ("CONFIG_ROLLED_BACK", "error"),
    ("IDS_ALERT", "warning"), ("IPS_BLOCK", "warning"),
    ("THERMAL_WARNING", "warning"), ("THERMAL_CRITICAL", "critical"),
    ("FIRMWARE_UPDATE", "notice"),
    ("DHCP_LEASE", "debug"), ("DHCP_FAILED", "error"),
    ("RADIO_UP", "info"), ("RADIO_DOWN", "error"), ("RADIO_RECOVERED", "notice"),
    ("SSID_UP", "info"), ("SSID_DOWN", "warning"),
    ("CLIENT_ASSOCIATED", "info"), ("CLIENT_AUTHENTICATED", "debug"),
    ("CLIENT_DISCONNECTED", "info"), ("CLIENT_ROAMED", "info"),
    ("AUTH_FAILED", "warning"), ("RADIUS_FAILED", "error"),
    ("DFS_CAC_STARTED", "info"), ("DFS_CAC_COMPLETED", "info"), ("DFS_RADAR", "warning"),
    ("CHANNEL_CHANGED", "notice"),
    ("MLO_CLIENT_CONNECTED", "info"), ("MLO_LINK_ADDED", "info"),
    ("MLO_LINK_REMOVED", "warning"), ("MLO_RECOVERY", "warning"),
    ("RADIO_FW_CRASH", "critical"), ("RADIO_FW_RECOVERED", "notice")]

/-- A call of `emit`, and the clock it reads. -/
structure Call where
  now : ℚ
  kind : String
  severity : Option String := none
  data : Option Obj := none
  subsystem : String := "system"
  message : String := ""
  dedupKey : Option String := none
  dedupWindow : ℚ := 10

/-- The key of a call that is checked for repeats: `None` and the empty text are none. -/
def Call.key (c : Call) : Option String := c.dedupKey.filter fun k => k ≠ ""

/-- `severity or EVENT_SEVERITY.get(kind, "info")`, and `info` for what is no severity. -/
def Call.level (c : Call) : String :=
  let severity := ((c.severity.filter fun s => s ≠ "").or (Dict.lookup c.kind eventSeverity)).getD "info"
  if severities.contains severity then severity else "info"

/-- `s.title()` of ASCII letters: the first letter of each word in upper case, the others in lower case. -/
def title (s : String) : String :=
  String.ofList (s.toList.foldl (fun (acc : List Char × Bool) c =>
    if isLowerAlpha c || isUpperAlpha c then (acc.1 ++ [if acc.2 then lowerChar c else c.toUpper], true)
    else (acc.1 ++ [c], false)) ([], false)).1

/-- The keys that `_describe` looks for. -/
def describedKeys : List String :=
  ["port", "radio", "wan", "ssid", "client", "mld", "link", "channel", "reason", "reason_code", "status_code",
    "detail"]

section

/-! What Python prints for a value is a parameter. -/

variable (str : Json → String)

/-- `_describe(kind, data)` -/
def describe (kind : String) (data : Obj) : String :=
  let parts := describedKeys.filterMap fun key =>
    ((Dict.lookup key data).filter fun v => v ≠ .null).map fun v => key ++ "=" ++ str v
  title (replace '_' ' ' kind) ++ if parts = [] then "" else " (" ++ join ", " parts ++ ")"

/-- The event that `emit` answers. -/
structure Event where
  id : ℕ
  ts : ℚ
  kind : String
  severity : String
  subsystem : String
  message : String
  data : Obj

/-- `EventBus`: the table, the last 200 events, and for each key when it was stored and how often it has
been seen since. -/
structure EventBus where
  retain : ℕ
  table : Table
  recent : List Event
  dedup : Dict String (ℚ × ℕ)

/-- `EventBus(db_path, retain)` over the table of the database. -/
def EventBus.init (retain : ℕ) (table : Table) : EventBus := ⟨retain, table, [], []⟩

/-- The row of a call; the table gives it its id. -/
def Call.row (c : Call) : Row where
  id := 0
  ts := c.now
  kind := c.kind
  severity := c.level
  subsystem := c.subsystem
  message := if c.message = "" then describe str c.kind (c.data.getD []) else c.message
  data := c.data.getD []
  count := 1

/-- The insert, the deletion of old rows at every 500th id, and the event. -/
def store (c : Call) (bus : EventBus) : Option Event × EventBus :=
  let row := c.row str
  let table := bus.table.insert row
  let event : Event := ⟨table.seq, row.ts, row.kind, row.severity, row.subsystem, row.message, row.data⟩
  let recent := bus.recent ++ [event]
  (some event, { bus with
    table := if table.seq % 500 = 0 then table.prune bus.retain else table
    recent := recent.drop (recent.length - 200) })

/-- `emit(...)` -/
def emit (c : Call) (bus : EventBus) : Option Event × EventBus :=
  match c.key with
  | none => store str c bus
  | some key =>
    match Dict.lookup key bus.dedup with
    | some last =>
      if c.now - last.1 < c.dedupWindow then
        (none, { bus with dedup := Dict.set key (last.1, last.2 + 1) bus.dedup })
      else store str c { bus with dedup := Dict.set key (c.now, 1) bus.dedup }
    | none => store str c { bus with dedup := Dict.set key (c.now, 1) bus.dedup }

/-! ### What a call does -/

/-- When the key was stored last. -/
def EventBus.since (bus : EventBus) (key : String) : Option ℚ := (Dict.lookup key bus.dedup).map Prod.fst

/-- The call comes within its window of the row that its key was stored in. -/
def Repeats (c : Call) (bus : EventBus) : Prop :=
  ∃ key t, c.key = some key ∧ bus.since key = some t ∧ c.now - t < c.dedupWindow

/-- The table after a call that is stored. -/
def EventBus.stored (bus : EventBus) (c : Call) : Table :=
  if (bus.table.seq + 1) % 500 = 0 then (bus.table.insert (c.row str)).prune bus.retain
  else bus.table.insert (c.row str)

theorem since_set (key : String) (last : ℚ × ℕ) (bus : EventBus) (j : String) :
    EventBus.since { bus with dedup := Dict.set key last bus.dedup } j =
      if j = key then some last.1 else bus.since j := by
  rw [EventBus.since, Dict.lookup_set]
  split <;> rfl

theorem emit_of_repeats {c : Call} {bus : EventBus} (h : Repeats c bus) :
    (emit str c bus).1 = none ∧ (emit str c bus).2.table = bus.table ∧
      ∀ j, (emit str c bus).2.since j = bus.since j := by
  obtain ⟨key, t, hkey, hsince, hlt⟩ := h
  rw [EventBus.since, Option.map_eq_some_iff] at hsince
  obtain ⟨last, hlast, rfl⟩ := hsince
  have hemit : emit str c bus = (none, { bus with dedup := Dict.set key (last.1, last.2 + 1) bus.dedup }) := by
    rw [emit, hkey]
    show (match Dict.lookup key bus.dedup with | some last => _ | none => _) = _
    rw [hlast]
    exact if_pos hlt
  rw [hemit]
  refine ⟨rfl, rfl, fun j => ?_⟩
  rw [since_set]
  split
  · rename_i hj
    rw [EventBus.since, hj, hlast]
    rfl
  · rfl

theorem emit_of_not_repeats {c : Call} {bus : EventBus} (h : ¬ Repeats c bus) :
    ∃ e, (emit str c bus).1 = some e ∧ e.id = bus.table.seq + 1 ∧
      (emit str c bus).2.table = bus.stored str c ∧
      ∀ j, (emit str c bus).2.since j = if c.key = some j then some c.now else bus.since j := by
  cases hkey : c.key with
  | none =>
    have hemit : emit str c bus = store str c bus := by
      rw [emit, hkey]
    rw [hemit]
    exact ⟨_, rfl, rfl, rfl, fun j => rfl⟩
  | some key =>
    have hemit : emit str c bus = store str c { bus with dedup := Dict.set key (c.now, 1) bus.dedup } := by
      rw [emit, hkey]
      show (match Dict.lookup key bus.dedup with | some last => _ | none => _) = _
      cases hlast : Dict.lookup key bus.dedup with
      | none => rfl
      | some last =>
        refine if_neg fun hlt => h ⟨key, last.1, hkey, ?_, hlt⟩
        rw [EventBus.since, hlast]
        rfl
    rw [hemit]
    refine ⟨_, rfl, rfl, rfl, fun j => ?_⟩
    have hset := since_set key (c.now, 1) bus j
    by_cases hj : j = key
    · rw [if_pos hj] at hset
      rw [if_pos (congrArg some hj.symm)]
      exact hset
    · rw [if_neg hj] at hset
      rw [if_neg fun h => hj (Option.some.inj h).symm]
      exact hset

/-! ### The ids in the table -/

def Table.ids (t : Table) : List ℕ := t.rows.map Row.id

theorem Table.pairwise_ids (t : Table) : t.ids.Pairwise (· < ·) := List.pairwise_map.mpr t.ascending

theorem Table.ids_insert (t : Table) (row : Row) : (t.insert row).ids = t.ids ++ [t.seq + 1] := by
  rw [Table.ids, Table.insert, List.map_append]
  rfl

theorem Table.ids_prune (t : Table) (retain : ℕ) : (t.prune retain).ids = t.ids.drop (t.ids.length - retain) := by
  rw [Table.ids, Table.prune, List.map_drop, Table.ids, List.length_map]

/-- The ids that a call which is stored deletes. -/
def EventBus.deleted (bus : EventBus) : List ℕ :=
  if (bus.table.seq + 1) % 500 = 0 then
    (bus.table.ids ++ [bus.table.seq + 1]).take (bus.table.ids.length + 1 - bus.retain)
  else []

theorem mem_drop_iff {l : List ℕ} (hl : l.Pairwise (· < ·)) (n i : ℕ) : i ∈ l.drop n ↔ i ∈ l ∧ i ∉ l.take n := by
  have hsplit := List.take_append_drop n l
  have hnodup : (l.take n ++ l.drop n).Nodup := by
    rw [hsplit]
    exact hl.imp fun h => h.ne
  have hdisjoint := (List.nodup_append'.mp hnodup).2.2
  constructor
  · exact fun h => ⟨List.mem_of_mem_drop h, fun htake => hdisjoint htake h⟩
  · rintro ⟨hmem, htake⟩
    rw [← hsplit, List.mem_append] at hmem
    exact hmem.resolve_left htake

theorem mem_ids_stored (bus : EventBus) (c : Call) (i : ℕ) :
    i ∈ (bus.stored str c).ids ↔ (i ∈ bus.table.ids ∨ i = bus.table.seq + 1) ∧ i ∉ bus.deleted := by
  have hmem : i ∈ bus.table.ids ++ [bus.table.seq + 1] ↔ i ∈ bus.table.ids ∨ i = bus.table.seq + 1 := by
    rw [List.mem_append, List.mem_singleton]
  rw [EventBus.stored, EventBus.deleted]
  split
  · have hpairs := (bus.table.insert (c.row str)).pairwise_ids
    rw [Table.ids_prune]
    rw [Table.ids_insert] at hpairs ⊢
    rw [mem_drop_iff hpairs, hmem, List.length_append, List.length_singleton]
  · rw [Table.ids_insert, hmem]
    exact (and_iff_left List.not_mem_nil).symm

theorem mem_rows_stored {bus : EventBus} {c : Call} {r : Row} (h : r ∈ (bus.stored str c).rows) :
    r ∈ bus.table.rows ∨ r = { c.row str with id := bus.table.seq + 1 } := by
  have hinsert : r ∈ (bus.table.insert (c.row str)).rows := by
    rw [EventBus.stored] at h
    split at h
    · exact List.mem_of_mem_drop h
    · exact h
  exact (List.mem_append.mp hinsert).imp_right List.mem_singleton.mp

theorem seq_stored (bus : EventBus) (c : Call) : (bus.stored str c).seq = bus.table.seq + 1 := by
  rw [EventBus.stored]
  split <;> rfl

end

end Sbegw.Events
