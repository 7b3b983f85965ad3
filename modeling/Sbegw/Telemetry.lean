import Sbegw.Lib.Binary64
import Sbegw.Lib.Dict

/-!
# Metrics

`TelemetryStore` keeps the live points of each series in memory, in a ring, and writes their averages to the
`metrics` table once a minute.
-/

namespace Sbegw.Telemetry

/-- `LIVE_POINTS` -/
def livePoints : ℕ := 600

/-- `ROLLUP_SECONDS` -/
def rollupSeconds : ℚ := 60

/-- `ROLLUP_RETENTION` -/
def rollupRetention : ℕ := 7 * 24 * 60

/-! ### Series -/

structure Point where
  ts : ℚ
  value : ℚ
deriving DecidableEq

/-- A `deque(maxlen=…)`: what is appended to a full one pushes out the oldest. -/
def push {α : Type} (maxlen : ℕ) (p : α) (ps : List α) : List α :=
  (ps ++ [p]).drop (ps.length + 1 - maxlen)

structure Series where
  unit : String
  maxlen : ℕ
  points : List Point

/-- `Series(unit)` -/
def Series.create (unit : String) : Series := ⟨unit, livePoints, []⟩

/-- `add`; there is no value for `None` and NaN. -/
def Series.add (value : Option ℚ) (ts : ℚ) (s : Series) : Series :=
  match value with
  | none => s
  | some v => { s with points := push s.maxlen ⟨ts, v⟩ s.points }

def Series.window (seconds now : ℚ) (s : Series) : List Point := s.points.filter fun p => now - seconds ≤ p.ts

def Series.average (seconds now : ℚ) (s : Series) : Option ℚ :=
  let window := s.window seconds now
  if window = [] then none
  else some (Binary64.roundEven ((window.map Point.value).sum / window.length * 100) / 100)

/-! ### The store -/

/-- What a process holds. -/
structure TelemetryStore where
  series : Dict String Series
  lastRollup : ℚ
  retentionPoints : ℕ

/-- `TelemetryStore(db_path)`, with what `_state_is_volatile` finds. -/
def TelemetryStore.create (volatile : Bool) (freeMb : ℕ) : TelemetryStore where
  series := []
  lastRollup := 0
  retentionPoints := if volatile ∨ freeMb < 256 then 6 * 60 else rollupRetention

/-- A row of `metrics`. -/
structure Row where
  ts : ℚ
  name : String
  value : ℚ
deriving DecidableEq

/-- The store and the table. -/
structure Daemon where
  store : TelemetryStore
  metrics : List Row

/-- `record(name, value, unit)` -/
def Daemon.record (name : String) (value : Option ℚ) (unit : String) (ts : ℚ) (d : Daemon) : Daemon :=
  let series := (Dict.lookup name d.store.series).getD (Series.create unit)
  { d with store := { d.store with series := Dict.set name (series.add value ts) d.store.series } }

/-- The rows of a rollup; the clock is read again for each series. -/
def averages (ts : ℚ) (readings : String → ℚ) (series : Dict String Series) : List Row :=
  series.filterMap fun e => (e.2.average rollupSeconds (readings e.1)).map fun average => ⟨ts, e.1, average⟩

/-- A minute has gone by since the last rollup of the process. -/
def Daemon.due (ts : ℚ) (d : Daemon) : Bool := decide (¬ ts - d.store.lastRollup < rollupSeconds)

def Daemon.maybeRollup (ts : ℚ) (readings : String → ℚ) (d : Daemon) : Daemon :=
  if d.due ts then
    { store := { d.store with lastRollup := ts }
      metrics := (d.metrics ++ averages ts readings d.store.series).filter fun r =>
        ¬ r.ts < ts - d.store.retentionPoints * rollupSeconds }
  else d

/-! ### Runs -/

/-- A call, or a new process over the same table. -/
inductive Op
  | record (ts : ℚ) (name : String) (value : Option ℚ) (unit : String)
  | rollup (ts : ℚ) (readings : String → ℚ)
  | restart (volatile : Bool) (freeMb : ℕ)

def Daemon.step (d : Daemon) : Op → Daemon
  | .record ts name value unit => d.record name value unit ts
  | .rollup ts readings => d.maybeRollup ts readings
  | .restart volatile freeMb => { d with store := TelemetryStore.create volatile freeMb }

def Daemon.run (d : Daemon) (ops : List Op) : Daemon := ops.foldl Daemon.step d

/-- The first process, over an empty table. -/
def Daemon.install (volatile : Bool) (freeMb : ℕ) : Daemon := ⟨TelemetryStore.create volatile freeMb, []⟩

/-- The clock that a call reads. -/
def Op.clock : Op → Option ℚ
  | .record ts _ _ _ => some ts
  | .rollup ts _ => some ts
  | .restart _ _ => none

end Sbegw.Telemetry
