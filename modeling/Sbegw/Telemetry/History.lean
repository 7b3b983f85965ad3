import Sbegw.Telemetry
import Mathlib.Tactic.Linarith
import Mathlib.Tactic.Ring

/-!
# The metric history is bounded

A ring never holds more than its length.  The table is bounded by what is deleted for its age, as long as the
rows of a name are a minute apart; the minute is counted in memory, so it is up to the first rollup of a
process.
-/

namespace Sbegw.Telemetry

/-! ### Times that are apart -/

/-- Times in an interval are as many as fit. -/
theorem length_mul_le_of_apart {d lo hi : ℚ} (hd : 0 ≤ d) : ∀ {ts : List ℚ}, ts.Pairwise (fun a b => a + d ≤ b) →
    (∀ t ∈ ts, lo ≤ t ∧ t ≤ hi) → lo ≤ hi + d → ts.length * d ≤ hi - lo + d
  | [], _, _, hlo => by
    rw [List.length_nil, Nat.cast_zero, zero_mul]
    linarith
  | t :: ts, hapart, hin, _ => by
    obtain ⟨hhead, htail⟩ := List.pairwise_cons.mp hapart
    obtain ⟨hlo, hhi⟩ := hin t List.mem_cons_self
    have hrest := length_mul_le_of_apart hd htail
      (fun u hu => ⟨hhead u hu, (hin u (List.mem_cons_of_mem t hu)).2⟩) (add_le_add_left hhi d)
    rw [List.length_cons, Nat.cast_succ, add_mul, one_mul]
    linarith

/-! ### What a run keeps -/

/-- The rows of a name. -/
def rowsOf (name : String) (metrics : List Row) : ℕ := metrics.countP fun r => r.name = name

/-- The history is bounded throughout a run. -/
structure Bounded (start : Daemon) (ops : List Op) : Prop where
  rows : ∀ before ts readings, before ++ [.rollup ts readings] <+: ops → (start.run before).due ts = true →
    ∀ name, rowsOf name (start.run (before ++ [.rollup ts readings])).metrics ≤
      (start.run before).store.retentionPoints + 1
  points : ∀ before, before <+: ops → ∀ e ∈ (start.run before).store.series, e.2.points.length ≤ livePoints

/-- A first rollup of a process, where `_last_rollup` is zero, writes no name that has a row of the last minute. -/
def Daemon.Spaced (d : Daemon) (ts : ℚ) (readings : String → ℚ) : Prop :=
  d.due ts = true → d.store.lastRollup = 0 → ∀ row ∈ d.metrics,
    row.name ∈ (averages ts readings d.store.series).map Row.name → row.ts + rollupSeconds ≤ ts

def Spaced (start : Daemon) (ops : List Op) : Prop :=
  ∀ before ts readings, before ++ [.rollup ts readings] <+: ops → (start.run before).Spaced ts readings

/-- The clock does not go back. -/
def Nondecreasing (ops : List Op) : Prop := (ops.filterMap Op.clock).Pairwise (· ≤ ·)

/-- The rows of a name are a minute apart; those of this process are not after its last rollup. -/
structure Kept (d : Daemon) (past : List ℚ) : Prop where
  names : (Dict.keys d.store.series).Nodup
  points : ∀ e ∈ d.store.series, e.2.maxlen = livePoints ∧ e.2.points.length ≤ livePoints
  apart : d.metrics.Pairwise fun a b => a.name = b.name → a.ts + rollupSeconds ≤ b.ts
  last : d.store.lastRollup ≠ 0 → ∀ row ∈ d.metrics, row.ts ≤ d.store.lastRollup
  past : ∀ row ∈ d.metrics, row.ts ∈ past

/-! ### Points -/

theorem length_push {α : Type} (maxlen : ℕ) (p : α) (ps : List α) :
    (push maxlen p ps).length = min (ps.length + 1) maxlen := by
  rw [push, List.length_drop, List.length_append, List.length_singleton]
  omega

theorem Series.add_bounded {s : Series} (h : s.maxlen = livePoints ∧ s.points.length ≤ livePoints) (value : Option ℚ)
    (ts : ℚ) : (s.add value ts).maxlen = livePoints ∧ (s.add value ts).points.length ≤ livePoints := by
  cases value with
  | none => exact h
  | some v =>
    refine ⟨h.1, ?_⟩
    show (push s.maxlen _ s.points).length ≤ livePoints
    rw [length_push, h.1]
    exact Nat.min_le_right _ _

theorem Kept.record {d : Daemon} {past : List ℚ} (h : Kept d past) (name : String) (value : Option ℚ) (unit : String)
    (ts : ℚ) : Kept (d.record name value unit ts) past := by
  refine ⟨Dict.nodup_keys_set _ _ h.names, fun e he => ?_, h.apart, h.last, h.past⟩
  rcases Dict.mem_set he with rfl | he
  · refine Series.add_bounded ?_ value ts
    cases hname : Dict.lookup name d.store.series with
    | none => exact ⟨rfl, Nat.zero_le _⟩
    | some s => exact h.points _ (Dict.mem_of_lookup hname)
  · exact h.points e he

theorem Kept.restart {d : Daemon} {past : List ℚ} (h : Kept d past) (volatile : Bool) (freeMb : ℕ) :
    Kept { d with store := TelemetryStore.create volatile freeMb } past :=
  ⟨List.nodup_nil, by simp [TelemetryStore.create], h.apart, fun hne => absurd rfl hne, h.past⟩

theorem Kept.mono {d : Daemon} {past past' : List ℚ} (h : Kept d past) (hsub : ∀ t ∈ past, t ∈ past') : Kept d past' :=
  ⟨h.names, h.points, h.apart, h.last, fun row hrow => hsub _ (h.past row hrow)⟩

/-! ### Rollups -/

theorem ts_of_averages {ts : ℚ} {readings : String → ℚ} {series : Dict String Series} {row : Row}
    (h : row ∈ averages ts readings series) : row.ts = ts := by
  obtain ⟨e, -, he⟩ := List.mem_filterMap.mp h
  obtain ⟨average, -, rfl⟩ := Option.map_eq_some_iff.mp he
  rfl

/-- A rollup writes each name once. -/
theorem names_averages (ts : ℚ) (readings : String → ℚ) {series : Dict String Series} (h : (Dict.keys series).Nodup) :
    (averages ts readings series).Pairwise fun a b => a.name ≠ b.name := by
  rw [averages, List.pairwise_filterMap]
  refine (List.pairwise_map.mp h).imp fun {e e'} hne a ha b hb => ?_
  obtain ⟨_, -, rfl⟩ := Option.map_eq_some_iff.mp ha
  obtain ⟨_, -, rfl⟩ := Option.map_eq_some_iff.mp hb
  exact hne

/-- What a rollup writes is a minute after every row of the name. -/
theorem Kept.apart_averages {d : Daemon} {past : List ℚ} (h : Kept d past) {ts : ℚ} {readings : String → ℚ}
    (hdue : d.due ts = true) (hspaced : d.Spaced ts readings) :
    (d.metrics ++ averages ts readings d.store.series).Pairwise
      fun a b => a.name = b.name → a.ts + rollupSeconds ≤ b.ts := by
  rw [List.pairwise_append]
  refine ⟨h.apart, (names_averages ts readings h.names).imp fun hne heq => absurd heq hne, fun a ha b hb heq => ?_⟩
  rw [ts_of_averages hb]
  by_cases hlast : d.store.lastRollup = 0
  · refine hspaced hdue hlast a ha ?_
    rw [heq]
    exact List.mem_map_of_mem hb
  · have hbefore := h.last hlast a ha
    have hminute : ¬ ts - d.store.lastRollup < rollupSeconds := of_decide_eq_true hdue
    linarith

theorem maybeRollup_of_due {d : Daemon} {ts : ℚ} (hdue : d.due ts = true) (readings : String → ℚ) :
    d.maybeRollup ts readings = { store := { d.store with lastRollup := ts }
                                  metrics := (d.metrics ++ averages ts readings d.store.series).filter fun r =>
                                    ¬ r.ts < ts - d.store.retentionPoints * rollupSeconds } := by
  rw [Daemon.maybeRollup, if_pos hdue]

/-- The rows of a rollup, or from before it. -/
theorem le_of_mem_rollup {d : Daemon} {ts : ℚ} {readings : String → ℚ} (hclock : ∀ row ∈ d.metrics, row.ts ≤ ts) :
    ∀ row ∈ d.metrics ++ averages ts readings d.store.series, row.ts ≤ ts := by
  intro row hrow
  rcases List.mem_append.mp hrow with hrow | hrow
  · exact hclock row hrow
  · exact (ts_of_averages hrow).le

theorem Kept.rollup {d : Daemon} {past : List ℚ} (h : Kept d past) {ts : ℚ} {readings : String → ℚ}
    (hclock : ∀ row ∈ d.metrics, row.ts ≤ ts) (hspaced : d.Spaced ts readings) :
    Kept (d.maybeRollup ts readings) (past ++ [ts]) := by
  by_cases hdue : d.due ts = true
  · rw [maybeRollup_of_due hdue]
    refine ⟨h.names, h.points, (h.apart_averages hdue hspaced).filter _, fun _ row hrow => ?_, fun row hrow => ?_⟩
    · exact le_of_mem_rollup hclock row (List.mem_of_mem_filter hrow)
    · rcases List.mem_append.mp (List.mem_of_mem_filter hrow) with hrow | hrow
      · exact List.mem_append_left _ (h.past row hrow)
      · rw [ts_of_averages hrow]
        exact List.mem_append_right _ List.mem_cons_self
  · rw [Daemon.maybeRollup, if_neg hdue]
    exact h.mono fun t ht => List.mem_append_left _ ht

/-- After a rollup there are no more rows of a name than minutes fit into the retention. -/
theorem Kept.rowsOf_le {d : Daemon} {past : List ℚ} (h : Kept d past) {ts : ℚ} {readings : String → ℚ}
    (hclock : ∀ row ∈ d.metrics, row.ts ≤ ts) (hdue : d.due ts = true) (hspaced : d.Spaced ts readings)
    (name : String) :
    rowsOf name (d.maybeRollup ts readings).metrics ≤ d.store.retentionPoints + 1 := by
  rw [maybeRollup_of_due hdue, rowsOf, List.countP_eq_length_filter, ← List.length_map (f := Row.ts)]
  generalize hrows : ((d.metrics ++ averages ts readings d.store.series).filter fun r =>
    ¬ r.ts < ts - d.store.retentionPoints * rollupSeconds) = rows
  have hapart : (rows.filter fun r => r.name = name).Pairwise fun a b => a.ts + rollupSeconds ≤ b.ts := by
    rw [← hrows]
    refine List.Pairwise.imp_of_mem ?_ (((h.apart_averages hdue hspaced).filter _).filter _)
    intro a b ha hb hab
    have haname : a.name = name := of_decide_eq_true (List.mem_filter.mp ha).2
    have hbname : b.name = name := of_decide_eq_true (List.mem_filter.mp hb).2
    exact hab (haname.trans hbname.symm)
  have hin : ∀ t ∈ (rows.filter fun r => r.name = name).map Row.ts,
      ts - d.store.retentionPoints * rollupSeconds ≤ t ∧ t ≤ ts := by
    intro t ht
    obtain ⟨row, hrow, rfl⟩ := List.mem_map.mp ht
    have hmem := List.mem_of_mem_filter hrow
    rw [← hrows] at hmem
    obtain ⟨hall, hage⟩ := List.mem_filter.mp hmem
    exact ⟨not_lt.mp (of_decide_eq_true hage), le_of_mem_rollup hclock row hall⟩
  have hretained : (0 : ℚ) ≤ d.store.retentionPoints := Nat.cast_nonneg _
  have hfit := length_mul_le_of_apart (by rw [rollupSeconds]; norm_num) (List.pairwise_map.mpr hapart) hin
    (by rw [rollupSeconds]; linarith)
  rw [rollupSeconds] at hfit
  have hcast : (((rows.filter fun r => r.name = name).map Row.ts).length : ℚ) ≤ (d.store.retentionPoints + 1 : ℕ) := by
    rw [Nat.cast_succ]
    linarith
  exact Nat.cast_le.mp hcast

/-! ### Runs -/

theorem run_append (d : Daemon) (ops ops' : List Op) : d.run (ops ++ ops') = (d.run ops).run ops' := by
  rw [Daemon.run, List.foldl_append]
  rfl

theorem run_concat (d : Daemon) (ops : List Op) (op : Op) : d.run (ops ++ [op]) = (d.run ops).step op :=
  run_append d ops [op]

theorem kept_install (volatile : Bool) (freeMb : ℕ) : Kept (Daemon.install volatile freeMb) [] :=
  ⟨List.nodup_nil, by simp [Daemon.install, TelemetryStore.create], .nil, by simp [Daemon.install],
    by simp [Daemon.install]⟩

/-- No row is later than the clock. -/
theorem Kept.clock {d : Daemon} {before : List Op} (h : Kept d (before.filterMap Op.clock)) {op : Op} {ts : ℚ}
    (hop : op.clock = some ts) (hclock : Nondecreasing (before ++ [op])) : ∀ row ∈ d.metrics, row.ts ≤ ts := by
  intro row hrow
  rw [Nondecreasing, List.filterMap_append, List.pairwise_append] at hclock
  exact hclock.2.2 row.ts (h.past row hrow) ts (by simp [hop])

theorem kept_run {start : Daemon} (hstart : Kept start []) (ops : List Op) (hclock : Nondecreasing ops)
    (hspaced : Spaced start ops) : Kept (start.run ops) (ops.filterMap Op.clock) := by
  induction ops using List.reverseRecOn with
  | nil => exact hstart
  | append_singleton ops op ih =>
    have hbefore : Nondecreasing ops := by
      rw [Nondecreasing, List.filterMap_append, List.pairwise_append] at hclock
      exact hclock.1
    have hkept := ih hbefore fun before ts readings hpre =>
      hspaced before ts readings (hpre.trans (List.prefix_append ops [op]))
    rw [run_concat, List.filterMap_append]
    cases op with
    | record ts name value unit =>
      exact (hkept.record name value unit ts).mono fun t ht => List.mem_append_left _ ht
    | rollup ts readings => exact hkept.rollup (hkept.clock rfl hclock) (hspaced ops ts readings List.prefix_rfl)
    | restart volatile freeMb =>
      exact (hkept.restart volatile freeMb).mono fun t ht => List.mem_append_left _ ht

theorem Nondecreasing.of_pre {ops ops' : List Op} (h : Nondecreasing ops) (hpre : ops' <+: ops) :
    Nondecreasing ops' :=
  List.Pairwise.sublist (hpre.sublist.filterMap Op.clock) h

theorem Spaced.of_pre {start : Daemon} {ops ops' : List Op} (h : Spaced start ops) (hpre : ops' <+: ops) :
    Spaced start ops' :=
  fun before ts readings hin => h before ts readings (hin.trans hpre)

/-- **The metric history is bounded when the first rollups keep the minute**: over every run of a daemon with an
empty table whose clock does not go back. -/
theorem history_bounded (volatile : Bool) (freeMb : ℕ) (ops : List Op) (hclock : Nondecreasing ops)
    (hspaced : Spaced (Daemon.install volatile freeMb) ops) : Bounded (Daemon.install volatile freeMb) ops := by
  have hkept : ∀ before, before <+: ops →
      Kept ((Daemon.install volatile freeMb).run before) (before.filterMap Op.clock) := by
    intro before hpre
    exact kept_run (kept_install volatile freeMb) before (hclock.of_pre hpre) (hspaced.of_pre hpre)
  constructor
  · intro before ts readings hpre hdue name
    have hbefore := hkept before ((List.prefix_append before _).trans hpre)
    rw [run_concat]
    have hpast := hbefore.clock rfl (hclock.of_pre hpre)
    exact hbefore.rowsOf_le hpast hdue (hspaced before ts readings hpre) name
  · intro before hpre e he
    exact ((hkept before hpre).points e he).2

/-! ### Processes that start again -/

theorem Spaced.concat {start : Daemon} {ops : List Op} (h : Spaced start ops) {op : Op}
    (hop : ∀ ts readings, op = .rollup ts readings → (start.run ops).Spaced ts readings) :
    Spaced start (ops ++ [op]) := by
  intro before ts readings hpre
  rcases List.prefix_concat_iff.mp hpre with heq | hpre
  · obtain ⟨rfl, hlast⟩ := List.append_inj' heq rfl
    exact hop ts readings (List.cons.inj hlast).1.symm
  · exact h before ts readings hpre

/-- A process that measures the load and writes it. -/
def measureLoad (ts : ℚ) : List Op := [.record ts "cpu" (some 1) "", .rollup ts fun _ => ts]

/-- The process is started again after each measure, twenty seconds apart. -/
def loop : ℕ → List Op
  | 0 => []
  | n + 1 => loop n ++ measureLoad (1000 + 20 * n) ++ [.restart true 0]

/-- The row of a measure. -/
def loadRow (k : ℕ) : Row := ⟨1000 + 20 * k, "cpu", 1⟩

theorem average_load (ts : ℚ) : ((Series.create "").add (some 1) ts).average rollupSeconds ts = some 1 := by
  have hwindow : ((Series.create "").add (some 1) ts).window rollupSeconds ts = [⟨ts, 1⟩] := by
    simp [Series.window, Series.add, Series.create, push, livePoints, rollupSeconds]
  have hround : Binary64.roundEven 100 = 100 := by decide +kernel
  rw [Series.average, hwindow]
  simp [hround]

theorem averages_load (ts : ℚ) (readings : String → ℚ) (h : readings "cpu" = ts) :
    averages ts readings [("cpu", (Series.create "").add (some 1) ts)] = [⟨ts, "cpu", 1⟩] := by
  simp [averages, h, average_load]

/-- What a new process has after one point. -/
def loaded (rows : List Row) (ts : ℚ) : Daemon :=
  ⟨⟨[("cpu", (Series.create "").add (some 1) ts)], 0, 360⟩, rows⟩

theorem due_loaded {rows : List Row} {ts : ℚ} (h : 60 ≤ ts) : (loaded rows ts).due ts = true := by
  rw [Daemon.due, loaded, decide_eq_true_eq, rollupSeconds, sub_zero]
  exact not_lt.mpr h

/-- The first rollup of a process that has measured once. -/
theorem maybeRollup_loaded {rows : List Row} {ts : ℚ} (hts : 60 ≤ ts) (hrows : ∀ row ∈ rows, ts - 360 * 60 ≤ row.ts) :
    ((loaded rows ts).maybeRollup ts fun _ => ts).metrics = rows ++ [⟨ts, "cpu", 1⟩] := by
  rw [maybeRollup_of_due (due_loaded hts)]
  show List.filter _ (rows ++ averages ts _ [("cpu", _)]) = _
  rw [averages_load ts _ rfl, List.filter_eq_self]
  intro row hrow
  rw [decide_eq_true_eq, not_lt]
  show ts - 360 * 60 ≤ row.ts
  rcases List.mem_append.mp hrow with hrow | hrow
  · exact hrows row hrow
  · rw [List.mem_singleton.mp hrow]
    linarith

/-- The rows of the loop are all within the retention. -/
theorem loadRows_retained {n : ℕ} (hn : n ≤ 1000) :
    ∀ row ∈ (List.range n).map loadRow, (1000 + 20 * n : ℚ) - 360 * 60 ≤ row.ts := by
  intro row hrow
  obtain ⟨k, -, rfl⟩ := List.mem_map.mp hrow
  have hk : (0 : ℚ) ≤ k := Nat.cast_nonneg k
  have hbound : (n : ℚ) ≤ 1000 := by exact_mod_cast hn
  show (1000 + 20 * n : ℚ) - 360 * 60 ≤ 1000 + 20 * k
  linarith

theorem minute_le_loop (n : ℕ) : (60 : ℚ) ≤ 1000 + 20 * n := by
  have hpos : (0 : ℚ) ≤ n := Nat.cast_nonneg n
  linarith

theorem loop_run (n : ℕ) (hn : n ≤ 1000) :
    (Daemon.install true 0).run (loop n) = ⟨TelemetryStore.create true 0, (List.range n).map loadRow⟩ := by
  induction n with
  | zero => rfl
  | succ n ih =>
    have hmeasure := maybeRollup_loaded (minute_le_loop n) (loadRows_retained (Nat.le_of_succ_le hn))
    rw [loop, run_append, run_append, ih (Nat.le_of_succ_le hn)]
    show Daemon.mk _ ((loaded _ (1000 + 20 * n)).maybeRollup _ _).metrics = _
    rw [hmeasure, List.range_succ, List.map_append]
    rfl

theorem clock_loop (n : ℕ) : ∀ t ∈ (loop n).filterMap Op.clock, t ≤ 1000 + 20 * n := by
  induction n with
  | zero => simp [loop]
  | succ n ih =>
    intro t ht
    rw [loop, List.filterMap_append, List.filterMap_append, List.mem_append, List.mem_append] at ht
    rw [Nat.cast_succ]
    rcases ht with (ht | ht) | ht
    · have hbefore := ih t ht
      linarith
    · have hmeasure : t = 1000 + 20 * n := by simpa [measureLoad, Op.clock] using ht
      linarith
    · simp [Op.clock] at ht

theorem nondecreasing_loop (n : ℕ) : Nondecreasing (loop n) := by
  induction n with
  | zero => exact .nil
  | succ n ih =>
    have hrestart : (loop (n + 1)).filterMap Op.clock =
        (loop n).filterMap Op.clock ++ [(1000 + 20 * n : ℚ), 1000 + 20 * n] := by
      simp [loop, measureLoad, Op.clock]
    rw [Nondecreasing, hrestart, List.pairwise_append]
    refine ⟨ih, by simp, fun t ht u hu => ?_⟩
    have hu : u = 1000 + 20 * n := by simpa using hu
    rw [hu]
    exact clock_loop n t ht

theorem rowsOf_loadRows (n : ℕ) : rowsOf "cpu" ((List.range n).map loadRow) = n := by
  rw [rowsOf, List.countP_map]
  have hall : ∀ k ∈ List.range n, ((fun r : Row => decide (r.name = "cpu")) ∘ loadRow) k = true := fun _ _ => rfl
  rw [List.countP_eq_length.mpr hall, List.length_range]

/-- The run up to the last rollup of the loop. -/
def beforeLast (n : ℕ) : List Op := loop n ++ [.record (1000 + 20 * n) "cpu" (some 1) ""]

theorem run_beforeLast {n : ℕ} (hn : n ≤ 1000) :
    (Daemon.install true 0).run (beforeLast n) = loaded ((List.range n).map loadRow) (1000 + 20 * n) := by
  rw [beforeLast, run_append, loop_run n hn]
  rfl

theorem prefix_beforeLast (n : ℕ) :
    beforeLast n ++ [.rollup (1000 + 20 * n) fun _ => 1000 + 20 * n] <+: loop (n + 1) := by
  rw [loop, beforeLast, List.append_assoc (loop n)]
  exact List.prefix_append _ _

/-- The loop leaves a row for each process. -/
theorem le_of_bounded_loop {n : ℕ} (hn : n ≤ 1000) (h : Bounded (Daemon.install true 0) (loop (n + 1))) :
    n + 1 ≤ 361 := by
  have hrows := h.rows (beforeLast n) (1000 + 20 * n) (fun _ => 1000 + 20 * n) (prefix_beforeLast n)
  rw [run_concat, run_beforeLast hn] at hrows
  have hle := hrows (due_loaded (minute_le_loop n)) "cpu"
  have hafter : ((loaded ((List.range n).map loadRow) (1000 + 20 * n)).step
      (.rollup (1000 + 20 * n) fun _ => 1000 + 20 * n)).metrics = (List.range (n + 1)).map loadRow := by
    rw [List.range_succ, List.map_append]
    exact maybeRollup_loaded (minute_le_loop n) (loadRows_retained hn)
  rw [hafter, rowsOf_loadRows] at hle
  exact hle

/-- Three hundred and sixty-two processes in two hours leave a row each, one more than the retention allows. -/
theorem loop_unbounded : ¬ ∀ ops, Nondecreasing ops → Bounded (Daemon.install true 0) ops := by
  intro h
  have hle := le_of_bounded_loop (by norm_num) (h (loop (361 + 1)) (nondecreasing_loop _))
  exact absurd hle (by norm_num)

/-- A measure, and another one by a new process after a minute. -/
def minuteApart : List Op :=
  [.record 100 "cpu" (some 1) "", .rollup 100 fun _ => 100, .restart true 0, .record 160 "cpu" (some 1) "",
    .rollup 160 fun _ => 160]

theorem spaced_minuteApart : Spaced (Daemon.install true 0) minuteApart := by
  have hempty : Spaced (Daemon.install true 0) [] := by
    intro before ts readings hpre
    simp at hpre
  have hmetrics : ((loaded [] 100).maybeRollup 100 fun _ => 100).metrics = [⟨100, "cpu", 1⟩] :=
    maybeRollup_loaded (by norm_num) (by simp)
  refine ((((hempty.concat ?_).concat ?_).concat ?_).concat ?_).concat ?_
  · simp
  · intro ts readings _ _ _ row hrow
    cases hrow
  · simp
  · simp
  · intro ts readings hop _ _ row hrow _
    obtain ⟨rfl, -⟩ := Op.rollup.inj hop
    have hrow : row ∈ ((loaded [] 100).maybeRollup 100 fun _ => 100).metrics := hrow
    rw [hmetrics, List.mem_singleton] at hrow
    rw [hrow, rollupSeconds]
    norm_num

theorem history_bounded_minuteApart : Bounded (Daemon.install true 0) minuteApart := by
  refine history_bounded true 0 minuteApart ?_ spaced_minuteApart
  show List.Pairwise (· ≤ ·) [(100 : ℚ), 100, 160, 160]
  norm_num

end Sbegw.Telemetry
