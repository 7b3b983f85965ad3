import Sbegw.Events
import Mathlib.Algebra.BigOperators.Group.List.Basic
import Mathlib.Algebra.Order.Ring.Rat
import Mathlib.Data.List.Induction
import Mathlib.Data.List.Perm.Subperm

/-!
# The counts of the stored rows

Rows of one key are a window apart, whatever is emitted.  Their counts stay at one: a repeat is tallied in
memory and dropped with the tally, so the rows count the calls only as long as no call repeats another one
and no row is deleted.
-/

namespace Sbegw.Events

variable (str : Json → String)

/-! ### Histories -/

/-- The bus after some calls, and what each of them answered. -/
structure History where
  bus : EventBus
  log : List (Call × Option Event)

def History.emit (h : History) (c : Call) : History :=
  ⟨(Events.emit str c h.bus).2, h.log ++ [(c, (Events.emit str c h.bus).1)]⟩

/-- The calls one after the other. -/
def history (bus : EventBus) (calls : List Call) : History := calls.foldl (History.emit str) ⟨bus, []⟩

theorem history_concat (bus : EventBus) (calls : List Call) (c : Call) :
    history str bus (calls ++ [c]) = (history str bus calls).emit str c := by
  rw [history, List.foldl_append]
  rfl

theorem calls_of_history (bus : EventBus) (calls : List Call) :
    (history str bus calls).log.map Prod.fst = calls := by
  induction calls using List.reverseRecOn with
  | nil => rfl
  | append_singleton calls c ih =>
    rw [history_concat, History.emit, List.map_append, ih]
    rfl

/-- The ids of the rows that were stored under the key. -/
def storedIds (key : String) (log : List (Call × Option Event)) : List ℕ :=
  log.filterMap fun x => if x.1.key = some key then x.2.map Event.id else none

/-- The rows that are there of those that were stored under the key. -/
def History.rowsOf (h : History) (key : String) : List Row :=
  h.bus.table.rows.filter fun r => r.id ∈ storedIds key h.log

/-- The counts of the rows of a key add up to the calls that were made with it. -/
def Conserved (key : String) (h : History) : Prop :=
  ((h.rowsOf key).map Row.count).sum = h.log.countP fun x => x.1.key = some key

/-- Of two rows of the key the later one is at least its window away from the earlier one. -/
def Spaced (key : String) (h : History) : Prop :=
  h.log.Pairwise fun x y => x.1.key = some key → y.1.key = some key → ∀ e ∈ x.2, ∀ f ∈ y.2,
    ∀ r ∈ h.bus.table.rows, ∀ s ∈ h.bus.table.rows, r.id = e.id → s.id = f.id →
      y.1.dedupWindow ≤ s.ts - r.ts

/-! ### What holds of every history -/

/-- What the table and the tally say of the calls so far. -/
structure Kept (h : History) : Prop where
  bounded : ∀ x ∈ h.log, ∀ e ∈ x.2, e.id ≤ h.bus.table.seq
  ids : h.log.Pairwise fun x y => ∀ e ∈ x.2, ∀ f ∈ y.2, e.id < f.id
  rows : ∀ x ∈ h.log, ∀ e ∈ x.2, ∀ r ∈ h.bus.table.rows, r.id = e.id → r.ts = x.1.now ∧ r.count = 1
  since : ∀ x ∈ h.log, ∀ e ∈ x.2, ∀ key, x.1.key = some key → ∃ t, h.bus.since key = some t ∧ x.1.now ≤ t
  apart : h.log.Pairwise fun x y => ∀ key, x.1.key = some key → y.1.key = some key →
    ∀ e ∈ x.2, ∀ f ∈ y.2, y.1.dedupWindow ≤ y.1.now - x.1.now

variable {str} {h : History} {c : Call}

/-- A call that repeats another one leaves no trace but in the tally. -/
theorem Kept.emit_repeats (hk : Kept h) (hrep : Repeats c h.bus) : Kept (h.emit str c) := by
  obtain ⟨hnone, htable, hsince⟩ := emit_of_repeats str hrep
  have hlog : (h.emit str c).log = h.log ++ [(c, none)] := by
    rw [History.emit, hnone]
  have hlast : ∀ {P : Call × Option Event → Event → Prop}, (∀ x ∈ h.log, ∀ e ∈ x.2, P x e) →
      ∀ x ∈ (h.emit str c).log, ∀ e ∈ x.2, P x e := by
    intro P hP x hx e he
    rw [hlog] at hx
    rcases List.mem_append.mp hx with hx | hx
    · exact hP x hx e he
    · rw [List.mem_singleton.mp hx] at he
      cases he
  refine ⟨?_, ?_, ?_, ?_, ?_⟩
  · show ∀ x ∈ (h.emit str c).log, ∀ e ∈ x.2, e.id ≤ (Events.emit str c h.bus).2.table.seq
    rw [htable]
    exact hlast hk.bounded
  · rw [hlog, List.pairwise_append]
    refine ⟨hk.ids, List.pairwise_singleton _ _, fun x _ y hy e _ f hf => ?_⟩
    rw [List.mem_singleton.mp hy] at hf
    cases hf
  · show ∀ x ∈ (h.emit str c).log, ∀ e ∈ x.2, ∀ r ∈ (Events.emit str c h.bus).2.table.rows, _
    rw [htable]
    exact hlast hk.rows
  · refine hlast fun x hx e he key hkey => ?_
    obtain ⟨t, ht, hle⟩ := hk.since x hx e he key hkey
    exact ⟨t, (hsince key).trans ht, hle⟩
  · rw [hlog, List.pairwise_append]
    refine ⟨hk.apart, List.pairwise_singleton _ _, fun x _ y hy key _ _ e _ f hf => ?_⟩
    rw [List.mem_singleton.mp hy] at hf
    cases hf

/-- A call that is stored gets a new row, at least its window after the last one of its key. -/
theorem Kept.emit_stored (hk : Kept h) (hrep : ¬ Repeats c h.bus) (hclock : ∀ x ∈ h.log, x.1.now ≤ c.now) :
    Kept (h.emit str c) := by
  obtain ⟨e, he, hid, htable, hsince⟩ := emit_of_not_repeats str hrep
  have hlog : (h.emit str c).log = h.log ++ [(c, some e)] := by
    rw [History.emit, he]
  have hseq : (h.emit str c).bus.table.seq = h.bus.table.seq + 1 := by
    show (Events.emit str c h.bus).2.table.seq = _
    rw [htable, seq_stored]
  have hrows : ∀ r ∈ (h.emit str c).bus.table.rows,
      r ∈ h.bus.table.rows ∨ r = { c.row str with id := h.bus.table.seq + 1 } := by
    intro r hr
    replace hr : r ∈ (Events.emit str c h.bus).2.table.rows := hr
    rw [htable] at hr
    exact mem_rows_stored str hr
  have hcases : ∀ x ∈ (h.emit str c).log, x ∈ h.log ∨ x = (c, some e) := by
    intro x hx
    rw [hlog] at hx
    exact (List.mem_append.mp hx).imp_right List.mem_singleton.mp
  refine ⟨?_, ?_, ?_, ?_, ?_⟩
  · intro x hx f hf
    rw [hseq]
    rcases hcases x hx with hx | rfl
    · exact Nat.le_succ_of_le (hk.bounded x hx f hf)
    · obtain rfl := Option.some.inj hf
      rw [hid]
  · rw [hlog, List.pairwise_append]
    refine ⟨hk.ids, List.pairwise_singleton _ _, fun x hx y hy f hf g hg => ?_⟩
    rw [List.mem_singleton.mp hy] at hg
    obtain rfl := Option.some.inj hg
    rw [hid]
    exact Nat.lt_succ_of_le (hk.bounded x hx f hf)
  · intro x hx f hf r hr hrf
    rcases hcases x hx with hx | rfl
    · have hle := hk.bounded x hx f hf
      rcases hrows r hr with hr | rfl
      · exact hk.rows x hx f hf r hr hrf
      · exact absurd hrf (by show h.bus.table.seq + 1 ≠ f.id; omega)
    · obtain rfl := Option.some.inj hf
      rcases hrows r hr with hr | rfl
      · have hle := h.bus.table.bounded r hr
        omega
      · exact ⟨rfl, rfl⟩
  · intro x hx f hf key hkey
    show ∃ t, (Events.emit str c h.bus).2.since key = some t ∧ _
    rw [hsince]
    rcases hcases x hx with hx | rfl
    · by_cases hc : c.key = some key
      · rw [if_pos hc]
        exact ⟨c.now, rfl, hclock x hx⟩
      · rw [if_neg hc]
        exact hk.since x hx f hf key hkey
    · rw [if_pos hkey]
      exact ⟨c.now, rfl, le_rfl⟩
  · rw [hlog, List.pairwise_append]
    refine ⟨hk.apart, List.pairwise_singleton _ _, fun x hx y hy key hxkey hykey f hf g hg => ?_⟩
    rw [List.mem_singleton.mp hy] at hykey ⊢
    obtain ⟨t, ht, hle⟩ := hk.since x hx f hf key hxkey
    -- the row of the key that is remembered is at least the window old
    have hwindow : c.dedupWindow ≤ c.now - t := by
      by_contra hlt
      exact hrep ⟨key, t, hykey, ht, not_le.mp hlt⟩
    exact hwindow.trans (sub_le_sub_left hle c.now)

theorem kept_history (bus : EventBus) {calls : List Call}
    (hclock : calls.Pairwise fun c d => c.now ≤ d.now) : Kept (history str bus calls) := by
  induction calls using List.reverseRecOn with
  | nil => exact ⟨by simp [history], List.Pairwise.nil, by simp [history], by simp [history], List.Pairwise.nil⟩
  | append_singleton calls c ih =>
    obtain ⟨hcalls, -, hlater⟩ := List.pairwise_append.mp hclock
    have ih := ih hcalls
    rw [history_concat]
    by_cases hrep : Repeats c (history str bus calls).bus
    · exact ih.emit_repeats hrep
    · refine ih.emit_stored hrep fun x hx => hlater x.1 ?_ c List.mem_cons_self
      have hmem : x.1 ∈ (history str bus calls).log.map Prod.fst := List.mem_map_of_mem hx
      rwa [calls_of_history] at hmem

/-- **Rows of one key are a window apart.** -/
theorem Kept.spaced (hk : Kept h) (key : String) : Spaced key h := by
  refine hk.apart.imp_of_mem fun {x y} hx hy hxy hxkey hykey e he f hf r hr s hs hre hsf => ?_
  rw [(hk.rows x hx e he r hr hre).1, (hk.rows y hy f hf s hs hsf).1]
  exact hxy key hxkey hykey e he f hf

/-! ### When the counts add up -/

/-- Every call with the key was stored, and its row is still there. -/
structure Accounted (key : String) (h : History) : Prop where
  stored : ∀ x ∈ h.log, x.1.key = some key → x.2.isSome = true
  present : ∀ i ∈ storedIds key h.log, i ∈ h.bus.table.ids

theorem mem_storedIds {key : String} {log : List (Call × Option Event)} {i : ℕ} :
    i ∈ storedIds key log ↔ ∃ x ∈ log, x.1.key = some key ∧ ∃ e ∈ x.2, e.id = i := by
  rw [storedIds, List.mem_filterMap]
  refine exists_congr fun x => and_congr_right fun _ => ?_
  split
  · rename_i hkey
    rw [Option.map_eq_some_iff, and_iff_right hkey]
    exact Iff.rfl
  · rename_i hkey
    exact iff_of_false nofun fun h => hkey h.1

theorem length_storedIds (key : String) (log : List (Call × Option Event)) :
    (storedIds key log).length = log.countP fun x => decide (x.1.key = some key) && x.2.isSome := by
  rw [storedIds]
  induction log with
  | nil => rfl
  | cons x log ih =>
    rw [List.filterMap_cons, List.countP_cons, ← ih]
    by_cases hkey : x.1.key = some key
    · cases hx : x.2 <;> simp [hkey]
    · simp [hkey]

theorem Kept.nodup_storedIds (hk : Kept h) (key : String) : (storedIds key h.log).Nodup := by
  rw [storedIds, List.Nodup, List.pairwise_filterMap]
  refine hk.ids.imp fun {x y} hxy i hi j hj => ?_
  split at hi
  · split at hj
    · obtain ⟨e, he, rfl⟩ := Option.map_eq_some_iff.mp hi
      obtain ⟨f, hf, rfl⟩ := Option.map_eq_some_iff.mp hj
      exact (hxy e he f hf).ne
    · cases hj
  · cases hi

/-- The rows of a key count one each. -/
theorem Kept.sum_counts (hk : Kept h) (key : String) :
    ((h.rowsOf key).map Row.count).sum = (h.rowsOf key).length := by
  have hone : ∀ n ∈ (h.rowsOf key).map Row.count, n = 1 := by
    intro n hn
    obtain ⟨r, hr, rfl⟩ := List.mem_map.mp hn
    obtain ⟨hr, hin⟩ := List.mem_filter.mp hr
    obtain ⟨x, hx, -, e, he, hre⟩ := mem_storedIds.mp (of_decide_eq_true hin)
    exact (hk.rows x hx e he r hr hre.symm).2
  rw [List.sum_eq_card_nsmul _ 1 hone, List.length_map, nsmul_one, Nat.cast_id]

theorem ids_rowsOf (h : History) (key : String) :
    (h.rowsOf key).map Row.id = h.bus.table.ids.filter fun i => i ∈ storedIds key h.log := by
  rw [History.rowsOf, Table.ids, List.filter_map]
  rfl

/-- As many rows of a key are there as were stored under it just when none of them is missing. -/
theorem Kept.length_rowsOf (hk : Kept h) (key : String) :
    (h.rowsOf key).length ≤ (storedIds key h.log).length ∧
      ((h.rowsOf key).length = (storedIds key h.log).length ↔ ∀ i ∈ storedIds key h.log, i ∈ h.bus.table.ids) := by
  have hlength : (h.rowsOf key).length = (h.bus.table.ids.filter fun i => i ∈ storedIds key h.log).length := by
    rw [← ids_rowsOf, List.length_map]
  have hnodup : (h.bus.table.ids.filter fun i => i ∈ storedIds key h.log).Nodup :=
    (h.bus.table.pairwise_ids.imp fun h => h.ne).filter _
  have hsubset : (h.bus.table.ids.filter fun i => i ∈ storedIds key h.log) ⊆ storedIds key h.log :=
    fun i hi => of_decide_eq_true (List.mem_filter.mp hi).2
  have hsubperm := List.subperm_of_subset hnodup hsubset
  rw [hlength]
  refine ⟨hsubperm.length_le, fun heq i hi => ?_, fun hall => le_antisymm hsubperm.length_le ?_⟩
  · have hperm := hsubperm.perm_of_length_le heq.ge
    exact (List.mem_filter.mp (hperm.mem_iff.mpr hi)).1
  · refine (List.subperm_of_subset (hk.nodup_storedIds key) fun i hi => ?_).length_le
    exact List.mem_filter.mpr ⟨hall i hi, decide_eq_true hi⟩

theorem countP_and_eq_iff {α : Type} (p q : α → Bool) (l : List α) :
    (l.countP fun x => p x && q x) = l.countP p ↔ ∀ x ∈ l, p x = true → q x = true := by
  induction l with
  | nil => simp
  | cons x l ih =>
    have hle : (l.countP fun x => p x && q x) ≤ l.countP p := by
      refine List.countP_mono_left fun x _ hx => ?_
      exact (Bool.and_eq_true_iff.mp hx).1
    rw [List.forall_mem_cons, ← ih, List.countP_cons, List.countP_cons]
    cases p x with
    | false => simp
    | true =>
      cases q x with
      | false =>
        simp only [Bool.and_false, Bool.false_eq_true, if_false, if_true]
        exact iff_of_false (by omega) fun h => nomatch h.1 trivial
      | true => simp

theorem Kept.conserved_iff (hk : Kept h) (key : String) : Conserved key h ↔ Accounted key h := by
  obtain ⟨hle, hiff⟩ := hk.length_rowsOf key
  have hcount : (storedIds key h.log).length ≤ h.log.countP fun x => x.1.key = some key := by
    rw [length_storedIds]
    refine List.countP_mono_left fun x _ hx => ?_
    exact (Bool.and_eq_true_iff.mp hx).1
  have hstored : (storedIds key h.log).length = (h.log.countP fun x => x.1.key = some key) ↔
      ∀ x ∈ h.log, x.1.key = some key → x.2.isSome = true := by
    rw [length_storedIds, countP_and_eq_iff]
    exact forall₂_congr fun x _ => by rw [decide_eq_true_iff]
  rw [Conserved, hk.sum_counts]
  constructor
  · intro heq
    exact ⟨hstored.mp (by omega), hiff.mp (by omega)⟩
  · rintro ⟨hall, hpresent⟩
    rw [hiff.mpr hpresent, hstored.mpr hall]

/-! ### The condition -/

/-- The call repeats no stored one, and it makes the table delete no row that was stored under a key. -/
structure Counted (h : History) (c : Call) : Prop where
  fresh : ¬ Repeats c h.bus
  kept : ∀ key i, i ∈ storedIds key h.log ∨ c.key = some key ∧ i = h.bus.table.seq + 1 → i ∉ h.bus.deleted

theorem mem_storedIds_emit (hrep : ¬ Repeats c h.bus) (key : String) (i : ℕ) :
    i ∈ storedIds key (h.emit str c).log ↔
      i ∈ storedIds key h.log ∨ c.key = some key ∧ i = h.bus.table.seq + 1 := by
  obtain ⟨e, he, hid, -, -⟩ := emit_of_not_repeats str hrep
  have hlog : (h.emit str c).log = h.log ++ [(c, some e)] := by
    rw [History.emit, he]
  rw [hlog, storedIds, List.filterMap_append, List.mem_append]
  refine or_congr Iff.rfl ?_
  rw [List.filterMap_cons]
  by_cases hkey : c.key = some key
  · simp [hkey, hid, eq_comm]
  · simp [hkey]

/-- One call more is accounted for just when it meets the condition. -/
theorem Kept.accounted_emit (hk : Kept h) :
    (∀ key, Accounted key (h.emit str c)) ↔ (∀ key, Accounted key h) ∧ Counted h c := by
  have hlater : ∀ key, ∀ i ∈ storedIds key h.log, i ≤ h.bus.table.seq := by
    intro key i hi
    obtain ⟨x, hx, -, e, he, rfl⟩ := mem_storedIds.mp hi
    exact hk.bounded x hx e he
  by_cases hrep : Repeats c h.bus
  · refine iff_of_false (fun hall => ?_) fun hall => hall.2.fresh hrep
    have hnone := (emit_of_repeats str hrep).1
    obtain ⟨key, t, hkey, -, -⟩ := hrep
    have hmem : (c, (Events.emit str c h.bus).1) ∈ (h.emit str c).log :=
      List.mem_append_right _ List.mem_cons_self
    have hsome := (hall key).stored _ hmem hkey
    rw [hnone] at hsome
    cases hsome
  · obtain ⟨e, he, -, htable, -⟩ := emit_of_not_repeats str hrep
    have hids : ∀ i, i ∈ (h.emit str c).bus.table.ids ↔
        (i ∈ h.bus.table.ids ∨ i = h.bus.table.seq + 1) ∧ i ∉ h.bus.deleted := by
      intro i
      show i ∈ (Events.emit str c h.bus).2.table.ids ↔ _
      rw [htable, mem_ids_stored]
    constructor
    · refine fun hall => ⟨fun key => ⟨fun x hx hkey => ?_, fun i hi => ?_⟩, hrep, fun key i hi => ?_⟩
      · exact (hall key).stored x (List.mem_append_left _ hx) hkey
      · have hpresent := (hids i).mp ((hall key).present i ((mem_storedIds_emit hrep key i).mpr (.inl hi)))
        have hle := hlater key i hi
        exact hpresent.1.resolve_right (by omega)
      · exact ((hids i).mp ((hall key).present i ((mem_storedIds_emit hrep key i).mpr hi))).2
    · rintro ⟨hall, hcounted⟩ key
      refine ⟨fun x hx hkey => ?_, fun i hi => ?_⟩
      · rcases List.mem_append.mp hx with hx | hx
        · exact (hall key).stored x hx hkey
        · rw [List.mem_singleton.mp hx, he]
          rfl
      · have hi := (mem_storedIds_emit hrep key i).mp hi
        refine (hids i).mpr ⟨?_, hcounted.kept key i hi⟩
        exact hi.imp ((hall key).present i) And.right

theorem accounted_history (bus : EventBus) {calls : List Call} (hclock : calls.Pairwise fun c d => c.now ≤ d.now) :
    (∀ key, Accounted key (history str bus calls)) ↔
      ∀ before c later, calls = before ++ c :: later → Counted (history str bus before) c := by
  induction calls using List.reverseRecOn with
  | nil =>
    refine iff_of_true (fun key => ⟨by simp [history], by simp [history, storedIds]⟩) ?_
    intro before c later h
    simp at h
  | append_singleton calls c ih =>
    have hcalls := (List.pairwise_append.mp hclock).1
    rw [history_concat, (kept_history bus hcalls).accounted_emit, ih hcalls]
    constructor
    · rintro ⟨hall, hlast⟩ before d later h
      rcases List.eq_nil_or_concat later with rfl | ⟨later, f, rfl⟩
      · obtain ⟨rfl, hcd⟩ := List.append_inj' h rfl
        obtain rfl := (List.cons.inj hcd).1
        exact hlast
      · rw [List.concat_eq_append, ← List.cons_append, ← List.append_assoc] at h
        exact hall before d later (List.append_inj' h rfl).1
    · intro hall
      refine ⟨fun before d later h => hall before d (later ++ [c]) ?_, hall calls c [] rfl⟩
      rw [h, List.append_assoc, List.cons_append]

/-- **Rows of a key are a window apart; their counts add up to the calls exactly as long as no call repeats a
stored one and no row of a key is deleted.** -/
theorem counts_conserved_iff (str : Json → String) (bus : EventBus) (calls : List Call)
    (hclock : calls.Pairwise fun c d => c.now ≤ d.now) :
    (∀ key, Spaced key (history str bus calls)) ∧
      ((∀ key, Conserved key (history str bus calls)) ↔
        ∀ before c later, calls = before ++ c :: later → Counted (history str bus before) c) := by
  have hk : Kept (history str bus calls) := kept_history bus hclock
  refine ⟨hk.spaced, ?_⟩
  rw [← accounted_history bus hclock]
  exact forall_congr' hk.conserved_iff

/-- The table of a new database. -/
def Table.empty : Table := ⟨[], 0, .nil, by simp⟩

/-- A thermal warning at the time. -/
def thermalWarning (now : ℚ) : Call where
  now := now
  kind := "THERMAL_WARNING"
  data := some [("temperature_c", .int 96)]
  subsystem := "hardware"
  dedupKey := some "thermal-warning"
  dedupWindow := 300

/-- The second of two warnings within a minute is counted nowhere. -/
theorem repeat_uncounted : ¬ Conserved "thermal-warning"
    (history (fun _ => "") (.init 20000 .empty) [thermalWarning 0, thermalWarning 60]) := by
  unfold Conserved
  decide +kernel

theorem counts_conserved_iff_thermal : Spaced "thermal-warning"
    (history (fun _ => "") (.init 20000 .empty) [thermalWarning 0, thermalWarning 600]) :=
  (counts_conserved_iff (fun _ => "") (.init 20000 .empty) [thermalWarning 0, thermalWarning 600]
    (by decide)).1 "thermal-warning"

end Sbegw.Events
