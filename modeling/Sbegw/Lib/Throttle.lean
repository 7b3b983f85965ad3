import Mathlib.Algebra.Order.Group.Defs
import Mathlib.Data.List.Basic
import Mathlib.Logic.Relation

/-!
# A sliding-window limit that is checked first and recorded afterwards

One key of a rate limiter.  An attempt is admitted by a check of the recorded failures of the last
`len`; its own failure is recorded some time after it has failed.  The limit holds in every window
when the attempts that are still open count as recorded at each admission.
-/

namespace Throttle

variable {α : Type}

/-- A key of a limiter, and the attempts made under it. -/
structure View (α : Type) where
  clock : α
  recorded : List α
  /-- admitted and not decided yet -/
  active : ℕ
  /-- failed and not recorded yet -/
  owing : ℕ
  failed : List α

/-! ### Counting times -/

section

variable [LinearOrder α]

/-- How many of the times are later than `c`. -/
def after (c : α) (ts : List α) : ℕ := ts.countP fun t => decide (c < t)

theorem after_mono {b c : α} (h : b ≤ c) (ts : List α) : after c ts ≤ after b ts := by
  unfold after
  apply List.countP_mono_left
  intro t _ ht
  simp only [decide_eq_true_eq] at ht ⊢
  exact lt_of_le_of_lt h ht

theorem after_append (c : α) (ts us : List α) : after c (ts ++ us) = after c ts + after c us :=
  List.countP_append

theorem after_singleton_le (c t : α) : after c [t] ≤ 1 := List.countP_le_length

theorem after_eq_zero {c : α} {ts : List α} (h : ∀ t ∈ ts, t ≤ c) : after c ts = 0 := by
  unfold after
  rw [List.countP_eq_zero]
  intro t ht
  simpa using h t ht

/-- Forgetting what is older than `b` does not change what is later than `c`. -/
theorem after_filter {b c : α} (h : b ≤ c) (ts : List α) :
    after c (ts.filter fun t => decide (b < t)) = after c ts := by
  unfold after
  rw [List.countP_filter]
  apply List.countP_congr
  intro t _
  simp only [Bool.and_eq_true, decide_eq_true_eq]
  exact ⟨fun ht => ht.1, fun ht => ⟨ht, lt_of_le_of_lt h ht⟩⟩

end

variable [AddCommGroup α] [LinearOrder α]

/-- How many of the times lie in the window of length `len` that starts after `a`. -/
def within (len a : α) (ts : List α) : ℕ := ts.countP fun t => decide (a < t ∧ t ≤ a + len)

theorem within_le_after (len a : α) (ts : List α) : within len a ts ≤ after a ts := by
  unfold within after
  apply List.countP_mono_left
  intro t _ ht
  simp only [decide_eq_true_eq] at ht ⊢
  exact ht.1

/-! ### The moves of a key -/

/-- What can happen to a key.  An admission leaves room for all attempts that are still open. -/
inductive Move (len : α) (limit : ℕ) : View α → View α → Prop
  | wait (v : View α) {now : α} (h : v.clock ≤ now) : Move len limit v { v with clock := now }
  | forget (v : View α) {c : α} (h : c ≤ v.clock - len) :
      Move len limit v { v with recorded := v.recorded.filter fun t => decide (c < t) }
  | enter (v : View α) (h : after (v.clock - len) v.recorded + v.active + v.owing < limit) :
      Move len limit v { v with active := v.active + 1 }
  | leave (v : View α) (h : 0 < v.active) : Move len limit v { v with active := v.active - 1 }
  | fail (v : View α) (h : 0 < v.active) :
      Move len limit v { v with
        active := v.active - 1, owing := v.owing + 1, failed := v.failed ++ [v.clock] }
  | record (v : View α) (h : 0 < v.owing) :
      Move len limit v { v with owing := v.owing - 1, recorded := v.recorded ++ [v.clock] }

/-- The invariant: open and recorded attempts together stay within the limit, and they account for
every recent failure. -/
structure Kept (len : α) (limit : ℕ) (v : View α) : Prop where
  past : ∀ t ∈ v.failed, t ≤ v.clock
  accounted : ∀ c, v.clock - len ≤ c → after c v.failed ≤ after c v.recorded + v.owing
  room : after (v.clock - len) v.recorded + v.active + v.owing ≤ limit
  bounded : ∀ a, within len a v.failed ≤ limit

variable {len : α} {limit : ℕ} {v w : View α}

theorem Kept.start {v : View α} (hf : v.failed = []) (hr : v.recorded = []) (ha : v.active = 0)
    (ho : v.owing = 0) : Kept len limit v := by
  refine ⟨?_, ?_, ?_, ?_⟩
  · simp [hf]
  · simp [hf, after]
  · simp [hr, ha, ho, after]
  · simp [hf, within]

/-- Recording a failure keeps the account: it is as late as every failure so far. -/
theorem Kept.record (h : Kept len limit v) (ho : 0 < v.owing) : Kept len limit
    { v with owing := v.owing - 1, recorded := v.recorded ++ [v.clock] } := by
  refine ⟨h.past, ?_, ?_, h.bounded⟩
  · intro c hc
    show after c v.failed ≤ after c (v.recorded ++ [v.clock]) + (v.owing - 1)
    by_cases hlt : c < v.clock
    · have h1 := h.accounted c hc
      have h2 : after c [v.clock] = 1 := by simp [after, hlt]
      rw [after_append, h2]
      omega
    · have h0 : after c v.failed = 0 :=
        after_eq_zero fun t ht => le_trans (h.past t ht) (not_lt.mp hlt)
      rw [h0]
      exact Nat.zero_le _
  · have h1 := h.room
    have h2 := after_singleton_le (v.clock - len) v.clock
    show after (v.clock - len) (v.recorded ++ [v.clock]) + v.active + (v.owing - 1) ≤ limit
    rw [after_append]
    omega

variable [IsOrderedAddMonoid α]

/-- A failure keeps every window within the limit: those it falls into are counted by what is
recorded or owed. -/
theorem Kept.fail (h : Kept len limit v) (ha : 0 < v.active) : Kept len limit
    { v with active := v.active - 1, owing := v.owing + 1, failed := v.failed ++ [v.clock] } := by
  have hroom := h.room
  have hacc : ∀ c, v.clock - len ≤ c →
      after c (v.failed ++ [v.clock]) ≤ after c v.recorded + (v.owing + 1) := by
    intro c hc
    have h1 := h.accounted c hc
    have h2 := after_singleton_le c v.clock
    rw [after_append]
    omega
  refine ⟨?_, hacc, ?_, ?_⟩
  · intro t ht
    rcases List.mem_append.mp ht with ht | ht
    · exact h.past t ht
    · exact le_of_eq (by simpa using ht)
  · show after (v.clock - len) v.recorded + (v.active - 1) + (v.owing + 1) ≤ limit
    omega
  · intro a
    show within len a (v.failed ++ [v.clock]) ≤ limit
    by_cases hin : a < v.clock ∧ v.clock ≤ a + len
    · have hstart : v.clock - len ≤ a := sub_le_iff_le_add.mpr hin.2
      have h1 := within_le_after len a (v.failed ++ [v.clock])
      have h2 := hacc a hstart
      have h3 := after_mono hstart v.recorded
      omega
    · have hout : within len a [v.clock] = 0 := by simp [within, hin]
      have h1 := h.bounded a
      unfold within at hout h1 ⊢
      rw [List.countP_append, hout]
      omega

theorem Kept.move (h : Kept len limit v) (hm : Move len limit v w) : Kept len limit w := by
  cases hm with
  | @wait now hnow =>
    refine ⟨fun t ht => le_trans (h.past t ht) hnow, ?_, ?_, h.bounded⟩
    · intro c hc
      exact h.accounted c (le_trans (sub_le_sub_right hnow len) hc)
    · have h1 := after_mono (sub_le_sub_right hnow len) v.recorded
      have h2 := h.room
      show after (now - len) v.recorded + v.active + v.owing ≤ limit
      omega
  | @forget c hc =>
    refine ⟨h.past, ?_, ?_, h.bounded⟩
    · intro b hb
      show after b v.failed ≤ after b (v.recorded.filter _) + v.owing
      rw [after_filter (le_trans hc hb)]
      exact h.accounted b hb
    · show after (v.clock - len) (v.recorded.filter _) + v.active + v.owing ≤ limit
      rw [after_filter hc]
      exact h.room
  | enter hlt =>
    refine ⟨h.past, h.accounted, ?_, h.bounded⟩
    show after (v.clock - len) v.recorded + (v.active + 1) + v.owing ≤ limit
    omega
  | leave ha =>
    refine ⟨h.past, h.accounted, ?_, h.bounded⟩
    have h1 := h.room
    show after (v.clock - len) v.recorded + (v.active - 1) + v.owing ≤ limit
    omega
  | fail ha => exact h.fail ha
  | record ho => exact h.record ho

/-- Any number of moves. -/
abbrev Moves (len : α) (limit : ℕ) : View α → View α → Prop :=
  Relation.ReflTransGen (Move len limit)

/-- **The limit holds in every window**, after any moves. -/
theorem Kept.moves (h : Kept len limit v) (hm : Moves len limit v w) : Kept len limit w := by
  induction hm with
  | refl => exact h
  | tail _ hlast ih => exact ih.move hlast

end Throttle
