import Mathlib.Data.List.Induction
import Sbegw.Lib.Run

/-!
# Bounded queues and feeds

A queue of at most `n` things, no bound for `n = 0`, that is asked without waiting: a put into a full
queue fails, a get from an empty one fails.  A feed is what such a queue is for when the newest things
count: an offer always goes in, and the oldest thing goes when there are too many.

A ledger of a run keeps the books of a queue some steps of the run put into and others take from: what
was there and came in is what went out and is there, in this order.
-/

namespace Feed

variable {F : Type}

/-- The queue has no room. -/
def Full (n : ℕ) (q : List F) : Prop := 0 < n ∧ n ≤ q.length

instance (n : ℕ) (q : List F) : Decidable (Full n q) := inferInstanceAs (Decidable (_ ∧ _))

/-- `put_nowait`: nothing where `queue.Full` is raised. -/
def putNowait (n : ℕ) (x : F) (q : List F) : Option (List F) := if Full n q then none else some (q ++ [x])

/-- `get_nowait`: nothing where `queue.Empty` is raised. -/
def getNowait : List F → Option (F × List F)
  | [] => none
  | x :: q => some (x, q)

theorem length_le_of_not_full {n : ℕ} {q : List F} (h : ¬ Full n q) (hn : 0 < n) : q.length + 1 ≤ n := by
  unfold Full at h
  omega

/-- The last `n` things, all of them for `n = 0`. -/
def newest (n : ℕ) (q : List F) : List F := if n = 0 then q else q.drop (q.length - n)

theorem newest_of_not_full {n : ℕ} {q : List F} (h : ¬ Full n q) (x : F) : newest n (q ++ [x]) = q ++ [x] := by
  unfold newest
  split
  · rfl
  · next hn =>
    have hlen := length_le_of_not_full h (Nat.pos_of_ne_zero hn)
    rw [List.length_append, List.length_singleton, Nat.sub_eq_zero_of_le hlen, List.drop_zero]

/-- In a queue that is just full, the oldest thing makes room. -/
theorem newest_of_full {n : ℕ} {q : List F} {y : F} (h : (y :: q).length = n) (x : F) :
    newest n (y :: q ++ [x]) = q ++ [x] := by
  have hn : n ≠ 0 := by
    rw [← h, List.length_cons]
    omega
  have hdrop : (y :: q ++ [x]).length - n = 1 := by
    rw [List.length_append, h, List.length_singleton]
    omega
  unfold newest
  rw [if_neg hn, hdrop]
  rfl

theorem length_newest_le {n : ℕ} (hn : 0 < n) (q : List F) : (newest n q).length ≤ n := by
  unfold newest
  rw [if_neg (by omega), List.length_drop]
  omega

/-- What was dropped before is not among the newest. -/
theorem newest_newest_append (n : ℕ) (q r : List F) : newest n (newest n q ++ r) = newest n (q ++ r) := by
  unfold newest
  split
  · rfl
  · rw [List.length_append, List.length_drop, List.length_append]
    rcases Nat.le_total q.length n with hle | hle
    · have h0 : q.length - n = 0 := by omega
      simp only [h0, List.drop_zero, Nat.sub_zero]
    · have hsplit : q.length + r.length - n = (q.length - n) + r.length := by omega
      have hrest : q.length - (q.length - n) + r.length - n = r.length := by omega
      have hdrop : (q ++ r).drop (q.length - n) = q.drop (q.length - n) ++ r :=
        List.drop_append_of_le_length (by omega)
      rw [hrest, hsplit, ← List.drop_drop, hdrop]

/-- What happens to a feed. -/
inductive Event (F : Type)
  | offer (x : F)
  | take
  deriving DecidableEq, Repr

/-- One thing that happens to a feed. -/
def Event.on (n : ℕ) : List F → Event F → List F
  | w, .offer x => newest n (w ++ [x])
  | w, .take => w.tail

/-- What a feed holds after all that happened to it. -/
def holds (n : ℕ) (es : List (Event F)) : List F := es.foldl (Event.on n) []

@[simp] theorem holds_nil (n : ℕ) : holds n ([] : List (Event F)) = [] := rfl

theorem holds_concat (n : ℕ) (es : List (Event F)) (e : Event F) :
    holds n (es ++ [e]) = e.on n (holds n es) := by
  unfold holds
  rw [List.foldl_append]
  rfl

/-- A feed nobody takes from holds the newest of what it was offered. -/
theorem holds_offers (n : ℕ) (xs : List F) : holds n (xs.map Event.offer) = newest n xs := by
  induction xs using List.reverseRecOn with
  | nil => simp [newest]
  | append_singleton xs x ih =>
    rw [List.map_append, List.map_singleton, holds_concat, ih]
    exact newest_newest_append n xs [x]

end Feed

namespace Machine

variable {S A O F : Type} {step : S → A → Option (O × S)}

/-- **The books of a queue**: where every step balances, so does the run. -/
theorem Run.ledger {s t : S} {l : List (Step S A O)} (h : Run step s l t) (held : S → List F)
    (came went : Step S A O → List F)
    (hstep : ∀ x ∈ l, step x.pre x.act = some (x.out, x.post) →
      held x.pre ++ came x = went x ++ held x.post) :
    held s ++ l.flatMap came = l.flatMap went ++ held t := by
  induction h with
  | nil => simp
  | @cons s t u a o l hs _ ih =>
    have hhead := hstep ⟨s, a, o, t⟩ List.mem_cons_self hs
    have htail := ih fun x hx => hstep x (List.mem_cons_of_mem _ hx)
    rw [List.flatMap_cons, List.flatMap_cons, ← List.append_assoc, hhead, List.append_assoc, htail,
      List.append_assoc]

end Machine
