import Mathlib.Data.List.Basic
import Mathlib.Logic.Function.Basic

/-!
# A sweep over places

A loop over rows, each of which rewrites the contents of its own place in a store.  A place that no row
is at keeps what it held; a place that rows are at holds what one of them makes of it, when they all
make the same of it and a second one makes no difference.
-/

namespace Sweep

variable {κ β ρ : Type} [DecidableEq κ]

/-- The store after the rows: each turns what its place holds by `turn`. -/
def sweep (place : ρ → κ) (turn : ρ → β → β) (rows : List ρ) (s : κ → β) : κ → β :=
  rows.foldl (fun s r => Function.update s (place r) (turn r (s (place r)))) s

variable {place : ρ → κ} {turn : ρ → β → β}

theorem sweep_cons (r : ρ) (rows : List ρ) (s : κ → β) :
    sweep place turn (r :: rows) s =
      sweep place turn rows (Function.update s (place r) (turn r (s (place r)))) := rfl

/-- Nothing happens where no row is. -/
theorem sweep_of_forall_ne {k : κ} : ∀ {rows : List ρ} {s : κ → β}, (∀ r ∈ rows, place r ≠ k) →
    sweep place turn rows s k = s k
  | [], _, _ => rfl
  | r :: rows, s, h => by
    have hr : k ≠ place r := fun heq => h r List.mem_cons_self heq.symm
    rw [sweep_cons, sweep_of_forall_ne fun r' hr' => h r' (List.mem_cons_of_mem _ hr'), Function.update_of_ne hr]

/-- Rows that are at one place and agree do what the first of them does. -/
theorem sweep_of_mem {r₀ : ρ} (hidem : ∀ b, turn r₀ (turn r₀ b) = turn r₀ b) :
    ∀ {rows : List ρ} {s : κ → β}, (∀ r ∈ rows, place r = place r₀ → turn r = turn r₀) → r₀ ∈ rows →
      sweep place turn rows s (place r₀) = turn r₀ (s (place r₀))
  | [], _, _, hmem => absurd hmem List.not_mem_nil
  | r :: rows, s, hagree, hmem => by
    have hrest : ∀ r' ∈ rows, place r' = place r₀ → turn r' = turn r₀ :=
      fun r' hr' => hagree r' (List.mem_cons_of_mem _ hr')
    rw [sweep_cons]
    by_cases hother : ∃ r' ∈ rows, place r' = place r₀
    · obtain ⟨r', hr', hplace'⟩ := hother
      have hturn : turn r' = turn r₀ := hrest r' hr' hplace'
      have hidem' : ∀ b, turn r' (turn r' b) = turn r' b := by
        rw [hturn]
        exact hidem
      have hagree' : ∀ x ∈ rows, place x = place r' → turn x = turn r' := by
        intro x hx hxr
        rw [hturn]
        exact hrest x hx (hxr.trans hplace')
      rw [← hplace', sweep_of_mem hidem' hagree' hr', hplace', hturn]
      by_cases hplace : place r = place r₀
      · rw [hplace, Function.update_self, hagree r List.mem_cons_self hplace, hidem]
      · rw [Function.update_of_ne (Ne.symm hplace)]
    · push Not at hother
      obtain rfl : r₀ = r := by
        rcases List.mem_cons.mp hmem with rfl | hmem
        · rfl
        · exact absurd rfl (hother r₀ hmem)
      rw [sweep_of_forall_ne hother, Function.update_self]

end Sweep
