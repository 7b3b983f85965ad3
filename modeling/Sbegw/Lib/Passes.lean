import Mathlib.Data.List.Induction

/-!
# Passes over rows

A loop over rows, each of which sees to a job of its own: what every row keeps holds at the end, and the job of a row
that no other row undoes is done at the end.
-/

namespace Passes

variable {σ ρ : Type} {f : σ → ρ → σ} {I : σ → Prop} {rows : List ρ} {s : σ}

/-- What every row keeps. -/
theorem invariant (h : ∀ r ∈ rows, ∀ s, I s → I (f s r)) (hs : I s) : I (rows.foldl f s) := by
  induction rows generalizing s with
  | nil => exact hs
  | cons r rows ih =>
    exact ih (fun r' hr' => h r' (List.mem_cons_of_mem r hr')) (h r List.mem_cons_self s hs)

/-- Every row does its own job, and no row undoes that of another. -/
theorem done {Done : ρ → σ → Prop} (hI : ∀ r ∈ rows, ∀ s, I s → I (f s r))
    (hdo : ∀ r ∈ rows, ∀ s, I s → Done r (f s r))
    (hkeep : ∀ r ∈ rows, ∀ r' ∈ rows, r ≠ r' → ∀ s, I s → Done r s → Done r (f s r')) (hs : I s) :
    ∀ r ∈ rows, Done r (rows.foldl f s) := by
  induction rows using List.reverseRecOn with
  | nil => exact fun r hr => absurd hr List.not_mem_nil
  | append_singleton rows x ih =>
    have hold : ∀ r ∈ rows, r ∈ rows ++ [x] := fun r hr => List.mem_append_left _ hr
    have hx : x ∈ rows ++ [x] := List.mem_append_right _ List.mem_cons_self
    have hinv : I (rows.foldl f s) := invariant (fun r hr => hI r (hold r hr)) hs
    intro r hr
    rw [List.foldl_append]
    by_cases hrx : r = x
    · rw [hrx]
      exact hdo x hx _ hinv
    · have hmem : r ∈ rows := (List.mem_append.mp hr).resolve_right fun h => hrx (List.mem_singleton.mp h)
      refine hkeep r hr x hx hrx _ hinv (ih (fun r hr => hI r (hold r hr)) (fun r hr => hdo r (hold r hr)) ?_ r hmem)
      exact fun r hr r' hr' => hkeep r (hold r hr) r' (hold r' hr')

end Passes
