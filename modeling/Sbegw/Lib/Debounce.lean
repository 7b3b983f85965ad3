import Mathlib.Data.List.Chain

/-!
# Debouncing a sequence of observations

The reference debouncer starts from its first observation and reports a value as soon as it has been
observed twice running and is not the value reported last.
-/

namespace Debounce

variable {α : Type} [DecidableEq α]

/-- What is reported from here on: `last` is the value reported last, `prev` the last observation. -/
def reportFrom (last prev : α) : List α → List α
  | [] => []
  | a :: as => if a = prev ∧ a ≠ last then a :: reportFrom a a as else reportFrom last a as

/-- What is reported for a sequence of observations. -/
def report : List α → List α
  | [] => []
  | a :: as => reportFrom a a as

/-- The first value is the only one that is ever observed twice running. -/
def OnlyFlaps (l : List α) : Prop := l.IsChain fun a b => a = b → l.head? = some a

theorem reportFrom_eq_nil_iff (last prev : α) (l : List α) :
    reportFrom last prev l = [] ↔ (prev :: l).IsChain fun a b => a = b → a = last := by
  induction l generalizing prev with
  | nil => simp [reportFrom]
  | cons a l ih =>
    rw [reportFrom, List.isChain_cons_cons]
    by_cases h : a = prev ∧ a ≠ last
    · rw [if_pos h]
      have hne : ¬ (prev = a → prev = last) := fun himp => h.2 (h.1 ▸ himp h.1.symm)
      simp [hne]
    · rw [if_neg h, ih a]
      have hfirst : prev = a → prev = last := by
        rintro rfl
        by_contra hne
        exact h ⟨rfl, hne⟩
      exact (and_iff_right hfirst).symm

/-- Nothing is reported exactly when all that is ever seen are flaps. -/
theorem report_eq_nil_iff (l : List α) : report l = [] ↔ OnlyFlaps l := by
  cases l with
  | nil => simp [report, OnlyFlaps]
  | cons a l =>
    rw [report, reportFrom_eq_nil_iff, OnlyFlaps, List.head?_cons]
    have heq : ∀ b : α, some a = some b ↔ b = a := by simp [eq_comm]
    simp only [heq]

end Debounce
