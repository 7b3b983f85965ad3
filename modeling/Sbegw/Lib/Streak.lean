import Mathlib.Data.List.Induction

/-!
# The streak at the end of a list

Of the observations of a list, the last ones that all satisfy a predicate, and the first of these.
-/

namespace Streak

variable {α : Type}

/-- The streak begins with `first`: from it on every observation satisfies `p`, and the one before it does not. -/
def StartsAt (p : α → Prop) (l : List α) (first : α) : Prop :=
  ∃ earlier during, l = earlier ++ first :: during ∧ (∀ a ∈ first :: during, p a) ∧ ∀ a ∈ earlier.getLast?, ¬ p a

variable {p : α → Prop} {l : List α}

theorem not_startsAt_nil (first : α) : ¬ StartsAt p [] first := by
  rintro ⟨earlier, during, heq, -⟩
  cases earlier <;> cases heq

/-- One more observation ends the streak, goes on with it or begins a new one. -/
theorem startsAt_concat {a first : α} :
    StartsAt p (l ++ [a]) first ↔ p a ∧ (StartsAt p l first ∨ first = a ∧ ∀ b ∈ l.getLast?, ¬ p b) := by
  constructor
  · rintro ⟨earlier, during, heq, hall, hbefore⟩
    rcases during.eq_nil_or_concat with rfl | ⟨during, last, rfl⟩
    · obtain ⟨rfl, hlast⟩ := List.append_inj' heq rfl
      obtain rfl := (List.cons.inj hlast).1
      exact ⟨hall a List.mem_cons_self, .inr ⟨rfl, hbefore⟩⟩
    · rw [List.concat_eq_append, ← List.cons_append, ← List.append_assoc] at heq
      obtain ⟨rfl, hlast⟩ := List.append_inj' heq rfl
      obtain rfl := (List.cons.inj hlast).1
      refine ⟨hall a (by simp), .inl ⟨earlier, during, rfl, fun b hb => hall b ?_, hbefore⟩⟩
      rw [List.concat_eq_append, ← List.cons_append]
      exact List.mem_append_left _ hb
  · rintro ⟨ha, ⟨earlier, during, rfl, hall, hbefore⟩ | ⟨rfl, hlast⟩⟩
    · refine ⟨earlier, during ++ [a], by simp, fun b hb => ?_, hbefore⟩
      rw [← List.cons_append] at hb
      rcases List.mem_append.mp hb with hb | hb
      · exact hall b hb
      · rw [List.mem_singleton.mp hb]
        exact ha
    · exact ⟨l, [], rfl, fun b hb => (List.mem_singleton.mp hb) ▸ ha, hlast⟩

/-- There is a streak when the last observation satisfies the predicate. -/
theorem exists_startsAt_iff : (∃ first, StartsAt p l first) ↔ ∃ a ∈ l.getLast?, p a := by
  induction l using List.reverseRecOn with
  | nil => exact iff_of_false (fun ⟨first, h⟩ => not_startsAt_nil first h) (by simp)
  | append_singleton l a ih =>
    have hlast : (∃ b ∈ (l ++ [a]).getLast?, p b) ↔ p a := by simp
    rw [hlast]
    constructor
    · rintro ⟨first, h⟩
      exact (startsAt_concat.mp h).1
    · intro ha
      by_cases hbefore : ∃ b ∈ l.getLast?, p b
      · obtain ⟨first, h⟩ := ih.mpr hbefore
        exact ⟨first, startsAt_concat.mpr ⟨ha, .inl h⟩⟩
      · exact ⟨a, startsAt_concat.mpr ⟨ha, .inr ⟨rfl, fun b hb hp => hbefore ⟨b, hb, hp⟩⟩⟩⟩

/-- A streak has one beginning. -/
theorem StartsAt.unique {first first' : α} (h : StartsAt p l first) (h' : StartsAt p l first') : first = first' := by
  induction l using List.reverseRecOn with
  | nil => exact absurd h (not_startsAt_nil first)
  | append_singleton l a ih =>
    obtain ⟨-, h⟩ := startsAt_concat.mp h
    obtain ⟨-, h'⟩ := startsAt_concat.mp h'
    rcases h with h | ⟨rfl, hlast⟩
    · rcases h' with h' | ⟨-, hlast⟩
      · exact ih h h'
      · obtain ⟨b, hb, hp⟩ := exists_startsAt_iff.mp ⟨first, h⟩
        exact absurd hp (hlast b hb)
    · rcases h' with h' | ⟨rfl, -⟩
      · obtain ⟨b, hb, hp⟩ := exists_startsAt_iff.mp ⟨first', h'⟩
        exact absurd hp (hlast b hb)
      · rfl

end Streak
