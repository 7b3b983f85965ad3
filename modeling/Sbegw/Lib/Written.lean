import Sbegw.Lib.Dict
import Mathlib.Data.List.Induction

/-!
# The last writer wins

A loop over rows that writes at most one key of a dictionary for each: what the dictionary holds under
a key is what the last row to write that key wrote.
-/

namespace Dict

variable {κ α ρ : Type} [DecidableEq κ]

/-- Write what a row has to write. -/
def write (f : ρ → Option (κ × α)) (d : Dict κ α) (r : ρ) : Dict κ α :=
  match f r with
  | some e => set e.1 e.2 d
  | none => d

/-- The dictionary after all rows. -/
def written (f : ρ → Option (κ × α)) (rows : List ρ) : Dict κ α := rows.foldl (write f) []

variable {f : ρ → Option (κ × α)} {rows : List ρ} {k : κ} {v : α}

/-- The rows after the last one to write a key write other keys. -/
def Spared (f : ρ → Option (κ × α)) (k : κ) (rows : List ρ) : Prop := ∀ r ∈ rows, ∀ v, f r ≠ some (k, v)

theorem written_append (f : ρ → Option (κ × α)) (rows : List ρ) (r : ρ) :
    written f (rows ++ [r]) = write f (written f rows) r := by
  unfold written
  rw [List.foldl_append]
  rfl

theorem lookup_write {d : Dict κ α} {r : ρ} (h : ∀ v, f r ≠ some (k, v)) :
    lookup k (write f d r) = lookup k d := by
  unfold write
  cases hr : f r with
  | none => rfl
  | some e =>
    obtain ⟨k', v'⟩ := e
    have hne : k ≠ k' := fun heq => h v' (by rw [hr, heq])
    exact lookup_set_of_ne hne v' d

/-- Nothing is there exactly when no row writes the key. -/
theorem lookup_written_eq_none : lookup k (written f rows) = none ↔ Spared f k rows := by
  induction rows using List.reverseRecOn with
  | nil => simp [written, Spared]
  | append_singleton rows r ih =>
    rw [written_append]
    by_cases hr : ∃ v, f r = some (k, v)
    · obtain ⟨v, hv⟩ := hr
      have hsome : lookup k (write f (written f rows) r) = some v := by
        simp only [write, hv, lookup_set_self]
      rw [hsome]
      constructor
      · exact fun h => absurd h (by simp)
      · exact fun h => absurd hv (h r (by simp) v)
    · have hr' : ∀ v, f r ≠ some (k, v) := fun v hv => hr ⟨v, hv⟩
      rw [lookup_write hr', ih]
      constructor
      · intro h r' hmem v
        rcases List.mem_append.mp hmem with hmem | hmem
        · exact h r' hmem v
        · rw [List.mem_singleton.mp hmem]
          exact hr' v
      · exact fun h r' hmem => h r' (List.mem_append_left _ hmem)

/-- **The last writer wins.** -/
theorem lookup_written_eq_some : lookup k (written f rows) = some v ↔
    ∃ l₁ r l₂, rows = l₁ ++ r :: l₂ ∧ f r = some (k, v) ∧ Spared f k l₂ := by
  induction rows using List.reverseRecOn with
  | nil => simp [written]
  | append_singleton rows r ih =>
    rw [written_append]
    by_cases hr : ∃ u, f r = some (k, u)
    · obtain ⟨u, hu⟩ := hr
      have hsome : lookup k (write f (written f rows) r) = some u := by
        simp only [write, hu, lookup_set_self]
      rw [hsome]
      constructor
      · intro h
        rw [Option.some.injEq] at h
        subst h
        exact ⟨rows, r, [], rfl, hu, fun _ h => absurd h List.not_mem_nil⟩
      · rintro ⟨l₁, r', l₂, hl, hf, hspared⟩
        rcases List.eq_nil_or_concat l₂ with rfl | ⟨l₂', x, rfl⟩
        · obtain ⟨-, hlast⟩ := List.append_inj' hl rfl
          rw [List.singleton_inj] at hlast
          rw [← hlast, hu] at hf
          exact congrArg some (Prod.mk.inj (Option.some.inj hf)).2
        · rw [List.concat_eq_append, ← List.cons_append, ← List.append_assoc] at hl
          obtain ⟨-, hlast⟩ := List.append_inj' hl rfl
          have hx : x = r := (List.singleton_inj.mp hlast).symm
          exact absurd (hx ▸ hu) (hspared x (by simp) u)
    · have hr' : ∀ u, f r ≠ some (k, u) := fun u hu => hr ⟨u, hu⟩
      rw [lookup_write hr', ih]
      constructor
      · rintro ⟨l₁, r', l₂, rfl, hf, hspared⟩
        refine ⟨l₁, r', l₂ ++ [r], by simp, hf, fun x hx => ?_⟩
        rcases List.mem_append.mp hx with hx | hx
        · exact hspared x hx
        · rw [List.mem_singleton.mp hx]
          exact hr'
      · rintro ⟨l₁, r', l₂, hl, hf, hspared⟩
        rcases List.eq_nil_or_concat l₂ with rfl | ⟨l₂', x, rfl⟩
        · obtain ⟨-, hlast⟩ := List.append_inj' hl rfl
          rw [List.singleton_inj] at hlast
          exact absurd (hlast ▸ hf) (hr' v)
        · rw [List.concat_eq_append, ← List.cons_append, ← List.append_assoc] at hl
          obtain ⟨hrows, -⟩ := List.append_inj' hl rfl
          exact ⟨l₁, r', l₂', hrows, hf, fun x hx => hspared x (by simp [hx])⟩

end Dict
