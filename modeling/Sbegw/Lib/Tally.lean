import Sbegw.Lib.Dict
import Mathlib.Data.List.Induction
import Mathlib.Algebra.BigOperators.Group.List.Basic
import Mathlib.Algebra.GroupWithZero.Nat

/-!
# Tallies

A dictionary into which rows are added up by key: `d[k]` becomes what a row makes of the value there.  A
measure that every row raises by its own weight has the total weight of the rows as its sum over the
dictionary, whatever the keys.  The largest `n` of a list have the sum of all of it when the others weigh
nothing.
-/

namespace Dict

variable {κ α ρ : Type}

/-- The sum of a measure over the entries. -/
def total (m : κ × α → ℕ) (d : Dict κ α) : ℕ := (d.map m).sum

@[simp] theorem total_nil (m : κ × α → ℕ) : total m [] = 0 := rfl

theorem total_cons (m : κ × α → ℕ) (e : κ × α) (d : Dict κ α) : total m (e :: d) = m e + total m d := by
  unfold total
  rw [List.map_cons, List.sum_cons]

variable [DecidableEq κ]

/-- `d[k] = f(d.get(k))` -/
def bump (k : κ) (f : Option α → α) (d : Dict κ α) : Dict κ α := set k (f (lookup k d)) d

/-- An entry that gains `x` raises the total by `x`. -/
theorem total_bump {m : κ × α → ℕ} {k : κ} {f : Option α → α} {x : ℕ} (hnew : m (k, f none) = x)
    (hold : ∀ v, m (k, f (some v)) = m (k, v) + x) (d : Dict κ α) : total m (bump k f d) = total m d + x := by
  unfold bump
  induction d with
  | nil =>
    rw [lookup_nil, set, total_cons, hnew]
    simp
  | cons e d ih =>
    obtain ⟨k', v⟩ := e
    rw [lookup_cons, set]
    by_cases hk : k' = k
    · subst hk
      rw [if_pos rfl, if_pos rfl, total_cons, total_cons, hold]
      omega
    · rw [if_neg hk, if_neg hk, total_cons, total_cons, ih]
      omega

/-- The dictionary after all rows. -/
def tally (key : ρ → κ) (f : ρ → Option α → α) (rows : List ρ) : Dict κ α :=
  rows.foldl (fun d r => bump (key r) (f r) d) []

variable {key : ρ → κ} {f : ρ → Option α → α}

theorem tally_append (key : ρ → κ) (f : ρ → Option α → α) (rows : List ρ) (r : ρ) :
    tally key f (rows ++ [r]) = bump (key r) (f r) (tally key f rows) := by
  unfold tally
  rw [List.foldl_append]
  rfl

/-- **A tally keeps the total** of what its rows weigh. -/
theorem total_tally {m : κ × α → ℕ} {w : ρ → ℕ} (hnew : ∀ r, m (key r, f r none) = w r)
    (hold : ∀ r v, m (key r, f r (some v)) = m (key r, v) + w r) (rows : List ρ) :
    total m (tally key f rows) = (rows.map w).sum := by
  induction rows using List.reverseRecOn with
  | nil => rfl
  | append_singleton rows r ih =>
    rw [tally_append, total_bump (hnew r) (hold r), ih, List.map_append, List.sum_append]
    simp

theorem nodup_keys_tally (key : ρ → κ) (f : ρ → Option α → α) (rows : List ρ) :
    (keys (tally key f rows)).Nodup := by
  induction rows using List.reverseRecOn with
  | nil => exact List.nodup_nil
  | append_singleton rows r ih =>
    rw [tally_append]
    exact nodup_keys_set _ _ ih

/-- With one entry for each key, the sum over a key is the measure of its entry. -/
theorem total_key {m : α → ℕ} {d : Dict κ α} (hd : (keys d).Nodup) {k : κ} {v : α} (h : (k, v) ∈ d) :
    total (fun e => if e.1 = k then m e.2 else 0) d = m v := by
  induction d with
  | nil => exact absurd h List.not_mem_nil
  | cons e d ih =>
    have hkeys : e.1 ∉ keys d ∧ (keys d).Nodup := List.nodup_cons.mp hd
    have hrest : ∀ {k : κ}, k ∉ keys d → total (fun e => if e.1 = k then m e.2 else 0) d = 0 := by
      intro k hk
      unfold total
      rw [List.sum_eq_zero_iff_forall_eq_nat]
      intro x hx
      obtain ⟨e', he', rfl⟩ := List.mem_map.mp hx
      exact if_neg fun heq : e'.1 = k => hk (heq ▸ List.mem_map_of_mem he')
    rw [total_cons]
    rcases List.mem_cons.mp h with rfl | h
    · rw [if_pos rfl, hrest hkeys.1, Nat.add_zero]
    · have hne : e.1 ≠ k := fun heq => hkeys.1 (heq ▸ List.mem_map_of_mem h)
      rw [if_neg hne, ih hkeys.2 h, Nat.zero_add]

end Dict

/-! ### The largest entries -/

section Largest

variable {α : Type} {w : α → ℕ}

/-- What is left behind a descending list's first `n` weighs nothing when at most `n` weigh anything. -/
theorem drop_weightless_iff {l : List α} (hl : l.Pairwise fun a b => w b ≤ w a) (n : ℕ) :
    (∀ x ∈ l.drop n, w x = 0) ↔ (l.filter fun x => w x ≠ 0).length ≤ n := by
  constructor
  · intro h
    have hnone : (l.drop n).filter (fun x => w x ≠ 0) = [] := by
      rw [List.filter_eq_nil_iff]
      intro x hx
      simp [h x hx]
    rw [← List.take_append_drop n l, List.filter_append, hnone, List.append_nil]
    exact (List.length_filter_le _ _).trans (List.length_take_le n l)
  · intro h x hx
    by_contra hpos
    have hsplit := List.take_append_drop n l
    have hbefore : ∀ y ∈ l.take n, w y ≠ 0 := by
      intro y hy
      rw [← hsplit] at hl
      have hle := (List.pairwise_append.mp hl).2.2 y hy x hx
      omega
    have hlong : n < l.length := by
      by_contra hshort
      rw [List.drop_eq_nil_of_le (by omega)] at hx
      exact absurd hx List.not_mem_nil
    have hall : (l.take n).filter (fun y => w y ≠ 0) = l.take n := by
      rw [List.filter_eq_self]
      intro y hy
      exact decide_eq_true (hbefore y hy)
    have hone : 0 < ((l.drop n).filter fun y => w y ≠ 0).length :=
      List.length_pos_of_mem (List.mem_filter.mpr ⟨hx, decide_eq_true hpos⟩)
    rw [← hsplit, List.filter_append, hall, List.length_append, List.length_take] at h
    omega

/-- Two weights keep their sums over the first `n` when at most `n` entries have any. -/
theorem take_sums_iff {u v : α → ℕ} {l : List α} (hl : l.Pairwise fun a b => u b + v b ≤ u a + v a) (n : ℕ) :
    ((l.take n).map u).sum = (l.map u).sum ∧ ((l.take n).map v).sum = (l.map v).sum ↔
      (l.filter fun x => u x + v x ≠ 0).length ≤ n := by
  have hsum : ∀ f : α → ℕ, (l.map f).sum = ((l.take n).map f).sum + ((l.drop n).map f).sum := by
    intro f
    rw [← List.sum_append, ← List.map_append, List.take_append_drop]
  have hzero : ∀ f : α → ℕ, ((l.take n).map f).sum = (l.map f).sum ↔ ∀ x ∈ l.drop n, f x = 0 := by
    intro f
    have hdrop : ((l.drop n).map f).sum = 0 ↔ ∀ x ∈ l.drop n, f x = 0 := by
      rw [List.sum_eq_zero_iff_forall_eq_nat]
      exact List.forall_mem_map
    have := hsum f
    rw [← hdrop]
    omega
  rw [hzero u, hzero v, ← drop_weightless_iff (w := fun x => u x + v x) hl n]
  constructor
  · rintro ⟨hu, hv⟩ x hx
    rw [hu x hx, hv x hx]
  · intro h
    exact ⟨fun x hx => by have := h x hx; omega, fun x hx => by have := h x hx; omega⟩

end Largest
