import Mathlib.Data.Int.Log
import Mathlib.Data.Rat.Floor
import Mathlib.Tactic.Ring
import Mathlib.Tactic.FieldSimp
import Mathlib.Tactic.Positivity

/-!
# Double precision

The double next to a rational number, ties to even, and the quotient of two integers that Python's `/`
gives.  Integers up to `2 ^ 53` are doubles; odd ones above are not.
-/

namespace Binary64

/-- The nearest integer; the even one of two. -/
def roundEven (q : ℚ) : ℤ :=
  let low := ⌊q⌋
  if q - low < 1 / 2 then low
  else if 1 / 2 < q - low then low + 1
  else if low % 2 = 0 then low else low + 1

/-- The exponent of the distance between doubles at `q`. -/
def spacing (q : ℚ) : ℤ := max (Int.log 2 |q| - 52) (-1074)

/-- The double next to `q`, without the limit of the exponent. -/
def toDouble (q : ℚ) : ℚ := roundEven (q / 2 ^ spacing q) * 2 ^ spacing q

/-- `a / b` of integers; `none` where it raises `ZeroDivisionError` or `OverflowError`. -/
def trueDiv (a b : ℤ) : Option ℚ :=
  if b = 0 then none
  else if |toDouble (a / b)| < 2 ^ 1024 then some (toDouble (a / b)) else none

/-- `int(x)` -/
def truncate (q : ℚ) : ℤ := q.num.tdiv q.den

theorem roundEven_intCast (n : ℤ) : roundEven n = n := by
  unfold roundEven
  simp

/-- A multiple of the spacing is a double. -/
theorem toDouble_of_mul {q : ℚ} {m : ℤ} (h : q = m * 2 ^ spacing q) : toDouble q = q := by
  have hpos : (2 : ℚ) ^ spacing q ≠ 0 := zpow_ne_zero _ (by norm_num)
  have hdiv : q / 2 ^ spacing q = m := by
    rw [div_eq_iff hpos]
    exact h
  unfold toDouble
  rw [hdiv, roundEven_intCast]
  exact h.symm

theorem spacing_le_zero {n : ℤ} (h : |n| < 2 ^ 53) : spacing n ≤ 0 := by
  have hlog : Int.log 2 |(n : ℚ)| < 53 := by
    rcases eq_or_ne n 0 with rfl | hn
    · simp
    · have hpos : (0 : ℚ) < |(n : ℚ)| := abs_pos.mpr (Int.cast_ne_zero.mpr hn)
      rw [← Int.lt_zpow_iff_log_lt one_lt_two hpos, ← Int.cast_abs]
      exact_mod_cast h
  unfold spacing
  omega

/-- Integers up to `2 ^ 53` are doubles. -/
theorem toDouble_intCast {n : ℤ} (h : |n| ≤ 2 ^ 53) : toDouble n = n := by
  rcases h.lt_or_eq with hlt | heq
  · obtain ⟨k, hk⟩ := Int.eq_ofNat_of_zero_le (neg_nonneg.mpr (spacing_le_zero hlt))
    have hspacing : spacing n = -(k : ℤ) := by omega
    refine toDouble_of_mul (m := n * 2 ^ k) ?_
    have htwo : (2 : ℚ) ^ k ≠ 0 := pow_ne_zero k (by norm_num)
    rw [hspacing, zpow_neg, zpow_natCast]
    push_cast
    field_simp
  · have hlog : Int.log 2 |(n : ℚ)| = 53 := by
      have hpow : ((2 ^ 53 : ℤ) : ℚ) = ((2 : ℕ) : ℚ) ^ (53 : ℤ) := by norm_num
      rw [← Int.cast_abs, heq, hpow]
      exact Int.log_zpow one_lt_two 53
    have hspacing : spacing n = 1 := by
      unfold spacing
      rw [hlog]
      rfl
    rcases abs_choice n with habs | habs
    · refine toDouble_of_mul (m := 2 ^ 52) ?_
      rw [hspacing, show n = 2 ^ 53 by omega]
      norm_num
    · refine toDouble_of_mul (m := -2 ^ 52) ?_
      rw [hspacing, show n = -2 ^ 53 by omega]
      norm_num

/-- Doubles above `2 ^ 53` are even. -/
theorem toDouble_even {n : ℤ} (hn : 2 ^ 53 < n) : ∃ k : ℤ, toDouble n = ((2 * k : ℤ) : ℚ) := by
  have hcast : ((2 : ℕ) : ℚ) ^ (53 : ℤ) ≤ |(n : ℚ)| := by
    rw [← Int.cast_abs, abs_of_pos (by omega)]
    exact_mod_cast hn.le
  have hpos : (0 : ℚ) < |(n : ℚ)| := lt_of_lt_of_le (by norm_num) hcast
  have hlog : 53 ≤ Int.log 2 |(n : ℚ)| := (Int.zpow_le_iff_le_log one_lt_two hpos).mp hcast
  obtain ⟨k, hk⟩ := Int.eq_ofNat_of_zero_le (show 0 ≤ spacing n - 1 by unfold spacing; omega)
  have hspacing : spacing n = (k : ℤ) + 1 := by omega
  refine ⟨roundEven (n / 2 ^ spacing n) * 2 ^ k, ?_⟩
  unfold toDouble
  rw [hspacing, zpow_add_one₀ (by norm_num), zpow_natCast]
  push_cast
  ring

theorem truncate_intCast (n : ℤ) : truncate n = n := by
  unfold truncate
  rw [Rat.num_intCast, Rat.den_intCast]
  exact Int.tdiv_one n

/-- The quotient of a multiple of the divisor. -/
theorem trueDiv_mul (m : ℤ) {n : ℤ} (hn : n ≠ 0) :
    trueDiv (n * m) n = if |toDouble m| < 2 ^ 1024 then some (toDouble m) else none := by
  have hquot : (((n * m : ℤ) : ℚ) / (n : ℚ)) = (m : ℚ) := by
    rw [Int.cast_mul, mul_div_cancel_left₀]
    exact_mod_cast hn
  unfold trueDiv
  rw [if_neg hn, hquot]

/-- Truncation gives the exact quotient of odd numbers up to `2 ^ 53`, and of no others. -/
theorem truncate_trueDiv_iff {m n : ℤ} (hn : n ≠ 0) (hpos : 0 < m) (hodd : m % 2 = 1) :
    (trueDiv (n * m) n).map truncate = some m ↔ m ≤ 2 ^ 53 := by
  rw [trueDiv_mul m hn]
  constructor
  · intro h
    by_contra hlarge
    obtain ⟨k, hk⟩ := toDouble_even (not_le.mp hlarge)
    rw [hk] at h
    split at h
    · rw [Option.map_some, truncate_intCast, Option.some_inj] at h
      omega
    · cases h
  · intro h
    have habs : |m| ≤ 2 ^ 53 := by rwa [abs_of_pos hpos]
    have hsmall : |(m : ℚ)| < 2 ^ 1024 := by
      rw [← Int.cast_abs]
      calc ((|m| : ℤ) : ℚ) ≤ 2 ^ 53 := by exact_mod_cast habs
        _ < 2 ^ 1024 := pow_lt_pow_right₀ one_lt_two (by norm_num)
    rw [toDouble_intCast habs, if_pos hsmall, Option.map_some, truncate_intCast]

end Binary64
