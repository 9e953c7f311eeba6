import Mathlib.Data.Rat.Floor
import Mathlib.Tactic.Linarith
import Mathlib.Tactic.Ring
import Mathlib.Tactic.FieldSimp

/-!
# Decimal rounding of exact rationals

Round half to even on an integer and on a decimal grid. This is the rounding a
language runtime documents for `round(x, n)`: the correctly rounded decimal,
ties to the even last digit. Values are exact rationals, so the laws below hold
without a representation error.
-/
namespace Rounding

/-- Nearest integer, the even one at a midpoint. -/
def roundHalfEven (x : ℚ) : ℤ :=
  if x - ⌊x⌋ < 1 / 2 then ⌊x⌋
  else if 1 / 2 < x - ⌊x⌋ then ⌊x⌋ + 1
  else ⌊x⌋ + ⌊x⌋ % 2

theorem floor_le_roundHalfEven (x : ℚ) : ⌊x⌋ ≤ roundHalfEven x := by
  have parity := Int.emod_nonneg ⌊x⌋ (by norm_num : (2 : ℤ) ≠ 0)
  unfold roundHalfEven
  split_ifs <;> omega

theorem roundHalfEven_le_floor_add_one (x : ℚ) : roundHalfEven x ≤ ⌊x⌋ + 1 := by
  have parity := Int.emod_lt_of_pos ⌊x⌋ (by norm_num : (0 : ℤ) < 2)
  unfold roundHalfEven
  split_ifs <;> omega

theorem abs_roundHalfEven_sub_le (x : ℚ) : |(roundHalfEven x : ℚ) - x| ≤ 1 / 2 := by
  have low := Int.floor_le x
  have high := Int.lt_floor_add_one x
  have even : (0 : ℚ) ≤ (⌊x⌋ % 2 : ℤ) := by
    exact_mod_cast Int.emod_nonneg ⌊x⌋ (by norm_num : (2 : ℤ) ≠ 0)
  have odd : ((⌊x⌋ % 2 : ℤ) : ℚ) ≤ 1 := by
    exact_mod_cast Int.lt_add_one_iff.mp (Int.emod_lt_of_pos ⌊x⌋ (by norm_num))
  unfold roundHalfEven
  rw [abs_le]
  split_ifs <;> push_cast <;> constructor <;> linarith

@[simp] theorem roundHalfEven_intCast (k : ℤ) : roundHalfEven (k : ℚ) = k := by
  simp [roundHalfEven]

theorem roundHalfEven_mono {x y : ℚ} (le : x ≤ y) : roundHalfEven x ≤ roundHalfEven y := by
  rcases lt_or_eq_of_le (Int.floor_le_floor le) with apart | same
  · -- different integer cells: the two roundings meet at most at the border
    have left := roundHalfEven_le_floor_add_one x
    have right := floor_le_roundHalfEven y
    omega
  · have parity := Int.emod_nonneg ⌊y⌋ (by norm_num : (2 : ℤ) ≠ 0)
    have bound := Int.emod_lt_of_pos ⌊y⌋ (by norm_num : (0 : ℤ) < 2)
    unfold roundHalfEven
    rw [same]
    split_ifs <;> first | omega | (exfalso; linarith)

theorem roundHalfEven_neg (x : ℚ) : roundHalfEven (-x) = -roundHalfEven x := by
  rcases (Int.floor_le x).eq_or_lt with whole | inside
  · rw [← whole, ← Int.cast_neg, roundHalfEven_intCast, roundHalfEven_intCast]
  · -- the mirrored cell, with the fractional part counted from its other end
    have cell : ⌊-x⌋ = -⌊x⌋ - 1 := by
      rw [Int.floor_eq_iff]
      push_cast
      constructor <;> linarith [Int.lt_floor_add_one x]
    unfold roundHalfEven
    rw [cell]
    push_cast
    split_ifs <;> first | omega | (exfalso; linarith)

/-- `round(x, n)`: the nearest multiple of `10⁻ⁿ`. -/
def roundTo (x : ℚ) (n : ℕ) : ℚ := roundHalfEven (x * 10 ^ n) / 10 ^ n

theorem abs_roundTo_sub_le (x : ℚ) (n : ℕ) : |roundTo x n - x| ≤ 1 / 2 / 10 ^ n := by
  have scale : (0 : ℚ) < 10 ^ n := by positivity
  have shifted : roundTo x n - x = (roundHalfEven (x * 10 ^ n) - x * 10 ^ n) / 10 ^ n := by
    unfold roundTo
    field_simp
  rw [shifted, abs_div, abs_of_pos scale]
  exact div_le_div_of_nonneg_right (abs_roundHalfEven_sub_le _) scale.le

theorem roundTo_mono {x y : ℚ} (n : ℕ) (le : x ≤ y) : roundTo x n ≤ roundTo y n := by
  have scale : (0 : ℚ) < 10 ^ n := by positivity
  have scaled : x * 10 ^ n ≤ y * 10 ^ n := mul_le_mul_of_nonneg_right le scale.le
  exact div_le_div_of_nonneg_right (by exact_mod_cast roundHalfEven_mono scaled) scale.le

theorem roundTo_grid (k : ℤ) (n : ℕ) : roundTo (k / 10 ^ n) n = k / 10 ^ n := by
  have scale : (10 ^ n : ℚ) ≠ 0 := by positivity
  rw [roundTo, div_mul_cancel₀ _ scale, roundHalfEven_intCast]

@[simp] theorem roundTo_roundTo (x : ℚ) (n : ℕ) : roundTo (roundTo x n) n = roundTo x n :=
  roundTo_grid _ n

theorem le_roundTo {g x : ℚ} {n : ℕ} (grid : roundTo g n = g) (le : g ≤ x) : g ≤ roundTo x n := by
  -- a grid value is its own rounding
  calc g = roundTo g n := grid.symm
    _ ≤ roundTo x n := roundTo_mono n le

end Rounding
