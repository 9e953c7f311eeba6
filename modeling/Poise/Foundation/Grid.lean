import Mathlib.Algebra.Order.Floor.Ring
import Mathlib.Algebra.Order.Field.Basic
import Mathlib.Tactic.Linarith
import Mathlib.Tactic.Ring

/-!
# Arithmetic grids

The rungs `base + n * step` between index zero and a top index. Clamping a value to the ends and
taking the floor finds the rung under it, and every other rung but the next lies further away.
-/
namespace Grid

variable {K : Type*} [Field K] [LinearOrder K] [IsStrictOrderedRing K] {base step : K}

def rung (base step : K) (n : ℤ) : K := base + n * step

theorem rung_lt_rung (base : K) (positive : 0 < step) {m n : ℤ} :
    rung base step m < rung base step n ↔ m < n := by
  rw [rung, rung, add_lt_add_iff_left, mul_lt_mul_iff_left₀ positive, Int.cast_lt]

theorem rung_le_rung (base : K) (positive : 0 < step) {m n : ℤ} :
    rung base step m ≤ rung base step n ↔ m ≤ n := by
  rw [rung, rung, add_le_add_iff_left, mul_le_mul_iff_left₀ positive, Int.cast_le]

/-- Two rungs lie at least a step apart. -/
theorem step_le_abs_sub (base : K) (positive : 0 < step) {m n : ℤ} (apart : m ≠ n) :
    step ≤ |rung base step m - rung base step n| := by
  have distance : rung base step m - rung base step n = ((m - n : ℤ) : K) * step := by
    rw [rung, rung]
    push_cast
    ring
  rw [distance, abs_mul, abs_of_pos positive, ← Int.cast_abs]
  have one : 1 ≤ |m - n| := Int.one_le_abs (sub_ne_zero.mpr apart)
  exact le_mul_of_one_le_left positive.le (by exact_mod_cast one)

variable [FloorRing K]

/-- The rungs up to `hi` are those up to an index. -/
theorem rung_le_iff (positive : 0 < step) {n : ℤ} {hi : K} :
    rung base step n ≤ hi ↔ n ≤ ⌊(hi - base) / step⌋ := by
  rw [Int.le_floor, le_div_iff₀ positive, rung]
  constructor <;> intro le <;> linarith

/-- `n` is the rung under the value, or an end that the value lies beyond. -/
structure Under (base step : K) (top : ℤ) (value : K) (n : ℤ) : Prop where
  nonneg : 0 ≤ n
  le_top : n ≤ top
  below : n = 0 ∨ rung base step n ≤ value
  above : n = top ∨ value ≤ rung base step (n + 1)

theorem under_floor (base : K) (positive : 0 < step) {top : ℤ} (nonneg : 0 ≤ top) (value : K) :
    Under base step top value
      ⌊(min (max value base) (rung base step top) - base) / step⌋ := by
  have zero : rung base step 0 = base := by simp [rung]
  have base_le : base ≤ rung base step top :=
    zero.symm.trans_le ((rung_le_rung base positive).mpr nonneg)
  set v := min (max value base) (rung base step top) with clamped
  have low : base ≤ v := le_min (le_max_right _ _) base_le
  have reached : rung base step ⌊(v - base) / step⌋ ≤ v := (rung_le_iff positive).mpr le_rfl
  have next : v < rung base step (⌊(v - base) / step⌋ + 1) :=
    not_le.mp fun le => absurd ((rung_le_iff positive).mp le) (by omega)
  set n := ⌊(v - base) / step⌋
  refine ⟨?_, ?_, ?_, ?_⟩
  · exact Int.floor_nonneg.mpr (div_nonneg (sub_nonneg.mpr low) positive.le)
  · exact (rung_le_rung base positive).mp (reached.trans (min_le_right _ _))
  · rcases le_or_gt base value with inside | outside
    · exact .inr (reached.trans ((min_le_left _ _).trans_eq (max_eq_left inside)))
    · -- the value lies under the grid, so it is clamped to its first rung
      have first : v = base := by rw [clamped, max_eq_right outside.le, min_eq_left base_le]
      refine .inl ?_
      simp [n, first]
  · rcases le_or_gt value (rung base step top) with inside | outside
    · have here : value ≤ v := le_min (le_max_left _ _) inside
      exact .inr (here.trans next.le)
    · have last : v = rung base step top := min_eq_right (outside.le.trans (le_max_left _ _))
      have past : top < n + 1 := (rung_lt_rung base positive).mp (last ▸ next)
      have within : n ≤ top :=
        (rung_le_rung base positive).mp (reached.trans (min_le_right _ _))
      exact .inl (by omega)

omit [FloorRing K] in
/-- Every rung but the one under the value and the next lies further away than one of them. -/
theorem Under.closer (positive : 0 < step) {top n : ℤ} {value : K}
    (under : Under base step top value n) {m : ℤ} (low : 0 ≤ m) (high : m ≤ top) (other : m ≠ n)
    (other' : m ≠ min (n + 1) top) :
    |rung base step n - value| < |rung base step m - value| ∨
      |rung base step (min (n + 1) top) - value| < |rung base step m - value| := by
  rcases lt_or_gt_of_ne other with before | after
  · have here : rung base step n ≤ value := under.below.resolve_left (by omega)
    have less := (rung_lt_rung base positive).mpr before
    left
    rw [abs_of_nonpos (by linarith), abs_of_neg (by linarith)]
    linarith
  · have next : min (n + 1) top = n + 1 := min_eq_left (by omega)
    have there : value ≤ rung base step (n + 1) := under.above.resolve_left (by omega)
    rw [next] at other' ⊢
    have past : n + 1 < m := by omega
    have more := (rung_lt_rung base positive).mpr past
    right
    rw [abs_of_nonneg (by linarith), abs_of_pos (by linarith)]
    linarith

end Grid
