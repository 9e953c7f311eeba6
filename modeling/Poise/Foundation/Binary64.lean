import Poise.Foundation.Rounding
import Mathlib.Algebra.Order.Field.Power
import Mathlib.Data.Int.Log

/-!
# Binary floating point

The finite numbers of a 53-bit significand with gradual underflow, as the exact rationals they
denote. A sum or a quotient is the exact one, rounded to nearest with ties to even. There is no
largest exponent: what would overflow is not modelled.
-/

open Rounding

namespace Binary64

/-! ### The rounding -/

/-- The exponent of the last place of a number of this size. -/
def place (x : ℚ) : ℤ := max (Int.log 2 |x| - 52) (-1074)

/-- The nearest number, the one with an even significand at a midpoint. -/
def round (x : ℚ) : ℚ := roundHalfEven (x / 2 ^ place x) * 2 ^ place x

/-- A whole number of units of the place `k`. -/
def OnGrid (k : ℤ) (x : ℚ) : Prop := ∃ m : ℤ, x = m * 2 ^ k

theorem two_zpow_pos (k : ℤ) : (0 : ℚ) < 2 ^ k := zpow_pos two_pos k

@[simp] theorem place_neg (x : ℚ) : place (-x) = place x := by rw [place, place, abs_neg]

theorem abs_lt_place (x : ℚ) : |x| < 2 ^ (place x + 53) := by
  have size : |x| < ((2 : ℕ) : ℚ) ^ (Int.log 2 |x| + 1) := Int.lt_zpow_succ_log_self one_lt_two _
  have exponent : Int.log 2 |x| + 1 ≤ place x + 53 := by
    unfold place
    omega
  exact size.trans_le (zpow_le_zpow_right₀ one_le_two exponent)

theorem place_le {x : ℚ} {k : ℤ} (nonzero : x ≠ 0) (least : -1074 ≤ k)
    (small : |x| < 2 ^ (k + 53)) : place x ≤ k := by
  have log : Int.log 2 |x| < k + 53 :=
    (Int.lt_zpow_iff_log_lt one_lt_two (abs_pos.mpr nonzero)).mp (mod_cast small)
  unfold place
  omega

theorem OnGrid.finer {k k' : ℤ} {x : ℚ} (grid : OnGrid k x) (le : k' ≤ k) : OnGrid k' x := by
  obtain ⟨m, rfl⟩ := grid
  obtain ⟨n, rfl⟩ := Int.le.dest le
  refine ⟨m * 2 ^ n, ?_⟩
  rw [zpow_add₀ two_ne_zero, zpow_natCast]
  push_cast
  ring

theorem onGrid_two_zpow {k k' : ℤ} (le : k' ≤ k) : OnGrid k' (2 ^ k) :=
  OnGrid.finer ⟨1, by simp⟩ le

theorem round_onGrid (x : ℚ) : OnGrid (place x) (round x) := ⟨_, rfl⟩

theorem round_of_onGrid {x : ℚ} (grid : OnGrid (place x) x) : round x = x := by
  obtain ⟨m, value⟩ := grid
  have units : x / 2 ^ place x = m := by
    rw [div_eq_iff (two_zpow_pos _).ne']
    exact value
  rw [round, units, roundHalfEven_intCast, ← value]

@[simp] theorem round_zero : round 0 = 0 := round_of_onGrid ⟨0, by simp⟩

@[simp] theorem round_neg (x : ℚ) : round (-x) = -round x := by
  rw [round, round, place_neg, neg_div, roundHalfEven_neg]
  push_cast
  ring

/-- A number on the grid of the place of `x` bounds the rounding as it bounds `x`. -/
theorem round_le {x g : ℚ} (grid : OnGrid (place x) g) (le : x ≤ g) : round x ≤ g := by
  obtain ⟨m, rfl⟩ := grid
  have pos := two_zpow_pos (place x)
  have units : x / 2 ^ place x ≤ m := (div_le_iff₀ pos).mpr le
  have rounded := roundHalfEven_mono units
  rw [roundHalfEven_intCast] at rounded
  exact mul_le_mul_of_nonneg_right (mod_cast rounded) pos.le

theorem le_round {x g : ℚ} (grid : OnGrid (place x) g) (le : g ≤ x) : g ≤ round x := by
  obtain ⟨m, rfl⟩ := grid
  have pos := two_zpow_pos (place x)
  have units : (m : ℚ) ≤ x / 2 ^ place x := (le_div_iff₀ pos).mpr le
  have rounded := roundHalfEven_mono units
  rw [roundHalfEven_intCast] at rounded
  exact mul_le_mul_of_nonneg_right (mod_cast rounded) pos.le

theorem round_nonneg {x : ℚ} (nonneg : 0 ≤ x) : 0 ≤ round x := le_round ⟨0, by simp⟩ nonneg

theorem abs_round_sub_le (x : ℚ) : |round x - x| ≤ 2 ^ place x / 2 := by
  have pos := two_zpow_pos (place x)
  have units : round x - x =
      (roundHalfEven (x / 2 ^ place x) - x / 2 ^ place x) * 2 ^ place x := by
    rw [sub_mul, div_mul_cancel₀ _ pos.ne', round]
  rw [units, abs_mul, abs_of_pos pos]
  linarith [mul_le_mul_of_nonneg_right (abs_roundHalfEven_sub_le (x / 2 ^ place x)) pos.le]

theorem round_mono_of_nonneg {x y : ℚ} (nonneg : 0 ≤ x) (le : x ≤ y) : round x ≤ round y := by
  rcases nonneg.eq_or_lt with rfl | pos
  · rw [round_zero]
    exact round_nonneg le
  have larger : Int.log 2 |x| ≤ Int.log 2 |y| := by
    rw [abs_of_pos pos, abs_of_pos (pos.trans_le le)]
    exact Int.log_mono_right pos le
  rcases (show place x ≤ place y by unfold place; omega).eq_or_lt with same | apart
  · have scale := two_zpow_pos (place y)
    have units : x / 2 ^ place y ≤ y / 2 ^ place y := div_le_div_of_nonneg_right le scale.le
    rw [round, round, same]
    exact mul_le_mul_of_nonneg_right (mod_cast roundHalfEven_mono units) scale.le
  · -- a power of two lies between them, and no rounding crosses it
    have between : (2 : ℚ) ^ Int.log 2 |y| ≤ y := by
      have size := Int.zpow_log_le_self one_lt_two (abs_pos.mpr (pos.trans_le le).ne')
      exact (mod_cast size : (2 : ℚ) ^ Int.log 2 |y| ≤ |y|).trans_eq (abs_of_pos (pos.trans_le le))
    have below : x < 2 ^ Int.log 2 |y| := by
      have apart : Int.log 2 |x| < Int.log 2 |y| := by
        unfold place at apart
        omega
      have small := (Int.lt_zpow_iff_log_lt one_lt_two (abs_pos.mpr pos.ne')).mpr apart
      exact (le_abs_self x).trans_lt (mod_cast small)
    have grid : place y ≤ Int.log 2 |y| := by
      unfold place at apart ⊢
      omega
    exact (round_le (onGrid_two_zpow (apart.le.trans grid)) below.le).trans
      (le_round (onGrid_two_zpow grid) between)

theorem round_mono {x y : ℚ} (le : x ≤ y) : round x ≤ round y := by
  rcases le_total 0 x with nonneg | nonpos
  · exact round_mono_of_nonneg nonneg le
  rcases le_total 0 y with nonneg | nonpos'
  · have flipped := round_nonneg (neg_nonneg.mpr nonpos)
    rw [round_neg] at flipped
    exact (neg_nonneg.mp flipped).trans (round_nonneg nonneg)
  · have flipped := round_mono_of_nonneg (neg_nonneg.mpr nonpos') (neg_le_neg le)
    rw [round_neg, round_neg] at flipped
    exact neg_le_neg_iff.mp flipped

/-- A number of at most 53 significant bits is its own rounding. -/
theorem round_eq_self {x : ℚ} {k : ℤ} (least : -1074 ≤ k) (grid : OnGrid k x)
    (size : |x| ≤ 2 ^ (k + 53)) : round x = x := by
  rcases eq_or_ne x 0 with rfl | nonzero
  · exact round_zero
  rcases size.eq_or_lt with top | small
  · -- a power of two, or its opposite, fits the next place too
    have place : place x ≤ k + 1 := by
      refine place_le nonzero (by omega) (top.trans_lt ?_)
      exact zpow_lt_zpow_right₀ one_lt_two (by omega)
    have power : OnGrid (k + 1) |x| := top ▸ onGrid_two_zpow (by omega)
    refine round_of_onGrid (OnGrid.finer ?_ place)
    obtain ⟨m, units⟩ := power
    rcases abs_choice x with same | opposite
    · exact ⟨m, same ▸ units⟩
    · exact ⟨-m, by rw [← neg_eq_iff_eq_neg.mpr opposite, units]; push_cast; ring⟩
  · exact round_of_onGrid (grid.finer (place_le nonzero least small))

theorem round_round (x : ℚ) : round (round x) = round x := by
  have least : -1074 ≤ place x := le_max_right _ _
  have size := abs_le.mp (abs_lt_place x).le
  have top : OnGrid (place x) (2 ^ (place x + 53)) := onGrid_two_zpow (by omega)
  have bottom : OnGrid (place x) (-2 ^ (place x + 53)) := by
    obtain ⟨m, units⟩ := top
    exact ⟨-m, by rw [units]; push_cast; ring⟩
  exact round_eq_self least (round_onGrid x)
    (abs_le.mpr ⟨le_round bottom size.1, round_le top size.2⟩)

end Binary64

/-! ### The numbers -/

/-- A finite number, by its value. -/
@[ext] structure Binary64 where
  value : ℚ
  exact : Binary64.round value = value
  deriving DecidableEq

namespace Binary64

/-- The number nearest to a rational. -/
def nearest (x : ℚ) : Binary64 := ⟨round x, round_round x⟩

instance : LinearOrder Binary64 :=
  LinearOrder.lift' Binary64.value fun _ _ => Binary64.ext

instance : Zero Binary64 := ⟨nearest 0⟩

instance : One Binary64 := ⟨nearest 1⟩

instance : NatCast Binary64 := ⟨fun n => nearest n⟩

instance : Add Binary64 := ⟨fun a b => nearest (a.value + b.value)⟩

instance : Div Binary64 := ⟨fun a b => nearest (a.value / b.value)⟩

theorem le_def {a b : Binary64} : a ≤ b ↔ a.value ≤ b.value := Iff.rfl

theorem lt_def {a b : Binary64} : a < b ↔ a.value < b.value := Iff.rfl

theorem add_value (a b : Binary64) : (a + b).value = round (a.value + b.value) := rfl

@[simp] theorem zero_value : (0 : Binary64).value = 0 := round_zero

theorem natCast_value {n : ℕ} (small : n ≤ 2 ^ 53) : (n : Binary64).value = n := by
  refine round_eq_self (k := 0) (by omega) ⟨n, by simp⟩ ?_
  rw [Nat.abs_cast, zero_add]
  exact_mod_cast small

@[simp] theorem one_value : (1 : Binary64).value = 1 :=
  round_eq_self (k := 0) (by omega) ⟨1, by simp⟩ (by norm_num)

@[simp] theorem plus_zero (a : Binary64) : a + 0 = a := by
  refine Binary64.ext ?_
  rw [add_value, zero_value, add_zero, a.exact]

theorem plus_mono {a b : Binary64} (le : a ≤ b) (c : Binary64) : a + c ≤ b + c :=
  round_mono (add_le_add_left (le_def.mp le) c.value)

theorem le_plus {c : Binary64} (nonneg : 0 ≤ c) (a : Binary64) : a ≤ a + c := by
  have nonneg : 0 ≤ c.value := zero_value ▸ le_def.mp nonneg
  rw [le_def, add_value]
  exact a.exact.symm.trans_le (round_mono (le_add_of_nonneg_right nonneg))

theorem div_mono {a b c d : Binary64} (le : a ≤ b) (nonneg : 0 ≤ b) (pos : 0 < d) (le' : d ≤ c) :
    a / c ≤ b / d := by
  have nonneg : 0 ≤ b.value := zero_value ▸ le_def.mp nonneg
  have pos : 0 < d.value := zero_value ▸ lt_def.mp pos
  exact round_mono (div_le_div₀ nonneg (le_def.mp le) pos (le_def.mp le'))

/-- A quotient beyond two by more than half a unit rounds to more than two. -/
theorem two_lt_round {x : ℚ} (beyond : 2 + 2 ^ (-52 : ℤ) < x) : 2 < round x := by
  have half := two_zpow_pos (-52)
  rcases lt_or_ge x 4 with small | large
  · have nonneg : 0 ≤ x := by linarith
    have place : place x ≤ -51 := by
      refine place_le (by linarith) (by omega) ?_
      rw [abs_of_nonneg nonneg]
      exact small.trans_eq (by norm_num)
    have unit : (2 : ℚ) ^ Binary64.place x ≤ 2 ^ (-52 : ℤ) * 2 := by
      calc (2 : ℚ) ^ Binary64.place x ≤ 2 ^ (-51 : ℤ) := zpow_le_zpow_right₀ one_le_two place
        _ = 2 ^ (-52 : ℤ) * 2 := by norm_num
    linarith [(abs_le.mp (abs_round_sub_le x)).1]
  · have four : round 4 = 4 := round_eq_self (k := 0) (by omega) ⟨4, by simp⟩ (by norm_num)
    linarith [round_mono large]

theorem value_onGrid (a : Binary64) : OnGrid (place a.value) a.value := by
  have grid := round_onGrid a.value
  rwa [a.exact] at grid

/-- The number after the double of a normal number. -/
theorem double_add_le {a b : Binary64} (normal : 1 ≤ b.value) (above : 2 * b.value < a.value) :
    2 * b.value + 2 ^ (place b.value + 1) ≤ a.value := by
  have pos : 0 < b.value := zero_lt_one.trans_le normal
  have log : place b.value = Int.log 2 |b.value| - 52 := by
    have size : 0 ≤ Int.log 2 |b.value| := by
      refine (Int.zpow_le_iff_le_log one_lt_two (abs_pos.mpr pos.ne')).mp ?_
      rw [zpow_zero, abs_of_pos pos]
      exact normal
    unfold place
    omega
  have least : (2 : ℚ) ^ (place b.value + 53) ≤ 2 * b.value := by
    have size := Int.zpow_log_le_self one_lt_two (abs_pos.mpr pos.ne')
    have exponent : place b.value + 53 = Int.log 2 |b.value| + 1 := by omega
    rw [exponent, zpow_add_one₀ two_ne_zero]
    rw [abs_of_pos pos] at size ⊢
    linarith [(mod_cast size : (2 : ℚ) ^ Int.log 2 b.value ≤ b.value)]
  have coarser : place b.value + 1 ≤ place a.value := by
    have size : place b.value + 53 ≤ Int.log 2 |a.value| := by
      refine (Int.zpow_le_iff_le_log one_lt_two (abs_pos.mpr (by linarith))).mp ?_
      exact_mod_cast least.trans (above.le.trans (le_abs_self _))
    unfold place at size ⊢
    omega
  -- both lie on the grid of the double
  obtain ⟨n, units⟩ := a.value_onGrid.finer coarser
  obtain ⟨m, units'⟩ := b.value_onGrid
  have scale := two_zpow_pos (place b.value + 1)
  have double : 2 * b.value = m * 2 ^ (place b.value + 1) := by
    conv_lhs => rw [units']
    rw [zpow_add_one₀ two_ne_zero]
    ring
  have next : m + 1 ≤ n := by
    rw [units, double] at above
    exact_mod_cast lt_of_mul_lt_mul_right above scale.le
  rw [units, double, ← add_one_mul]
  exact mul_le_mul_of_nonneg_right (mod_cast next) scale.le

theorem le_two_mul_of_div_le {a b : Binary64} (normal : 1 ≤ b.value)
    (quotient : (a / b).value ≤ 2) : a.value ≤ 2 * b.value := by
  by_contra above
  have far := double_add_le normal (not_le.mp above)
  have unit : b.value * 2 ^ (-52 : ℤ) < 2 ^ (place b.value + 1) := by
    have size : b.value < 2 ^ (place b.value + 53) :=
      (le_abs_self _).trans_lt (abs_lt_place b.value)
    calc b.value * 2 ^ (-52 : ℤ) < 2 ^ (place b.value + 53) * 2 ^ (-52 : ℤ) :=
          mul_lt_mul_of_pos_right size (two_zpow_pos _)
      _ = 2 ^ (place b.value + 1) := by
          rw [← zpow_add₀ two_ne_zero]
          congr 1
          ring
  have beyond : 2 + 2 ^ (-52 : ℤ) < a.value / b.value := by
    rw [lt_div_iff₀ (zero_lt_one.trans_le normal)]
    linarith
  exact (two_lt_round beyond).not_ge quotient

end Binary64
