import Poise.Properties.EkfCovariance

/-!
# The influence of one reading

The outlier gate weighs an innovation against a spread that grows with its square, so no
reading moves a component by more than the gate's multiple of that component's deviation.
The physical clamp only shortens the move of a state within the bounds.
-/
namespace Poise

open Covariance

namespace ThermalEkf

variable {ekf : ThermalEkf ℝ}

theorem le_gateVar (tempVar innovation : ℝ) : tempVar ≤ gateVar tempVar innovation := by
  rw [gateVar]
  split
  next => exact le_max_of_le_left (by linarith)
  next => linarith

/-- Both branches of the outlier test leave the innovation within the gate. -/
theorem innovation_sq_le (tempVar innovation : ℝ) :
    innovation ^ 2 ≤ anomalySigma ^ 2 * gateVar tempVar innovation := by
  have sigma : (anomalySigma : ℝ) ^ 2 = 16.0 := by norm_num [anomalySigma]
  rw [sigma, gateVar]
  split
  next =>
    -- the inflated spread is at least the square itself over the gate
    have inflated := le_max_right (tempVar + 4.0) (innovation ^ 2 / 16.0)
    linarith
  next inside => exact not_lt.mp inside

theorem measured_sub (zTemp : ℝ) (i : StateIx) :
    ekf.measured zTemp i - ekf.x i =
      ekf.p i .t / ekf.weight zTemp * (zTemp - ekf.x .t) := by
  simp only [measured, effectiveVar_eq, add_sub_cancel_left]
  rfl

/-- One measurement, however wrong, moves no component by more than `anomalySigma` of its
deviations before the physical clamp. -/
theorem measured_move_le (pos : ∀ i, 0 < ekf.p i i)
    (corr : ∀ i j, ekf.p i j ^ 2 ≤ ekf.p i i * ekf.p j j) (zTemp : ℝ) (i : StateIx) :
    (ekf.correct zTemp).x = clamp (ekf.measured zTemp) ∧
      |ekf.measured zTemp i - ekf.x i| ≤ anomalySigma * √(ekf.p i i) := by
  refine ⟨correct_x_eq ekf zTemp, ?_⟩
  have sigma : (0 : ℝ) ≤ anomalySigma := by norm_num [anomalySigma]
  have moved : (ekf.measured zTemp i - ekf.x i) ^ 2 ≤ anomalySigma ^ 2 * ekf.p i i := by
    rw [measured_sub]
    exact gain_sq_le (gateVar_pos (pos .t) _) (pos i).le (corr i .t) (le_gateVar _ _)
      (innovation_sq_le _ _)
  have square : anomalySigma ^ 2 * ekf.p i i = (anomalySigma * √(ekf.p i i)) ^ 2 := by
    rw [mul_pow, Real.sq_sqrt (pos i).le]
  rw [square] at moved
  exact abs_le_of_sq_le_sq moved (mul_nonneg sigma (Real.sqrt_nonneg _))

/-- A fresh filter whose first reading is 1000 °C. -/
theorem fresh_move_le :
    ((fresh : ThermalEkf ℝ).correct 1000).x = clamp ((fresh : ThermalEkf ℝ).measured 1000) ∧
      |(fresh : ThermalEkf ℝ).measured 1000 .t - (fresh : ThermalEkf ℝ).x .t| ≤
        anomalySigma * √((fresh : ThermalEkf ℝ).p .t .t) := by
  have regular := fresh_sound.covariance
  exact measured_move_le (fun i => psdFloor_pos.trans_le (regular.diag i)) regular.corr 1000 .t

theorem clamp_of_inBounds {x : StateIx → ℝ} (inside : InBounds x) : clamp x = x := by
  funext i
  rw [clamp, max_eq_left (inside i).1, min_eq_left (inside i).2]

theorem abs_clamp_sub_le (v x : StateIx → ℝ) (i : StateIx) :
    |clamp v i - clamp x i| ≤ |v i - x i| := by
  simp only [clamp]
  calc _ ≤ max |max (v i) (lower i) - max (x i) (lower i)| |upper i - upper i| :=
        abs_min_sub_min_le_max _ _ _ _
    _ = |max (v i) (lower i) - max (x i) (lower i)| := by simp
    _ ≤ max |v i - x i| |lower i - lower i| := abs_max_sub_max_le_max _ _ _ _
    _ = |v i - x i| := by simp

/-- Within the physical bounds the clamp only shortens the move. -/
theorem correct_move_le (inside : InBounds ekf.x) (zTemp : ℝ) (i : StateIx) :
    |(ekf.correct zTemp).x i - ekf.x i| ≤ |ekf.measured zTemp i - ekf.x i| := by
  have shorter := abs_clamp_sub_le (ekf.measured zTemp) ekf.x i
  rwa [clamp_of_inBounds inside, ← correct_x_eq] at shorter

end ThermalEkf

end Poise
