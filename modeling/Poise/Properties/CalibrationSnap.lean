import Poise.Foundation.Grid
import Poise.Control.Calibration

/-!
# Calibration snapping

The grid of an offset entity and the rung that a value snaps to. The two candidates of the
source are the rung under the clamped value and the next; every other rung in range is
further away, so the better of the two is the best of all. Rounding moves it by less than
half a step, and it snaps to itself again.
-/
namespace Poise

open Grid Rounding

variable {value step minValue maxValue : ℚ}

/-! ### The selection order -/

theorem SnapsBefore.abs_le {a b : ℚ} (first : SnapsBefore value a b) :
    |a - value| ≤ |b - value| := by
  rcases first with nearer | ⟨tie, -⟩
  · exact nearer.le
  · exact tie.le

theorem snapsBefore_or {a b : ℚ} (apart : a ≠ b) :
    SnapsBefore value a b ∨ SnapsBefore value b a := by
  rcases lt_trichotomy |a - value| |b - value| with less | tie | more
  · exact .inl (.inl less)
  · rcases lt_trichotomy |a| |b| with small | same | large
    · exact .inr (.inr ⟨tie.symm, .inl small⟩)
    · rcases lt_or_gt_of_ne apart with low | high
      · exact .inl (.inr ⟨tie, .inr ⟨same, low⟩⟩)
      · exact .inr (.inr ⟨tie.symm, .inr ⟨same.symm, high⟩⟩)
    · exact .inl (.inr ⟨tie, .inl large⟩)
  · exact .inr (.inl more)

/-! ### The rungs in range -/

/-- The rungs from the lower end to the upper one, which they may pass by the slack. -/
def InRange (step minValue maxValue : ℚ) (n : ℤ) : Prop :=
  0 ≤ n ∧ minValue + n * step ≤ maxValue + calibrationSlack * step

/-- The highest rung in range. -/
def topRung (step minValue maxValue : ℚ) : ℤ :=
  ⌊(maxValue - minValue) / step + calibrationSlack⌋

theorem inRange_iff (positive : 0 < step) {n : ℤ} :
    InRange step minValue maxValue n ↔ 0 ≤ n ∧ n ≤ topRung step minValue maxValue := by
  have slack : (maxValue + calibrationSlack * step - minValue) / step =
      (maxValue - minValue) / step + calibrationSlack := by
    field_simp
    ring
  rw [InRange, topRung, ← slack]
  exact and_congr_right fun _ => rung_le_iff positive

theorem topRung_nonneg (positive : 0 < step) (range : minValue ≤ maxValue) :
    0 ≤ topRung step minValue maxValue := by
  have width : 0 ≤ (maxValue - minValue) / step :=
    div_nonneg (sub_nonneg.mpr range) positive.le
  exact Int.floor_nonneg.mpr (add_nonneg width (by norm_num [calibrationSlack]))

/-- `n` precedes every other rung in range. -/
def Chosen (value step minValue maxValue : ℚ) (n : ℤ) : Prop :=
  InRange step minValue maxValue n ∧ ∀ m, InRange step minValue maxValue m → m ≠ n →
    SnapsBefore value (minValue + n * step) (minValue + m * step)

/-- The better of two candidates is chosen when the others are further away than one of them. -/
theorem chosen_of_better {n n' : ℤ} (inside : InRange step minValue maxValue n)
    (better : n' ≠ n → SnapsBefore value (minValue + n * step) (minValue + n' * step))
    (others : ∀ m, InRange step minValue maxValue m → m ≠ n → m ≠ n' →
      |minValue + n * step - value| < |minValue + m * step - value| ∨
        |minValue + n' * step - value| < |minValue + m * step - value|) :
    Chosen value step minValue maxValue n := by
  refine ⟨inside, fun m inside' other => ?_⟩
  by_cases next : m = n'
  · subst next
    exact better other
  rcases others m inside' other next with far | far
  · exact .inl far
  · by_cases same : n' = n
    · exact .inl (same ▸ far)
    · exact .inl ((better same).abs_le.trans_lt far)

theorem snapOffset_chosen (positive : 0 < step) (range : minValue ≤ maxValue) (value : ℚ) :
    ∃ n, Chosen value step minValue maxValue n ∧
      snapOffset value step minValue maxValue = roundTo (minValue + n * step) 6 := by
  have under := under_floor minValue positive (topRung_nonneg positive range) value
  set n := ⌊(min (max value minValue) (rung minValue step (topRung step minValue maxValue)) -
    minValue) / step⌋ with floor
  set n' := min (n + 1) (topRung step minValue maxValue) with next
  have inside : InRange step minValue maxValue n :=
    (inRange_iff positive).mpr ⟨under.nonneg, under.le_top⟩
  have inside' : InRange step minValue maxValue n' := by
    have := under.nonneg
    have := under.le_top
    exact (inRange_iff positive).mpr (by omega)
  have others (m : ℤ) (within : InRange step minValue maxValue m) (other : m ≠ n)
      (other' : m ≠ n') :
      |minValue + n * step - value| < |minValue + m * step - value| ∨
        |minValue + n' * step - value| < |minValue + m * step - value| := by
    obtain ⟨low, high⟩ := (inRange_iff positive).mp within
    exact under.closer positive low high other other'
  have result : snapOffset value step minValue maxValue =
      roundTo (if SnapsBefore value (minValue + n' * step) (minValue + n * step)
        then minValue + n' * step else minValue + n * step) 6 := rfl
  by_cases above : SnapsBefore value (minValue + n' * step) (minValue + n * step)
  · refine ⟨n', chosen_of_better inside' (fun _ => above) fun m within other other' => ?_, ?_⟩
    · exact (others m within other' other).symm
    · rw [result, if_pos above]
  · refine ⟨n, chosen_of_better inside (fun apart => ?_) others, ?_⟩
    · have distinct : minValue + n * step ≠ minValue + n' * step := fun same =>
        (positive.trans_le (step_le_abs_sub minValue positive apart)).ne' (by simp [rung, same])
      exact (snapsBefore_or distinct).resolve_right above
    · rw [result, if_neg above]

/-! ### Snapping again -/

/-- A value within half a step of a rung in range chooses that rung. -/
theorem Chosen.eq_of_near (positive : 0 < step) {n k : ℤ}
    (chosen : Chosen value step minValue maxValue n) (inside : InRange step minValue maxValue k)
    (near : |minValue + k * step - value| < step / 2) : n = k := by
  by_contra apart
  have closer := (chosen.2 k inside (Ne.symm apart)).abs_le
  have far := step_le_abs_sub minValue positive apart
  have triangle := abs_sub_le (rung minValue step n) value (rung minValue step k)
  rw [abs_sub_comm value] at triangle
  simp only [rung] at far triangle
  linarith

/-- Snapping returns the rung in range that is nearest to the value, of two the one with the
larger magnitude and then the smaller value; and its result snaps to itself. -/
theorem snap_offset_nearest (fine : 1 / 10 ^ 5 ≤ step) (range : minValue ≤ maxValue) (value : ℚ) :
    (∃ n, Chosen value step minValue maxValue n ∧
        snapOffset value step minValue maxValue = roundTo (minValue + n * step) 6) ∧
      snapOffset (snapOffset value step minValue maxValue) step minValue maxValue =
        snapOffset value step minValue maxValue := by
  have positive : 0 < step := lt_of_lt_of_le (by norm_num) fine
  obtain ⟨n, chosen, result⟩ := snapOffset_chosen positive range value
  refine ⟨⟨n, chosen, result⟩, ?_⟩
  obtain ⟨m, chosen', again⟩ :=
    snapOffset_chosen positive range (snapOffset value step minValue maxValue)
  have near : |minValue + n * step - snapOffset value step minValue maxValue| < step / 2 := by
    rw [result, abs_sub_comm]
    calc _ ≤ 1 / 2 / 10 ^ 6 := abs_roundTo_sub_le _ 6
      _ < 1 / 10 ^ 5 / 2 := by norm_num
      _ ≤ step / 2 := by linarith
  rw [again, result, chosen'.eq_of_near positive chosen.1 near]

/-- A tie on a half-degree grid goes away from zero, and stays there. -/
theorem snap_offset_nearest_tie :
    (∃ n : ℤ, Chosen (-1 / 4) (1 / 2) (-5) 5 n ∧
        snapOffset (-1 / 4) (1 / 2) (-5) 5 = roundTo (-5 + n * (1 / 2)) 6) ∧
      snapOffset (-1 / 4) (1 / 2) (-5) 5 = -1 / 2 ∧
      snapOffset (snapOffset (-1 / 4) (1 / 2) (-5) 5) (1 / 2) (-5) 5 = -1 / 2 := by
  have value : snapOffset (-1 / 4) (1 / 2) (-5) 5 = -1 / 2 := by decide +kernel
  obtain ⟨nearest, again⟩ := @snap_offset_nearest (1 / 2) (-5) 5 (by norm_num)
    (by norm_num) (-1 / 4)
  exact ⟨nearest, value, again.trans value⟩

end Poise
