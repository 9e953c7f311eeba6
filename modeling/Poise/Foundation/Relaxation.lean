import Mathlib.Analysis.SpecialFunctions.Log.Basic
import Mathlib.Tactic.FieldSimp
import Mathlib.Tactic.Linarith

/-!
# First-order relaxation

A value that relaxes exponentially to an equilibrium passes every value strictly on the way,
at the time that the logarithm of the remaining gap tells. Where a run stands is compared by what
it would reach at the end of its time: its start, its level and its time each move that by no more
than they differ.
-/
namespace Relaxation

/-- The value at time `t`, from `x0` at rate `a` towards `e`. -/
noncomputable def relax (e x0 a t : ℝ) : ℝ := e + (x0 - e) * Real.exp (-a * t)

/-- The share of the gap that is left at the value `y`. -/
noncomputable def remaining (e x0 y : ℝ) : ℝ := (y - e) / (x0 - e)

noncomputable def crossing (e x0 y a : ℝ) : ℝ := -Real.log (remaining e x0 y) / a

/-- Strictly on the way from `x0` to `e`. -/
def Between (e x0 y : ℝ) : Prop := (x0 < y ∧ y < e) ∨ (e < y ∧ y < x0)

variable {e x0 y a : ℝ}

theorem Between.start_ne (between : Between e x0 y) : x0 - e ≠ 0 := by
  rcases between with ⟨left, right⟩ | ⟨left, right⟩
  · exact (sub_neg_of_lt (left.trans right)).ne
  · exact (sub_pos_of_lt (left.trans right)).ne'

theorem Between.remaining_mem (between : Between e x0 y) :
    0 < remaining e x0 y ∧ remaining e x0 y < 1 := by
  rw [remaining]
  rcases between with ⟨left, right⟩ | ⟨left, right⟩
  · have gap : x0 - e < 0 := sub_neg_of_lt (left.trans right)
    refine ⟨div_pos_of_neg_of_neg (sub_neg_of_lt right) gap, ?_⟩
    rw [div_lt_one_of_neg gap]
    linarith
  · have gap : 0 < x0 - e := sub_pos_of_lt (left.trans right)
    refine ⟨div_pos (sub_pos_of_lt left) gap, ?_⟩
    rw [div_lt_one gap]
    linarith

/-- At its crossing time the value is reached exactly. -/
theorem Between.relax_crossing (between : Between e x0 y) (rate : 0 < a) :
    relax e x0 a (crossing e x0 y a) = y := by
  have exponent : -a * crossing e x0 y a = Real.log (remaining e x0 y) := by
    rw [crossing]
    field_simp
  have gap := between.start_ne
  rw [relax, exponent, Real.exp_log between.remaining_mem.1, remaining]
  field_simp
  ring

/-! ### Along the way -/

section Order

variable {x x' e' s t d : ℝ}

theorem relax_add (e x a s t : ℝ) : relax e (relax e x a s) a t = relax e x a (s + t) := by
  have split : Real.exp (-a * (s + t)) = Real.exp (-a * s) * Real.exp (-a * t) := by
    rw [← Real.exp_add]
    ring_nf
  rw [relax, relax, relax, split]
  ring

theorem relax_zero (e x a : ℝ) : relax e x a 0 = x := by
  rw [relax, mul_zero, Real.exp_zero]
  ring

theorem exp_decay_le_one (rate : 0 ≤ a) (later : 0 ≤ t) : Real.exp (-a * t) ≤ 1 := by
  apply Real.exp_le_one_iff.mpr
  have product := mul_nonneg rate later
  linarith

theorem relax_mono (e a t : ℝ) (le : x ≤ x') : relax e x a t ≤ relax e x' a t := by
  have scaled := mul_le_mul_of_nonneg_right (sub_le_sub_right le e) (Real.exp_pos (-a * t)).le
  rw [relax, relax]
  linarith

/-- A level that is at most `d` lower costs at most `d`. -/
theorem relax_level (rate : 0 ≤ a) (later : 0 ≤ t) (bound : 0 ≤ d) (level : e' - d ≤ e) (x : ℝ) :
    relax e' x a t - d ≤ relax e x a t := by
  have share := exp_decay_le_one rate later
  have positive := Real.exp_pos (-a * t)
  have gap : (e' - e) * (1 - Real.exp (-a * t)) ≤ d * (1 - Real.exp (-a * t)) :=
    mul_le_mul_of_nonneg_right (by linarith) (by linarith)
  have most : d * (1 - Real.exp (-a * t)) ≤ d * 1 :=
    mul_le_mul_of_nonneg_left (by linarith) bound
  rw [relax, relax]
  linarith

/-- The value stays between its start and its level. -/
theorem min_le_relax (rate : 0 ≤ a) (later : 0 ≤ t) : min x e ≤ relax e x a t := by
  have share := exp_decay_le_one rate later
  have positive := Real.exp_pos (-a * t)
  have fromStart : min x e * Real.exp (-a * t) ≤ x * Real.exp (-a * t) :=
    mul_le_mul_of_nonneg_right (min_le_left x e) positive.le
  have fromLevel : min x e * (1 - Real.exp (-a * t)) ≤ e * (1 - Real.exp (-a * t)) :=
    mul_le_mul_of_nonneg_right (min_le_right x e) (by linarith)
  rw [relax]
  linarith

theorem relax_le_level (below : x ≤ e) (a t : ℝ) : relax e x a t ≤ e := by
  have positive := Real.exp_pos (-a * t)
  have gap := mul_nonpos_of_nonpos_of_nonneg (sub_nonpos.mpr below) positive.le
  rw [relax]
  linarith

theorem relax_rises (rate : 0 ≤ a) (below : x ≤ e) (sooner : s ≤ t) :
    relax e x a s ≤ relax e x a t := by
  have share : Real.exp (-a * t) ≤ Real.exp (-a * s) := by
    apply Real.exp_le_exp.mpr
    have product := mul_le_mul_of_nonneg_left sooner rate
    linarith
  have scaled := mul_le_mul_of_nonpos_left share (sub_nonpos.mpr below)
  rw [relax, relax]
  linarith

theorem relax_falls (rate : 0 ≤ a) (above : e ≤ x) (sooner : s ≤ t) :
    relax e x a t ≤ relax e x a s := by
  have share : Real.exp (-a * t) ≤ Real.exp (-a * s) := by
    apply Real.exp_le_exp.mpr
    have product := mul_le_mul_of_nonneg_left sooner rate
    linarith
  have scaled := mul_le_mul_of_nonneg_left share (sub_nonneg.mpr above)
  rw [relax, relax]
  linarith

/-- Read earlier than planned: what is missing to the level grows by the time that is left. -/
theorem relax_early (rate : 0 ≤ a) {goal : ℝ} (goalBelow : goal ≤ e)
    (within : t ≤ s + d) (planned : goal ≤ relax e x a t) :
    goal - (e - goal) * (Real.exp (a * d) - 1) ≤ relax e x a s := by
  have split : Real.exp (-a * s) = Real.exp (-a * t) * Real.exp (a * (t - s)) := by
    rw [← Real.exp_add]
    ring_nf
  have stretch : Real.exp (a * (t - s)) ≤ Real.exp (a * d) := by
    apply Real.exp_le_exp.mpr
    exact mul_le_mul_of_nonneg_left (by linarith) rate
  rw [relax] at planned
  have scaled := mul_le_mul_of_nonneg_right
    (show goal - e ≤ (x - e) * Real.exp (-a * t) by linarith) (Real.exp_pos (a * (t - s))).le
  have most := mul_le_mul_of_nonpos_left stretch (sub_nonpos.mpr goalBelow)
  rw [relax, split, ← mul_assoc]
  linarith

/-- What a stretch towards a lower level costs, once the higher one is back. -/
theorem relax_lag (e e' x a s t : ℝ) :
    relax e (relax e' x a s) a t =
      relax e x a (s + t) - (1 - Real.exp (-a * s)) * (e - e') * Real.exp (-a * t) := by
  rw [← relax_add, relax, relax, relax, relax]
  ring

end Order

end Relaxation
