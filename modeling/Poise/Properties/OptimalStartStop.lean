import Poise.Control.OptimalStart
import Poise.Foundation.Relaxation
import Poise.Properties.MouldLatch

/-!
# Optimal start and stop against the model

Both estimates are the crossing time of one relaxation, that of the forecast model itself.
A room that is already there needs no time, whatever its equilibrium.
-/
namespace Poise

open Relaxation

variable {model : ThermalModel ℝ} {room target tOut qSolar qOcc maxLeadH : ℝ}

/-! ### The two equilibria -/

noncomputable def heatEquilibrium (model : ThermalModel ℝ) (tOut qSolar qOcc : ℝ) : ℝ :=
  tOut + (model.betaH + model.betaS * qSolar + model.betaO * qOcc) / model.alpha

noncomputable def coastEquilibrium (model : ThermalModel ℝ) (tOut qSolar : ℝ) : ℝ :=
  tOut + model.betaS * qSolar / model.alpha

theorem predict_heating (model : ThermalModel ℝ) (room dtH tOut qSolar qOcc : ℝ) :
    model.predict room dtH tOut 1 0 qSolar qOcc =
      relax (heatEquilibrium model tOut qSolar qOcc) room model.alpha dtH := by
  simp only [ThermalModel.predict, mul_one, mul_zero, sub_zero]
  rfl

theorem predict_coasting (model : ThermalModel ℝ) (room dtH tOut qSolar : ℝ) :
    model.predict room dtH tOut 0 0 qSolar 0 =
      relax (coastEquilibrium model tOut qSolar) room model.alpha dtH := by
  simp only [ThermalModel.predict, mul_zero, sub_zero, zero_add, add_zero]
  rfl

theorem minAlpha_pos : (0 : ℝ) < minAlpha := by norm_num [minAlpha]

theorem tEqMargin_pos : (0 : ℝ) < tEqMargin := by norm_num [tEqMargin]

/-! ### The minutes -/

/-- The minutes to a value that the room passes on its way to the equilibrium `e`. -/
noncomputable def crossingMinutes (e room target alpha maxLeadH : ℝ) : Option ℝ :=
  if maxLeadH < crossing e room target alpha then none
  else some (crossing e room target alpha * 60.0)

theorem crossingMinutes_eq_none {e alpha : ℝ} :
    crossingMinutes e room target alpha maxLeadH = none ↔
      maxLeadH < crossing e room target alpha := by
  rw [crossingMinutes]
  split
  next late => simp [late]
  next early => simp [early]

/-- What a crossing tells: the room lands on the target, and within the horizon. -/
theorem crossingMinutes_lands {e alpha m : ℝ} (between : Between e room target)
    (rate : 0 < alpha) (crossed : crossingMinutes e room target alpha maxLeadH = some m) :
    relax e room alpha (m / 60) = target ∧ m ≤ 60 * maxLeadH := by
  have sixty : (60.0 : ℝ) = 60 := by norm_num
  rw [crossingMinutes, sixty] at crossed
  split at crossed
  next late => cases crossed
  next early =>
    obtain rfl := Option.some.inj crossed
    constructor
    · rw [mul_div_cancel_right₀ _ (by norm_num : (60 : ℝ) ≠ 0)]
      exact between.relax_crossing rate
    · linarith

/-- The two guards before a crossing: the room is there, or the equilibrium falls short. -/
def guarded (there short : Prop) [Decidable there] [Decidable short] (minutes : Option ℝ) :
    Option ℝ :=
  if there then some 0 else if short then none else minutes

section Guards

variable {there short : Prop} [Decidable there] [Decidable short] {minutes : Option ℝ}

theorem guarded_there (reached : there) : guarded there short minutes = some 0 := if_pos reached

theorem guarded_eq_none (away : ¬ there) :
    guarded there short minutes = none ↔ short ∨ minutes = none := by
  rw [guarded, if_neg away]
  split
  next lacking => simp [lacking]
  next clears => simp [clears]

/-- Positive minutes passed both guards. -/
theorem guarded_pos {m : ℝ} (estimate : guarded there short minutes = some m)
    (positive : 0 < m) : ¬ there ∧ ¬ short ∧ minutes = some m := by
  rw [guarded] at estimate
  split_ifs at estimate with reached lacking
  · exact absurd (Option.some.inj estimate) positive.ne
  · exact ⟨reached, lacking, estimate⟩

end Guards

/-- A trusted α is not raised by the guard. -/
theorem heatupMinutes_eq (trusted : minAlpha ≤ model.alpha) :
    heatupMinutes model room target tOut qSolar qOcc maxLeadH =
      guarded (target ≤ room) (heatEquilibrium model tOut qSolar qOcc ≤ target + tEqMargin)
        (crossingMinutes (heatEquilibrium model tOut qSolar qOcc) room target model.alpha
          maxLeadH) := by
  simp only [heatupMinutes, max_eq_left trusted]
  rfl

theorem coastdownMinutes_eq (trusted : minAlpha ≤ model.alpha) :
    coastdownMinutes model room target tOut qSolar maxLeadH =
      guarded (room ≤ target) (target - tEqMargin ≤ coastEquilibrium model tOut qSolar)
        (crossingMinutes (coastEquilibrium model tOut qSolar) room target model.alpha
          maxLeadH) := by
  simp only [coastdownMinutes, max_eq_left trusted]
  rfl

/-! ### On the way -/

theorem heatBetween {e : ℝ} (below : room < target) (clears : target + tEqMargin < e) :
    Between e room target :=
  Or.inl ⟨below, by linarith [tEqMargin_pos]⟩

theorem coastBetween {e : ℝ} (above : target < room) (clears : e < target - tEqMargin) :
    Between e room target :=
  Or.inr ⟨by linarith [tEqMargin_pos], above⟩

/-- Positive heat-up minutes come from a crossing; they land the room on its target. -/
theorem heatupMinutes_lands (trusted : minAlpha ≤ model.alpha) {m : ℝ}
    (heatup : heatupMinutes model room target tOut qSolar qOcc maxLeadH = some m)
    (positive : 0 < m) :
    model.predict room (m / 60) tOut 1 0 qSolar qOcc = target ∧ m ≤ 60 * maxLeadH := by
  rw [heatupMinutes_eq trusted] at heatup
  obtain ⟨away, clears, crossed⟩ := guarded_pos heatup positive
  rw [predict_heating]
  exact crossingMinutes_lands (heatBetween (not_le.mp away) (not_le.mp clears))
    (minAlpha_pos.trans_le trusted) crossed

theorem coastdownMinutes_lands (trusted : minAlpha ≤ model.alpha) {m : ℝ}
    (coastdown : coastdownMinutes model room target tOut qSolar maxLeadH = some m)
    (positive : 0 < m) :
    model.predict room (m / 60) tOut 0 0 qSolar 0 = target ∧ m ≤ 60 * maxLeadH := by
  rw [coastdownMinutes_eq trusted] at coastdown
  obtain ⟨away, clears, crossed⟩ := guarded_pos coastdown positive
  rw [predict_coasting]
  exact crossingMinutes_lands (coastBetween (not_le.mp away) (not_le.mp clears))
    (minAlpha_pos.trans_le trusted) crossed

/-- A house that full heating lifts by one degree. -/
def weakHeater : ThermalModel ℝ := ⟨1, 1, 0, 0, 0⟩

-- The room is above its target already, and the equilibrium is far below it.
theorem warmRoom_needs_nothing :
    minAlpha ≤ weakHeater.alpha ∧
      ¬(heatupMinutes weakHeater 22 21 0 0 0 4 = none ↔
        heatEquilibrium weakHeater 0 0 0 ≤ 21 + tEqMargin ∨
        4 < crossing (heatEquilibrium weakHeater 0 0 0) 22 21 weakHeater.alpha) := by
  have short : heatEquilibrium weakHeater 0 0 0 ≤ 21 + tEqMargin := by
    norm_num [heatEquilibrium, weakHeater, tEqMargin]
  have there : heatupMinutes weakHeater 22 21 0 0 0 4 = some 0 := by
    rw [heatupMinutes, if_pos (by norm_num)]
  refine ⟨by norm_num [weakHeater, minAlpha], fun claimed => ?_⟩
  rw [claimed.mpr (Or.inl short)] at there
  cases there

/-- Both estimates invert the model. For a room that has yet to reach its target they are
absent exactly when the equilibrium falls short or the crossing comes after the horizon. -/
theorem heatup_coastdown_invert (trusted : minAlpha ≤ model.alpha) :
    (∀ m, heatupMinutes model room target tOut qSolar qOcc maxLeadH = some m → 0 < m →
      model.predict room (m / 60) tOut 1 0 qSolar qOcc = target ∧ m ≤ 60 * maxLeadH) ∧
    (∀ m, coastdownMinutes model room target tOut qSolar maxLeadH = some m → 0 < m →
      model.predict room (m / 60) tOut 0 0 qSolar 0 = target ∧ m ≤ 60 * maxLeadH) ∧
    (target ≤ room → heatupMinutes model room target tOut qSolar qOcc maxLeadH = some 0) ∧
    (room < target →
      (heatupMinutes model room target tOut qSolar qOcc maxLeadH = none ↔
        heatEquilibrium model tOut qSolar qOcc ≤ target + tEqMargin ∨
        maxLeadH < crossing (heatEquilibrium model tOut qSolar qOcc) room target model.alpha)) ∧
    (room ≤ target → coastdownMinutes model room target tOut qSolar maxLeadH = some 0) ∧
    (target < room →
      (coastdownMinutes model room target tOut qSolar maxLeadH = none ↔
        target - tEqMargin ≤ coastEquilibrium model tOut qSolar ∨
        maxLeadH < crossing (coastEquilibrium model tOut qSolar) room target model.alpha)) ∧
    (room < target → target + tEqMargin < heatEquilibrium model tOut qSolar qOcc →
      remaining (heatEquilibrium model tOut qSolar qOcc) room target ∈ Set.Ioo 0 1) ∧
    (target < room → coastEquilibrium model tOut qSolar < target - tEqMargin →
      remaining (coastEquilibrium model tOut qSolar) room target ∈ Set.Ioo 0 1) := by
  refine ⟨fun m heatup positive => heatupMinutes_lands trusted heatup positive,
    fun m coastdown positive => coastdownMinutes_lands trusted coastdown positive, ?_⟩
  rw [heatupMinutes_eq trusted, coastdownMinutes_eq trusted]
  refine ⟨guarded_there, fun below => ?_, guarded_there, fun above => ?_,
    fun below clears => (heatBetween below clears).remaining_mem,
    fun above clears => (coastBetween above clears).remaining_mem⟩
  · rw [guarded_eq_none below.not_ge, crossingMinutes_eq_none]
  · rw [guarded_eq_none above.not_ge, crossingMinutes_eq_none]

/-- A house that full heating lifts by `gain` degrees. -/
def heatedHouse (gain : ℝ) : ThermalModel ℝ := ⟨1, gain, 0, 0, 0⟩

/-- Half the way to the equilibrium takes `log 2` hours. -/
theorem halfway_minutes {room target e : ℝ} (half : (target - e) / (room - e) = 1 / 2) :
    crossingMinutes e room target 1 4 = some (Real.log 2 * 60) := by
  have log_half : Real.log (1 / 2) = -Real.log 2 := by rw [one_div, Real.log_inv]
  have hours : crossing e room target 1 = Real.log 2 := by
    rw [crossing, remaining, half, log_half, neg_neg, div_one]
  have early : ¬ (4 : ℝ) < Real.log 2 := by
    have bound := Real.log_le_sub_one_of_pos (zero_lt_two' ℝ)
    linarith
  rw [crossingMinutes, hours, if_neg early]
  norm_num

/-- The weak heater never lifts a room to 21; a strong one takes it halfway up and leaves it to
fall halfway down. -/
theorem heaters_invert :
    heatupMinutes weakHeater 20 21 0 0 0 4 = none ∧
      coastdownMinutes weakHeater 20 21 0 0 4 = some 0 ∧
      (∃ m, 0 < m ∧ heatupMinutes (heatedHouse 40) 20 30 0 0 0 4 = some m ∧
        (heatedHouse 40).predict 20 (m / 60) 0 1 0 0 0 = 30) ∧
      ∃ m, 0 < m ∧ coastdownMinutes (heatedHouse 40) 30 15 0 0 4 = some m ∧
        (heatedHouse 40).predict 30 (m / 60) 0 0 0 0 0 = 15 := by
  have trusted : minAlpha ≤ weakHeater.alpha := by norm_num [weakHeater, minAlpha]
  have strong : minAlpha ≤ (heatedHouse 40).alpha := by norm_num [heatedHouse, minAlpha]
  obtain ⟨-, -, -, heatup, coastdown, -⟩ :=
    @heatup_coastdown_invert weakHeater 20 21 0 0 0 4 trusted
  obtain ⟨risen, -⟩ := @heatup_coastdown_invert (heatedHouse 40) 20 30 0 0 0 4 strong
  obtain ⟨-, fallen, -⟩ := @heatup_coastdown_invert (heatedHouse 40) 30 15 0 0 0 4 strong
  have minutes : 0 < Real.log 2 * 60 := mul_pos (Real.log_pos one_lt_two) (by norm_num)
  have level : heatEquilibrium (heatedHouse 40) 0 0 0 = 40 := by
    norm_num [heatEquilibrium, heatedHouse]
  have cold : coastEquilibrium (heatedHouse 40) 0 0 = 0 := by
    norm_num [coastEquilibrium, heatedHouse]
  have up : heatupMinutes (heatedHouse 40) 20 30 0 0 0 4 = some (Real.log 2 * 60) := by
    rw [heatupMinutes_eq strong, level, guarded, if_neg (by norm_num),
      if_neg (by norm_num [tEqMargin])]
    exact halfway_minutes (by norm_num)
  have down : coastdownMinutes (heatedHouse 40) 30 15 0 0 4 = some (Real.log 2 * 60) := by
    rw [coastdownMinutes_eq strong, cold, guarded, if_neg (by norm_num),
      if_neg (by norm_num [tEqMargin])]
    exact halfway_minutes (by norm_num)
  refine ⟨(heatup (by norm_num)).mpr (Or.inl ?_), coastdown (by norm_num),
    ⟨_, minutes, up, (risen _ up minutes).1⟩, _, minutes, down, (fallen _ down minutes).1⟩
  norm_num [heatEquilibrium, weakHeater, tEqMargin]

end Poise
