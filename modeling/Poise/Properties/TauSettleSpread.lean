import Poise.Estimation.TauSettle
import Poise.Foundation.ExponentialMean
import Poise.Properties.EkfCovariance

/-!
# What a settled time constant promises

The estimate keeps three numbers. They are the mean, the variance and the length of the whole
learn-active history, every sample weighing what the later intervals left of it; the gate is a
bound on the relative spread of that history, and the confidence agrees with the gate.
-/
namespace Poise

open ExponentialMean

/-! ### The learn-active history -/

/-- The interval and the α a tick adds, if it adds any. -/
noncomputable def learnSample (tickMin : ℝ) (last : Option ℝ) (t : SettleTick ℝ) :
    List (ℝ × ℝ) :=
  match t.alpha with
  | none => []
  | some alpha =>
    if t.conditioning = false ∨ alpha ≤ 0 then []
    else [(max 0 (cappedElapsedMin last t.now tickMin), alpha)]

/-- The samples of a run in their order. -/
noncomputable def learnSamples (tickMin : ℝ) : Option ℝ → List (SettleTick ℝ) → List (ℝ × ℝ)
  | _, [] => []
  | last, t :: later => learnSample tickMin last t ++ learnSamples tickMin (some t.now) later

/-- What is left of the past after an interval, and the new sample. -/
noncomputable def settleFold (sample : ℝ × ℝ) : ℝ × ℝ := (Real.exp (-sample.1 / 90), sample.2)

def learnMinutes : List (ℝ × ℝ) → ℝ
  | [] => 0
  | sample :: rest => sample.1 + learnMinutes rest

/-- The estimate of a history: its first sample, and the later ones with the newest first. -/
structure SettlesTo (first : ℝ × ℝ) (later : List (ℝ × ℝ)) (s : TauSettle ℝ) : Prop where
  mean : s.mean = mean first.2 (later.map settleFold)
  var : s.var = variance s.mean (shares first.2 (later.map settleFold))
  minutes : s.minutes = learnMinutes later + first.1
  positive : 0 < s.mean
  settled : s.settled = true ↔
    later ≠ [] ∧ 60 ≤ s.minutes ∧ s.var ≤ (0.04 * s.mean) ^ 2
  agrees : s.settled = true ↔ later ≠ [] ∧ 1 / 2 ≤ settleConfidence (some s)

/-- The estimate of any history. -/
def SettleSpec : List (ℝ × ℝ) → Option (TauSettle ℝ) → Prop
  | [], est => est = none
  | first :: later, est => ∃ s, est = some s ∧ SettlesTo first later.reverse s

/-! ### The gate -/

theorem sqrt_div_le_iff {var mean gate : ℝ} (nonneg : 0 ≤ var) (positive : 0 < mean)
    (bound : 0 ≤ gate) : Real.sqrt (max 0 var) / mean ≤ gate ↔ var ≤ (gate * mean) ^ 2 := by
  rw [div_le_iff₀ positive, max_eq_right nonneg, Real.sqrt_le_left (mul_nonneg bound positive.le)]

/-- Half the confidence is the gate. -/
theorem half_le_confidence_iff {s : TauSettle ℝ} (nonneg : 0 ≤ s.var) (positive : 0 < s.mean) :
    1 / 2 ≤ settleConfidence (some s) ↔ 60 ≤ s.minutes ∧ s.var ≤ (0.04 * s.mean) ^ 2 := by
  have gate := sqrt_div_le_iff nonneg positive (by norm_num : (0 : ℝ) ≤ 0.04)
  rw [← gate]
  simp only [settleConfidence, settleWarmupMin, TauSettle.relSpread, not_le.mpr positive, or_false,
    if_false, settleRelGate, ExpSqrt.sqrt]
  by_cases young : s.minutes < 60.0
  · rw [if_pos young]
    norm_num at young ⊢
    intro warm
    linarith
  · rw [if_neg young, le_max_iff, le_min_iff]
    norm_num at young ⊢
    constructor
    · intro half
      exact ⟨young, by linarith⟩
    · rintro ⟨-, spread⟩
      linarith

theorem learnSample_range (tickMin : ℝ) (last : Option ℝ) (t : SettleTick ℝ) :
    ∀ sample ∈ learnSample tickMin last t, 0 ≤ sample.1 ∧ 0 < sample.2 := by
  unfold learnSample
  split
  · simp
  · split_ifs with skipped
    · simp
    · simp only [List.mem_singleton, forall_eq]
      exact ⟨le_max_left _ _, not_le.mp (not_or.mp skipped).2⟩

/-! ### One sample -/

theorem settleFold_weight {sample : ℝ × ℝ} (interval : 0 ≤ sample.1) :
    0 ≤ (settleFold sample).1 ∧ (settleFold sample).1 ≤ 1 := by
  refine ⟨(Real.exp_pos _).le, Real.exp_le_one_iff.mpr ?_⟩
  exact div_nonpos_of_nonpos_of_nonneg (neg_nonpos.mpr interval) (by norm_num)

theorem settleGain_eq (dt alpha : ℝ) : 1 - settleGain dt = (settleFold (dt, alpha)).1 := by
  simp only [settleGain, settleFold, ExpSqrt.exp, settleHorizonMin]
  norm_num

/-- The estimate after one more sample. -/
noncomputable def settleNext (s : TauSettle ℝ) (dt alpha : ℝ) : TauSettle ℝ :=
  let mean := s.mean + settleGain dt * (alpha - s.mean)
  let var := (1 - settleGain dt) * (s.var + (alpha - s.mean) * (settleGain dt * (alpha - s.mean)))
  let minutes := s.minutes + dt
  { mean, var, minutes
    settled := decide (settleWarmupMin ≤ minutes) &&
      (if 0 < mean then decide (ExpSqrt.sqrt (max 0 var) / mean ≤ settleRelGate) else false) }

theorem settlesTo_next {first : ℝ × ℝ} {later : List (ℝ × ℝ)} {s : TauSettle ℝ} {dt alpha : ℝ}
    (range : ∀ sample ∈ later, 0 ≤ sample.1) (interval : 0 ≤ dt) (positive : 0 < alpha)
    (settles : SettlesTo first later s) :
    SettlesTo first ((dt, alpha) :: later) (settleNext s dt alpha) := by
  have weight := settleGain_eq dt alpha
  have gain : settleGain dt = 1 - (settleFold (dt, alpha)).1 := by linarith
  have mean : (settleNext s dt alpha).mean =
      ExponentialMean.mean first.2 (((dt, alpha) :: later).map settleFold) := by
    show s.mean + settleGain dt * (alpha - s.mean) = _
    rw [List.map_cons, gain, settles.mean]
    show _ = blend (settleFold (dt, alpha)).1 _ alpha
    unfold blend
    ring
  have var : (settleNext s dt alpha).var = variance (settleNext s dt alpha).mean
      (shares first.2 (((dt, alpha) :: later).map settleFold)) := by
    rw [mean, List.map_cons]
    show (1 - settleGain dt) * (s.var + (alpha - s.mean) * (settleGain dt * (alpha - s.mean))) = _
    rw [show settleFold (dt, alpha) = ((settleFold (dt, alpha)).1, alpha) from rfl, variance_fold,
      ← settles.mean, ← settles.var, weight, gain]
  have above : 0 < (settleNext s dt alpha).mean := by
    have kept : 0 < (settleFold (dt, alpha)).1 * s.mean :=
      mul_pos (Real.exp_pos _) settles.positive
    have added : 0 ≤ (1 - (settleFold (dt, alpha)).1) * alpha :=
      mul_nonneg (sub_nonneg.mpr (settleFold_weight interval).2) positive.le
    show 0 < s.mean + settleGain dt * (alpha - s.mean)
    rw [gain]
    linarith
  have nonneg : 0 ≤ (settleNext s dt alpha).var := by
    rw [var]
    refine variance_nonneg ?_ _
    intro fold member
    obtain ⟨sample, within, rfl⟩ := List.mem_map.mp member
    rcases List.mem_cons.mp within with rfl | old
    · exact settleFold_weight interval
    · exact settleFold_weight (range sample old)
  have gate : (settleNext s dt alpha).settled = true ↔
      60 ≤ (settleNext s dt alpha).minutes ∧
        (settleNext s dt alpha).var ≤ (0.04 * (settleNext s dt alpha).mean) ^ 2 := by
    rw [← sqrt_div_le_iff nonneg above (by norm_num : (0 : ℝ) ≤ 0.04)]
    have read : (settleNext s dt alpha).settled =
        (decide (settleWarmupMin ≤ (settleNext s dt alpha).minutes) &&
          (if 0 < (settleNext s dt alpha).mean then
            decide (ExpSqrt.sqrt (max 0 (settleNext s dt alpha).var) / (settleNext s dt alpha).mean
              ≤ settleRelGate) else false)) := rfl
    rw [read, if_pos above, Bool.and_eq_true, decide_eq_true_iff, decide_eq_true_iff]
    norm_num [settleWarmupMin, settleRelGate, ExpSqrt.sqrt]
  refine ⟨mean, var, ?_, above, ?_, ?_⟩
  · show s.minutes + dt = _
    rw [settles.minutes, learnMinutes]
    ring
  · rw [gate]
    simp
  · rw [gate, half_le_confidence_iff nonneg above]
    simp

/-! ### Every run -/

theorem settleSpec_step {history : List (ℝ × ℝ)} {rt : SettleRuntime ℝ} {tickMin : ℝ}
    (t : SettleTick ℝ) (range : ∀ sample ∈ history, 0 ≤ sample.1)
    (spec : SettleSpec history rt.tauSettle) :
    SettleSpec (history ++ learnSample tickMin rt.tauLastMono t) (rt.fold tickMin t).tauSettle := by
  simp only [SettleRuntime.fold, updateSettle, learnSample]
  cases t.alpha with
  | none => simpa using spec
  | some alpha =>
    by_cases skipped : t.conditioning = false ∨ alpha ≤ 0
    · simpa [skipped] using spec
    · simp only [skipped, if_false]
      have positive := not_le.mp (not_or.mp skipped).2
      have interval : 0 ≤ max 0 (cappedElapsedMin rt.tauLastMono t.now tickMin) := le_max_left _ _
      cases history with
      | nil =>
        -- the first sample seeds the estimate
        rw [spec]
        refine ⟨_, rfl, rfl, ?_, ?_, positive, ?_, ?_⟩
        · simp [shares, variance, expect]
        · simp [learnMinutes]
        · simp
        · simp
      | cons first later =>
        obtain ⟨s, known, settles⟩ := spec
        rw [known]
        refine ⟨settleNext s _ alpha, rfl, ?_⟩
        show SettlesTo first (later ++ [_]).reverse _
        rw [List.reverse_append]
        exact settlesTo_next (fun sample member => range sample (by simp_all)) interval positive
          settles

theorem settleSpec_run {history : List (ℝ × ℝ)} {rt : SettleRuntime ℝ} {tickMin : ℝ}
    (ticks : List (SettleTick ℝ)) (range : ∀ sample ∈ history, 0 ≤ sample.1)
    (spec : SettleSpec history rt.tauSettle) :
    SettleSpec (history ++ learnSamples tickMin rt.tauLastMono ticks)
      (ticks.foldl (SettleRuntime.fold tickMin) rt).tauSettle := by
  induction ticks generalizing history rt with
  | nil => simpa [learnSamples] using spec
  | cons t ticks ih =>
    rw [learnSamples, ← List.append_assoc, List.foldl_cons]
    have next : SettleSpec (history ++ learnSample tickMin rt.tauLastMono t)
        (rt.fold tickMin t).tauSettle := settleSpec_step t range spec
    refine ih ?_ next
    intro sample member
    rcases List.mem_append.mp member with old | new
    · exact range sample old
    · exact (learnSample_range _ _ _ sample new).1

/-- After every run the estimate is the weighted mean, variance and length of its learn-active
history, and it is settled exactly when an hour of it spreads by at most the gate. -/
theorem tau_settle_is_weighted_spread (tickMin : ℝ) (ticks : List (SettleTick ℝ)) :
    SettleSpec (learnSamples tickMin none ticks)
      (ticks.foldl (SettleRuntime.fold tickMin) {}).tauSettle := by
  have start : SettleSpec [] ({} : SettleRuntime ℝ).tauSettle := rfl
  exact settleSpec_run ticks (by simp) start

end Poise
