import Poise.Properties.OutcomeSessions
import Mathlib.Tactic.GCongr

/-!
# The order of scores

A session that is better in every respect is scored no less, and every score is a fraction. So are
the averages of every run.
-/
namespace Poise

open Rounding Trace

variable {cfg : ScoreConfig} {i j : ScoreInput}

/-- Weights, floors and factors as the scoring means them. -/
structure ScoreConfig.Sane (cfg : ScoreConfig) : Prop where
  weights : 0 ≤ cfg.wReached ∧ 0 ≤ cfg.wSpeed ∧ 0 ≤ cfg.wAccuracy
  scale : 0 < cfg.overshootScale
  solar : 0 ≤ cfg.solarFloor ∧ cfg.solarFloor ≤ 1 ∧ 0 < cfg.solarRange
  warm : 0 ≤ cfg.warmFloor ∧ cfg.warmFloor ≤ 1 ∧ 0 < cfg.warmRange
  factors : 1 ≤ cfg.coldFactor ∧ 1 ≤ cfg.windFactor ∧ 1 ≤ cfg.humidFactor ∧ 1 ≤ cfg.rainFactor
  neutral : 0 ≤ cfg.neutralSpeed
  expected : 0 ≤ cfg.minExpected

theorem default_sane : ({} : ScoreConfig).Sane := by
  constructor <;> norm_num

/-- In the same heat-up from the same expectation, `j` is no worse than `i` in any respect. -/
structure NoWorse (i j : ScoreInput) : Prop where
  start : j.startTemp = i.startTemp
  target : j.target = i.target
  expected : j.expectedMinutes = i.expectedMinutes
  reason : j.reason = i.reason ∨ j.reason = .reached
  endTemp : i.endTemp ≤ j.endTemp
  -- An interrupted session is measured at its peak.
  peak : i.reason = .interrupt → i.peakTemp ≤ j.peakTemp
  overshoot : max j.target j.peakTemp ≤ max i.target i.peakTemp
  minutes : j.minutesTaken ≤ i.minutesTaken
  qSolar : j.qSolar ≤ i.qSolar
  outdoor : j.weather.outdoor ≤ i.weather.outdoor
  wind : i.weather.wind ≤ j.weather.wind
  humidity : i.weather.humidity ≤ j.weather.humidity
  rain : i.weather.rain = true → j.weather.rain = true

/-! ### The parts -/

theorem scoreClamp01_mono {x y : ℚ} (le : x ≤ y) : scoreClamp01 x ≤ scoreClamp01 y :=
  min_le_min_left 1 (max_le_max_left 0 le)

theorem scoreClamp01_unit (x : ℚ) : 0 ≤ scoreClamp01 x ∧ scoreClamp01 x ≤ 1 :=
  ⟨le_min zero_le_one (le_max_left 0 x), min_le_left 1 _⟩

theorem reachedScore_unit (reason : EndReason) (startTemp endTemp peakTemp target : ℚ) :
    0 ≤ reachedScore reason startTemp endTemp peakTemp target ∧
      reachedScore reason startTemp endTemp peakTemp target ≤ 1 := by
  by_cases met : target - startTemp ≤ 0 ∨ reason = .reached
  · simp only [reachedScore, met, if_true]
    exact ⟨zero_le_one, le_refl 1⟩
  · simp only [reachedScore, met, if_false]
    exact scoreClamp01_unit _

theorem reachedScore_mono (better : NoWorse i j) :
    reachedScore i.reason i.startTemp i.endTemp i.peakTemp i.target ≤
      reachedScore j.reason j.startTemp j.endTemp j.peakTemp j.target := by
  rcases better.reason with same | reached
  · by_cases met : i.target - i.startTemp ≤ 0 ∨ i.reason = .reached
    · simp only [reachedScore, same, better.start, better.target, met, if_true]
      exact le_refl 1
    · have ref : (if i.reason = .interrupt then i.peakTemp else i.endTemp) ≤
          if i.reason = .interrupt then j.peakTemp else j.endTemp := by
        split_ifs with interrupt
        · exact better.peak interrupt
        · exact better.endTemp
      have gap : 0 ≤ i.target - i.startTemp := by
        rw [not_or, not_le] at met
        exact met.1.le
      simp only [reachedScore, same, better.start, better.target, met, if_false]
      exact scoreClamp01_mono (div_le_div_of_nonneg_right (sub_le_sub_right ref _) gap)
  · have full : reachedScore j.reason j.startTemp j.endTemp j.peakTemp j.target = 1 := by
      simp only [reachedScore, reached, or_true, if_true]
    rw [full]
    exact (reachedScore_unit _ _ _ _ _).2

theorem factor_mono {p q : Prop} [Decidable p] [Decidable q] {c : ℚ} (least : 1 ≤ c)
    (stronger : p → q) : (1 : ℚ) ≤ (if p then c else 1) ∧
      (if p then c else 1) ≤ if q then c else 1 := by
  split_ifs with hp hq
  · exact ⟨least, le_refl c⟩
  · exact absurd (stronger hp) hq
  · exact ⟨le_refl 1, least⟩
  · exact ⟨le_refl 1, le_refl 1⟩

theorem difficulty_mono (sane : cfg.Sane) (better : NoWorse i j) :
    0 < i.weather.difficulty cfg ∧ i.weather.difficulty cfg ≤ j.weather.difficulty cfg := by
  obtain ⟨cold, wind, humid, rain⟩ := sane.factors
  have coldly := factor_mono cold fun h : i.weather.outdoor < cfg.coldOutdoor =>
    better.outdoor.trans_lt h
  have windily := factor_mono wind fun h : cfg.windThr < i.weather.wind =>
    h.trans_le better.wind
  have humidly := factor_mono humid fun h : cfg.humidThr < i.weather.humidity =>
    h.trans_le better.humidity
  have rainily := factor_mono rain better.rain
  unfold ScoreWeather.difficulty
  constructor
  · have := coldly.1; have := windily.1; have := humidly.1; have := rainily.1
    positivity
  · gcongr <;> linarith [coldly.1, windily.1, humidly.1, rainily.1, coldly.2, windily.2,
      humidly.2, rainily.2]

/-- The speed score of a ratio of taken and expected minutes. -/
def speedOf (ratio : ℚ) : ℚ :=
  if ratio ≤ 1 then 1
  else if ratio ≤ 2 then 1 - (ratio - 1) * 0.7
  else max 0.05 (0.3 - (ratio - 2) * 0.1)

theorem speedOf_unit (ratio : ℚ) : 0 ≤ speedOf ratio ∧ speedOf ratio ≤ 1 := by
  unfold speedOf
  split_ifs with within twice
  · exact ⟨zero_le_one, le_refl 1⟩
  · constructor <;> linarith
  · refine ⟨le_max_of_le_left (by norm_num), max_le (by norm_num) ?_⟩
    linarith

theorem speedOf_antitone {fast slow : ℚ} (le : fast ≤ slow) : speedOf slow ≤ speedOf fast := by
  by_cases within : fast ≤ 1
  · rw [show speedOf fast = 1 from if_pos within]
    exact (speedOf_unit slow).2
  · have later : ¬ slow ≤ 1 := fun h => within (le.trans h)
    rw [speedOf, if_neg later, speedOf, if_neg within]
    split_ifs with slowly fastly fastly
    · linarith
    · exact absurd (le.trans slowly) fastly
    · refine max_le ?_ ?_ <;> linarith
    · exact max_le_max_left _ (by linarith)

theorem speedScore_eq (cfg : ScoreConfig) (minutesTaken expectedMinutes : ℚ) (w : ScoreWeather) :
    speedScore cfg minutesTaken expectedMinutes w =
      if expectedMinutes ≤ cfg.minExpected then cfg.neutralSpeed
      else speedOf (minutesTaken / (expectedMinutes * w.difficulty cfg)) := rfl

theorem speedScore_mono (sane : cfg.Sane) (better : NoWorse i j) :
    0 ≤ speedScore cfg i.minutesTaken i.expectedMinutes i.weather ∧
      speedScore cfg i.minutesTaken i.expectedMinutes i.weather ≤
        speedScore cfg j.minutesTaken j.expectedMinutes j.weather := by
  simp only [speedScore_eq, better.expected]
  split_ifs with unexpected
  · exact ⟨sane.neutral, le_refl _⟩
  · refine ⟨(speedOf_unit _).1, ?_⟩
    have expected : 0 < i.expectedMinutes := sane.expected.trans_lt (not_le.mp unexpected)
    obtain ⟨positive, harder⟩ := difficulty_mono sane better
    by_cases taken : 0 ≤ i.minutesTaken
    · apply speedOf_antitone
      gcongr
      exact better.minutes
    · -- a negative time is within every expectation
      have negative : j.minutesTaken / (i.expectedMinutes * j.weather.difficulty cfg) ≤ 1 := by
        have below : j.minutesTaken ≤ 0 := better.minutes.trans (not_le.mp taken).le
        have nonneg : 0 ≤ i.expectedMinutes * j.weather.difficulty cfg :=
          mul_nonneg expected.le (positive.trans_le harder).le
        exact (div_nonpos_of_nonpos_of_nonneg below nonneg).trans zero_le_one
      rw [show speedOf (j.minutesTaken / (i.expectedMinutes * j.weather.difficulty cfg)) = 1 from
        if_pos negative]
      exact (speedOf_unit _).2

theorem accuracyScore_mono (sane : cfg.Sane) (better : NoWorse i j) :
    0 ≤ accuracyScore cfg i.peakTemp i.target ∧
      accuracyScore cfg i.peakTemp i.target ≤ accuracyScore cfg j.peakTemp j.target := by
  have less : max 0 (j.peakTemp - j.target) ≤ max 0 (i.peakTemp - i.target) := by
    have overshoot := better.overshoot
    rw [better.target, max_le_iff] at overshoot
    rw [better.target]
    refine max_le (le_max_left _ _) ?_
    rcases le_max_iff.mp overshoot.2 with below | above
    · exact le_max_of_le_left (sub_nonpos.mpr below)
    · exact le_max_of_le_right (sub_le_sub_right above _)
  refine ⟨le_max_left _ _, ?_⟩
  simp only [accuracyScore]
  exact max_le_max_left 0 (sub_le_sub_left (div_le_div_of_nonneg_right less sane.scale.le) 1)

/-- A discount beyond a knee, down to a floor. -/
theorem knee_mono {floor knee range x y : ℚ} (nonneg : 0 ≤ floor) (le_one : floor ≤ 1)
    (positive : 0 < range) (le : y ≤ x) :
    0 ≤ (if knee < x then max floor (1 - (x - knee) / range) else 1) ∧
      (if knee < x then max floor (1 - (x - knee) / range) else 1) ≤
        if knee < y then max floor (1 - (y - knee) / range) else 1 := by
  have share : ∀ z, knee < z → 0 ≤ (z - knee) / range := fun z above =>
    div_nonneg (sub_nonneg.mpr above.le) positive.le
  split_ifs with far near near
  · refine ⟨le_max_of_le_left nonneg, max_le_max_left _ (sub_le_sub_left ?_ 1)⟩
    exact div_le_div_of_nonneg_right (sub_le_sub_right le _) positive.le
  · exact ⟨le_max_of_le_left nonneg, max_le le_one (by linarith [share x far])⟩
  · exact absurd (near.trans_le le) far
  · exact ⟨zero_le_one, le_refl 1⟩

theorem envDiscount_mono (sane : cfg.Sane) (better : NoWorse i j) :
    0 ≤ envDiscount cfg i.qSolar i.weather.outdoor ∧
      envDiscount cfg i.qSolar i.weather.outdoor ≤
        envDiscount cfg j.qSolar j.weather.outdoor := by
  obtain ⟨solarFloor, solarOne, solarRange⟩ := sane.solar
  obtain ⟨warmFloor, warmOne, warmRange⟩ := sane.warm
  obtain ⟨sunny, sunnier⟩ :=
    @knee_mono _ cfg.solarKnee _ _ _ solarFloor solarOne solarRange better.qSolar
  obtain ⟨mild, milder⟩ :=
    @knee_mono _ cfg.warmKnee _ _ _ warmFloor warmOne warmRange better.outdoor
  exact ⟨mul_nonneg sunny mild, mul_le_mul sunnier milder mild (sunny.trans sunnier)⟩

/-! ### The score -/

theorem raw_mono (sane : cfg.Sane) (better : NoWorse i j) :
    0 ≤ i.raw cfg ∧ i.raw cfg ≤ j.raw cfg := by
  obtain ⟨reached, speed, accuracy⟩ := sane.weights
  have fraction := (reachedScore_unit i.reason i.startTemp i.endTemp i.peakTemp i.target).1
  obtain ⟨fast, faster⟩ := speedScore_mono sane better
  obtain ⟨close, closer⟩ := accuracyScore_mono sane better
  constructor
  · unfold ScoreInput.raw
    positivity
  · unfold ScoreInput.raw
    gcongr
    exact reachedScore_mono better

theorem roundTo_unit {x : ℚ} (unit : 0 ≤ x ∧ x ≤ 1) : 0 ≤ roundTo x 3 ∧ roundTo x 3 ≤ 1 := by
  have zero : roundTo 0 3 = 0 := by simpa using roundTo_grid 0 3
  have one : roundTo 1 3 = 1 := by
    have grid := roundTo_grid 1000 3
    norm_num at grid
    exact grid
  exact ⟨zero ▸ roundTo_mono 3 unit.1, one ▸ roundTo_mono 3 unit.2⟩

/-- A score is a fraction. -/
theorem outcomeScore_unit (cfg : ScoreConfig) (i : ScoreInput) :
    0 ≤ outcomeScore cfg i ∧ outcomeScore cfg i ≤ 1 :=
  roundTo_unit (scoreClamp01_unit _)

/-- A session that is no worse in any respect is scored no less. -/
theorem better_session_scores_no_less (sane : cfg.Sane) (better : NoWorse i j) :
    0 ≤ outcomeScore cfg i ∧ outcomeScore cfg i ≤ outcomeScore cfg j ∧ outcomeScore cfg j ≤ 1 := by
  refine ⟨(outcomeScore_unit cfg i).1, ?_, (outcomeScore_unit cfg j).2⟩
  obtain ⟨nonneg, raw⟩ := raw_mono sane better
  obtain ⟨free, discount⟩ := envDiscount_mono sane better
  apply roundTo_mono
  apply scoreClamp01_mono
  exact mul_le_mul raw discount free (nonneg.trans raw)

def slowHeatUp : ScoreInput where
  reason := .timeout
  startTemp := 17
  endTemp := 20
  peakTemp := 20
  target := 21
  minutesTaken := 90
  expectedMinutes := 40

def quickHeatUp : ScoreInput :=
  { slowHeatUp with reason := .reached, endTemp := 20.6, peakTemp := 20.6, minutesTaken := 50 }

theorem quick_heat_up_scores_no_less :
    0 ≤ outcomeScore {} slowHeatUp ∧ outcomeScore {} slowHeatUp ≤ outcomeScore {} quickHeatUp ∧
      outcomeScore {} quickHeatUp ≤ 1 :=
  better_session_scores_no_less default_sane (by constructor <;> decide +kernel)

/-! ### The averages of a run -/

theorem mean_unit {scores : List ℚ} (nonempty : scores ≠ [])
    (fractions : ∀ score ∈ scores, 0 ≤ score ∧ score ≤ 1) :
    0 ≤ scores.sum / scores.length ∧ scores.sum / scores.length ≤ 1 := by
  have bounds : 0 ≤ scores.sum ∧ scores.sum ≤ scores.length := by
    clear nonempty
    induction scores with
    | nil => simp
    | cons score scores ih =>
      obtain ⟨low, high⟩ := fractions score (by simp)
      obtain ⟨lows, highs⟩ := ih fun other member => fractions other (by simp [member])
      rw [List.sum_cons, List.length_cons]
      push_cast
      constructor <;> linarith
  have positive : (0 : ℚ) < scores.length := by exact_mod_cast List.length_pos_iff.mpr nonempty
  exact ⟨div_nonneg bounds.1 positive.le, (div_le_one positive).mpr bounds.2⟩

/-- The averages of every run are fractions. -/
theorem averages_unit {hcfg : HdhConfig} {tickMin avg : ℚ} (ts : List OutcomeTick)
    (known : (final (OutcomeRuntime.fold hcfg tickMin) {} ts).outcomeStats.tsAvg = some avg ∨
      (final (OutcomeRuntime.fold hcfg tickMin) {} ts).outcomeStats.obsAvg = some avg) :
    0 ≤ avg ∧ avg ≤ 1 := by
  obtain ⟨stretches, tail, cut⟩ := exists_sessionCut {} (bookedTicks tickMin none ts)
  rw [fold_stats, cut.fold_reports] at known
  have fractions : ∀ finished ∈ stretches.filterMap (SessionStretch.report {}),
      0 ≤ finished.score ∧ finished.score ≤ 1 := by
    intro finished member
    obtain ⟨stretch, -, told⟩ := List.mem_filterMap.mp member
    cases stretch with
    | quiet t => exact absurd told nofun
    | session s =>
      obtain ⟨reason, -, scored⟩ := Option.bind_eq_some_iff.mp told
      by_cases brief : s.minutes < ({} : ScoreConfig).minSessionMin
      · rw [if_pos brief] at scored
        exact absurd scored nofun
      · rw [if_neg brief, Option.some.injEq] at scored
        rw [← scored]
        exact outcomeScore_unit {} _
  have tagged : ∀ tag : ScoreTag, ∀ score ∈
      ((stretches.filterMap (SessionStretch.report {})).filter (·.controller = tag)).map (·.score),
      0 ≤ score ∧ score ≤ 1 := by
    intro tag score member
    obtain ⟨finished, inside, rfl⟩ := List.mem_map.mp member
    exact fractions finished (List.mem_filter.mp inside).1
  have averaged : ∀ tag : ScoreTag, ∀ n : ℕ, ∀ sum : ℚ,
      n = ((stretches.filterMap (SessionStretch.report {})).filter (·.controller = tag)).length →
      sum = (((stretches.filterMap (SessionStretch.report {})).filter (·.controller = tag)).map
        (·.score)).sum →
      (if n = 0 then none else some (roundTo (sum / n) 3)) = some avg → 0 ≤ avg ∧ avg ≤ 1 := by
    rintro tag n sum rfl rfl mean
    split_ifs at mean with empty
    obtain rfl := Option.some.inj mean
    apply roundTo_unit
    have unit := mean_unit (by simpa using empty) (tagged tag)
    rwa [List.length_map] at unit
  rcases known with ts | obs
  · exact averaged .ts _ _ rfl rfl ts
  · exact averaged .obs _ _ rfl rfl obs

end Poise
