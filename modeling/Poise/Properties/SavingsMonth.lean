import Poise.Properties.SessionMinutes

/-!
# The month of the savings estimate

The estimate keeps three numbers. After any run they are the minutes, and the saved share of them,
of the ticks since the calendar month last changed.
-/
namespace Poise

open Rounding Trace

variable {hcfg : HdhConfig} {tickMin : ℚ}

/-! ### The ticks of the month -/

def creditedMin (tickMin : ℚ) (g : OutcomeMoment) : ℚ := (creditedTick tickMin g).dtMin

/-- The minutes with a heating gradient. -/
def gradientMinutes (tickMin : ℚ) (steps : List OutcomeMoment) : ℚ :=
  (steps.map fun g =>
    if g.input.outdoor < g.input.comfortBase then creditedMin tickMin g else 0).sum

/-- The saved share of the minutes. -/
def savedMinutes (cfg : HdhConfig) (tickMin : ℚ) (steps : List OutcomeMoment) : ℚ :=
  (steps.map fun g => savedFractionTick cfg g.input.comfortBase g.input.heatSp g.input.outdoor
    (creditedMin tickMin g)).sum

/-- `since` are the last ticks of the run, back to the last change of the month. -/
structure MonthSince (month : ℕ) (run since : List OutcomeMoment) : Prop where
  nonempty : since ≠ []
  last : ∃ before, run = before ++ since ∧
    ∀ g, before.getLast? = some g → g.input.month ≠ month
  within : ∀ g ∈ since, g.input.month = month

/-- The estimate of the ticks of one month. -/
structure EstimateOf (cfg : HdhConfig) (tickMin : ℚ) (since : List OutcomeMoment)
    (s : HdhSavings) : Prop where
  eligible : s.eligibleMin = gradientMinutes tickMin since
  saved : s.savedMin = savedMinutes cfg tickMin since

theorem gradientMinutes_snoc (since : List OutcomeMoment) (e : OutcomeMoment) :
    gradientMinutes tickMin (since ++ [e]) = gradientMinutes tickMin since +
      if e.input.outdoor < e.input.comfortBase then creditedMin tickMin e else 0 := by
  simp [gradientMinutes]

theorem savedMinutes_snoc (since : List OutcomeMoment) (e : OutcomeMoment) :
    savedMinutes hcfg tickMin (since ++ [e]) = savedMinutes hcfg tickMin since +
      savedFractionTick hcfg e.input.comfortBase e.input.heatSp e.input.outdoor
        (creditedMin tickMin e) := by
  simp [savedMinutes]

/-! ### One tick -/

/-- What a tick makes of an estimate of its own month. -/
theorem estimate_step {rt : OutcomeRuntime} {since : List OutcomeMoment} (t : OutcomeTick)
    (estimate : EstimateOf hcfg tickMin since (rt.hdh.base t.month)) :
    EstimateOf hcfg tickMin (since ++ [Step.of (OutcomeRuntime.fold hcfg tickMin) rt t])
      (rt.fold hcfg tickMin t).1.hdh := by
  set e := Step.of (OutcomeRuntime.fold hcfg tickMin) rt t with here
  have post : (rt.fold hcfg tickMin t).1.hdh = rt.hdh.observe hcfg t.comfortBase t.heatSp
      t.outdoor (creditedMin tickMin e) t.month := rfl
  have input : e.input = t := rfl
  obtain ⟨eligible, saved⟩ := estimate
  rw [post]
  unfold HdhSavings.observe
  split_ifs with cold
  · have flat : ¬ t.outdoor < t.comfortBase := not_lt.mpr cold
    constructor
    · rw [gradientMinutes_snoc, input, if_neg flat, add_zero]
      exact eligible
    · rw [savedMinutes_snoc, input, savedFractionTick, if_pos cold, add_zero]
      exact saved
  · constructor
    · rw [gradientMinutes_snoc, input, if_pos (not_le.mp cold), ← eligible]
    · rw [savedMinutes_snoc, input, ← saved]

theorem month_step (t : OutcomeTick) (rt : OutcomeRuntime) :
    (rt.fold hcfg tickMin t).1.hdh.month = some t.month := by
  simp only [OutcomeRuntime.fold, HdhSavings.observe]
  split_ifs <;> rfl

/-! ### The run -/

/-- What the estimate knows after a run. -/
def KnowsMonth (cfg : HdhConfig) (tickMin : ℚ) (run : List OutcomeMoment)
    (rt : OutcomeRuntime) : Prop :=
  (run = [] ∧ rt.hdh = {}) ∨ ∃ month since, rt.hdh.month = some month ∧
    MonthSince month run since ∧ EstimateOf cfg tickMin since rt.hdh

theorem knowsMonth_step {past : List OutcomeMoment} {rt : OutcomeRuntime} (t : OutcomeTick)
    (knows : KnowsMonth hcfg tickMin past rt) :
    ∃ since, MonthSince t.month (past ++ [Step.of (OutcomeRuntime.fold hcfg tickMin) rt t]) since ∧
      EstimateOf hcfg tickMin since (rt.fold hcfg tickMin t).1.hdh := by
  have fresh : EstimateOf hcfg tickMin [] ({ month := some t.month } : HdhSavings) :=
    ⟨rfl, rfl⟩
  rcases knows with ⟨rfl, start⟩ | ⟨month, since, known, ⟨nonempty, ⟨before, rfl, breaks⟩, within⟩,
    estimate⟩
  · refine ⟨_, ⟨by simp, ⟨[], rfl, by simp⟩, by simp⟩, @estimate_step hcfg tickMin rt [] t ?_⟩
    rw [start]
    exact ⟨rfl, rfl⟩
  · by_cases same : month = t.month
    · subst same
      refine ⟨_, ⟨by simp, ⟨before, List.append_assoc _ _ _, breaks⟩, ?_⟩,
        @estimate_step hcfg tickMin rt since t ?_⟩
      · intro g member
        rcases List.mem_append.mp member with old | new
        · exact within g old
        · rw [List.mem_singleton.mp new, Step.of_input]
      · rw [HdhSavings.base, if_pos (.inr known)]
        exact estimate
    · refine ⟨_, ⟨by simp, ⟨before ++ since, rfl, ?_⟩, by simp⟩,
        @estimate_step hcfg tickMin rt [] t ?_⟩
      · -- the tick before is the last one of the other month
        intro g last
        rw [List.getLast?_append_of_ne_nil _ nonempty] at last
        rw [within g (List.mem_of_getLast? last)]
        exact same
      · rw [HdhSavings.base, if_neg (by simp [known, same])]
        exact fresh

theorem knowsMonth_run (ts : List OutcomeTick) :
    KnowsMonth hcfg tickMin (trace (OutcomeRuntime.fold hcfg tickMin) {} ts)
      (final (OutcomeRuntime.fold hcfg tickMin) {} ts) := by
  induction ts using List.reverseRecOn with
  | nil => exact .inl ⟨rfl, rfl⟩
  | append_singleton ts t ih =>
    obtain ⟨since, recent, estimate⟩ := knowsMonth_step t ih
    rw [trace_append, final_append]
    exact .inr ⟨t.month, since, month_step t _, recent, estimate⟩

/-! ### The report -/

theorem savedMinutes_nonneg (tick : 0 ≤ tickMin) (steps : List OutcomeMoment) :
    0 ≤ savedMinutes hcfg tickMin steps := by
  apply List.sum_nonneg
  intro part member
  obtain ⟨g, -, rfl⟩ := List.mem_map.mp member
  unfold savedFractionTick
  split_ifs with cold
  · exact le_refl 0
  · have gradient : 0 < g.input.comfortBase - g.input.outdoor := sub_pos.mpr (not_le.mp cold)
    have base : 0 ≤ max hcfg.baseFloor (g.input.comfortBase - g.input.outdoor) :=
      gradient.le.trans (le_max_right _ _)
    exact mul_nonneg (div_nonneg (le_max_left _ _) base) (credited_nonneg tick g)

theorem report_pct_bounds {s : HdhSavings} (saved : 0 ≤ s.savedMin) :
    0 ≤ (s.report hcfg).pct ∧ (s.report hcfg).pct ≤ 100 := by
  unfold HdhSavings.report
  split_ifs with nothing
  · simp
  · rw [not_or, not_le] at nothing
    have low : 0 ≤ min (s.savedMin / s.eligibleMin) 1 :=
      le_min (div_nonneg saved nothing.1.le) zero_le_one
    have high : min (s.savedMin / s.eligibleMin) 1 ≤ 1 := min_le_right _ _
    have zero : roundTo 0 1 = 0 := by simpa using roundTo_grid 0 1
    have hundred : roundTo 100 1 = 100 := by
      have grid := roundTo_grid 1000 1
      norm_num at grid
      exact grid
    have above : roundTo 0 1 ≤ roundTo (min (s.savedMin / s.eligibleMin) 1 * 100) 1 :=
      roundTo_mono 1 (by linarith)
    have below : roundTo (min (s.savedMin / s.eligibleMin) 1 * 100) 1 ≤ roundTo 100 1 :=
      roundTo_mono 1 (by linarith)
    rw [zero] at above
    rw [hundred] at below
    exact ⟨above, below⟩

/-- After any run the estimate is that of the ticks since the month last changed, and the share it
reports is one. -/
theorem savings_are_this_months (tick : 0 ≤ tickMin) (ts : List OutcomeTick) (t : OutcomeTick) :
    ∃ since, MonthSince t.month (trace (OutcomeRuntime.fold hcfg tickMin) {} (ts ++ [t])) since ∧
      EstimateOf hcfg tickMin since (final (OutcomeRuntime.fold hcfg tickMin) {} (ts ++ [t])).hdh ∧
      0 ≤ ((final (OutcomeRuntime.fold hcfg tickMin) {} (ts ++ [t])).hdh.report hcfg).pct ∧
      ((final (OutcomeRuntime.fold hcfg tickMin) {} (ts ++ [t])).hdh.report hcfg).pct ≤ 100 := by
  rw [trace_append, final_append]
  obtain ⟨since, recent, estimate⟩ := knowsMonth_step t (@knowsMonth_run hcfg tickMin ts)
  refine ⟨since, recent, estimate, report_pct_bounds ?_⟩
  exact estimate.saved ▸ savedMinutes_nonneg tick since

end Poise
