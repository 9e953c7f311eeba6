import Poise.Control.PreheatPlan
import Poise.Properties.OptimalStartStop

/-!
# What optimal start and stop promise

The plan in closed loop with a room that gains at least what the model tells under full heating and
loses at most what it tells without. A night in which there was time at its first tick ends at the
target, short of it by no more than the heater adds in one tick and what the forecast and the
clock's resolution were off; a coast in the comfort window never takes the room below its lower
edge. Both latches matter: an estimate shrinks while it is acted on.
-/
namespace Poise

open Relaxation Trace

/-! ### The dwelling -/

structure Dwelling where
  model : ThermalModel ℝ
  tOut : ℝ
  -- How much too warm a forecast may be.
  warm : ℝ
  -- The longest tick and the resolution of the schedule's minutes, in hours.
  period : ℝ
  resolution : ℝ

structure PlannedTick where
  read : ScheduleTick ℝ
  -- The hours that are really left to the next edge of the schedule.
  remaining : ℝ

abbrev PlannedStep := Step PlanLatches PlannedTick (SchedulePresenceResult ℝ)

noncomputable def plannedStep (round1 : ℝ → ℝ) (latches : PlanLatches) (t : PlannedTick) :
    PlanLatches × SchedulePresenceResult ℝ :=
  stageSchedulePresence round1 latches t.read

namespace Dwelling

variable (h : Dwelling)

/-- Where full heating leads. -/
noncomputable def peak : ℝ := heatEquilibrium h.model h.tOut 0 0

structure Sound : Prop where
  trusted : minAlpha ≤ h.model.alpha
  heats : 0 ≤ h.model.betaH
  warm : 0 ≤ h.warm
  resolution : 0 ≤ h.resolution

/-- The plan may use the model, and no forecast is too warm. -/
structure Planned (t : PlannedTick) : Prop where
  canHeat : t.read.canHeat = true
  ready : t.read.planningReady = true
  model : t.read.model = some h.model
  forecast : t.read.tOutLead ≤ h.tOut + h.warm
  remaining : 0 ≤ t.remaining

/-- A tick of the setback, in which the window ahead has one target. -/
structure Night (target maxLeadH floor : ℝ) (t : PlannedTick) : Prop extends h.Planned t where
  setback : t.read.isComfort = false
  enabled : t.read.optimalStart = true
  atHome : t.read.isAway = false
  minutes : ∃ m, t.read.minutesToComfort = some m ∧ t.remaining ≤ m / 60 ∧
    m / 60 ≤ t.remaining + h.resolution
  target : t.read.planInput.target = target
  horizon : t.read.maxLeadH = maxLeadH
  floor : floor ≤ t.read.room

/-- A tick of the comfort window. -/
structure Day (lower : ℝ) (t : PlannedTick) : Prop extends h.Planned t where
  window : t.read.isComfort = true
  minutes : ∀ m, t.read.minutesToSetback = some m → t.remaining ≤ m / 60
  lower : t.read.lo = lower

/-- The room from one tick to the next: never colder than without heating, and while preheating
no colder than full heating up to the target makes it. -/
structure Follows (e e' : PlannedStep) : Prop where
  forward : e'.input.remaining ≤ e.input.remaining
  paced : e.input.remaining - e'.input.remaining ≤ h.period
  left : 0 ≤ e'.input.remaining
  cooled : relax h.tOut e.input.read.room h.model.alpha
    (e.input.remaining - e'.input.remaining) ≤ e'.input.read.room
  heated : e.output.plan.preheating = true →
    min e.input.read.planInput.target
      (relax h.peak e.input.read.room h.model.alpha (e.input.remaining - e'.input.remaining)) ≤
        e'.input.read.room

/-- The target, or what the whole horizon of heating makes of the coldest room. -/
noncomputable def goal (target maxLeadH floor : ℝ) : ℝ :=
  min target (relax h.peak floor h.model.alpha maxLeadH) - h.warm

/-- What the resolution of the clock and one tick without heating cost. -/
noncomputable def shortfall (goal : ℝ) : ℝ :=
  (h.peak - goal) * (Real.exp (h.model.alpha * h.resolution) - 1) +
    (1 - Real.exp (-h.model.alpha * h.period)) * (h.model.betaH / h.model.alpha)

variable {h} {target maxLeadH floor lower : ℝ} {t : PlannedTick} {round1 : ℝ → ℝ}
  {latches : PlanLatches}

theorem Sound.alpha_pos (sound : h.Sound) : 0 < h.model.alpha :=
  minAlpha_pos.trans_le sound.trusted

theorem peak_sub : h.peak - h.tOut = h.model.betaH / h.model.alpha := by
  rw [peak, heatEquilibrium]
  ring

theorem goal_le (sound : h.Sound) (cold : floor ≤ h.peak) :
    h.goal target maxLeadH floor ≤ target ∧ h.goal target maxLeadH floor ≤ h.peak := by
  have horizon := relax_le_level cold h.model.alpha maxLeadH
  have warm := sound.warm
  have left := min_le_left target (relax h.peak floor h.model.alpha maxLeadH)
  have right := min_le_right target (relax h.peak floor h.model.alpha maxLeadH)
  constructor <;> rw [goal] <;> linarith

theorem shortfall_nonneg (sound : h.Sound) {goal : ℝ} (below : goal ≤ h.peak)
    (period : 0 ≤ h.period) : 0 ≤ h.shortfall goal := by
  have rate := sound.alpha_pos.le
  have resolved : 1 ≤ Real.exp (h.model.alpha * h.resolution) :=
    Real.one_le_exp (mul_nonneg rate sound.resolution)
  have ticked := exp_decay_le_one rate period
  have clock := mul_nonneg (sub_nonneg.mpr below) (sub_nonneg.mpr resolved)
  have heater := mul_nonneg (sub_nonneg.mpr ticked) (div_nonneg sound.heats rate)
  exact add_nonneg clock heater

/-! ### The night -/

theorem Night.preheating_eq (night : h.Night target maxLeadH floor t) :
    (plannedStep round1 latches t).2.plan.preheating =
      t.read.planInput.preheats latches h.model := by
  obtain ⟨m, minutes, -, -⟩ := night.minutes
  have usable : t.read.planInput.preheatable = some h.model := by
    simp [PlanInput.preheatable, ScheduleTick.planInput, night.enabled, night.atHome, minutes,
      night.canHeat, night.ready, night.model]
  have setback : t.read.planInput.isComfort = false := night.setback
  simp only [plannedStep, stageSchedulePresence, planPreheat, setback, usable]
  cases t.read.planInput.preheats latches h.model <;> rfl

/-- The tick's advice, by its estimate. -/
theorem Night.advice (night : h.Night target maxLeadH floor t) {m : ℝ}
    (minutes : t.read.minutesToComfort = some m) :
    advise h.model t.read.planInput.room t.read.planInput.target t.read.planInput.tOutLead
        t.read.planInput.minutesToComfort 0 0 t.read.planInput.maxLeadH =
      advise h.model t.read.room target t.read.tOutLead m 0 0 maxLeadH := by
  rw [night.target]
  simp only [ScheduleTick.planInput, minutes, Option.getD_some, night.horizon]

/-- An estimate below the target is the crossing time of its equilibrium. -/
theorem estimate_lands (trusted : minAlpha ≤ h.model.alpha) {room tOut lead : ℝ}
    (below : room < target)
    (estimate : heatupMinutes h.model room target tOut 0 0 maxLeadH = some lead) :
    target + tEqMargin < heatEquilibrium h.model tOut 0 0 ∧
      relax (heatEquilibrium h.model tOut 0 0) room h.model.alpha (lead / 60) = target := by
  rw [heatupMinutes_eq trusted, guarded, if_neg below.not_ge] at estimate
  split_ifs at estimate with short
  have clears := not_le.mp short
  obtain ⟨lands, -⟩ := crossingMinutes_lands (heatBetween below clears)
    (minAlpha_pos.trans_le trusted) estimate
  exact ⟨clears, lands⟩

/-- While the plan waits, full heating from now on is still in time. -/
theorem Night.waits_in_time (sound : h.Sound) (night : h.Night target maxLeadH floor t)
    (cold : floor ≤ h.peak) {m : ℝ} (ahead : 0 ≤ m / 60)
    (waits : (advise h.model t.read.room target t.read.tOutLead m 0 0 maxLeadH).startNow =
      false) :
    h.goal target maxLeadH floor ≤ relax h.peak t.read.room h.model.alpha (m / 60) := by
  have rate := sound.alpha_pos.le
  have bounds := @goal_le h target maxLeadH floor sound cold
  unfold advise at waits
  cases estimate : heatupMinutes h.model t.read.room target t.read.tOutLead 0 0 maxLeadH with
  | none =>
    -- out of reach: the horizon has not come yet
    rw [estimate] at waits
    have later : maxLeadH ≤ m / 60 := by
      have beyond := of_decide_eq_false waits
      norm_num at beyond
      linarith
    calc h.goal target maxLeadH floor
        ≤ relax h.peak floor h.model.alpha maxLeadH := by
          have right := min_le_right target (relax h.peak floor h.model.alpha maxLeadH)
          have warm := sound.warm
          rw [goal]
          linarith
      _ ≤ relax h.peak floor h.model.alpha (m / 60) := relax_rises rate cold later
      _ ≤ relax h.peak t.read.room h.model.alpha (m / 60) := relax_mono _ _ _ night.floor
  | some lead =>
    rw [estimate] at waits
    have later : lead < m := not_le.mp (of_decide_eq_false waits)
    by_cases there : target ≤ t.read.room
    · have between : min t.read.room h.peak ≤ relax h.peak t.read.room h.model.alpha (m / 60) :=
        min_le_relax rate ahead
      exact (le_min (bounds.1.trans there) bounds.2).trans between
    · have below := not_le.mp there
      obtain ⟨clears, lands⟩ := estimate_lands sound.trusted below estimate
      have rises := relax_rises rate
        (show t.read.room ≤ heatEquilibrium h.model t.read.tOutLead 0 0 by
          linarith [tEqMargin_pos])
        (show lead / 60 ≤ m / 60 by linarith)
      have level : heatEquilibrium h.model t.read.tOutLead 0 0 - h.warm ≤ h.peak := by
        have forecast := night.forecast
        rw [peak, heatEquilibrium, heatEquilibrium]
        linarith
      have costs := relax_level rate ahead sound.warm level t.read.room
      have left := min_le_left target (relax h.peak floor h.model.alpha maxLeadH)
      rw [goal]
      linarith

/-- One tick of the night. -/
theorem Night.keeps (sound : h.Sound) (cold : floor ≤ h.peak) {e e' : PlannedStep}
    (stepped : e = Step.of (plannedStep round1) e.pre e.input)
    (night : h.Night target maxLeadH floor e.input) (follows : h.Follows e e')
    (inTime : h.goal target maxLeadH floor - h.shortfall (h.goal target maxLeadH floor) ≤
      relax h.peak e.input.read.room h.model.alpha e.input.remaining) :
    h.goal target maxLeadH floor - h.shortfall (h.goal target maxLeadH floor) ≤
      relax h.peak e'.input.read.room h.model.alpha e'.input.remaining := by
  obtain ⟨forward, paced, left, cooled, heated⟩ := follows
  have rate := sound.alpha_pos.le
  have bounds := @goal_le h target maxLeadH floor sound cold
  have ticks : 0 ≤ e.input.remaining - e'.input.remaining := sub_nonneg.mpr forward
  have whole : e.input.remaining - e'.input.remaining + e'.input.remaining = e.input.remaining :=
    sub_add_cancel _ _
  have preheating : e.output.plan.preheating =
      e.input.read.planInput.preheats e.pre h.model := by
    rw [stepped, Step.of_output, Step.of_input, Step.of_pre]
    exact night.preheating_eq
  cases preheats : e.input.read.planInput.preheats e.pre h.model with
  | true =>
    -- full heating goes on, or the room is at its target
    have gained := relax_mono h.peak h.model.alpha e'.input.remaining
      (heated (preheating.trans preheats))
    rw [night.target] at gained
    refine le_trans ?_ gained
    obtain least | least := le_total target
      (relax h.peak e.input.read.room h.model.alpha (e.input.remaining - e'.input.remaining))
    · rw [min_eq_left least]
      have between : min target h.peak ≤ relax h.peak target h.model.alpha e'.input.remaining :=
        min_le_relax rate left
      have costs := shortfall_nonneg sound bounds.2 (ticks.trans paced)
      have reached := le_min bounds.1 bounds.2
      linarith
    · rw [min_eq_right least, relax_add, whole]
      exact inTime
  | false =>
    obtain ⟨m, minutes, early, late⟩ := night.minutes
    have waits := (Bool.or_eq_false_iff.mp preheats).1
    rw [night.advice minutes] at waits
    have ahead : 0 ≤ m / 60 := night.remaining.trans early
    have planned := night.waits_in_time sound cold ahead waits
    have now := relax_early rate bounds.2 late planned
    -- one tick without heating
    have lag := relax_lag h.peak h.tOut e.input.read.room h.model.alpha
      (e.input.remaining - e'.input.remaining) e'.input.remaining
    have gained := relax_mono h.peak h.model.alpha e'.input.remaining cooled
    have share := exp_decay_le_one rate left
    have ticked := exp_decay_le_one rate ticks
    have period : Real.exp (-h.model.alpha * h.period) ≤
        Real.exp (-h.model.alpha * (e.input.remaining - e'.input.remaining)) := by
      apply Real.exp_le_exp.mpr
      have scaled := mul_le_mul_of_nonneg_left paced rate
      linarith
    have power : 0 ≤ h.model.betaH / h.model.alpha := div_nonneg sound.heats rate
    have spent := mul_nonneg (sub_nonneg.mpr ticked) power
    have least := mul_le_mul_of_nonneg_left share spent
    have most := mul_le_mul_of_nonneg_right (sub_le_sub_left period 1) power
    rw [peak_sub, whole] at lag
    rw [shortfall]
    linarith

theorem night_run (sound : h.Sound) (cold : floor ≤ h.peak) {morning : PlannedTick}
    (ticks : List PlannedTick) {first : PlannedTick} {latches : PlanLatches}
    (nights : ∀ t ∈ first :: ticks, h.Night target maxLeadH floor t)
    (follows : (trace (plannedStep round1) latches (first :: ticks ++ [morning])).IsChain
      h.Follows)
    (inTime : h.goal target maxLeadH floor - h.shortfall (h.goal target maxLeadH floor) ≤
      relax h.peak first.read.room h.model.alpha first.remaining) :
    h.goal target maxLeadH floor - h.shortfall (h.goal target maxLeadH floor) ≤
      relax h.peak morning.read.room h.model.alpha morning.remaining := by
  induction ticks generalizing first latches with
  | nil =>
    obtain ⟨follow, -⟩ := List.isChain_cons_cons.mp follows
    exact Night.keeps sound cold rfl (nights first (by simp)) follow inTime
  | cons t ticks ih =>
    obtain ⟨follow, rest⟩ := List.isChain_cons_cons.mp follows
    have kept := Night.keeps sound cold rfl (nights first (by simp)) follow inTime
    exact ih (fun t member => nights t (List.mem_cons_of_mem _ member)) rest kept

/-- A preheat begins when full heating from now on would not pass the target before the window
opens, or when the target is out of reach and the horizon has come. -/
structure JustInTime (h : Dwelling) (e : PlannedStep) (target maxLeadH : ℝ) : Prop where
  fits : ∀ m, e.input.read.minutesToComfort = some m →
    relax (heatEquilibrium h.model e.input.read.tOutLead 0 0) e.input.read.room h.model.alpha
        (m / 60) ≤ max target e.input.read.room ∨
      m / 60 ≤ maxLeadH ∧
        heatupMinutes h.model e.input.read.room target e.input.read.tOutLead 0 0 maxLeadH = none

theorem Night.starts_just_in_time (sound : h.Sound) {e : PlannedStep}
    (stepped : e = Step.of (plannedStep round1) e.pre e.input)
    (night : h.Night target maxLeadH floor e.input)
    (preheating : e.output.plan.preheating = true) (fresh : e.pre.wasPreheating = false) :
    h.JustInTime e target maxLeadH := by
  have rate := sound.alpha_pos.le
  refine ⟨fun m minutes => ?_⟩
  obtain ⟨m', same, early, -⟩ := night.minutes
  obtain rfl : m' = m := Option.some.inj (same.symm.trans minutes)
  have ahead : 0 ≤ m' / 60 := night.remaining.trans early
  rw [stepped, Step.of_output, night.preheating_eq, PlanInput.preheats, fresh, Bool.false_and,
    Bool.or_false, night.advice minutes] at preheating
  unfold advise at preheating
  cases estimate : heatupMinutes h.model e.input.read.room target e.input.read.tOutLead 0 0
      maxLeadH with
  | none =>
    rw [estimate] at preheating
    right
    have edge := of_decide_eq_true preheating
    norm_num at edge
    exact ⟨by linarith, rfl⟩
  | some lead =>
    rw [estimate] at preheating
    left
    have due : m' ≤ lead := of_decide_eq_true preheating
    by_cases there : target ≤ e.input.read.room
    · -- a room at its target needs no time
      rw [heatupMinutes_eq sound.trusted, guarded_there there] at estimate
      obtain rfl := Option.some.inj estimate
      have none_left : m' / 60 = 0 := by linarith
      rw [none_left, relax_zero]
      exact le_max_right _ _
    · have below := not_le.mp there
      obtain ⟨clears, lands⟩ := estimate_lands sound.trusted below estimate
      have rises := relax_rises rate
        (show e.input.read.room ≤ heatEquilibrium h.model e.input.read.tOutLead 0 0 by
          linarith [tEqMargin_pos])
        (show m' / 60 ≤ lead / 60 by linarith)
      exact le_max_of_le_left (rises.trans lands.le)

/-! ### The day -/

/-- What a coasting tick knows. -/
theorem Day.coasts_of (day : h.Day lower t)
    (coasting : (plannedStep round1 latches t).2.plan.coasting = true) :
    ∃ m, t.read.minutesToSetback = some m ∧ 0 < m ∧
      t.read.planInput.coasts latches h.model lower = true := by
  have window : t.read.planInput.isComfort = true := day.window
  simp only [plannedStep, stageSchedulePresence, planPreheat, window, if_true] at coasting
  cases usable : t.read.planInput.coastable with
  | none =>
    simp [usable] at coasting
  | some pair =>
    rw [usable] at coasting
    unfold PlanInput.coastable at usable
    split_ifs at usable with gates
    simp only [ScheduleTick.planInput, day.model, day.lower, Option.bind_some, Option.map_some,
      Option.some.injEq, Bool.and_eq_true, decide_eq_true_iff] at usable gates
    obtain rfl := usable.symm
    cases minutes : t.read.minutesToSetback with
    | none => simp [minutes] at gates
    | some m =>
      refine ⟨m, rfl, by simpa [minutes] using gates.2, ?_⟩
      cases coasts : t.read.planInput.coasts latches h.model lower with
      | true => rfl
      | false =>
        simp [coasts] at coasting

/-- A coast begins only if the room, unheated, stays above the lower edge to the end. -/
theorem Day.stops_in_time (sound : h.Sound) (day : h.Day lower t) {m : ℝ}
    (minutes : t.read.minutesToSetback = some m) (ahead : 0 < m)
    (stops : (adviseStop h.model t.read.room lower t.read.tOutLead m 0 4.0).stopNow = true) :
    lower < t.read.room ∧ lower - h.warm ≤ relax h.tOut t.read.room h.model.alpha t.remaining := by
  have rate := sound.alpha_pos.le
  unfold adviseStop at stops
  cases estimate : coastdownMinutes h.model t.read.room lower t.read.tOutLead 0 4.0 with
  | none =>
    simp [estimate] at stops
  | some lead =>
    rw [estimate] at stops
    have due : m ≤ lead := of_decide_eq_true stops
    rw [coastdownMinutes_eq sound.trusted] at estimate
    obtain ⟨away, clears, crossed⟩ := guarded_pos estimate (ahead.trans_le due)
    have above := not_le.mp away
    have level : coastEquilibrium h.model t.read.tOutLead 0 = t.read.tOutLead := by
      rw [coastEquilibrium]
      ring
    rw [level] at clears crossed
    obtain ⟨lands, -⟩ := crossingMinutes_lands (coastBetween above (not_le.mp clears))
      sound.alpha_pos crossed
    have early := day.minutes m minutes
    have falls := relax_falls rate
      (show t.read.tOutLead ≤ t.read.room by linarith [tEqMargin_pos])
      (show t.remaining ≤ lead / 60 by linarith)
    have forecast := day.forecast
    have costs := relax_level rate day.remaining sound.warm
      (show t.read.tOutLead - h.warm ≤ h.tOut by linarith) t.read.room
    exact ⟨above, by linarith⟩

/-- Unheated to the end of the window, a coasting room would stay above the edge. -/
def CoastSafe (h : Dwelling) (lower : ℝ) (t : PlannedTick) : Prop :=
  lower - h.warm ≤ relax h.tOut t.read.room h.model.alpha t.remaining

/-- One tick of the day. -/
theorem Day.keeps (sound : h.Sound) {e e' : PlannedStep}
    (stepped : e = Step.of (plannedStep round1) e.pre e.input) (day : h.Day lower e.input)
    (follows : h.Follows e e') (held : e.pre.wasCoasting = true → CoastSafe h lower e.input)
    (coasting : e.output.plan.coasting = true) :
    lower - h.warm ≤ e'.input.read.room ∧ CoastSafe h lower e'.input := by
  have rate := sound.alpha_pos.le
  rw [stepped, Step.of_output] at coasting
  obtain ⟨m, minutes, ahead, coasts⟩ := day.coasts_of coasting
  have safe : lower < e.input.read.room ∧ CoastSafe h lower e.input := by
    simp only [PlanInput.coasts, Bool.or_eq_true, Bool.and_eq_true, decide_eq_true_iff] at coasts
    obtain ⟨stops, -⟩ | ⟨was, above⟩ := coasts
    · simp only [ScheduleTick.planInput, minutes, Option.getD_some] at stops
      exact day.stops_in_time sound minutes ahead stops
    · exact ⟨above, held was⟩
  obtain ⟨above, safe⟩ := safe
  obtain ⟨forward, -, left, cooled, -⟩ := follows
  have ticks : 0 ≤ e.input.remaining - e'.input.remaining := sub_nonneg.mpr forward
  constructor
  · refine le_trans ?_ cooled
    obtain warmer | colder := le_total h.tOut e.input.read.room
    · have falls := relax_falls rate warmer
        (show e.input.remaining - e'.input.remaining ≤ e.input.remaining by linarith)
      exact safe.trans falls
    · have rises := relax_rises rate colder ticks
      have warm := sound.warm
      rw [relax_zero] at rises
      linarith
  · have gained := relax_mono h.tOut h.model.alpha e'.input.remaining cooled
    rw [relax_add, sub_add_cancel] at gained
    exact le_trans safe gained

theorem day_run (sound : h.Sound) {evening : PlannedTick} (ticks : List PlannedTick)
    {latches : PlanLatches} (days : ∀ t ∈ ticks, h.Day lower t)
    (follows : (trace (plannedStep round1) latches (ticks ++ [evening])).IsChain h.Follows)
    (held : latches.wasCoasting = true → ∀ t ∈ ticks.head?, CoastSafe h lower t) :
    (trace (plannedStep round1) latches (ticks ++ [evening])).IsChain fun e e' =>
      e.output.plan.coasting = true → lower - h.warm ≤ e'.input.read.room := by
  induction ticks generalizing latches with
  | nil => exact List.isChain_singleton _
  | cons t ticks ih =>
    have first : latches.wasCoasting = true → CoastSafe h lower t := fun was =>
      held was t (by simp)
    have day := days t (by simp)
    have later : ∀ t' ∈ ticks, h.Day lower t' := fun t' member =>
      days t' (List.mem_cons_of_mem _ member)
    cases ticks with
    | nil =>
      obtain ⟨follow, rest⟩ := List.isChain_cons_cons.mp follows
      refine List.isChain_cons_cons.mpr ⟨fun coasting => ?_, List.isChain_singleton _⟩
      exact (Day.keeps sound rfl day follow first coasting).1
    | cons t' ticks =>
      obtain ⟨follow, rest⟩ := List.isChain_cons_cons.mp follows
      refine List.isChain_cons_cons.mpr ⟨fun coasting => ?_, ?_⟩
      · exact (Day.keeps sound rfl day follow first coasting).1
      · refine ih later rest fun was t'' head => ?_
        obtain rfl : t' = t'' := Option.some.inj head
        exact (Day.keeps sound rfl day follow first was).2

end Dwelling

/-! ### The promises -/

/-- A night with time at its first tick ends at the target, but for the forecast's error, the
clock's resolution and one tick of heating, and no preheat begins before it must; no coast takes
the room below the lower edge, but for the forecast's error, if one that already runs would not. -/
theorem start_and_stop_keep_their_promises {h : Dwelling} (sound : h.Sound) (round1 : ℝ → ℝ) :
    (∀ target maxLeadH floor latches first ticks morning, floor ≤ h.peak →
      (∀ t ∈ first :: ticks, h.Night target maxLeadH floor t) →
      (trace (plannedStep round1) latches (first :: ticks ++ [morning])).IsChain h.Follows →
      h.goal target maxLeadH floor ≤
        relax h.peak first.read.room h.model.alpha first.remaining →
      morning.remaining = 0 →
        h.goal target maxLeadH floor - h.shortfall (h.goal target maxLeadH floor) ≤
          morning.read.room ∧
        ∀ e ∈ trace (plannedStep round1) latches (first :: ticks),
          e.output.plan.preheating = true → e.pre.wasPreheating = false →
            h.JustInTime e target maxLeadH) ∧
    ∀ lower latches ticks evening,
      (latches.wasCoasting = true → ∀ t ∈ ticks.head?, h.CoastSafe lower t) →
      (∀ t ∈ ticks, h.Day lower t) →
      (trace (plannedStep round1) latches (ticks ++ [evening])).IsChain h.Follows →
        (trace (plannedStep round1) latches (ticks ++ [evening])).IsChain fun e e' =>
          e.output.plan.coasting = true → lower - h.warm ≤ e'.input.read.room := by
  constructor
  · intro target maxLeadH floor latches first ticks morning cold nights follows inTime dawn
    have bounds := @Dwelling.goal_le h target maxLeadH floor sound cold
    have period : 0 ≤ h.period := by
      cases ticks with
      | nil =>
        obtain ⟨follow, -⟩ := List.isChain_cons_cons.mp follows
        exact (sub_nonneg.mpr follow.forward).trans follow.paced
      | cons t ticks =>
        obtain ⟨follow, -⟩ := List.isChain_cons_cons.mp follows
        exact (sub_nonneg.mpr follow.forward).trans follow.paced
    have costs := Dwelling.shortfall_nonneg sound bounds.2 period
    constructor
    · have kept := Dwelling.night_run sound cold ticks nights follows (by linarith)
      rwa [dawn, relax_zero] at kept
    · intro e member preheating fresh
      have night := (forall_input_iff _ (h.Night target maxLeadH floor) latches _).mpr nights e
        member
      exact night.starts_just_in_time sound (step_of_mem _ member) preheating fresh
  · intro lower latches ticks evening held days follows
    exact Dwelling.day_run sound ticks days follows held

/-! ### One night and one day -/

def plainDwelling (betaH tOut : ℝ) : Dwelling where
  model := ⟨1, betaH, 0, 0, 0⟩
  tOut
  warm := 0
  period := 1
  resolution := 0

def plainTick (isComfort : Bool) (base lo maxLeadH tOut betaH room minutes remaining : ℝ) :
    PlannedTick where
  remaining
  read :=
    { home := none
      preset := .none
      comfortBase := base
      overrideCfg := ⟨0, 0, 0⟩
      isComfort
      setbackOffset := -1
      minutesToComfort := some minutes
      minutesToSetback := some minutes
      optimalStart := true
      optimalStop := true
      canHeat := true
      planningReady := true
      model := some ⟨1, betaH, 0, 0, 0⟩
      room
      tOutLead := tOut
      lo
      hi := base
      maxLeadH
      overridePolicy := .schedule }

section Plain

variable {c : Bool} {base lo maxLeadH tOut betaH room minutes remaining : ℝ}
  {latches : PlanLatches}

theorem plain_planned (left : 0 ≤ remaining) :
    (plainDwelling betaH tOut).Planned
      (plainTick c base lo maxLeadH tOut betaH room minutes remaining) :=
  ⟨rfl, rfl, rfl, (add_zero tOut).ge, left⟩

theorem plain_target (within : lo ≤ base) :
    (plainTick c base lo maxLeadH tOut betaH room minutes remaining).read.planInput.target =
      base := by
  simp [plainTick, ScheduleTick.planInput, ScheduleTick.comfortTarget, ScheduleTick.isAway,
    modeComfortBase, PlanInput.target, within]

theorem plain_night (within : lo ≤ base) (left : 0 ≤ remaining) (clock : minutes = remaining * 60)
    (warm : lo ≤ room) :
    (plainDwelling betaH tOut).Night base maxLeadH lo
      (plainTick false base lo maxLeadH tOut betaH room minutes remaining) := by
  have hours : minutes / 60 = remaining := by
    rw [clock, mul_div_cancel_right₀ _ (by norm_num : (60 : ℝ) ≠ 0)]
  exact ⟨plain_planned left, rfl, rfl, rfl, ⟨minutes, rfl, hours.ge, hours.le.trans (by
    simp [plainTick, plainDwelling])⟩, plain_target within, rfl, warm⟩

theorem plain_day (left : 0 ≤ remaining) (clock : minutes = remaining * 60) :
    (plainDwelling betaH tOut).Day lo
      (plainTick true base lo maxLeadH tOut betaH room minutes remaining) := by
  refine ⟨plain_planned left, rfl, fun m known => ?_, rfl⟩
  obtain rfl := Option.some.inj known
  rw [clock, mul_div_cancel_right₀ _ (by norm_num : (60 : ℝ) ≠ 0)]
  exact le_refl _

/-- What a night's tick decides. -/
theorem plain_preheating (within : lo ≤ base) (left : 0 ≤ remaining)
    (clock : minutes = remaining * 60) (warm : lo ≤ room) :
    (plannedStep id latches
        (plainTick false base lo maxLeadH tOut betaH room minutes remaining)).2.plan.preheating =
      ((advise ⟨1, betaH, 0, 0, 0⟩ room base tOut minutes 0 0 maxLeadH).startNow ||
        (latches.wasPreheating && decide (room < base))) := by
  have night :=
    @plain_night base lo maxLeadH tOut betaH room minutes remaining within left clock warm
  rw [night.preheating_eq, PlanInput.preheats, night.advice rfl, night.target]
  rfl

/-- What a day's tick decides. -/
theorem plain_coasting (ahead : 0 < minutes) :
    (plannedStep id latches
        (plainTick true base lo maxLeadH tOut betaH room minutes remaining)).2.plan.coasting =
      (((adviseStop ⟨1, betaH, 0, 0, 0⟩ room lo tOut minutes 0 4.0).stopNow &&
          decide (base - coastReadyBandK ≤ room)) ||
        (latches.wasCoasting && decide (lo < room))) := by
  set t := plainTick true base lo maxLeadH tOut betaH room minutes remaining with tick
  have usable : t.read.planInput.coastable = some (⟨1, betaH, 0, 0, 0⟩, lo) := by
    simp [PlanInput.coastable, ScheduleTick.planInput, tick, plainTick, ahead]
  have window : t.read.planInput.isComfort = true := rfl
  have coasts : t.read.planInput.coasts latches ⟨1, betaH, 0, 0, 0⟩ lo =
      (((adviseStop ⟨1, betaH, 0, 0, 0⟩ room lo tOut minutes 0 4.0).stopNow &&
          decide (base - coastReadyBandK ≤ room)) ||
        (latches.wasCoasting && decide (lo < room))) := rfl
  rw [← coasts]
  simp only [plannedStep, stageSchedulePresence, planPreheat, window, usable, if_true]
  cases t.read.planInput.coasts latches ⟨1, betaH, 0, 0, 0⟩ lo <;> rfl

theorem plain_day_heats :
    (plannedStep id latches
        (plainTick true base lo maxLeadH tOut betaH room minutes remaining)).2.plan.preheating =
      false := by
  have window : (plainTick true base lo maxLeadH tOut betaH room minutes
    remaining).read.planInput.isComfort = true := rfl
  simp only [plannedStep, stageSchedulePresence, planPreheat, window, if_true]
  split
  · rfl
  · split <;> rfl

theorem plain_peak : (plainDwelling betaH tOut).peak = tOut + betaH := by
  simp [plainDwelling, Dwelling.peak, heatEquilibrium]

theorem plain_follows {c' : Bool} {base' room' minutes' remaining' : ℝ} {latches' : PlanLatches}
    (within : lo ≤ base) (left : 0 ≤ remaining') (forward : remaining' ≤ remaining)
    (paced : remaining - remaining' ≤ 1)
    (cooled : relax tOut room 1 (remaining - remaining') ≤ room')
    (heated : (plannedStep id latches
        (plainTick c base lo maxLeadH tOut betaH room minutes remaining)).2.plan.preheating = true →
      min base (relax (tOut + betaH) room 1 (remaining - remaining')) ≤ room') :
    (plainDwelling betaH tOut).Follows
      (Step.of (plannedStep id) latches
        (plainTick c base lo maxLeadH tOut betaH room minutes remaining))
      (Step.of (plannedStep id) latches'
        (plainTick c' base' lo maxLeadH tOut betaH room' minutes' remaining')) := by
  refine ⟨forward, paced, left, cooled, fun preheating => ?_⟩
  rw [Step.of_input, plain_target within, plain_peak]
  exact heated preheating

theorem plain_day_follows {c' : Bool} {base' room' minutes' remaining' : ℝ}
    {latches' : PlanLatches} (within : lo ≤ base) (left : 0 ≤ remaining')
    (forward : remaining' ≤ remaining) (paced : remaining - remaining' ≤ 1)
    (cooled : relax tOut room 1 (remaining - remaining') ≤ room') :
    (plainDwelling betaH tOut).Follows
      (Step.of (plannedStep id) latches
        (plainTick true base lo maxLeadH tOut betaH room minutes remaining))
      (Step.of (plannedStep id) latches'
        (plainTick c' base' lo maxLeadH tOut betaH room' minutes' remaining')) := by
  refine plain_follows within left forward paced cooled fun preheats => ?_
  rw [plain_day_heats] at preheats
  cases preheats

end Plain

/-- Eighteen degrees are half an hour and more, and less than an hour and a half, from nineteen. -/
theorem halfway_advice {minutes : ℝ} :
    (advise ⟨1, 10, 0, 0, 0⟩ 18 19 10 minutes 0 0 4).startNow =
      decide (minutes ≤ Real.log 2 * 60) := by
  have trusted : minAlpha ≤ (⟨1, 10, 0, 0, 0⟩ : ThermalModel ℝ).alpha := by norm_num [minAlpha]
  have level : heatEquilibrium ⟨1, 10, 0, 0, 0⟩ 10 0 0 = 20 := by norm_num [heatEquilibrium]
  have estimate : heatupMinutes ⟨1, 10, 0, 0, 0⟩ 18 19 10 0 0 4 = some (Real.log 2 * 60) := by
    rw [heatupMinutes_eq trusted, level, guarded, if_neg (by norm_num),
      if_neg (by norm_num [tEqMargin])]
    exact halfway_minutes (by norm_num)
  rw [advise, estimate]

/-- The room at twenty degrees falls to eighteen in twelve minutes and more, and in less than
an hour. -/
theorem coast_advice {minutes : ℝ} :
    (adviseStop ⟨1, 10, 0, 0, 0⟩ 20 18 10 minutes 0 4.0).stopNow =
      decide (minutes ≤ -Real.log (4 / 5) * 60) := by
  have trusted : minAlpha ≤ (⟨1, 10, 0, 0, 0⟩ : ThermalModel ℝ).alpha := by norm_num [minAlpha]
  have level : coastEquilibrium ⟨1, 10, 0, 0, 0⟩ 10 0 = 10 := by norm_num [coastEquilibrium]
  have hours : crossing 10 20 18 1 = -Real.log (4 / 5) := by
    rw [crossing, Relaxation.remaining, div_one]
    norm_num
  have early : ¬ (4.0 : ℝ) < -Real.log (4 / 5) := by
    have bound := Real.one_sub_inv_le_log_of_pos (show (0 : ℝ) < 4 / 5 by norm_num)
    norm_num at bound ⊢
    linarith
  have estimate : coastdownMinutes ⟨1, 10, 0, 0, 0⟩ 20 18 10 0 4.0 =
      some (-Real.log (4 / 5) * 60) := by
    rw [coastdownMinutes_eq trusted, level, guarded, if_neg (by norm_num),
      if_neg (by norm_num [tEqMargin]), crossingMinutes, hours, if_neg early]
    norm_num
  rw [adviseStop, estimate]

/-- An hour of full heating lifts the room by more than a degree. -/
theorem full_hour : 19 ≤ relax 20 18 1 1 := by
  have half : Real.exp (-1) ≤ 1 / 2 := by
    have twice := Real.add_one_le_exp 1
    rw [Real.exp_neg, inv_le_comm₀ (Real.exp_pos 1) (by norm_num)]
    linarith
  rw [relax, mul_one]
  linarith

theorem unheated_cools {room t : ℝ} (outside : 10 ≤ room) (later : 0 ≤ t) :
    relax 10 room 1 t ≤ room := by
  have falls := relax_falls zero_le_one outside later
  rwa [relax_zero] at falls

theorem exp_tenth : Real.exp (-(1 / 10)) ≤ 10 / 11 := by
  have grows := Real.add_one_le_exp (1 / 10 : ℝ)
  rw [Real.exp_neg, inv_le_comm₀ (Real.exp_pos _) (by norm_num)]
  norm_num at grows ⊢
  linarith

/-- A night that waits, preheats and holds the preheat, and a day that heats, coasts and holds the
coast. -/
theorem plain_night_and_day :
    let h := plainDwelling 10 10
    let night := plainTick false 19 18 4 10 10
    let day := plainTick true 20 18 4 10 10
    let asleep := trace (plannedStep id) {} [night 18 90 (3 / 2), night 18 30 (1 / 2),
      night 18.9 15 (1 / 4)]
    let awake := [day 20 60 1, day 20 12 (1 / 5), day 19.1 6 (1 / 10)]
    (asleep.map (·.output.plan.preheating) = [false, true, true] ∧
      h.goal 19 4 18 - h.shortfall (h.goal 19 4 18) ≤ 19 ∧
      ∀ e ∈ asleep, e.output.plan.preheating = true → e.pre.wasPreheating = false →
        h.JustInTime e 19 4) ∧
    (trace (plannedStep id) {} awake).map (·.output.plan.coasting) = [false, true, true] ∧
      (trace (plannedStep id) {} (awake ++ [night 18.5 0 0])).IsChain fun e e' =>
        e.output.plan.coasting = true → 18 - h.warm ≤ e'.input.read.room := by
  intro h night day asleep awake
  have sound : h.Sound := by constructor <;> norm_num [h, plainDwelling, minAlpha]
  have peak : h.peak = 20 := by
    rw [plain_peak]
    norm_num
  have cold : (18 : ℝ) ≤ h.peak := by
    rw [peak]
    norm_num
  obtain ⟨nights, days⟩ := start_and_stop_keep_their_promises sound id
  constructor
  · have within : (18 : ℝ) ≤ 19 := by norm_num
    have soon : Real.log 2 ≤ 1 := by
      have bound := Real.log_le_sub_one_of_pos (zero_lt_two' ℝ)
      linarith
    have late : 1 / 2 ≤ Real.log 2 := by
      have bound := Real.one_sub_inv_le_log_of_pos (zero_lt_two' ℝ)
      norm_num at bound ⊢
      exact bound
    have waits : (plannedStep id {} (night 18 90 (3 / 2))).2.plan.preheating = false := by
      rw [plain_preheating within (by norm_num) (by norm_num) (le_refl _), halfway_advice,
        Bool.or_eq_false_iff]
      exact ⟨decide_eq_false (by linarith), rfl⟩
    have starts : ∀ latches : PlanLatches,
        (plannedStep id latches (night 18 30 (1 / 2))).2.plan.preheating = true := by
      intro latches
      rw [plain_preheating within (by norm_num) (by norm_num) (le_refl _), halfway_advice,
        Bool.or_eq_true]
      exact Or.inl (decide_eq_true (by linarith))
    have holds : ∀ latches : PlanLatches, latches.wasPreheating = true →
        (plannedStep id latches (night 18.9 15 (1 / 4))).2.plan.preheating = true := by
      intro latches was
      rw [plain_preheating within (by norm_num) (by norm_num) (by norm_num), was,
        Bool.or_eq_true]
      exact Or.inr (by norm_num)
    have clock : ∀ t ∈ [night 18 90 (3 / 2), night 18 30 (1 / 2), night 18.9 15 (1 / 4)],
        h.Night 19 4 18 t := by
      simp only [List.forall_mem_cons]
      refine ⟨plain_night within ?_ ?_ ?_, plain_night within ?_ ?_ ?_,
        plain_night within ?_ ?_ ?_, by simp⟩ <;> norm_num
    have quarter : relax 20 18 1 (1 / 4) ≤ 18.9 := by
      have slow := Real.add_one_le_exp (-(1 / 4) : ℝ)
      rw [relax, neg_one_mul]
      norm_num at slow ⊢
      linarith
    have follows : (trace (plannedStep id) {} ([night 18 90 (3 / 2), night 18 30 (1 / 2),
        night 18.9 15 (1 / 4)] ++ [day 19 0 0])).IsChain h.Follows := by
      refine List.isChain_cons_cons.mpr ⟨?_, List.isChain_cons_cons.mpr ⟨?_,
        List.isChain_cons_cons.mpr ⟨?_, List.isChain_singleton _⟩⟩⟩
      · refine plain_follows within (by norm_num) (by norm_num) (by norm_num)
          (unheated_cools (by norm_num) (by norm_num)) fun preheats => ?_
        rw [waits] at preheats
        cases preheats
      · refine plain_follows within (by norm_num) (by norm_num) (by norm_num)
          ((unheated_cools (by norm_num) (by norm_num)).trans (by norm_num)) fun _ => ?_
        norm_num at quarter ⊢
        exact quarter
      · refine plain_follows within (by norm_num) (by norm_num) (by norm_num)
          ((unheated_cools (by norm_num) (by norm_num)).trans (by norm_num)) fun _ => ?_
        exact min_le_left _ _
    have inTime : h.goal 19 4 18 ≤ relax h.peak 18 1 (3 / 2) := by
      have planned := (@Dwelling.goal_le h 19 4 18 sound cold).1
      have rises : relax 20 18 1 1 ≤ relax 20 18 1 (3 / 2) :=
        relax_rises zero_le_one (by norm_num) (by norm_num)
      rw [peak]
      exact planned.trans (full_hour.trans rises)
    obtain ⟨reached, begun⟩ := nights 19 4 18 {} _ _ _ cold clock follows inTime rfl
    refine ⟨?_, reached, begun⟩
    show [(plannedStep id _ _).2.plan.preheating, (plannedStep id _ _).2.plan.preheating,
      (plannedStep id _ _).2.plan.preheating] = _
    rw [waits, starts, holds _ (starts _)]
  · have within : (18 : ℝ) ≤ 20 := by norm_num
    have soon : -Real.log (4 / 5) ≤ 1 / 4 := by
      have bound := Real.one_sub_inv_le_log_of_pos (show (0 : ℝ) < 4 / 5 by norm_num)
      norm_num at bound ⊢
      linarith
    have late : 1 / 5 ≤ -Real.log (4 / 5) := by
      have bound := Real.log_le_sub_one_of_pos (show (0 : ℝ) < 4 / 5 by norm_num)
      linarith
    have heats : (plannedStep id {} (day 20 60 1)).2.plan.coasting = false := by
      rw [plain_coasting (by norm_num), coast_advice, Bool.or_eq_false_iff, Bool.and_eq_false_iff]
      exact ⟨Or.inl (decide_eq_false (by linarith)), rfl⟩
    have stops : ∀ latches : PlanLatches,
        (plannedStep id latches (day 20 12 (1 / 5))).2.plan.coasting = true := by
      intro latches
      rw [plain_coasting (by norm_num), coast_advice, Bool.or_eq_true, Bool.and_eq_true]
      exact Or.inl ⟨decide_eq_true (by linarith), by norm_num [coastReadyBandK]⟩
    have holds : ∀ latches : PlanLatches, latches.wasCoasting = true →
        (plannedStep id latches (day 19.1 6 (1 / 10))).2.plan.coasting = true := by
      intro latches was
      rw [plain_coasting (by norm_num), was, Bool.or_eq_true]
      exact Or.inr (by norm_num)
    have clock : ∀ t ∈ awake, h.Day 18 t := by
      simp only [awake, List.forall_mem_cons]
      refine ⟨plain_day ?_ ?_, plain_day ?_ ?_, plain_day ?_ ?_, by simp⟩ <;> norm_num
    have follows : (trace (plannedStep id) {} (awake ++ [night 18.5 0 0])).IsChain h.Follows := by
      have tenth := exp_tenth
      refine List.isChain_cons_cons.mpr ⟨?_, List.isChain_cons_cons.mpr ⟨?_,
        List.isChain_cons_cons.mpr ⟨?_, List.isChain_singleton _⟩⟩⟩
      · refine plain_day_follows within (by norm_num) (by norm_num) (by norm_num) ?_
        exact unheated_cools (by norm_num) (by norm_num)
      · refine plain_day_follows within (by norm_num) (by norm_num) (by norm_num) ?_
        norm_num [relax]
        linarith
      · refine plain_day_follows within (by norm_num) (by norm_num) (by norm_num) ?_
        norm_num [relax]
        linarith
    refine ⟨?_, days 18 {} awake _ (fun was => absurd was Bool.false_ne_true) clock follows⟩
    show [(plannedStep id _ _).2.plan.coasting, (plannedStep id _ _).2.plan.coasting,
      (plannedStep id _ _).2.plan.coasting] = _
    rw [heats, stops, holds _ (stops _)]

end Poise
