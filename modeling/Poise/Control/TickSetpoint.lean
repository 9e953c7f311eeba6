import Poise.Control.AdoptionChannels

/-!
# The setpoint channel of a tick

What each segment of a tick does to the baselines the write economy reads, and
the zone as a machine over ticks, safe-state writes and user commands. The mode
and fan segments leave the setpoint baselines alone, so the setpoint segment of a
tick sees the state the tick began with.
-/
namespace Poise

/-- What the setpoint channel carries from tick to tick. -/
structure SetpointBaselines where
  lastWrittenSp : Option ℚ
  prevDeviceSp : Option ℚ
  lastSpWriteTs : Option ℚ
  preWriteSp : Option ℚ
  lastCmdSp : Option ℚ
  cmdEpisodeTs : Option ℚ
  lastSpCtxId : Option String
  lastWrittenMode : Option String
  deriving DecidableEq, Repr

def ZoneRuntime.setpoint (rt : ZoneRuntime) : SetpointBaselines where
  lastWrittenSp := rt.external.lastWrittenSp
  prevDeviceSp := rt.external.prevDeviceSp
  lastSpWriteTs := rt.external.lastSpWriteTs
  preWriteSp := rt.external.preWriteSp
  lastCmdSp := rt.external.lastCmdSp
  cmdEpisodeTs := rt.external.cmdEpisodeTs
  lastSpCtxId := rt.external.lastSpCtxId
  lastWrittenMode := rt.actuator.lastWrittenMode

/-! ### The segments before the setpoint -/

/-- What a segment before the setpoint leaves alone. -/
structure SetpointKept (before after : ZoneRuntime) : Prop where
  baselines : after.setpoint = before.setpoint
  count : after.external.reassertsSuppressed = before.external.reassertsSuppressed

theorem SetpointKept.trans {first second third : ZoneRuntime} (early : SetpointKept first second)
    (late : SetpointKept second third) : SetpointKept first third :=
  ⟨late.baselines.trans early.baselines, late.count.trans early.count⟩

theorem stageHoldRouting_kept (rt : ZoneRuntime) (i : TickInput) :
    SetpointKept rt (stageHoldRouting rt i).1 := by
  simp only [stageHoldRouting]
  split <;> exact ⟨rfl, rfl⟩

theorem stageModeAdoption_kept (rt : ZoneRuntime) (i : TickInput) (routing : HoldRoutingResult) :
    SetpointKept rt (stageModeAdoption rt i routing).1 := by
  simp only [stageModeAdoption, freezeModeReference]
  split
  next mode adopted => split <;> exact ⟨rfl, rfl⟩
  next =>
    split
    next ended => split <;> exact ⟨rfl, rfl⟩
    next => split <;> exact ⟨rfl, rfl⟩

theorem commitModeNudge_kept (rt : ZoneRuntime) (x : EffectExecution) (now : ℚ)
    (nudge : x.effectId = .modeNudge) : SetpointKept rt (commitEffect now rt x) := by
  obtain ⟨effectId, attempted, success, contextId, _, _, _, modeChanged, _⟩ := x
  cases nudge
  simp only [commitEffect, commitModeNudge, ExternalOverrideRuntime.register]
  cases attempted <;> cases success <;> cases contextId <;> cases modeChanged <;>
    exact ⟨rfl, rfl⟩

theorem commitFanWrite_kept (rt : ZoneRuntime) (x : EffectExecution) (now : ℚ)
    (fan : x.effectId = .fanWrite) : SetpointKept rt (commitEffect now rt x) := by
  obtain ⟨effectId, attempted, success, contextId, _, _, _, _, fanChanged, _⟩ := x
  cases fan
  simp only [commitEffect, commitFanWrite, ExternalOverrideRuntime.register]
  cases attempted <;> cases success <;> cases contextId <;> cases fanChanged <;>
    exact ⟨rfl, rfl⟩

theorem stageModeNudge_kept (rt : ZoneRuntime) (i : TickInput) (adoption : ModeAdoptionResult) :
    SetpointKept rt (stageModeNudge rt i adoption).1 := by
  simp only [stageModeNudge]
  split
  next held => exact ⟨rfl, rfl⟩
  next needed =>
    split
    next throttled => exact ⟨rfl, rfl⟩
    next due => exact commitModeNudge_kept rt (i.runModeNudge _ _) i.now rfl

theorem stageFanWrite_kept (rt : ZoneRuntime) (i : TickInput) :
    SetpointKept rt (stageFanWrite rt i) := by
  simp only [stageFanWrite]
  split
  next => exact ⟨rfl, rfl⟩
  next fan _ => exact commitFanWrite_kept rt (fan.run rt.external) i.now rfl

/-! ### The setpoint segment -/

/-- The running command episode, as the tick sees it: an offline actuator ends it. -/
def SetpointBaselines.episode (baselines : SetpointBaselines) (i : TickInput) : Option ℚ :=
  if i.actuatorOnline then baselines.cmdEpisodeTs else none

theorem endEpisodeOffline_cmdEpisodeTs (rt : ZoneRuntime) (i : TickInput) (ownChange : Bool) :
    (endEpisodeOffline (rebaselined rt.external i ownChange) i).cmdEpisodeTs =
      rt.setpoint.episode i := by
  simp only [endEpisodeOffline, SetpointBaselines.episode, rebaselined]
  split <;> split <;> rfl

theorem endEpisodeOffline_anchors (rt : ZoneRuntime) (i : TickInput) (ownChange : Bool) :
    let external := endEpisodeOffline (rebaselined rt.external i ownChange) i
    external.lastCmdSp = rt.setpoint.lastCmdSp ∧ external.prevDeviceSp = rt.setpoint.prevDeviceSp ∧
      external.lastSpWriteTs = rt.setpoint.lastSpWriteTs ∧
      external.lastSpCtxId = rt.setpoint.lastSpCtxId := by
  -- an own echo moves the echo baseline, a dropout the episode; the anchors are neither
  simp only [endEpisodeOffline, rebaselined, rebaselineOwnEcho]
  split <;> split <;> exact ⟨rfl, rfl, rfl, rfl⟩

theorem observe_idempotent {rt : ZoneRuntime} {i : TickInput} {ownChange modeNudge : Bool} :
    let spo := (stageSetpointObserve rt i ownChange modeNudge).2
    spo.reassertIdempotent ↔
      rt.setpoint.lastWrittenMode = some i.finalMode ∧
      sameTarget (snapToStep i.target i.step) rt.setpoint.lastCmdSp ∧
      (∃ episode, rt.setpoint.episode i = some episode ∧ episodeSettleMinS ≤ i.now - episode) ∧
      sameValue i.actualSp rt.setpoint.prevDeviceSp ∧ spo.settleProvenance.releasing ∧
      ∀ written, rt.setpoint.lastSpWriteTs = some written →
        written ≤ i.now ∧ i.now - written < reassertLivenessS := by
  obtain ⟨command, prev, stamp, _⟩ := endEpisodeOffline_anchors rt i ownChange
  simp only [stageSetpointObserve, reassertIdempotent_iff, command, prev, stamp,
    endEpisodeOffline_cmdEpisodeTs, decide_eq_false_iff_not, not_not]
  rfl

theorem observe_throttled {rt : ZoneRuntime} {i : TickInput} {ownChange modeNudge : Bool} :
    (stageSetpointObserve rt i ownChange modeNudge).2.reassertThrottled ↔
      rt.setpoint.lastWrittenMode = some i.finalMode ∧
      sameTarget (snapToStep i.target i.step) rt.setpoint.lastCmdSp ∧
      (rt.setpoint.episode i).isSome ∧
      ∃ written, rt.setpoint.lastSpWriteTs = some written ∧ written ≤ i.now ∧
        i.now - written < minSetpointReassertIntervalS := by
  obtain ⟨command, _, stamp, _⟩ := endEpisodeOffline_anchors rt i ownChange
  simp only [stageSetpointObserve, reassertThrottled_iff, command, stamp,
    endEpisodeOffline_cmdEpisodeTs, decide_eq_false_iff_not, not_not]
  rfl

theorem observe_releasing {rt : ZoneRuntime} {i : TickInput} {ownChange modeNudge : Bool} :
    let spo := (stageSetpointObserve rt i ownChange modeNudge).2
    spo.settleProvenance.releasing ↔
      (ownChange ∧ i.contextId = rt.setpoint.lastSpCtxId) ∨
      (¬ ownChange ∧ spo.spAdoptReason.detectorRan ∧
        ((∃ actual command, i.actualSp = some actual ∧ rt.setpoint.lastCmdSp = some command ∧
          distance actual command ≤ convergenceTolerance i.step) ∨
          sameValue i.actualSp rt.setpoint.prevDeviceSp)) := by
  obtain ⟨command, prev, _, _⟩ := endEpisodeOffline_anchors rt i ownChange
  simp only [stageSetpointObserve, classifySettle_releasing, command, prev]
  cases ownChange <;> simp [ZoneRuntime.setpoint]

theorem planSetpointWrite_cases (rt : ZoneRuntime) (i : TickInput) (adoption : ModeAdoptionResult)
    (nudge : ModeNudgeResult) (spo : SetpointObservation) :
    let plan := planSetpointWrite rt i adoption nudge spo
    (∃ target, i.target = .finite target ∧ writesSetpoint rt i nudge spo target = true ∧
      plan.writeSetpoint = true ∧ plan.snappedSetpoint = some (snapValue target spo.step)) ∨
    (plan.writeSetpoint = false ∧ plan.snappedSetpoint = none ∧
      ∀ target, i.target = .finite target → writesSetpoint rt i nudge spo target = false) := by
  simp only [planSetpointWrite]
  split
  next target finite =>
    cases writes : writesSetpoint rt i nudge spo target with
    | true => exact .inl ⟨target, finite, writes, rfl, rfl⟩
    | false =>
      refine .inr ⟨rfl, rfl, fun other same => ?_⟩
      obtain rfl : target = other := PyFloat.finite.inj (finite.symm.trans same)
      exact writes
  next notFinite => exact .inr ⟨rfl, rfl, fun target finite => absurd finite (notFinite target)⟩

theorem commitSetpointWrite_user {now : ℚ} {rt : ZoneRuntime} {x : EffectExecution}
    (write : x.effectId = .setpointWrite) : (commitEffect now rt x).user = rt.user := by
  cases sent : x.success with
  | false => simp [commitEffect, write, commitSetpointWrite, sent]
  | true => simp [commitEffect, write, commitSetpointWrite, ZoneRuntime.markActuated, sent]

theorem stageSetpointWrite_cases (rt : ZoneRuntime) (i : TickInput) (adoption : ModeAdoptionResult)
    (nudge : ModeNudgeResult) (spo : SetpointObservation) :
    let after := stageSetpointWrite rt i adoption nudge spo
    after.1.user = rt.user ∧
    ((∃ target, i.target = .finite target ∧ writesSetpoint rt i nudge spo target = true ∧
      after.2.writeSetpoint = true ∧
      after.1.external = commitSetpointBaselines rt.external
        (i.runSetpointWrite (snapValue target spo.step)) i.now) ∨
    (after.2.writeSetpoint = false ∧ after.1.setpoint = rt.setpoint ∧
      ∀ target, i.target = .finite target → writesSetpoint rt i nudge spo target = false)) := by
  -- a silent gate at most counts the suppressed re-assert
  simp only [stageSetpointWrite]
  cases planSetpointWrite_cases rt i adoption nudge spo with
  | inl written =>
    obtain ⟨target, finite, writes, planned, snapped⟩ := written
    simp only [snapped, commitReport, List.foldl]
    exact ⟨commitSetpointWrite_user rfl, .inl ⟨target, finite, writes, planned,
      commitEffect_setpointWrite rfl⟩⟩
  | inr silent =>
    obtain ⟨unplanned, nothing, holds⟩ := silent
    simp only [nothing]
    split
    next counted => exact ⟨rfl, .inr ⟨unplanned, rfl, holds⟩⟩
    next quiet => exact ⟨rfl, .inr ⟨unplanned, rfl, holds⟩⟩

/-! ### The tick -/

theorem modeSegments_kept (rt : ZoneRuntime) (i : TickInput) (routing : HoldRoutingResult) :
    SetpointKept rt (modeSegments rt i routing).1 := by
  simp only [modeSegments]
  exact (stageModeAdoption_kept rt i routing).trans
    ((stageModeNudge_kept _ i _).trans (stageFanWrite_kept _ i))

theorem stageSetpointWrite_plan (rt : ZoneRuntime) (i : TickInput) (adoption : ModeAdoptionResult)
    (nudge : ModeNudgeResult) (spo : SetpointObservation) :
    (stageSetpointWrite rt i adoption nudge spo).2 = planSetpointWrite rt i adoption nudge spo := by
  simp only [stageSetpointWrite]
  split
  next => rfl
  next => split <;> rfl

theorem stageHoldRouting_ownChange (rt : ZoneRuntime) (i : TickInput) :
    (stageHoldRouting rt i).2.ownChange = rt.external.isOwnWrite i.contextId := by
  simp only [stageHoldRouting]
  split <;> rfl

theorem actuationTick_regulated {rt : ZoneRuntime} {i : TickInput} {r : Regulation}
    (regulated : (actuationTick rt i).2.regulation = some r) :
    ∃ mid : ZoneRuntime, SetpointKept rt mid ∧
      ((actuationTick rt i).1, r) =
        regulateSetpoint mid i (stageHoldRouting rt i).2 r.adoption r.nudge := by
  -- routing, mode and fan segments run before it and move no setpoint baseline or count
  simp only [actuationTick] at regulated ⊢
  split at regulated
  next enabled =>
    rw [if_pos enabled]
    obtain rfl := Option.some.inj regulated
    exact ⟨(modeSegments (stageHoldRouting rt i).1 i (stageHoldRouting rt i).2).1,
      (stageHoldRouting_kept rt i).trans (modeSegments_kept _ i _), rfl⟩
  next resting => cases regulated

/-- The setpoint segment of a regulating tick, stage by stage: the observation from
the starting baselines, the adoption, and a gate that commits or stays silent. -/
theorem regulated_segment {rt : ZoneRuntime} {i : TickInput} {r : Regulation}
    (regulated : (actuationTick rt i).2.regulation = some r) :
    ∃ mid adopted : ZoneRuntime, mid.setpoint = rt.setpoint ∧
      r.observation = (stageSetpointObserve mid i (rt.external.isOwnWrite i.contextId)
        r.nudge.modeNudge).2 ∧
      adopted = (observeAndAdopt mid i (rt.external.isOwnWrite i.contextId) r.nudge.modeNudge
        r.adoption.modeAdoptReason).1 ∧
      (actuationTick rt i).1.user = adopted.user ∧
      ((∃ target, i.target = .finite target ∧
        writesSetpoint adopted i r.nudge r.observation target = true ∧
        r.plan.writeSetpoint = true ∧ (actuationTick rt i).1.external =
          commitSetpointBaselines adopted.external (i.runSetpointWrite (snapValue target i.step))
            i.now) ∨
      (r.plan.writeSetpoint = false ∧ (actuationTick rt i).1.setpoint = adopted.setpoint ∧
        ∀ target, i.target = .finite target →
          writesSetpoint adopted i r.nudge r.observation target = false)) := by
  obtain ⟨mid, kept, run⟩ := actuationTick_regulated regulated
  rw [← stageHoldRouting_ownChange]
  have result := congrArg Prod.snd run
  have post := congrArg Prod.fst run
  have observed := congrArg Regulation.observation result
  have planned := congrArg Regulation.plan result
  have step : r.observation.step = i.step := by
    rw [observed]
    rfl
  have dispatched : stageSetpointWrite (observeAndAdopt mid i (stageHoldRouting rt i).2.ownChange
      r.nudge.modeNudge r.adoption.modeAdoptReason).1 i r.adoption r.nudge r.observation =
      ((actuationTick rt i).1, r.plan) := by
    rw [observed]
    exact Prod.ext post.symm planned.symm
  obtain ⟨user, gate⟩ := stageSetpointWrite_cases
    (observeAndAdopt mid i (stageHoldRouting rt i).2.ownChange r.nudge.modeNudge
      r.adoption.modeAdoptReason).1 i r.adoption r.nudge r.observation
  rw [dispatched] at user gate
  rw [step] at gate
  exact ⟨mid, _, kept.baselines, observed, rfl, user, gate⟩

theorem regulated_modeChanged {rt : ZoneRuntime} {i : TickInput} {r : Regulation}
    (regulated : (actuationTick rt i).2.regulation = some r) :
    r.observation.modeChanged = decide (rt.setpoint.lastWrittenMode ≠ some i.finalMode) := by
  obtain ⟨mid, _, same, observed, _⟩ := regulated_segment regulated
  rw [observed, ← same]
  rfl

theorem regulated_idempotent {rt : ZoneRuntime} {i : TickInput} {r : Regulation}
    (regulated : (actuationTick rt i).2.regulation = some r) :
    r.observation.reassertIdempotent ↔
      rt.setpoint.lastWrittenMode = some i.finalMode ∧
      sameTarget (snapToStep i.target i.step) rt.setpoint.lastCmdSp ∧
      (∃ episode, rt.setpoint.episode i = some episode ∧ episodeSettleMinS ≤ i.now - episode) ∧
      sameValue i.actualSp rt.setpoint.prevDeviceSp ∧
      r.observation.settleProvenance.releasing ∧
      ∀ written, rt.setpoint.lastSpWriteTs = some written →
        written ≤ i.now ∧ i.now - written < reassertLivenessS := by
  obtain ⟨mid, _, same, observed, _⟩ := regulated_segment regulated
  rw [observed, ← same]
  exact observe_idempotent

theorem regulated_throttled {rt : ZoneRuntime} {i : TickInput} {r : Regulation}
    (regulated : (actuationTick rt i).2.regulation = some r) :
    r.observation.reassertThrottled ↔
      rt.setpoint.lastWrittenMode = some i.finalMode ∧
      sameTarget (snapToStep i.target i.step) rt.setpoint.lastCmdSp ∧
      (rt.setpoint.episode i).isSome ∧
      ∃ written, rt.setpoint.lastSpWriteTs = some written ∧ written ≤ i.now ∧
        i.now - written < minSetpointReassertIntervalS := by
  obtain ⟨mid, _, same, observed, _⟩ := regulated_segment regulated
  rw [observed, ← same]
  exact observe_throttled

theorem regulated_releasing {rt : ZoneRuntime} {i : TickInput} {r : Regulation}
    (regulated : (actuationTick rt i).2.regulation = some r) :
    r.observation.settleProvenance.releasing ↔
      (rt.external.isOwnWrite i.contextId ∧ i.contextId = rt.setpoint.lastSpCtxId) ∨
      (¬ rt.external.isOwnWrite i.contextId ∧ r.observation.spAdoptReason.detectorRan ∧
        ((∃ actual command, i.actualSp = some actual ∧ rt.setpoint.lastCmdSp = some command ∧
          distance actual command ≤ convergenceTolerance i.step) ∨
          sameValue i.actualSp rt.setpoint.prevDeviceSp)) := by
  obtain ⟨mid, _, same, observed, _⟩ := regulated_segment regulated
  rw [observed, ← same]
  exact observe_releasing

theorem regulated_reading {rt : ZoneRuntime} {i : TickInput} {r : Regulation} {d : ℚ}
    (regulated : (actuationTick rt i).2.regulation = some r)
    (adopting : r.observation.adoptedSp = some d) : i.actualSp = some d := by
  obtain ⟨mid, _, _, observed, _⟩ := regulated_segment regulated
  rw [observed] at adopting
  exact (observe_adopts.mp adopting).1

/-- When a regulating tick writes the setpoint. -/
theorem regulated_writes {rt : ZoneRuntime} {i : TickInput} {r : Regulation}
    (regulated : (actuationTick rt i).2.regulation = some r) :
    r.plan.writeSetpoint = true ↔
      ∃ target, i.target = .finite target ∧ i.actuatorOnline ∧ r.observation.adoptedSp = none ∧
        (actuationTick rt i).1.user.modeOverride ≠ some "off" ∧
        r.nudge.modeNudgeBlocked = none ∧ r.observation.regThrottled = false ∧
        r.observation.reassertIdempotent = false ∧ r.observation.reassertThrottled = false ∧
        shouldWrite i.actualSp (snapValue target i.step) r.observation.modeChanged
          writeDeadbandC := by
  obtain ⟨mid, adopted, _, observed, _, user, gate⟩ := regulated_segment regulated
  have reading : r.observation.actualSp = i.actualSp ∧ r.observation.step = i.step := by
    rw [observed]
    exact ⟨rfl, rfl⟩
  have unfolded : ∀ target, writesSetpoint adopted i r.nudge r.observation target = true ↔
      i.actuatorOnline ∧ r.observation.adoptedSp = none ∧
        (actuationTick rt i).1.user.modeOverride ≠ some "off" ∧
        r.nudge.modeNudgeBlocked = none ∧ r.observation.regThrottled = false ∧
        r.observation.reassertIdempotent = false ∧ r.observation.reassertThrottled = false ∧
        shouldWrite i.actualSp (snapValue target i.step) r.observation.modeChanged
          writeDeadbandC := by
    intro target
    rw [user]
    simp only [writesSetpoint, reading, Bool.and_eq_true, Bool.not_eq_true', decide_eq_true_eq,
      Option.isNone_iff_eq_none, and_assoc]
  constructor
  · intro planned
    cases gate with
    | inl written =>
      obtain ⟨target, finite, writes, _⟩ := written
      exact ⟨target, finite, (unfolded target).mp writes⟩
    | inr silent => simp [silent.1] at planned
  · intro ⟨target, finite, opened⟩
    cases gate with
    | inl written =>
      obtain ⟨_, _, _, planned, _⟩ := written
      exact planned
    | inr silent =>
      have held := silent.2.2 target finite
      simp [(unfolded target).mpr opened] at held

theorem regulated_value {rt : ZoneRuntime} {i : TickInput} {r : Regulation} {target : ℚ}
    (regulated : (actuationTick rt i).2.regulation = some r) (finite : i.target = .finite target)
    (writes : r.plan.writeSetpoint = true) : r.plan.rawSetpoint = some target := by
  obtain ⟨mid, _, run⟩ := actuationTick_regulated regulated
  have planned := congrArg (fun outcome => outcome.2.plan) run
  simp only [regulateSetpoint, stageSetpointWrite_plan] at planned
  rw [planned] at writes ⊢
  simp only [planSetpointWrite, finite] at writes ⊢
  split at writes
  next written => rw [if_pos written]
  next silent => cases writes

theorem regulated_detectorRan {rt : ZoneRuntime} {i : TickInput} {r : Regulation}
    {device written writtenAt : ℚ} (regulated : (actuationTick rt i).2.regulation = some r)
    (foreign : rt.external.isOwnWrite i.contextId = false) (reads : i.actualSp = some device)
    (baseline : rt.setpoint.lastWrittenSp = some written)
    (stamp : rt.setpoint.lastSpWriteTs = some writtenAt)
    (above : 0 < Rounding.roundTo (device - frostFloorC) 3)
    (idle : r.observation.adoptedSp = none) :
    r.observation.spAdoptReason.detectorRan ↔ (i.setpointGates false).letSetpoint := by
  -- a foreign reading is judged on the baselines the tick began with
  obtain ⟨mid, _, same, observed, _⟩ := regulated_segment regulated
  rw [observed, foreign] at idle ⊢
  simp only [stageSetpointObserve, rebaselined] at idle ⊢
  by_cases opened : (i.setpointGates false).letSetpoint
  · simp only [opened, iff_true, AdoptReason.adopted, observeSetpoint_open opened] at idle ⊢
    simp only [ZoneRuntime.setpoint, SetpointBaselines.mk.injEq] at same baseline stamp
    rw [same.1, same.2.2.1, reads, baseline, stamp] at idle ⊢
    apply setpointAdoptReason_ran above
    intro adopting
    simp [adopting] at idle
  · exact iff_of_false (observeSetpoint_closed opened).2 opened

/-- A regulating tick on which only the two re-assert gates can hold the target back. -/
structure GatesDecide (rt : ZoneRuntime) (i : TickInput) (r : Regulation) (target : ℚ) : Prop where
  regulated : (actuationTick rt i).2.regulation = some r
  online : i.actuatorOnline = true
  notOff : (actuationTick rt i).1.user.modeOverride ≠ some "off"
  finite : i.target = .finite target
  apart : ∃ actual, i.actualSp = some actual ∧
    writeDeadbandC ≤ distance (snapValue target i.step) actual
  idle : r.observation.adoptedSp = none
  unblocked : r.nudge.modeNudgeBlocked = none
  unthrottled : r.observation.regThrottled = false

theorem GatesDecide.writes_iff {rt : ZoneRuntime} {i : TickInput} {r : Regulation} {target : ℚ}
    (decides : GatesDecide rt i r target) :
    r.plan.writeSetpoint = true ↔
      r.observation.reassertIdempotent = false ∧ r.observation.reassertThrottled = false := by
  rw [regulated_writes decides.regulated]
  obtain ⟨actual, reads, apart⟩ := decides.apart
  constructor
  · intro ⟨_, _, _, _, _, _, _, idempotent, throttled, _⟩
    exact ⟨idempotent, throttled⟩
  · intro ⟨idempotent, throttled⟩
    refine ⟨target, decides.finite, decides.online, decides.idle, decides.notOff,
      decides.unblocked, decides.unthrottled, idempotent, throttled, ?_⟩
    simp [shouldWrite, reads, apart]

/-- After an adoption: the reading is remembered, it has become the echo baseline,
and the stamp of the last write is the tick's. -/
theorem regulated_adopting {rt : ZoneRuntime} {i : TickInput} {r : Regulation} {d : ℚ}
    (regulated : (actuationTick rt i).2.regulation = some r)
    (adopting : r.observation.adoptedSp = some d) :
    let after := (actuationTick rt i).1.setpoint
    after.prevDeviceSp = some d ∧ after.lastSpWriteTs = some i.now ∧
      after.lastWrittenSp = some (snapValue d i.step) ∧
      0 < Rounding.roundTo (d - frostFloorC) 3 := by
  obtain ⟨mid, adopted, _, observed, committed, _, gate⟩ := regulated_segment regulated
  rw [observed] at adopting
  have after := observe_adopting mid i _ r.nudge.modeNudge r.adoption.modeAdoptReason adopting
  obtain ⟨reads, _, _, _, _, _, _, above, _⟩ := observe_adopts.mp adopting
  cases gate with
  | inl written =>
    -- an adopting tick skips its write
    obtain ⟨_, _, writes, _⟩ := written
    simp [writesSetpoint, observed, adopting] at writes
  | inr silent =>
    simp only [silent.2.1]
    simp only [ZoneRuntime.setpoint, committed, after]
    exact ⟨reads, rfl, rfl, above⟩

theorem regulated_dispatched {rt : ZoneRuntime} {i : TickInput} {r : Regulation}
    (regulated : (actuationTick rt i).2.regulation = some r)
    (writes : r.plan.writeSetpoint = true) (sent : i.setpointDispatch.sent = true) :
    let after := (actuationTick rt i).1.setpoint
    after.lastSpWriteTs = some i.now ∧ after.cmdEpisodeTs.isSome ∧
      ∃ target, i.target = .finite target ∧ after.lastCmdSp = some (snapValue target i.step) := by
  -- whether the command is new or repeated, an episode runs after its dispatch
  obtain ⟨_, adopted, _, _, _, _, gate⟩ := regulated_segment regulated
  cases gate with
  | inl written =>
    obtain ⟨target, finite, _, _, committed⟩ := written
    have success : (i.runSetpointWrite (snapValue target i.step)).success = true := sent
    obtain ⟨stamp, _, command, episode⟩ :=
      commitSetpointBaselines_sent adopted.external i.now success
    simp only [ZoneRuntime.setpoint, committed]
    exact ⟨stamp, episode, target, finite, command⟩
  | inr silent => simp [silent.1] at writes

/-- After a tick that neither adopts nor writes, only an offline actuator has moved
what the gates measure against. -/
theorem regulated_silent {rt : ZoneRuntime} {i : TickInput} {r : Regulation}
    (regulated : (actuationTick rt i).2.regulation = some r)
    (idle : r.observation.adoptedSp = none) (silent : r.plan.writeSetpoint = false) :
    let after := (actuationTick rt i).1.setpoint
    after.lastSpWriteTs = rt.setpoint.lastSpWriteTs ∧ after.lastCmdSp = rt.setpoint.lastCmdSp ∧
      after.cmdEpisodeTs = rt.setpoint.episode i := by
  obtain ⟨mid, adopted, same, observed, committed, _, gate⟩ := regulated_segment regulated
  rw [observed] at idle
  have after := observe_idle mid i _ r.nudge.modeNudge r.adoption.modeAdoptReason idle
  obtain ⟨command, _, stamp, _⟩ :=
    endEpisodeOffline_anchors mid i (rt.external.isOwnWrite i.contextId)
  have episode := endEpisodeOffline_cmdEpisodeTs mid i (rt.external.isOwnWrite i.contextId)
  cases gate with
  | inl written =>
    obtain ⟨_, _, _, planned, _⟩ := written
    simp [silent] at planned
  | inr quiet =>
    rw [same] at command stamp episode
    simp only [quiet.2.1]
    simp only [committed, ZoneRuntime.setpoint, after] at *
    exact ⟨stamp, command, episode⟩

/-! ### Events that do not regulate -/

/-- At most a safety floor was sent: the command may be gone, all else stands. -/
structure SafetyOnly (before after : SetpointBaselines) : Prop where
  prev : after.prevDeviceSp = before.prevDeviceSp
  stamp : after.lastSpWriteTs = before.lastSpWriteTs
  episode : after.cmdEpisodeTs = before.cmdEpisodeTs
  command : (after.lastWrittenSp = before.lastWrittenSp ∧ after.lastCmdSp = before.lastCmdSp) ∨
    (after.lastWrittenSp = none ∧ after.lastCmdSp = none)

theorem SafetyOnly.refl (baselines : SetpointBaselines) : SafetyOnly baselines baselines :=
  ⟨rfl, rfl, rfl, .inl ⟨rfl, rfl⟩⟩

theorem SafetyOnly.trans {before between after : SetpointBaselines}
    (first : SafetyOnly before between) (second : SafetyOnly between after) :
    SafetyOnly before after where
  prev := second.prev.trans first.prev
  stamp := second.stamp.trans first.stamp
  episode := second.episode.trans first.episode
  command := by
    cases second.command with
    | inr cleared => exact .inr cleared
    | inl kept =>
      cases first.command with
      | inl same => exact .inl ⟨kept.1.trans same.1, kept.2.trans same.2⟩
      | inr cleared => exact .inr ⟨kept.1.trans cleared.1, kept.2.trans cleared.2⟩

def EffectId.safety : EffectId → Bool
  | .rescueNudge | .rescueWrite | .safeMode | .safeSetpoint => true
  | _ => false

theorem commitEffect_safety (rt : ZoneRuntime) (x : EffectExecution) (now : ℚ)
    (safety : x.effectId.safety) : SafetyOnly rt.setpoint (commitEffect now rt x).setpoint := by
  obtain ⟨effectId, _, success, _⟩ := x
  cases effectId <;> cases safety <;> cases success
  all_goals first
    | exact ⟨rfl, rfl, rfl, .inl ⟨rfl, rfl⟩⟩
    | exact ⟨rfl, rfl, rfl, .inr ⟨rfl, rfl⟩⟩

theorem commitReport_safety (rt : ZoneRuntime) (report : List EffectExecution) (now : ℚ)
    (safety : ∀ x ∈ report, x.effectId.safety) :
    SafetyOnly rt.setpoint (commitReport now rt report).setpoint := by
  induction report generalizing rt with
  | nil => exact SafetyOnly.refl _
  | cons x rest ih =>
    have first := commitEffect_safety rt x now (safety x (by simp))
    exact first.trans (ih (commitEffect now rt x) fun y member => safety y (by simp [member]))

theorem stageFrostRescue_safety (rt : ZoneRuntime) (i : TickInput) (routing : HoldRoutingResult) :
    SafetyOnly rt.setpoint (stageFrostRescue rt i routing).1.setpoint := by
  simp only [stageFrostRescue]
  split
  next floor _ =>
    split
    next offline => exact SafetyOnly.refl _
    next online =>
      have floors : ∀ nudge, ∀ x ∈ i.runFrostRescue floor nudge, x.effectId.safety := by
        intro nudge x member
        simp only [TickInput.runFrostRescue] at member
        cases nudge <;> simp at member <;> grind [EffectId.safety]
      have sent := commitReport_safety rt (i.runFrostRescue floor
        (i.deviceMode ≠ some "heat" ∧ "heat" ∈ i.actModes)) i.now (floors _)
      split
      next held => exact sent
      next => exact sent
  next => exact SafetyOnly.refl _

/-- An event that does not regulate leaves the setpoint channel to a safety floor. -/
theorem zoneStep_resting {rt : ZoneRuntime} {event : ZoneEvent}
    (resting : ∀ outcome, (zoneStep rt event).2 = some outcome → outcome.regulation = none) :
    SafetyOnly rt.setpoint (zoneStep rt event).1.setpoint := by
  cases event with
  | tick i =>
    have unregulated : (actuationTick rt i).2.regulation = none := resting _ rfl
    show SafetyOnly rt.setpoint (actuationTick rt i).1.setpoint
    simp only [actuationTick] at unregulated ⊢
    split at unregulated
    next enabled => cases unregulated
    next disabled =>
      rw [if_neg disabled, ← (stageHoldRouting_kept rt i).baselines]
      exact stageFrostRescue_safety _ _ _
  | safeState plan modeSent setpointSent =>
    apply commitReport_safety
    intro x member
    simp only [SafeStatePlan.run, List.mem_append] at member
    grind [EffectId.safety]
  | command c => exact SafetyOnly.refl _

end Poise
