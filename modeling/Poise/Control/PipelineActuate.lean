import Poise.Control.ExternalOverride

/-!
# The actuation pipeline

The ordered segments of one tick (`control/pipeline_actuate.py`,
`ha/phase_actuate.py`): mode nudge, fan write, setpoint observation, setpoint
gate and write, and the rescue that stands in for them while the zone does not
regulate. A segment that dispatches a call commits its report at once.
-/
namespace Poise

def commitReport (now : ℚ) (rt : ZoneRuntime) (report : List EffectExecution) : ZoneRuntime :=
  report.foldl (commitEffect now) rt

/-! ### Mode nudge and fan -/

def TickInput.runModeNudge (i : TickInput) (desiredHvac : String) (modeChanged : Bool) :
    EffectExecution where
  effectId := .modeNudge
  attempted := true
  success := i.nudgeDispatch.sent
  contextId := some i.nudgeDispatch.contextId
  commandedMode := some desiredHvac
  modeChanged := modeChanged

def TickInput.nudgeNeeded (i : TickInput) (desiredHvac : String) : Bool :=
  needsModeNudge i.deviceMode desiredHvac (desiredHvac ∈ i.actModes)

def TickInput.nudgeBlocked (i : TickInput) (desiredHvac : String) : Option String :=
  if i.nudgeNeeded desiredHvac then i.guardBlock else none

def stageModeNudge (rt : ZoneRuntime) (i : TickInput) (adoption : ModeAdoptionResult) :
    ZoneRuntime × ModeNudgeResult :=
  let desired := adoption.desiredHvac
  let blocked := i.nudgeBlocked desired
  let result : ModeNudgeResult :=
    { modeNudge := false, guardBlock := i.guardBlock, modeNudgeBlocked := blocked }
  if ¬ i.nudgeNeeded desired ∨ blocked.isSome then (rt, result)
  else if modeReassertThrottled desired rt.external.lastCommandedHvac rt.external.lastModeNudgeTs
      i.now then
    ({ rt with external := { rt.external with
        modeReassertsSuppressed := rt.external.modeReassertsSuppressed + 1 } }, result)
  else
    -- the change is judged against the baseline before the stamp moves it
    let modeChanged := some desired ≠ rt.external.lastCommandedHvac
    (commitReport i.now rt [i.runModeNudge desired modeChanged], { result with modeNudge := true })

def FanWrite.run (fan : FanWrite) (external : ExternalOverrideRuntime) : EffectExecution where
  effectId := .fanWrite
  attempted := true
  success := fan.dispatch.sent
  contextId := some fan.dispatch.contextId
  commandedMode := some fan.stage
  fanChanged := some fan.stage ≠ external.lastCommandedFan

def stageFanWrite (rt : ZoneRuntime) (i : TickInput) : ZoneRuntime :=
  match i.fanWrite with
  | none => rt
  | some fan => commitReport i.now rt [fan.run rt.external]

/-! ### Setpoint observation -/

def TickInput.setpointGates (i : TickInput) (ownChange : Bool) : AdoptGates where
  adoptEnabled := i.adoptExternalSetpoint
  schedActive := i.schedActive
  ownChange := ownChange
  windowOpen := i.windowOpen
  frozen := i.frozen

def rebaselined (external : ExternalOverrideRuntime) (i : TickInput) (ownChange : Bool) :
    ExternalOverrideRuntime :=
  match ownChange, i.actualSp with
  | true, some actual => rebaselineOwnEcho external actual
  | _, _ => external

def endEpisodeOffline (external : ExternalOverrideRuntime) (i : TickInput) :
    ExternalOverrideRuntime :=
  -- an offline actuator ends the command episode
  if i.actuatorOnline then external
  else { external with cmdEpisodeTs := none, reassertsSuppressed := 0 }

/-- Observe the reported setpoint and judge both re-assert gates. -/
def stageSetpointObserve (rt : ZoneRuntime) (i : TickInput) (ownChange modeNudge : Bool) :
    ZoneRuntime × SetpointObservation :=
  let modeChanged := rt.actuator.lastWrittenMode ≠ some i.finalMode
  let regThrottled :=
    rt.dynamics.selfRegulating && ! modeChanged && ! modeNudge && ! i.windowOpen &&
      rt.user.override.isNone && ! i.frozen &&
      regulationThrottled i.now rt.external.lastSpWriteTs rt.dynamics.regulationPeriodS
  let stale := ownChange ∧ i.contextId ≠ rt.external.lastSpCtxId
  let external := rebaselined rt.external i ownChange
  let reason := observeSetpoint external (i.setpointGates ownChange) i.actualSp i.now
    setpointAdoptEchoWindowS i.adoptDeadband frostFloorC
  let external := endEpisodeOffline external i
  let provenance := classifySettle ownChange stale i.actualSp external.lastCmdSp
    external.prevDeviceSp (convergenceTolerance i.step) reason
  let target := snapToStep i.target i.step
  ({ rt with external },
    { actualSp := i.actualSp
      step := i.step
      modeChanged
      regThrottled
      adoptedSp := reason.adopted i.actualSp
      spAdoptReason := reason
      staleOwnEcho := stale
      settleProvenance := provenance
      reassertIdempotent := reassertIdempotent target external.lastCmdSp i.actualSp
        external.prevDeviceSp provenance external.cmdEpisodeTs external.lastSpWriteTs i.now
        modeChanged
      reassertThrottled := reassertThrottled target external.lastCmdSp external.cmdEpisodeTs
        external.lastSpWriteTs i.now modeChanged })

/-! ### Setpoint gate and write -/

def writesSetpoint (rt : ZoneRuntime) (i : TickInput) (nudge : ModeNudgeResult)
    (spo : SetpointObservation) (target : ℚ) : Bool :=
  i.actuatorOnline && spo.adoptedSp.isNone && rt.user.modeOverride ≠ some "off" &&
    nudge.modeNudgeBlocked.isNone && ! spo.regThrottled && ! spo.reassertIdempotent &&
    ! spo.reassertThrottled &&
    shouldWrite spo.actualSp (snapValue target spo.step) spo.modeChanged writeDeadbandC

/-- `plan_setpoint_write`; a target that is not finite never goes on the wire. -/
def planSetpointWrite (rt : ZoneRuntime) (i : TickInput) (adoption : ModeAdoptionResult)
    (nudge : ModeNudgeResult) (spo : SetpointObservation) : ActuatorPlan :=
  let silent : ActuatorPlan :=
    { writeMode := nudge.modeNudge
      hvacMode := adoption.desiredHvac
      writeSetpoint := false
      snappedSetpoint := none
      rawSetpoint := none
      reason := "tick" }
  match i.target with
  | .finite target =>
    if writesSetpoint rt i nudge spo target then
      { silent with
        writeSetpoint := true
        snappedSetpoint := some (snapValue target spo.step)
        rawSetpoint := some target }
    else silent
  | _ => silent

def TickInput.runSetpointWrite (i : TickInput) (snapped : ℚ) : EffectExecution where
  effectId := .setpointWrite
  attempted := true
  success := i.setpointDispatch.sent
  contextId := some i.setpointDispatch.contextId
  preWriteValue := i.actualSp
  -- the commit stamps the snapped value, never the raw one
  commandedValue := some snapped
  commandedMode := some i.finalMode

def stageSetpointWrite (rt : ZoneRuntime) (i : TickInput) (adoption : ModeAdoptionResult)
    (nudge : ModeNudgeResult) (spo : SetpointObservation) : ZoneRuntime × ActuatorPlan :=
  let plan := planSetpointWrite rt i adoption nudge spo
  match plan.snappedSetpoint with
  | some snapped => (commitReport i.now rt [i.runSetpointWrite snapped], plan)
  | none =>
    -- a silenced re-assert is counted
    if spo.reassertIdempotent || spo.reassertThrottled then
      ({ rt with external := { rt.external with
          reassertsSuppressed := rt.external.reassertsSuppressed + 1 } }, plan)
    else (rt, plan)

/-! ### Rescue and safe state -/

def TickInput.runFrostRescue (i : TickInput) (rescue : ℚ) (nudge : Bool) : List EffectExecution :=
  -- a failed nudge never skips the floor
  let write : EffectExecution :=
    { effectId := .rescueWrite
      attempted := true
      success := i.rescueWriteSent
      commandedValue := some rescue }
  if nudge then
    [{ effectId := .rescueNudge
       attempted := true
       success := i.rescueNudgeSent
       commandedMode := some "heat" }, write]
  else [write]

/-- The disabled or off-held path: only the health floor is written. -/
def stageFrostRescue (rt : ZoneRuntime) (i : TickInput) (routing : HoldRoutingResult) :
    ZoneRuntime × Option ActuatorPlan :=
  let rescueOk := ! routing.offHeld || i.room ≤ frostFloorC ||
    i.moldMin.any fun mold => i.room ≤ mold
  let rescue := if rescueOk then
    frostRescueTarget i.canHeat i.actualSp i.deviceMode frostFloorC i.moldMin writeDeadbandC
    else none
  match rescue with
  | some floor =>
    if ¬ i.actuatorOnline then (rt, none)
    else
      let nudge := i.deviceMode ≠ some "heat" ∧ "heat" ∈ i.actModes
      let rt := commitReport i.now rt (i.runFrostRescue floor nudge)
      -- the hold ends whether or not the calls went out
      let rt := if routing.offHeld then (teardownHold rt "frost_rescue").1 else rt
      (rt, some {
        writeMode := nudge
        hvacMode := "heat"
        writeSetpoint := true
        snappedSetpoint := none
        rawSetpoint := some floor
        reason := "frost_rescue" })
  | none => (rt, none)

structure SafeStatePlan where
  hvacMode : String
  setpoint : Option ℚ
  writeMode : Bool
  writeSetpoint : Bool
  deriving DecidableEq, Repr

def SafeStatePlan.run (plan : SafeStatePlan) (modeSent setpointSent : Bool) :
    List EffectExecution :=
  -- a failed mode call skips the setpoint
  let reached := ! plan.writeMode || modeSent
  (if plan.writeMode then
    [{ effectId := .safeMode
       attempted := true
       success := modeSent
       commandedMode := some plan.hvacMode }] else []) ++
  (if plan.writeSetpoint && plan.setpoint.isSome then
    [{ effectId := .safeSetpoint
       attempted := reached
       success := reached && setpointSent
       commandedValue := plan.setpoint }] else [])

/-! ### The tick -/

structure Regulation where
  adoption : ModeAdoptionResult
  nudge : ModeNudgeResult
  observation : SetpointObservation
  plan : ActuatorPlan
  deriving DecidableEq, Repr

structure TickOutcome where
  routing : HoldRoutingResult
  -- Nothing on the disabled or off-held path.
  regulation : Option Regulation
  rescuePlan : Option ActuatorPlan
  deriving DecidableEq, Repr

def observeAndAdopt (rt : ZoneRuntime) (i : TickInput) (ownChange modeNudge : Bool)
    (modeAdoptReason : AdoptReason) : ZoneRuntime × SetpointObservation :=
  let (rt, spo) := stageSetpointObserve rt i ownChange modeNudge
  (stageSetpointAdopt rt i spo modeAdoptReason, spo)

def regulateSetpoint (rt : ZoneRuntime) (i : TickInput) (routing : HoldRoutingResult)
    (adoption : ModeAdoptionResult) (nudge : ModeNudgeResult) : ZoneRuntime × Regulation :=
  let (rt, spo) := observeAndAdopt rt i routing.ownChange nudge.modeNudge adoption.modeAdoptReason
  let (rt, plan) := stageSetpointWrite rt i adoption nudge spo
  (rt, { adoption, nudge, observation := spo, plan })

def modeSegments (rt : ZoneRuntime) (i : TickInput) (routing : HoldRoutingResult) :
    ZoneRuntime × ModeAdoptionResult × ModeNudgeResult :=
  let (rt, adoption) := stageModeAdoption rt i routing
  let (rt, nudge) := stageModeNudge rt i adoption
  (stageFanWrite rt i, adoption, nudge)

/-- The actuation part of a tick (`resume_prepare`), segment by segment. -/
def actuationTick (rt : ZoneRuntime) (i : TickInput) : ZoneRuntime × TickOutcome :=
  let (rt, routing) := stageHoldRouting rt i
  if rt.user.enabled ∧ ¬ routing.offHeld then
    let (rt, adoption, nudge) := modeSegments rt i routing
    let (rt, regulation) := regulateSetpoint rt i routing adoption nudge
    (rt, { routing, regulation := some regulation, rescuePlan := none })
  else
    let (rt, rescuePlan) := stageFrostRescue rt i routing
    (rt, { routing, regulation := none, rescuePlan })

/-! ### The zone -/

/-- The commands a user gives between ticks that reach the modelled state. -/
inductive UserCommand where
  | setEnabled (value : Bool)
  | setOverride (value : Option PyFloat) (reason : Option String) (ctx : HoldContext)
  | endHold (reason : String)
  deriving DecidableEq, Repr

def UserCommand.apply (user : UserControlState) : UserCommand → UserControlState
  | .setEnabled value => { user with enabled := value }
  | .setOverride value reason ctx => (Poise.setOverride user value reason ctx).1
  | .endHold reason => (Poise.endHold user reason).1

/-- Everything that happens to a zone: a tick, a safe-state write while the room
sensor is gone, a user command. -/
inductive ZoneEvent where
  | tick (i : TickInput)
  | safeState (plan : SafeStatePlan) (modeSent setpointSent : Bool)
  | command (c : UserCommand)
  deriving DecidableEq, Repr

def zoneStep (rt : ZoneRuntime) : ZoneEvent → ZoneRuntime × Option TickOutcome
  | .tick i =>
    let (rt, outcome) := actuationTick rt i
    (rt, some outcome)
  | .safeState plan modeSent setpointSent =>
    -- no instant is needed: the safe-state effects stamp none
    (commitReport 0 rt (plan.run modeSent setpointSent), none)
  | .command c => ({ rt with user := c.apply rt.user, dirty := true }, none)

end Poise
