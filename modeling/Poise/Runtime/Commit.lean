import Poise.Control.Override

/-!
# The commit

`ZoneRuntime.commit_execution`: the one place that changes a zone after its
calls went out. Executions are folded in call order. An attempt leaves only the
pre-write reading and the context id; the baselines, stamps and counters move on
success, which means that the call was dispatched.
-/
namespace Poise

def externalFeedDeadbandK : ℚ := 0.1

inductive EffectId where
  | modeNudge
  | fanWrite
  | setpointWrite
  | extSelect
  | extFeed
  | rescueNudge
  | rescueWrite
  | safeMode
  | safeSetpoint
  | calWrite
  | calRestore
  deriving DecidableEq, Repr

structure EffectExecution where
  effectId : EffectId
  attempted : Bool
  success : Bool
  contextId : Option String := none
  preWriteValue : Option ℚ := none
  commandedValue : Option ℚ := none
  commandedMode : Option String := none
  modeChanged : Bool := false
  fanChanged : Bool := false
  entityId : Option String := none
  dispatchWallTs : Option ℚ := none
  deriving DecidableEq, Repr

/-! ### The write census -/

inductive WriteChannel where
  | setpoint
  | mode
  | externalTemp
  | calibration
  | select
  deriving DecidableEq, Repr

def EffectId.writeChannel : EffectId → Option WriteChannel
  -- `_WRITE_CHANNELS`; a fan stage is not one of the five.
  | .setpointWrite | .rescueWrite | .safeSetpoint => some .setpoint
  | .modeNudge | .rescueNudge | .safeMode => some .mode
  | .extFeed => some .externalTemp
  | .calWrite | .calRestore => some .calibration
  | .extSelect => some .select
  | .fanWrite => none

def ActuatorRuntime.count (actuator : ActuatorRuntime) : Option WriteChannel → ActuatorRuntime
  | some .setpoint => { actuator with setpointWrites := actuator.setpointWrites + 1 }
  | some .mode => { actuator with modeWrites := actuator.modeWrites + 1 }
  | some .externalTemp => { actuator with externalTempWrites := actuator.externalTempWrites + 1 }
  | some .calibration => { actuator with calibrationWrites := actuator.calibrationWrites + 1 }
  | some .select => { actuator with selectWrites := actuator.selectWrites + 1 }
  | none => actuator

/-! ### One effect -/

def ExternalOverrideRuntime.register (external : ExternalOverrideRuntime) (x : EffectExecution) :
    ExternalOverrideRuntime :=
  -- The context id of a tagged call registers when it is created.
  match x.attempted, x.contextId with
  | true, some id => { external with ownWriteCtxIds := external.ownWriteCtxIds.append id }
  | _, _ => external

def commitModeNudge (external : ExternalOverrideRuntime) (x : EffectExecution) (now : ℚ) :
    ExternalOverrideRuntime :=
  let external := external.register x
  if ¬ x.success then external
  else
    -- identical re-nudges must not re-arm the echo window
    let external := if x.modeChanged then
      { external with lastHvacCmdTs := some now, modeReassertsSuppressed := 0 } else external
    { external with lastModeNudgeTs := some now, lastCommandedHvac := x.commandedMode }

def attemptSetpoint (external : ExternalOverrideRuntime) (x : EffectExecution) :
    ExternalOverrideRuntime :=
  -- survives a failed dispatch
  let external := if x.attempted then
    { external with preWriteSp := x.preWriteValue } else external
  external.register x

def beginEpisode (external : ExternalOverrideRuntime) (commandedValue : Option ℚ) (now : ℚ) :
    ExternalOverrideRuntime :=
  -- an identical re-assert leaves a running episode alone
  if external.lastCmdSp ≠ commandedValue ∨ external.cmdEpisodeTs = none then
    { external with cmdEpisodeTs := some now, reassertsSuppressed := 0 }
  else external

def commitSetpointBaselines (external : ExternalOverrideRuntime) (x : EffectExecution) (now : ℚ) :
    ExternalOverrideRuntime :=
  let external := attemptSetpoint external x
  if ¬ x.success then external
  else
    { beginEpisode external x.commandedValue now with
      lastSpWriteTs := some now
      lastWrittenSp := x.commandedValue
      lastCmdSp := x.commandedValue
      lastSpCtxId := x.contextId }

def commitSetpointWrite (rt : ZoneRuntime) (x : EffectExecution) (now : ℚ) : ZoneRuntime :=
  let rt := { rt with external := commitSetpointBaselines rt.external x now }
  if ¬ x.success then rt
  else
    ({ rt with
        actuator := { rt.actuator with lastWrittenMode := x.commandedMode } }).markActuated

def commitExtFeed (actuator : ActuatorRuntime) (x : EffectExecution) (now : ℚ) : ActuatorRuntime :=
  if ¬ x.success then actuator
  else
    let moved := x.commandedValue.any fun fed =>
      shouldWrite actuator.lastFed fed false externalFeedDeadbandK
    { actuator with
      externalTempWritesDeadband := actuator.externalTempWritesDeadband + if moved then 1 else 0
      lastFed := x.commandedValue
      lastFedTs := now }

def clearCommand (external : ExternalOverrideRuntime) : ExternalOverrideRuntime :=
  -- a safety floor is nobody's setpoint
  { external with lastWrittenSp := none, lastCmdSp := none, lastSpCtxId := none }

def commitFanWrite (external : ExternalOverrideRuntime) (x : EffectExecution) (now : ℚ) :
    ExternalOverrideRuntime :=
  let external := external.register x
  if ¬ x.success then external
  else
    let external := if x.fanChanged then { external with lastFanCmdTs := some now } else external
    { external with lastCommandedFan := x.commandedMode }

def commitCalWrite (rt : ZoneRuntime) (x : EffectExecution) (now : ℚ) : ZoneRuntime :=
  -- The first successful write owns the device's offset.
  if ¬ x.success then rt
  else
    let rt := if rt.actuator.calBaseline = none then
      { rt with
        actuator := { rt.actuator with calBaseline := x.preWriteValue, calEntity := x.entityId }
        dirty := true }
      else rt
    { rt with actuator := { rt.actuator with
      lastCalValue := x.commandedValue
      lastCalWriteTs := some now
      lastCalDispatchWallTs := x.dispatchWallTs } }

/-- The state change of one execution, at the tick's instant. -/
def commitEffect (now : ℚ) (rt : ZoneRuntime) (x : EffectExecution) : ZoneRuntime :=
  let rt := if x.success then
    { rt with actuator := rt.actuator.count x.effectId.writeChannel } else rt
  match x.effectId with
  | .modeNudge => { rt with external := commitModeNudge rt.external x now }
  | .setpointWrite => commitSetpointWrite rt x now
  | .extSelect => rt
  | .extFeed => { rt with actuator := commitExtFeed rt.actuator x now }
  | .rescueNudge =>
    if ¬ x.success then rt
    else
      { rt with external := { rt.external with
        lastCommandedHvac := x.commandedMode
        lastHvacCmdTs := some now } }
  | .rescueWrite =>
    if ¬ x.success then rt
    else ({ rt with external := clearCommand rt.external }).markActuated
  | .safeMode =>
    if ¬ x.success then rt
    else
      { rt with
        actuator := { rt.actuator with lastWrittenMode := x.commandedMode }
        external := { rt.external with lastCommandedHvac := x.commandedMode } }
  | .safeSetpoint =>
    if ¬ x.success then rt
    else
      ({ rt with
        actuator := { rt.actuator with lastTarget := x.commandedValue }
        external := clearCommand rt.external }).markActuated
  | .fanWrite => { rt with external := commitFanWrite rt.external x now }
  | .calWrite => commitCalWrite rt x now
  | .calRestore =>
    if ¬ x.success then rt
    else { rt with actuator := { rt.actuator with lastCalRestoreTs := some now } }

theorem commitEffect_modeNudge {now : ℚ} {rt : ZoneRuntime} {x : EffectExecution}
    (nudge : x.effectId = .modeNudge) :
    (commitEffect now rt x).external = commitModeNudge rt.external x now := by
  simp only [commitEffect, nudge]
  split <;> rfl

theorem commitEffect_setpointWrite {now : ℚ} {rt : ZoneRuntime} {x : EffectExecution}
    (write : x.effectId = .setpointWrite) :
    (commitEffect now rt x).external = commitSetpointBaselines rt.external x now := by
  cases sent : x.success with
  | false => simp [commitEffect, write, commitSetpointWrite, sent]
  | true => simp [commitEffect, write, commitSetpointWrite, ZoneRuntime.markActuated, sent]

theorem beginEpisode_running (external : ExternalOverrideRuntime) (commandedValue : Option ℚ)
    (now : ℚ) : (beginEpisode external commandedValue now).cmdEpisodeTs.isSome := by
  unfold beginEpisode
  split
  next fresh => rfl
  next running =>
    rw [not_or] at running
    exact Option.isSome_iff_ne_none.mpr running.2

theorem beginEpisode_readings (external : ExternalOverrideRuntime) (commandedValue : Option ℚ)
    (now : ℚ) :
    (beginEpisode external commandedValue now).preWriteSp = external.preWriteSp ∧
      (beginEpisode external commandedValue now).prevDeviceSp = external.prevDeviceSp := by
  unfold beginEpisode
  split <;> exact ⟨rfl, rfl⟩

theorem attemptSetpoint_attempted (external : ExternalOverrideRuntime) {x : EffectExecution}
    (attempted : x.attempted = true) :
    let after := attemptSetpoint external x
    after.preWriteSp = x.preWriteValue ∧ after.prevDeviceSp = external.prevDeviceSp ∧
      after.lastWrittenSp = external.lastWrittenSp ∧
      after.lastSpWriteTs = external.lastSpWriteTs := by
  simp only [attemptSetpoint, attempted, ExternalOverrideRuntime.register]
  split <;> exact ⟨rfl, rfl, rfl, rfl⟩

theorem commitSetpointBaselines_sent (external : ExternalOverrideRuntime) {x : EffectExecution}
    (now : ℚ) (sent : x.success = true) :
    let after := commitSetpointBaselines external x now
    after.lastSpWriteTs = some now ∧ after.lastWrittenSp = x.commandedValue ∧
      after.lastCmdSp = x.commandedValue ∧ after.cmdEpisodeTs.isSome := by
  have running := beginEpisode_running (attemptSetpoint external x) x.commandedValue now
  simp only [commitSetpointBaselines, sent]
  exact ⟨rfl, rfl, rfl, running⟩

@[simp] theorem register_prevDeviceMode (external : ExternalOverrideRuntime) (x : EffectExecution) :
    (external.register x).prevDeviceMode = external.prevDeviceMode := by
  unfold ExternalOverrideRuntime.register
  split <;> rfl

theorem commitModeNudge_prevDeviceMode (external : ExternalOverrideRuntime) (x : EffectExecution)
    (now : ℚ) : (commitModeNudge external x now).prevDeviceMode = external.prevDeviceMode := by
  simp only [commitModeNudge]
  split
  next failed => simp
  next sent => split <;> simp

/-! ### The report -/

def EffectExecution.needsNow (x : EffectExecution) : Bool :=
  x.success &&
    match x.effectId with
    | .modeNudge | .setpointWrite | .extFeed | .rescueNudge | .calWrite | .calRestore => true
    | .fanWrite => x.fanChanged
    | .extSelect | .rescueWrite | .safeMode | .safeSetpoint => false

structure EndHold where
  -- `EndHold`: end the active hold after the execution.
  reason : String
  requireSuccess : Bool := false
  deriving DecidableEq, Repr

inductive CommitError where
  -- `"<effect> commit needs now="`.
  | needsNow (effect : EffectId)
  -- `EndHold(require_success=True)` has no defined semantics.
  | requireSuccess
  deriving DecidableEq, Repr

def teardownHold (rt : ZoneRuntime) (reason : String) : ZoneRuntime × OverrideEnded :=
  -- The hold teardown of a post-action; its event is fired by the caller.
  let (user, ended) := endHold rt.user reason
  ({ rt with user, dirty := true }, ended)

def commitEffects (now : Option ℚ) :
    ZoneRuntime → List EffectExecution → Except CommitError ZoneRuntime
  | rt, [] => .ok rt
  | rt, x :: rest =>
    if x.needsNow && now.isNone then .error (.needsNow x.effectId)
    else commitEffects now (commitEffect (now.getD 0) rt x) rest

def applyPostActions : ZoneRuntime → List EndHold →
    Except CommitError (ZoneRuntime × List OverrideEnded)
  | rt, [] => .ok (rt, [])
  | rt, action :: rest =>
    if action.requireSuccess then .error .requireSuccess
    else do
      let (rt, ended) := teardownHold rt action.reason
      let (rt, events) ← applyPostActions rt rest
      return (rt, ended :: events)

/-- `commit_execution`: the executions in call order, then the post-actions. -/
def commitExecution (rt : ZoneRuntime) (report : List EffectExecution) (postActions : List EndHold)
    (now : Option ℚ) : Except CommitError (ZoneRuntime × List OverrideEnded) := do
  applyPostActions (← commitEffects now rt report) postActions

end Poise
