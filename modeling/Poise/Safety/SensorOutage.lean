import Poise.Control.PipelineActuate

/-!
# A lost room sensor

`safety/sensor_watchdog.py`, `control/lifecycle.py` and the unavailable tick of
`ha/tick_orchestrator.py`: after a sustained loss the device's own sensor is handed back to it and
the health floor is commanded, each by its own decision and again until the device shows it.
-/
namespace Poise

def unavailableSafeAfterS : ℚ := 1800

def selectHandbackRetryS : ℚ := 300

/-! ### The decisions -/

def unavailableSafeEngaged (unavailableS : Option ℚ) (thresholdS : ℚ) : Bool :=
  match unavailableS with
  | none => false
  | some seconds => if thresholdS ≤ 0 then false else decide (thresholdS ≤ seconds)

def sensorSourceHandbackDue (selectState : Option String) (feedOwned : Bool) : Bool :=
  feedOwned && decide (selectState = some "external")

def sensorSourceHandbackTarget (selectEntityId selectState configuredFeed : Option String)
    (lastFed lastAttemptTs now : Option ℚ) (retryIntervalS : ℚ) : Option String :=
  match selectEntityId with
  | none => none
  | some select =>
    if sensorSourceHandbackDue selectState (configuredFeed.isSome || lastFed.isSome) = false then
      none
    else
      match lastAttemptTs, now with
      | some last, some now => if now - last < retryIntervalS then none else some select
      | _, _ => some select

def resolveSafeState (hvacModes : List String) (deviceState : Option String)
    (deviceSetpoint deviceMin : Option ℚ) (floor : ℚ) : Option SafeStatePlan :=
  if "heat" ∈ hvacModes then
    let target := match deviceMin with
      | none => floor
      | some deviceMin => max floor deviceMin
    let writeMode := decide (deviceState ≠ some "heat")
    let writeSetpoint := match deviceSetpoint with
      | none => true
      | some setpoint => decide (0.000001 < |setpoint - target|)
    if writeMode = false ∧ writeSetpoint = false then none
    else some ⟨"heat", some target, writeMode, writeSetpoint⟩
  else if deviceState ≠ some "off" ∧ deviceState ≠ some "unavailable" ∧ deviceState ≠ none then
    some ⟨"off", none, true, false⟩
  else none

/-! ### The writes -/

/-- A service call of the outage, and whether it was dispatched. -/
inductive OutageCall where
  | selectInternal (entity : String) (sent : Bool)
  | mode (hvacMode : String) (sent : Bool)
  | setpoint (value : ℚ) (sent : Bool)
  deriving DecidableEq, Repr

/-- What the tick reads of the device, and how its calls go out. -/
structure OutageReading where
  actuator : Option ActuatorState
  deviceMin : Option ℚ := none
  sensorSelect : Option String := none
  selectState : Option String := none
  trvExtTemp : Option String := none
  selectSent : Bool := true
  modeSent : Bool := true
  setpointSent : Bool := true
  deriving DecidableEq, Repr

/-- The call behind an execution, if one was made. -/
def OutageCall.of (x : EffectExecution) : Option OutageCall :=
  if x.attempted = false then none
  else
    match x.effectId with
    | .safeMode => x.commandedMode.map (.mode · x.success)
    | .safeSetpoint => x.commandedValue.map (.setpoint · x.success)
    | _ => none

/-- The calls of `run_unavailable_safe`. -/
def SafeStatePlan.calls (plan : SafeStatePlan) (r : OutageReading) : List OutageCall :=
  (plan.run r.modeSent r.setpointSent).filterMap OutageCall.of

/-! ### The unavailable tick -/

structure OutageRuntime where
  zone : ZoneRuntime := {}
  unavailableSince : Option ℚ := none
  lastHandbackTs : Option ℚ := none
  deriving DecidableEq, Repr

/-- The release of the sensor source at the start of `write_unavailable_safe_state`. -/
def OutageRuntime.release (rt : OutageRuntime) (now : ℚ) (r : OutageReading) :
    OutageRuntime × List OutageCall :=
  match sensorSourceHandbackTarget r.sensorSelect r.selectState r.trvExtTemp
      rt.zone.actuator.lastFed rt.lastHandbackTs (some now) selectHandbackRetryS with
  | none => (rt, [])
  | some select =>
    ({ rt with
        zone := commitEffect now rt.zone
          { effectId := .extSelect, attempted := true, success := r.selectSent }
        lastHandbackTs := some now },
      [.selectInternal select r.selectSent])

/-- The plan against the actuator as it reads now. -/
def OutageReading.plan (r : OutageReading) : Option SafeStatePlan :=
  resolveSafeState ((r.actuator.map (·.hvacModes)).getD []) (r.actuator.map (·.state))
    (attrNumber r.actuator (·.temperature)) (attrNumber r.actuator fun _ => r.deviceMin)
    frostFloorC

def OutageRuntime.writeUnavailableSafeState (rt : OutageRuntime) (now : ℚ) (r : OutageReading) :
    OutageRuntime × List OutageCall :=
  let released := rt.release now r
  match r.plan with
  | none => released
  | some plan =>
    ({ released.1 with
        zone := (zoneStep released.1.zone (.safeState plan r.modeSent r.setpointSent)).1 },
      released.2 ++ plan.calls r)

/-- A tick: with a room reading the zone is left as the control leaves it, without one the outage
is handled. -/
inductive OutageTick where
  | available (now : ℚ) (zone : ZoneRuntime)
  | unavailable (now : ℚ) (r : OutageReading)

def OutageTick.now : OutageTick → ℚ
  | .available now _ => now
  | .unavailable now _ => now

structure OutageReport where
  -- `unavailable_safe` of the tick's data.
  engaged : Bool
  calls : List OutageCall
  deriving DecidableEq, Repr

/-- `_run_unavailable_tick`, and the reset of an available one. -/
def outageStep (rt : OutageRuntime) : OutageTick → OutageRuntime × OutageReport
  | .available _ zone => ({ rt with zone, unavailableSince := none }, ⟨false, []⟩)
  | .unavailable now r =>
    let since := rt.unavailableSince.getD now
    let rt := { rt with unavailableSince := some since }
    if unavailableSafeEngaged (some (now - since)) unavailableSafeAfterS = false then
      (rt, ⟨false, []⟩)
    else
      let written := rt.writeUnavailableSafeState now r
      (written.1, ⟨true, written.2⟩)

end Poise
