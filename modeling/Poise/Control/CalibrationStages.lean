import Poise.Control.Calibration
import Poise.Control.PipelineActuate

/-!
# The calibration stages

The handoff and the regulation write of `ha/phase_actuate.py`, with the folds of
the zone runtime they call and the lifecycle port that hands the offset back.
Ownership is the pair of the offset found on the device and the entity it was
found on; it survives a restart, the evidence of the last command does not.
-/
namespace Poise

/-! ### Inputs and results -/

/-- `calibration_meta`. -/
inductive CalibrationRead where
  -- Neither a registry entry nor a state.
  | gone
  | unreadable
  | readable (m : CalibrationMeta)
  deriving DecidableEq, Repr

structure CalibratedActuator extends ActuatorState where
  currentTemperature : Option ℚ
  -- Wall clock of the device's last report.
  lastUpdated : ℚ
  deriving DecidableEq, Repr

/-- The answer to the one offset call of a tick: whether it was dispatched, and when. -/
structure CalibrationDispatch where
  sent : Bool
  wall : ℚ
  deriving DecidableEq, Repr

structure CalibrationTick where
  now : ℚ
  -- Wall clock of the resume quarantine.
  wallNow : ℚ
  roomDecide : ℚ
  actState : Option CalibratedActuator
  -- An external-temperature input is configured.
  extNum : Bool
  trvCalibration : Bool
  valveEntity : Option String := none
  -- The entity that discovery resolves.
  calibrationEntity : Option String
  read : String → CalibrationRead
  entryId : String
  dispatch : CalibrationDispatch

/-- A `HealthUpdate` of the calibration stages. -/
structure CalibrationHealthUpdate where
  issueId : String
  active : Bool
  translationKey : String
  placeholders : List (String × String)
  deriving DecidableEq, Repr

structure CalibrationPlan where
  value : Option ℚ
  restore : Bool := false
  deriving DecidableEq, Repr

structure CalibrationHandoffResult where
  handoffPending : Bool
  healthUpdates : List CalibrationHealthUpdate
  plan : Option CalibrationPlan := none
  deriving DecidableEq, Repr

structure CalibrationStageResult where
  plan : Option CalibrationPlan := none
  healthUpdates : List CalibrationHealthUpdate := []
  diverged : Bool := false
  deriving DecidableEq, Repr

/-- `calibration_meta(entity)`; an empty or absent id asks for the discovered role. -/
def CalibrationTick.calibrationMeta (i : CalibrationTick) (entity : Option String) :
    CalibrationRead :=
  match (entity.filter (· ≠ "")).or i.calibrationEntity with
  | none => .gone
  | some target => i.read target

def CalibrationTick.calibrationLivePath (i : CalibrationTick) : ActuatorPath :=
  selectLivePath {
    writableValve := i.valveEntity.isSome
    writableCalibration := i.calibrationEntity.isSome
    reliableHeatMode := reliableHeatModeFrom ((i.actState.map (·.hvacModes)).getD []) }
    i.extNum i.trvCalibration

def CalibrationTick.issue (i : CalibrationTick) (key : String) (active : Bool)
    (placeholders : List (String × String)) : CalibrationHealthUpdate where
  issueId := key ++ "_" ++ i.entryId
  active := active
  translationKey := key
  placeholders := placeholders

def entityOrDash (entity : Option String) : String := (entity.filter (· ≠ "")).getD "—"

def CalibrationTick.calInactiveEdges (i : CalibrationTick) (entity : Option String)
    (keys : List String) : List CalibrationHealthUpdate :=
  keys.map fun key => i.issue key false [("entity", entityOrDash entity)]

/-- `run_calibration`. -/
def CalibrationTick.runCalibration (i : CalibrationTick) (entity : String)
    (value preWriteValue : ℚ) (restore : Bool) : EffectExecution where
  effectId := if restore then .calRestore else .calWrite
  attempted := true
  success := i.dispatch.sent
  preWriteValue := some preWriteValue
  commandedValue := some value
  entityId := some entity
  dispatchWallTs := some i.dispatch.wall

/-! ### Folds of the zone runtime -/

def ZoneRuntime.clearCalibrationOwnership (rt : ZoneRuntime) : ZoneRuntime :=
  { rt with
    actuator := { rt.actuator with
      calBaseline := none
      calEntity := none
      lastCalValue := none
      lastCalWriteTs := none
      lastCalDispatchWallTs := none
      lastCalRestoreTs := none }
    dirty := true }

/-- The device shows the restore target: the ownership ends. -/
def ZoneRuntime.observeCalibrationRestore (rt : ZoneRuntime) (reported step restoreTarget : ℚ) :
    ZoneRuntime × Bool :=
  if rt.actuator.calBaseline.isNone then (rt, true)
  else if shows reported restoreTarget step then (rt.clearCalibrationOwnership, true)
  else (rt, false)

/-- The resume quarantine: ownership without evidence takes the reported offset for
the last command. -/
def ZoneRuntime.observeCalibrationResume (rt : ZoneRuntime) (reported wallNow : ℚ) :
    ZoneRuntime × Bool :=
  if rt.actuator.calBaseline.isNone || rt.actuator.lastCalValue.isSome then (rt, false)
  else
    ({ rt with actuator := { rt.actuator with
        lastCalValue := some reported
        lastCalDispatchWallTs := some wallNow } }, true)

def ZoneRuntime.observeCalibrationOrphaned (rt : ZoneRuntime) (storedEntityGone : Bool) :
    ZoneRuntime × Bool :=
  if rt.actuator.calBaseline.isNone || !storedEntityGone then (rt, false)
  else (rt.clearCalibrationOwnership, true)

/-! ### Segment H -/

def restoreDue (lastCalRestoreTs : Option ℚ) (now : ℚ) : Bool :=
  lastCalRestoreTs.all fun restored => calibrationMinIntervalS ≤ now - restored

def stageCalibrationHandoff (rt : ZoneRuntime) (i : CalibrationTick) :
    ZoneRuntime × CalibrationHandoffResult × List EffectExecution :=
  let entity := rt.actuator.calEntity
  let inactive := i.calInactiveEdges entity
    ["calibration_restore_failed", "calibration_restore_clipped"]
  let failed (active : Bool) :=
    i.issue "calibration_restore_failed" active [("entity", entityOrDash entity)]
  match rt.actuator.calBaseline with
  | none => (rt, { handoffPending := false, healthUpdates := inactive }, [])
  | some baseline =>
    if i.calibrationLivePath = .calibration then
      (rt, { handoffPending := false, healthUpdates := inactive }, [])
    else
      match entity with
      -- a baseline without an entity counts as gone
      | none => (rt, { handoffPending := false, healthUpdates := [failed true] }, [])
      | some owned =>
        match i.calibrationMeta (some owned) with
        | .gone => (rt, { handoffPending := false, healthUpdates := [failed true] }, [])
        -- the offset may still act: the successor path waits
        | .unreadable => (rt, { handoffPending := true, healthUpdates := [failed true] }, [])
        | .readable m =>
          let restoreTarget := m.snap baseline
          let clipped : Bool := m.step / 2 + calibrationSlack < |restoreTarget - baseline|
          let updates := [failed false,
            i.issue "calibration_restore_clipped" clipped [("entity", entityOrDash entity)]]
          let (confirmedRt, confirmed) :=
            rt.observeCalibrationRestore m.reported m.step restoreTarget
          if confirmed then
            (confirmedRt, { handoffPending := false, healthUpdates := updates }, [])
          else if restoreDue rt.actuator.lastCalRestoreTs i.now then
            let report := [i.runCalibration owned restoreTarget m.reported true]
            (commitReport i.now rt report,
              { handoffPending := true
                healthUpdates := updates
                plan := some { value := some restoreTarget, restore := true } },
              report)
          else (rt, { handoffPending := true, healthUpdates := updates }, [])

/-! ### Segment W -/

/-- The device has reported since the last dispatch. -/
def updatedAfter (act : CalibratedActuator) (lastCalDispatchWallTs : Option ℚ) : Bool :=
  lastCalDispatchWallTs.all fun dispatched => dispatched < act.lastUpdated

/-- The offset this tick would write. -/
def CalibrationTick.newOffset (i : CalibrationTick) (m : CalibrationMeta) (trvTemp : ℚ) : ℚ :=
  m.snap (localCalibration i.roomDecide trvTemp m.reported m.lo m.hi)

/-- The rest of the segment, behind the gates and the quarantine. -/
def CalibrationTick.regulate (i : CalibrationTick) (rt : ZoneRuntime) (act : CalibratedActuator)
    (entity : String) (m : CalibrationMeta) (trvTemp : ℚ) (pending : List CalibrationHealthUpdate) :
    ZoneRuntime × CalibrationStageResult × List EffectExecution :=
  let a := rt.actuator
  let converged := calibrationConverged m.reported a.lastCalValue m.step
  let diverged := calibrationDiverged converged a.lastCalWriteTs i.now
  let updates := pending ++ [i.issue "calibration_unapplied" diverged [("entity", entity)]]
  if !calibrationAccumulationAllowed m.reported a.lastCalValue m.step
      (updatedAfter act a.lastCalDispatchWallTs) then
    (rt, { healthUpdates := updates, diverged := diverged }, [])
  else
    let new := i.newOffset m trvTemp
    if calibrationWriteDue new m.reported a.lastCalWriteTs i.now then
      let report := [i.runCalibration entity new m.reported false]
      (commitReport i.now rt report,
        { plan := some { value := some new }, healthUpdates := updates, diverged := diverged },
        report)
    else
      (rt, { plan := some { value := none }, healthUpdates := updates, diverged := diverged }, [])

/-- The actuator's state, while it is online. -/
def CalibrationTick.onlineActuator (i : CalibrationTick) : Option CalibratedActuator :=
  i.actState.filter (·.state ≠ "unavailable")

def stageCalibrationWrite (rt : ZoneRuntime) (i : CalibrationTick) :
    ZoneRuntime × CalibrationStageResult × List EffectExecution :=
  if i.calibrationLivePath ≠ .calibration then
    (rt, { healthUpdates := i.calInactiveEdges i.calibrationEntity
            ["calibration_unapplied", "calibration_entity_unsafe",
              "calibration_entity_mismatch"] }, [])
  else
    match i.onlineActuator with
    -- offline: the conditions are unknown, no edges
    | none => (rt, {}, [])
    | some act =>
      let unsafeMeta (active : Bool) :=
        i.issue "calibration_entity_unsafe" active [("entity", entityOrDash i.calibrationEntity)]
      match i.calibrationEntity, i.calibrationMeta none with
      | some entity, .readable m =>
        let owned := rt.actuator.calEntity
        let mismatchIssue (active : Bool) := i.issue "calibration_entity_mismatch" active
          [("entity", entity), ("owned", entityOrDash owned)]
        if owned.any (· ≠ entity) then
          -- the ownership pins another entity
          let (releasedRt, released) :=
            rt.observeCalibrationOrphaned (i.calibrationMeta owned = .gone)
          (releasedRt, { healthUpdates := [unsafeMeta false, mismatchIssue !released] }, [])
        else
          let pending := [unsafeMeta false, mismatchIssue false]
          match act.currentTemperature with
          | none => (rt, { healthUpdates := pending }, [])
          | some trvTemp =>
            let (resumedRt, resumed) := rt.observeCalibrationResume m.reported i.wallNow
            if resumed then (resumedRt, { healthUpdates := pending }, [])
            else i.regulate rt act entity m trvTemp pending
      | _, .readable _ => (rt, { healthUpdates := [unsafeMeta false] }, [])
      | _, _ => (rt, { healthUpdates := [unsafeMeta true] }, [])

/-! ### The lifecycle port -/

inductive CalibrationRestoreResult where
  | restored
  | gone
  | failed
  deriving DecidableEq, Repr

/-- One call of the port: the entity before and after the blocking write. -/
structure HandoffPort where
  read : String → CalibrationRead
  sent : Bool
  reread : String → CalibrationRead

/-- `restore_trv_calibration`. -/
def HandoffPort.restoreTrvCalibration (p : HandoffPort) (entity : String) (baseline : ℚ) :
    CalibrationRestoreResult :=
  match p.read entity with
  | .gone => .gone
  | .unreadable => .failed
  | .readable m =>
    let restoreTarget := m.snap baseline
    if shows m.reported restoreTarget m.step then .restored
    else if !p.sent then .failed
    else
      match p.reread entity with
      | .readable after => if shows after.reported restoreTarget after.step then .restored else .failed
      | .gone | .unreadable => .failed

def HandoffPort.resolveRestore (p : HandoffPort) (entity : Option String) (baseline : ℚ) :
    CalibrationRestoreResult :=
  match entity.filter (· ≠ "") with
  | none => .gone
  | some entity => p.restoreTrvCalibration entity baseline

/-- `async_prepare_actuator_handoff`; that it disarms the option shows in the ticks. -/
def prepareActuatorHandoff (rt : ZoneRuntime) (p : HandoffPort) :
    ZoneRuntime × CalibrationRestoreResult :=
  match rt.actuator.calBaseline with
  | none => (rt, .restored)
  | some baseline =>
    let result := p.resolveRestore rt.actuator.calEntity baseline
    if result = .failed then (rt, result) else (rt.clearCalibrationOwnership, result)

/-! ### Events -/

/-- What a restart brings back of the actuator group. -/
def ZoneRuntime.restarted (rt : ZoneRuntime) : ZoneRuntime :=
  { rt with
    actuator :=
      { hasActuated := rt.actuator.hasActuated
        calBaseline := rt.actuator.calBaseline
        calEntity := rt.actuator.calEntity }
    dirty := false }

inductive CalibrationEvent where
  | tick (i : CalibrationTick)
  | port (p : HandoffPort)
  | restart

inductive CalibrationOutput where
  | tick (handoff : CalibrationHandoffResult) (write : CalibrationStageResult)
      (executions : List EffectExecution)
  | port (result : CalibrationRestoreResult)
  | restart

def CalibrationOutput.executions : CalibrationOutput → List EffectExecution
  | .tick _ _ executions => executions
  | .port _ | .restart => []

def calibrationStep (rt : ZoneRuntime) : CalibrationEvent → ZoneRuntime × CalibrationOutput
  | .tick i =>
    let (handedRt, handoff, restored) := stageCalibrationHandoff rt i
    let (writtenRt, write, written) := stageCalibrationWrite handedRt i
    (writtenRt, .tick handoff write (restored ++ written))
  | .port p =>
    let (handedRt, result) := prepareActuatorHandoff rt p
    (handedRt, .port result)
  | .restart => (rt.restarted, .restart)

end Poise
