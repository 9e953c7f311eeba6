import Poise.Comfort.Humidity
import Poise.Comfort.ThermalShock
import Poise.Control.PipelineActuate
import Poise.Control.WriteTarget
import Poise.Multi.Lifecycle

/-!
# From the comfort decision to the commanded mode

The write-target stage (`ha/phase_prepare.py`) with its idle park, the mode of a hold
(`control/cooling.py`), the seam that arbitrates one mode per tick (`comfort/mode_seam.py`) and
the mode resolution (`control/pipeline_actuate.py`), in front of the actuation of the same tick.
-/
namespace Poise

def ConditioningMode.name : ConditioningMode → String
  | .heat => "heat"
  | .cool => "cool"
  | .idle => "idle"

/-! ### Holds, parking and the seam -/

def overrideMode (room override hysteresis : ℚ) (gates : ModeGates) : ConditioningMode :=
  decideMode room ⟨override - hysteresis, override + hysteresis⟩ gates

/-- Where a device idles in the dead band, and at which setpoint. -/
def idlePark (room heatSp coolSp : ℚ) (canHeat canCool canFanOnly : Bool)
    (currentMode : Option String) (hysteresis : ℚ) : String × ℚ :=
  if ¬ canCool then ("heat", heatSp)
  else
    let mid := (heatSp + coolSp) / 2
    -- a device with a fan circulates, but stays ready to heat on the cool side
    if canFanOnly ∧ ¬ (canHeat ∧ room < mid - hysteresis) then ("fan_only", coolSp)
    else if ¬ canHeat then ("cool", coolSp)
    else if currentMode = some "cool" then ("cool", coolSp)
    else if mid + hysteresis < room then ("cool", coolSp)
    else ("heat", heatSp)

/-- The single mode to command this tick. -/
def modeArbitration (baseMode : String) (humidityAction : HumidityAction) (dryOk fanFirst : Bool) :
    String :=
  if baseMode = "cool" ∧ fanFirst then "fan_only"
  else if baseMode = "idle" ∧ humidityAction = .dry ∧ dryOk then "dry"
  else baseMode

def DeviceDynamics.compressorMinOffS : DeviceDynamics → ℚ
  | .fastAir | .slowHydronic | .verySlow => 300

def DeviceDynamics.compressorModeHoldS : DeviceDynamics → ℚ
  | .fastAir | .slowHydronic | .verySlow => 300

def resolveGuardPolicy (enabled canCondition : Bool) (minOffS modeHoldS : ℚ) :
    Option LifecyclePolicy :=
  if enabled && canCondition then
    some { minOffS, minModeHoldS := modeHoldS, maxStartsPerH := none }
  else none

/-! ### One tick -/

inductive CompressorGuardMode where
  | auto
  | off
  deriving DecidableEq, Repr

/-- One tick from the comfort decision on. `rest` is what the actuation reads besides; its
capabilities, health floor, target and modes come from the stages in front. -/
structure ModeTick where
  cool : CoolTick
  rest : TickInput
  wallNow : ℚ := 0
  windowOpenSince : Option ℚ := none
  deviceMin : Option ℚ := none
  humAction : HumidityAction := .idle
  fanFirstRequested : Bool := false
  compressorGuard : CompressorGuardMode := .auto
  compMinOffOpt : Option ℚ := none
  compModeHoldOpt : Option ℚ := none
  -- The compressor's record up to this tick.
  multiLifecycle : DeviceLifecycle := {}
  deriving DecidableEq, Repr

structure ModeState where
  coolSpEffPrev : Option ℚ := none
  zone : ZoneRuntime := {}
  deriving DecidableEq, Repr

structure WriteTargetResult where
  idleParkMode : Option String
  effCool : ℚ
  target : ℚ
  mode : String
  normBinding : Option String
  bindingPrecedence : Option String
  overrideClamped : Bool
  deriving DecidableEq, Repr

def windowMouldSuppressS : ℚ := 1800

/-- The health floor of a sensor that can no longer be trusted. -/
def frozenSafeTarget (frostFloor : ℚ) (moldMin : Option ℚ) : ℚ :=
  max frostFloor (moldMin.getD frostFloor)

namespace ModeTick

variable (t : ModeTick)

def comfort : DecideInput := t.cool.comfort

def decision : ComfortDecision := t.cool.decision

/-- The mould floor of the write; the first half hour of an open window leaves it out. -/
def moldMinWrite : Option ℚ :=
  let young := t.windowOpenSince.any fun since =>
    decide (t.rest.now - since < windowMouldSuppressS)
  if t.rest.windowOpen && young then none else t.comfort.moldMin

/-- The park of an idle tick, and the value that the decision writes. -/
def parked (effCool : ℚ) : Option String × ℚ :=
  match t.decision.mode with
  | .cool => (none, effCool)
  | .idle =>
    let (park, setpoint) := idlePark t.comfort.room t.decision.heatSp effCool t.comfort.canHeat
      t.comfort.canCool ("fan_only" ∈ t.rest.actModes) t.rest.deviceMode 0.5
    (some park, setpoint)
  | .heat => (none, t.decision.writeSetpoint)

def frozenTarget : ℚ :=
  let floor := frozenSafeTarget frostFloorC t.comfort.moldMin
  t.deviceMin.elim floor (max floor)

end ModeTick

/-- `_stage_write_target`. -/
def stageWriteTarget (s : ModeState) (t : ModeTick) : ModeState × WriteTargetResult :=
  let effCool := effCool s.coolSpEffPrev t.cool
  let (idleParkMode, coolWrite) := t.parked effCool
  let wt := resolveWriteTarget
    { windowOpen := t.rest.windowOpen
      override := s.zone.user.override
      heatSp := t.decision.heatSp
      coolSp := effCool
      writeSetpoint := coolWrite
      comfortMode := t.decision.mode.name
      frostFloor := frostFloorC
      moldMin := t.moldMinWrite
      deviceMax := t.cool.deviceMax
      deviceMin := t.deviceMin
      canCool := t.comfort.canCool }
  let s := { s with coolSpEffPrev := some effCool }
  let result : WriteTargetResult :=
    { idleParkMode, effCool
      target := wt.target
      mode := wt.mode
      normBinding := wt.normBinding
      bindingPrecedence := wt.bindingPrecedence
      overrideClamped := wt.overrideClamped && ! t.rest.frozen }
  if t.rest.frozen then
    -- no comfort target from a dead reading: the health floor, or off where only cooling is left
    let result :=
      if t.comfort.canHeat then { result with target := t.frozenTarget, mode := "heat" }
      else { result with mode := "off" }
    ({ s with zone := { s.zone with
        actuator := { s.zone.actuator with lastTarget := some result.target } } }, result)
  else (s, result)

inductive IntentOrigin where
  | safety
  | manual
  | normal
  deriving DecidableEq, Repr

structure ModeResolutionResult where
  finalMode : String
  guardPol : Option LifecyclePolicy
  intentOrigin : IntentOrigin
  fanFirstAllowed : Bool
  deriving DecidableEq, Repr

namespace ModeTick

variable (t : ModeTick)

/-- The direction before the seam: a hold drives it like a thermostat of its own. -/
def baseMode (user : UserControlState) (wt : WriteTargetResult) : String :=
  if user.enabled ∧ user.override.isSome ∧ ¬ t.rest.windowOpen ∧ ¬ t.rest.frozen then
    (overrideMode t.comfort.room wt.target 0.5 t.comfort.gates).name
  else wt.mode

def intentOrigin (user : UserControlState) : IntentOrigin :=
  if t.rest.windowOpen || t.rest.frozen then .safety
  else if user.override.isSome || user.modeOverride.isSome then .manual
  else .normal

end ModeTick

def stageModeResolution (zone : ZoneRuntime) (t : ModeTick) (wt : WriteTargetResult) :
    ModeResolutionResult :=
  let origin := t.intentOrigin zone.user
  -- a manual or safety cool is never intercepted by the fan
  let fanFirst := t.fanFirstRequested && decide (origin = .normal)
  let canDry : Bool := "dry" ∈ t.rest.actModes
  let finalMode := modeArbitration (t.baseMode zone.user wt) t.humAction canDry fanFirst
  { finalMode
    guardPol := resolveGuardPolicy (t.compressorGuard ≠ .off) (t.comfort.canCool || canDry)
      (t.compMinOffOpt.getD zone.dynamics.compressorMinOffS)
      (t.compModeHoldOpt.getD zone.dynamics.compressorModeHoldS)
    intentOrigin := origin
    fanFirstAllowed := fanFirst && decide (finalMode = "fan_only") }

/-- The actuation's input, but for the guard's verdict. -/
def ModeTick.actuation (t : ModeTick) (wt : WriteTargetResult) (res : ModeResolutionResult) :
    TickInput :=
  { t.rest with
    canHeat := t.comfort.canHeat
    canCool := t.comfort.canCool
    moldMin := t.comfort.moldMin
    target := .finite wt.target
    finalMode := res.finalMode
    idleParkMode := wt.idleParkMode }

/-- The guard's verdict at the nudge; an open window, a frozen sensor and a hold are exempt. -/
def ModeTick.guardVerdict (t : ModeTick) (zone : ZoneRuntime) (res : ModeResolutionResult)
    (i : TickInput) : Option String :=
  let (zone, routing) := stageHoldRouting zone i
  let (zone, adoption) := stageModeAdoption zone i routing
  guardBlockReason res.guardPol t.multiLifecycle t.wallNow adoption.desiredHvac i.deviceMode
    (i.windowOpen || i.frozen || zone.user.override.isSome)

structure ModeOutcome where
  writeTarget : WriteTargetResult
  resolution : ModeResolutionResult
  actuation : TickOutcome
  deriving DecidableEq, Repr

/-- A tick from the comfort decision to its last call. -/
def modeTick (s : ModeState) (t : ModeTick) : ModeState × ModeOutcome :=
  let (s, wt) := stageWriteTarget s t
  let res := stageModeResolution s.zone t wt
  let i := t.actuation wt res
  let (zone, outcome) :=
    actuationTick s.zone { i with guardBlock := t.guardVerdict s.zone res i }
  ({ s with zone }, { writeTarget := wt, resolution := res, actuation := outcome })

end Poise
