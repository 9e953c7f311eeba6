import Poise.Foundation.Dict
import Poise.Foundation.Greedy
import Poise.Foundation.Rounding
import Mathlib.Data.Prod.Lex
import Mathlib.Data.String.Basic

/-!
# Thermal arbitration

`multi/model.py`, `multi/reason.py` and `multi/resolvers.py`: the resolver picks one thermal source
by priority among the devices that nothing blocks, and the planner builds one command for each
device, the thermal one for the selected source and the standby one for the others.
-/
namespace Poise

open Rounding

/-! ### Devices -/

inductive Axis where
  | thermal
  | airMovement
  | ventilation
  | humidity
  deriving DecidableEq, Repr

inductive Direction where
  | heat
  | cool
  | fan
  | exhaust
  | supply
  | balanced
  | recirculate
  | dry
  | humidify
  deriving DecidableEq, Repr

def Axis.value : Axis → String
  | .thermal => "thermal"
  | .airMovement => "air_movement"
  | .ventilation => "ventilation"
  | .humidity => "humidity"

def Direction.value : Direction → String
  | .heat => "heat"
  | .cool => "cool"
  | .fan => "fan"
  | .exhaust => "exhaust"
  | .supply => "supply"
  | .balanced => "balanced"
  | .recirculate => "recirculate"
  | .dry => "dry"
  | .humidify => "humidify"

inductive DeviceHealth where
  | ok
  | unavailable
  | fault
  | stale
  | lockout
  deriving DecidableEq, Repr

inductive StandbyPolicy where
  | off
  | holdSafeSetpoint
  | fanOnlyLow
  | leaveAsIs
  | restorePrevious
  | eco
  deriving DecidableEq, Repr

inductive CommandKind where
  | hvacMode
  | presetMode
  | fanMode
  | service
  deriving DecidableEq, Repr

structure DeviceCapability where
  axis : Axis
  direction : Direction
  commandKind : CommandKind := .hvacMode
  modeCommand : Option String := none
  setpointCommand : Option String := none
  priority : ℤ := 100
  deriving DecidableEq, Repr

def DeviceCapability.capabilityId (c : DeviceCapability) : String :=
  c.axis.value ++ ":" ++ c.direction.value

structure ZoneDevice where
  entityId : String
  capabilities : List DeviceCapability
  standbyPolicy : StandbyPolicy := .off
  deriving DecidableEq, Repr

namespace ZoneDevice

def capability (dev : ZoneDevice) (axis : Axis) (direction : Direction) :
    Option DeviceCapability :=
  dev.capabilities.find? fun c => c.axis = axis ∧ c.direction = direction

/-- The entity's domain: what stands before its first dot. -/
def domain (dev : ZoneDevice) : String := .ofList (dev.entityId.toList.takeWhile (· ≠ '.'))

def has (dev : ZoneDevice) (axis : Axis) (direction : Direction) : Bool :=
  (dev.capability axis direction).isSome

end ZoneDevice

/-! ### Reasons -/

inductive ReasonCode where
  | noDemand
  | noCapableSource
  | thermalHeatPriority
  | thermalCoolPriority
  | failoverPrimaryUnhealthy
  | standby
  deriving DecidableEq, Repr

inductive BlockingCause where
  | deviceUnhealthy
  | deviceUnavailable
  | compressorMinOffActive
  | modeHoldActive
  | externalOverride
  deriving DecidableEq, Repr

inductive FallbackCause where
  | primaryUnhealthy
  deriving DecidableEq, Repr

structure ResolveReason where
  reason : ReasonCode
  selectedSource : Option String := none
  blocked : List BlockingCause := []
  fallback : Option FallbackCause := none
  deriving DecidableEq, Repr

/-! ### The resolver -/

structure DeviceRuntime where
  health : DeviceHealth := .ok
  minOffActive : Bool := false
  modeHoldActive : Bool := false
  externalOverride : Bool := false
  deriving DecidableEq, Repr

structure ThermalDemand where
  direction : Option Direction
  targetC : Option ℚ := none
  deriving DecidableEq, Repr

def blockCause (rt : DeviceRuntime) : Option BlockingCause :=
  if rt.health = .unavailable then some .deviceUnavailable
  else if rt.health = .fault ∨ rt.health = .stale ∨ rt.health = .lockout then some .deviceUnhealthy
  else if rt.externalOverride then some .externalOverride
  else if rt.minOffActive then some .compressorMinOffActive
  else if rt.modeHoldActive then some .modeHoldActive
  else none

/-- What blocks a device; one without runtime state is healthy. -/
def ZoneDevice.cause (runtimes : List (String × DeviceRuntime)) (dev : ZoneDevice) :
    Option BlockingCause :=
  blockCause ((runtimes.lookup dev.entityId).getD {})

/-- `_rank` -/
def thermalRank (direction : Direction) (dev : ZoneDevice) : ℤ ×ₗ String :=
  toLex (((dev.capability .thermal direction).map (·.priority)).getD 1000, dev.entityId)

/-- The first device that nothing blocks, and the causes met before it. -/
def firstUnblocked (runtimes : List (String × DeviceRuntime)) :
    List ZoneDevice → List BlockingCause → Option ZoneDevice × List BlockingCause
  | [], blocked => (none, blocked)
  | dev :: rest, blocked =>
    match dev.cause runtimes with
    | none => (some dev, blocked)
    | some cause => firstUnblocked runtimes rest (blocked ++ [cause])

/-- `_PRIORITY_REASON`; a direction without an entry raises. -/
def priorityReason : Direction → Option ReasonCode
  | .heat => some .thermalHeatPriority
  | .cool => some .thermalCoolPriority
  | _ => none

def thermalResolver (demand : ThermalDemand) (devices : List ZoneDevice)
    (runtimes : List (String × DeviceRuntime)) : Option ResolveReason :=
  match demand.direction with
  | none => some { reason := .noDemand }
  | some direction =>
    let candidates := devices.filter (·.has .thermal direction)
    if candidates.isEmpty then some { reason := .noCapableSource }
    else
      let ranked := Greedy.rank (thermalRank direction) candidates
      match firstUnblocked runtimes ranked [] with
      | (none, blocked) => some { reason := .noCapableSource, blocked }
      | (some selected, []) =>
        (priorityReason direction).map fun reason =>
          { reason, selectedSource := some selected.entityId }
      | (some selected, blocked) =>
        some
          { reason := .failoverPrimaryUnhealthy
            selectedSource := some selected.entityId
            blocked
            fallback := some .primaryUnhealthy }

/-! ### The planner -/

/-- The parts that the text of a dedupe key joins. -/
inductive DedupeKey where
  | thermal (entityId mode : String) (target : Option ℚ)
  | standby (entityId : String) (policy : StandbyPolicy)
  deriving DecidableEq, Repr

structure Command where
  entityId : String
  domain : String
  service : String
  capabilityId : String
  reason : ReasonCode
  issuedAtWall : ℚ
  dedupeKey : DedupeKey
  data : List (String × ℚ) := []
  -- The expected echo: a mode, and the same data.
  echoMode : Option String := none
  echoData : List (String × ℚ) := []
  deriving DecidableEq, Repr

def serviceFor : CommandKind → String
  | .hvacMode => "set_hvac_mode"
  | .presetMode => "set_preset_mode"
  | .fanMode => "set_fan_mode"
  | .service => "turn_on"

def standbyCommand (dev : ZoneDevice) (nowWall : ℚ) : Option Command :=
  if dev.standbyPolicy = .leaveAsIs then none
  else
    some
      { entityId := dev.entityId
        domain := dev.domain
        service := if dev.standbyPolicy = .off then "turn_off" else "set_hvac_mode"
        capabilityId := "standby"
        reason := .standby
        issuedAtWall := nowWall
        dedupeKey := .standby dev.entityId dev.standbyPolicy }

/-- The setpoint of a command: the target to one place, on the key the device takes it. -/
def commandData (cap : DeviceCapability) (target : Option ℚ) : List (String × ℚ) :=
  match cap.setpointCommand, target with
  | some key, some target => [(key, roundTo target 1)]
  | _, _ => []

def thermalCommand (thermal : ResolveReason) (dev : ZoneDevice) (cap : DeviceCapability)
    (target : Option ℚ) (nowWall : ℚ) : Command :=
  let mode := cap.modeCommand.getD ""
  { entityId := dev.entityId
    domain := dev.domain
    service := serviceFor cap.commandKind
    capabilityId := cap.capabilityId
    reason := thermal.reason
    issuedAtWall := nowWall
    dedupeKey := .thermal dev.entityId mode (target.map (roundTo · 1))
    data := commandData cap target
    echoMode := if cap.commandKind = .hvacMode ∧ mode ≠ "" then some mode else none
    echoData := commandData cap target }

/-- The command of one device. -/
def plannedCommand (thermal : ResolveReason) (demand : ThermalDemand) (nowWall : ℚ)
    (dev : ZoneDevice) : Option Command :=
  let cap := if some dev.entityId = thermal.selectedSource then
      demand.direction.bind (dev.capability .thermal)
    else none
  match cap with
  | some cap => some (thermalCommand thermal dev cap demand.targetC nowWall)
  | none => standbyCommand dev nowWall

/-- `assignment_planner`: the commands by entity, a later device of one id replacing an earlier. -/
def assignmentPlanner (thermal : ResolveReason) (demand : ThermalDemand)
    (devices : List ZoneDevice) (nowWall : ℚ) : List (String × Command) :=
  Dict.update [] (devices.filterMap fun dev =>
    (plannedCommand thermal demand nowWall dev).map fun command => (dev.entityId, command))

end Poise
