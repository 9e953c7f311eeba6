import Poise.Control.WriteEconomy
import Poise.Runtime.Commit

/-!
# One tick, as the actuation stages see it

The actuator's state object, what the prepare phase resolved before the
actuation, what the outside world answers to the calls of this tick, and the
typed results the stages hand on (`runtime/tick_result.py`).
-/
namespace Poise

/-- The actuator's state object, its attributes parsed. -/
structure ActuatorState where
  state : String
  contextId : Option String := none
  hvacModes : List String := []
  -- The reported setpoint, when finite.
  temperature : Option ℚ := none
  targetTempStep : Option ℚ := none
  deriving DecidableEq, Repr

/-- `parse_attr_number`: attributes of an unavailable actuator are not read. -/
def attrNumber (actState : Option ActuatorState) (attr : ActuatorState → Option ℚ) : Option ℚ :=
  actState.bind fun act => if act.state = "unavailable" then none else attr act

/-- How a call of this tick went out: its fresh context, and whether it was dispatched. -/
structure Dispatch where
  contextId : String
  sent : Bool
  deriving DecidableEq, Repr

structure FanWrite where
  stage : String
  dispatch : Dispatch
  deriving DecidableEq, Repr

structure TickInput where
  now : ℚ
  -- The one actuator read of the tick; nothing when the entity is missing.
  actState : Option ActuatorState
  frozen : Bool := false
  schedActive : Bool := false
  windowOpen : Bool := false
  canHeat : Bool := true
  canCool : Bool := false
  room : ℚ := 20
  moldMin : Option ℚ := none
  target : PyFloat
  finalMode : String := "heat"
  idleParkMode : Option String := none
  -- The compressor guard's reason to hold a mode nudge this tick.
  guardBlock : Option String := none
  fanWrite : Option FanWrite := none
  adoptExternalMode : Bool := true
  adoptExternalSetpoint : Bool := true
  hold : HoldContext
  nudgeDispatch : Dispatch
  setpointDispatch : Dispatch
  rescueNudgeSent : Bool := true
  rescueWriteSent : Bool := true
  deriving DecidableEq, Repr

namespace TickInput

variable (i : TickInput)

def actuatorOnline : Bool := i.actState.any fun act => act.state ≠ "unavailable"

def deviceMode : Option String := i.actState.map ActuatorState.state

def contextId : Option String := i.actState.bind ActuatorState.contextId

def actModes : List String := (i.actState.map ActuatorState.hvacModes).getD []

def actualSp : Option ℚ := attrNumber i.actState ActuatorState.temperature

def step : ℚ :=
  -- The device step; an absent or zero step counts as a tenth.
  match attrNumber i.actState ActuatorState.targetTempStep with
  | none => 0.1
  | some step => if step = 0 then 0.1 else step

def adoptDeadband : ℚ := max writeDeadbandC i.step

end TickInput

/-- A tick of a heating valve that reports `reading` under a foreign context. -/
def valveTick (now : ℚ) (reading : Option ℚ) : TickInput where
  now := now
  actState := some { state := "heat", hvacModes := ["off", "heat"], temperature := reading,
                     targetTempStep := some 0.5 }
  target := .finite 24
  hold := { policy := .timer, timerH := 2, maxH := 8, setAt := 0, minutesToSwitchpoint := none }
  nudgeDispatch := { contextId := "nudge", sent := true }
  setpointDispatch := { contextId := "setpoint", sent := true }

/-! ### Stage results -/

structure HoldRoutingResult where
  ownChange : Bool
  offHeld : Bool
  holdResumed : Bool
  deriving DecidableEq, Repr

structure ModeAdoptionResult where
  desiredHvac : String
  modeAdoptReason : AdoptReason
  deriving DecidableEq, Repr

structure ModeNudgeResult where
  modeNudge : Bool
  guardBlock : Option String
  modeNudgeBlocked : Option String
  deriving DecidableEq, Repr

structure SetpointObservation where
  actualSp : Option ℚ
  step : ℚ
  modeChanged : Bool
  regThrottled : Bool
  adoptedSp : Option ℚ
  spAdoptReason : AdoptReason
  staleOwnEcho : Bool
  settleProvenance : Provenance
  reassertIdempotent : Bool
  reassertThrottled : Bool
  deriving DecidableEq, Repr

structure ActuatorPlan where
  writeMode : Bool
  hvacMode : String
  writeSetpoint : Bool
  -- The echo baseline the commit stamps.
  snappedSetpoint : Option ℚ
  -- The value on the wire.
  rawSetpoint : Option ℚ
  reason : String
  deriving DecidableEq, Repr

end Poise
