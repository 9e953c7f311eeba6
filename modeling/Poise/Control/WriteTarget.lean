import Poise.Control.Constraints
import Poise.Foundation.Rounding

/-!
# The write target

`control/tick_resolve.py::resolve_write_target`: the open window, the override or the
comfort decision chooses the target, and one list of constraints is its envelope. While
cooling, neither the legal cap nor the frost and mould floor applies.
-/
namespace Poise

open Rounding

-- The room-air threshold of ASR A3.5.
def asrMaxRoomC : ℚ := 26

structure WriteTarget where
  target : ℚ
  mode : String
  normBinding : Option String
  bindingPrecedence : Option String := none
  overrideClamped : Bool := false
  deriving DecidableEq, Repr

/-- The keyword arguments of `resolve_write_target`. -/
structure WriteTargetInput where
  windowOpen : Bool
  override : Option ℚ
  heatSp : ℚ
  coolSp : ℚ
  writeSetpoint : ℚ
  comfortMode : String
  frostFloor : ℚ
  moldMin : Option ℚ
  deviceMax : ℚ
  deviceMin : Option ℚ := none
  canCool : Bool := true
  deriving DecidableEq, Repr

namespace WriteTargetInput

variable (i : WriteTargetInput)

def floor : ℚ := max i.frostFloor (i.moldMin.getD i.frostFloor)

def clampOverride (override : ℚ) : ℚ :=
  let clamped := max override i.heatSp
  if i.canCool then min clamped i.coolSp else clamped

/-- Target, mode and whether the band limited the override. -/
def chosen : ℚ × String × Bool :=
  if i.windowOpen then (roundTo i.floor 1, "off", false)
  else
    match i.override with
    | some override =>
      let clamped := i.clampOverride override
      (roundTo clamped 1, "manual", clamped ≠ override)
    | none => (roundTo i.writeSetpoint 1, i.comfortMode, false)

def mode : String := i.chosen.2.1

def deviceCap : ℚ :=
  -- A device maximum below the floor must not defeat it, unless the zone cools.
  if i.mode ≠ "cool" then max i.deviceMax i.floor else i.deviceMax

def caps : List (Constraint ℚ) :=
  ⟨i.deviceCap, "device_max", .cap, .safety⟩ ::
    if i.mode ≠ "cool" then [⟨asrMaxRoomC, "norm_cap", .cap, .comfort⟩] else []

def floors : List (Constraint ℚ) :=
  (if i.mode ≠ "cool" then [⟨i.floor, "norm_floor", .floor, .health⟩] else []) ++
    -- Below its own minimum the device would only be rewritten each tick.
    match i.deviceMin with
    | some least => [⟨least, "device_min", .floor, .safety⟩]
    | none => []

end WriteTargetInput

def resolveWriteTarget (i : WriteTargetInput) : WriteTarget :=
  let (target, mode, overrideClamped) := i.chosen
  let res := resolveConstraints target (i.floors ++ i.caps)
  { target := roundTo res.value 1
    mode
    normBinding := (res.binding.map (·.cause)).filter fun cause =>
      cause = "norm_floor" || cause = "norm_cap"
    bindingPrecedence := res.binding.map (·.precedence.name)
    overrideClamped }

end Poise
