import Poise.Foundation.Rounding
import Poise.Runtime.State

/-!
# Per-tick resolution helpers

The parts of `control/tick_resolve.py` and `safety/write_convergence.py` that
the actuation channel uses: the step snap, the write deadband, the mode nudge,
the desired device mode, the override boundary and the frost-rescue floor.
-/
namespace Poise

open Rounding

-- `round(|a - b|, 3)`, the distance every setpoint comparison uses.
def distance (a b : ℚ) : ℚ := roundTo |a - b| 3

@[simp] theorem distance_self (a : ℚ) : distance a a = 0 := by
  simpa [distance] using roundTo_grid 0 3

def snapValue (value step : ℚ) : ℚ :=
  if step ≤ 0 then value else roundTo (roundHalfEven (value / step) * step) 2

def snapToStep (value : PyFloat) (step : ℚ) : PyFloat :=
  -- A value that is not finite passes through the snap unchanged.
  match value with
  | .finite value => .finite (snapValue value step)
  | other => other

-- The re-quantise distance of a device step, floored at half a kelvin.
def convergenceTolerance (step : ℚ) : ℚ := max 0.5 step

/-- Whether the actuator setpoint must be written (again) this tick. -/
def shouldWrite (actual : Option ℚ) (target : ℚ) (modeChanged : Bool) (deadband : ℚ) : Bool :=
  match actual with
  | none => true
  | some actual => modeChanged || deadband ≤ distance target actual

def usableMode (mode : Option String) : Bool :=
  match mode with
  | none => false
  | some mode => mode ≠ "unknown" && mode ≠ "unavailable"

def needsModeNudge (current : Option String) (desired : String) (supported : Bool) : Bool :=
  supported && usableMode current && current ≠ some desired

/-- The mode to command this tick. -/
def resolveDesiredMode (finalMode : String) (currentDeviceMode : Option String)
    (canCool canHeat : Bool) (idleParkMode : Option String) : String :=
  if finalMode ∈ ["heat", "cool", "dry", "fan_only"] then finalMode
  else if finalMode = "off" then if canHeat then "heat" else "off"
  else if finalMode = "idle" ∧ idleParkMode ∈ [some "heat", some "cool", some "fan_only"] then
    idleParkMode.getD "heat"
  else if canCool ∧ currentDeviceMode ∈ [some "heat", some "cool"] then
    currentDeviceMode.getD "heat"
  else "heat"

/-- A manual setpoint at the boundary: finite and inside `[lo, hi]`, or refused. -/
def sanitizeOverride (target : Option PyFloat) (lo hi : ℚ) : Option ℚ :=
  match target with
  | some (.finite value) => some (min hi (max lo value))
  | _ => none

/-- The health floor to write while the zone does not regulate. -/
def frostRescueTarget (canHeat : Bool) (actualSp : Option ℚ) (deviceState : Option String)
    (frostFloor : ℚ) (moldMin : Option ℚ) (deadband : ℚ) : Option ℚ :=
  if ¬ canHeat then none
  else
    let floor := roundTo (max frostFloor (moldMin.getD frostFloor)) 1
    let inactive := deviceState ∈ [none, some "off", some "unknown", some "unavailable"]
    let below := actualSp.all fun actual => actual < floor - deadband
    if inactive || below then some floor else none

end Poise
