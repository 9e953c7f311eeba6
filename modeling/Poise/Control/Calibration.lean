import Poise.Foundation.Rounding
import Mathlib.Algebra.Order.Field.Rat
import Mathlib.Tactic.Linarith

/-!
# Offset calibration of a valve

`control/calibration.py`: the offset that makes a valve read the room sensor, its
grid, and the gates of a write. A write waits for the deadband and the minimum
interval, and for the evidence that the device shows the last command and has
reported since.
-/
namespace Poise

open Rounding

def calibrationDeadbandK : ℚ := 0.3

def calibrationMinIntervalS : ℚ := 300

-- In minimum intervals.
def calibrationUnconvergedLimit : ℚ := 3

/-- The tolerance the code adds to its float comparisons. -/
def calibrationSlack : ℚ := 1 / 10 ^ 9

/-- Readable and safe metadata of an offset entity, as the reader lets it through. -/
structure CalibrationMeta where
  reported : ℚ
  lo : ℚ
  hi : ℚ
  step : ℚ
  step_pos : 0 < step
  lo_lt_hi : lo < hi
  deriving DecidableEq, Repr

/-! ### Offsets -/

/-- The accumulating offset that makes the valve read the external sensor. -/
def localCalibration (external trvTemp currentOffset minOffset maxOffset : ℚ) : ℚ :=
  min (max (external - trvTemp + currentOffset) minOffset) maxOffset

/-- The selection order of two grid values: nearer, then larger, then smaller. -/
def SnapsBefore (value a b : ℚ) : Prop :=
  |a - value| < |b - value| ∨
    |a - value| = |b - value| ∧ (|b| < |a| ∨ |a| = |b| ∧ a < b)

instance (value a b : ℚ) : Decidable (SnapsBefore value a b) := by
  unfold SnapsBefore
  infer_instance

/-- Snap onto the entity grid `minValue + n * step`, inside its range. -/
def snapOffset (value step minValue maxValue : ℚ) : ℚ :=
  let nMax := ⌊(maxValue - minValue) / step + calibrationSlack⌋
  let top := minValue + nMax * step
  let v := min (max value minValue) top
  let n := ⌊(v - minValue) / step⌋
  let below := minValue + n * step
  let above := minValue + (min (n + 1) nMax : ℤ) * step
  roundTo (if SnapsBefore value above below then above else below) 6

def CalibrationMeta.snap (m : CalibrationMeta) (value : ℚ) : ℚ := snapOffset value m.step m.lo m.hi

/-! ### Gates -/

/-- The deadband and the minimum interval. -/
def calibrationWriteDue (newOffset reportedOffset : ℚ) (lastWriteTs : Option ℚ) (now : ℚ) : Bool :=
  if lastWriteTs.any fun written => now - written < calibrationMinIntervalS then false
  else calibrationDeadbandK - calibrationSlack ≤ |newOffset - reportedOffset|

/-- Half a grid step, the tolerance of every comparison with a reported offset. -/
def shows (reportedOffset commanded step : ℚ) : Bool :=
  |reportedOffset - commanded| ≤ step / 2 + calibrationSlack

def calibrationConverged (reportedOffset : ℚ) (lastCalValue : Option ℚ) (step : ℚ) : Bool :=
  match lastCalValue with
  -- There is nothing the device could still owe.
  | none => true
  | some commanded => shows reportedOffset commanded step

def calibrationAccumulationAllowed (reportedOffset : ℚ) (lastCalValue : Option ℚ) (step : ℚ)
    (actuatorUpdatedAfterWrite : Bool) : Bool :=
  lastCalValue.isNone ||
    calibrationConverged reportedOffset lastCalValue step && actuatorUpdatedAfterWrite

/-- The device has not shown the last command for three minimum intervals. -/
def calibrationDiverged (converged : Bool) (lastWriteTs : Option ℚ) (now : ℚ) : Bool :=
  !converged && lastWriteTs.any fun written =>
    calibrationUnconvergedLimit * calibrationMinIntervalS ≤ now - written

/-! ### The live path -/

inductive ActuatorPath where
  | tpiValve
  | calibration
  | piSetpoint
  | setpoint
  deriving DecidableEq, Repr

structure DeviceCapabilities where
  writableValve : Bool
  writableCalibration : Bool
  reliableHeatMode : Bool
  deriving DecidableEq, Repr

def reliableHeatModeFrom (hvacModes : List String) : Bool :=
  (hvacModes.map String.toLower).contains "heat"

def selectLivePath (caps : DeviceCapabilities) (extTempReserved calibrationEnabled : Bool)
    (valveLive : Bool := false) : ActuatorPath :=
  -- An external-temperature input displaces any calibration.
  if extTempReserved then .setpoint
  else if valveLive && caps.writableValve then .tpiValve
  else if calibrationEnabled && caps.writableCalibration && caps.reliableHeatMode then .calibration
  else .setpoint

/-! ### What the gates mean -/

/-- A write that is due keeps the minimum interval to the write before. -/
theorem calibrationWriteDue_spaced {newOffset reported now written : ℚ}
    (due : calibrationWriteDue newOffset reported (some written) now = true) :
    calibrationMinIntervalS ≤ now - written := by
  unfold calibrationWriteDue at due
  split at due
  next => cases due
  next spaced => simpa using spaced

theorem calibrationAccumulationAllowed_some {reported commanded step : ℚ} {updated : Bool} :
    calibrationAccumulationAllowed reported (some commanded) step updated = true ↔
      shows reported commanded step = true ∧ updated = true := by
  simp [calibrationAccumulationAllowed, calibrationConverged]

end Poise
