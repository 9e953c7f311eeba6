import Poise.Comfort.DualSetpoint
import Poise.Foundation.Trace

/-!
# The effective cooling edge

The heat-day raise and its rate limit (`comfort/thermal_shock.py`), composed as
the write-target stage does (`ha/phase_prepare.py::_stage_write_target`): the
limited edge is handed on and carried to the next tick as `cool_sp_eff_prev`.
-/
namespace Poise

open Rounding

inductive RaiseReason where
  | off
  | raised (eff cap : ℚ)
  | capped (cap tOut : ℚ)
  | mild
  deriving DecidableEq, Repr

structure AdaptiveCool where
  coolSpEff : ℚ
  raised : Bool
  enUpper : ℚ
  upperClamp : ℚ
  reason : RaiseReason
  deriving DecidableEq, Repr

/-- Raise the cooling setpoint toward `outdoor - delta`, below the clamps but never
below the decided setpoint. -/
def adaptiveCoolSetpoint (coolSpEn tOutSmooth tRm : ℚ) (category : Category)
    (deviceMax hardCap deltaK : ℚ) : AdaptiveCool :=
  let enUpper := (adaptiveBand tRm category).upper
  let upper := min (min deviceMax hardCap) enUpper
  let upper := if upper < coolSpEn then coolSpEn else upper
  if deltaK ≤ 0 then ⟨roundTo coolSpEn 1, false, roundTo enUpper 1, roundTo upper 1, .off⟩
  else
    let shockFloor := tOutSmooth - deltaK
    let eff := min (max coolSpEn shockFloor) upper
    let raised : Bool := coolSpEn + 1e-9 < eff
    let reason :=
      if raised then .raised eff upper
      else if coolSpEn < shockFloor then .capped upper tOutSmooth
      else .mild
    ⟨roundTo eff 1, raised, roundTo enUpper 1, roundTo upper 1, reason⟩

def rateLimit (prev : Option ℚ) (target maxStep : ℚ) : ℚ :=
  match prev with
  | none => target
  | some prev =>
    if maxStep ≤ 0 then target
    else if prev < target then min target (prev + maxStep)
    else max target (prev - maxStep)

structure CoolTick where
  comfort : DecideInput
  deviceMax : ℚ := 30
  hardCap : ℚ := 26
  shockDelta : ℚ := 7
  deriving DecidableEq, Repr

def CoolTick.decision (t : CoolTick) : ComfortDecision := comfortDecide t.comfort

def CoolTick.raise (t : CoolTick) : AdaptiveCool :=
  -- The raise of this tick, before the rate limit.
  adaptiveCoolSetpoint t.decision.coolSp t.comfort.tOut t.comfort.tRm t.comfort.category
    t.deviceMax t.hardCap t.shockDelta

/-- The edge handed to the write target; it becomes the next `cool_sp_eff_prev`. -/
def effCool (coolSpEffPrev : Option ℚ) (t : CoolTick) : ℚ :=
  rateLimit coolSpEffPrev t.raise.coolSpEff 0.5

def coolStep (coolSpEffPrev : Option ℚ) (t : CoolTick) : Option ℚ × ℚ :=
  (some (effCool coolSpEffPrev t), effCool coolSpEffPrev t)

end Poise
