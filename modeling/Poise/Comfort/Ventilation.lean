import Poise.Foundation.Rounding
import Mathlib.Algebra.Order.Field.Rat

/-!
# Ventilation advice

`comfort/ventilation.py::ventilation_advise`: nine rules in a fixed precedence over
the absolute humidities, the surface figures and the occupancy. The close rules
read the window; the open rules read the flags of a running episode, which move
their thresholds.
-/
namespace Poise

open Rounding

/-! ### Vocabulary -/

inductive VentAction where
  | idle
  | openWindow
  | closeWindow
  | discourage
  deriving DecidableEq, Repr

/-- A reason token; `airingDone` belongs to the episode machine. -/
inductive VentReason where
  -- The empty string of a state that has no reason.
  | blank
  | moldRisk
  | moldGuard
  | tooDry
  | moistureOut
  | moistureProtect
  | co2
  | heatOut
  | cooledOff
  | targetReached
  | thermalFloor
  | noGain
  | noData
  | airingDone
  | other (token : String)
  deriving DecidableEq, Repr

inductive VentLevel where
  | ok
  | warn
  | alert
  deriving DecidableEq, Repr

structure VentConfig where
  deltaOnGm3 : ℚ := 3
  deltaOffGm3 : ℚ := 1.5
  dryWarnGm3 : ℚ := 7
  moistGm3 : ℚ := 8.7
  moistRhPct : ℚ := 50
  dryWarnRhPct : ℚ := 35
  surfaceLimitPct : ℚ := 80
  surfaceMarginPp : ℚ := 5
  co2Ppm : ℚ := 1000
  heatOutDtOnK : ℚ := 2
  heatOutDtOffK : ℚ := 1
  heatOutHumidGuardGm3 : ℚ := 1
  moldGuardMarginPp : ℚ := 2
  deriving DecidableEq, Repr

structure VentilationAdvice where
  action : VentAction
  reason : VentReason
  level : VentLevel
  deltaGm3 : Option ℚ
  deriving DecidableEq, Repr

/-- The physical inputs: everything but the window and the episode. -/
structure VentilationInput where
  wInGm3 : Option ℚ
  wOutGm3 : Option ℚ
  surfaceRhMeanPct : Option ℚ
  moldFloorBinding : Bool
  moldCapped : Bool
  roomAtThermalFloor : Bool
  co2Ppm : Option ℚ
  occupied : Bool
  rhPct : Option ℚ := none
  roomC : Option ℚ := none
  roomDecideC : Option ℚ := none
  coolEdgeC : Option ℚ := none
  tOutC : Option ℚ := none
  coolCapable : Bool := false
  fanCapable : Bool := false
  rhMaxSafePct : Option ℚ := none
  criticalRhPct : Option ℚ := none
  coolEdgeProtected : Bool := false
  surfaceNeedsWarmer : Bool := false
  deriving DecidableEq, Repr

/-- The `prev_*` inputs. -/
structure OracleFlags where
  prevAdviceActive : Bool := false
  prevMoistureAiring : Bool := false
  prevMoistureProtect : Bool := false
  prevHeatOut : Bool := false
  deriving DecidableEq, Repr

namespace VentilationInput

variable (cfg : VentConfig) (x : VentilationInput) (flags : OracleFlags)

/-! ### Predicates of the rules -/

def delta : Option ℚ :=
  match x.wInGm3, x.wOutGm3 with
  | some wIn, some wOut => some (wIn - wOut)
  | _, _ => none

def outsideDrier : Bool := x.delta.any (0 < ·)

def moldRisk : Bool :=
  x.surfaceRhMeanPct.any (cfg.surfaceLimitPct - cfg.surfaceMarginPp ≤ ·) && x.outsideDrier

def moistureReasonValid (prevAdviceActive : Bool) : Bool :=
  let threshold := if prevAdviceActive then cfg.deltaOffGm3 else cfg.deltaOnGm3
  x.occupied && x.delta.any (threshold ≤ ·) && x.wInGm3.any (cfg.moistGm3 < ·) &&
    x.rhPct.any (cfg.moistRhPct ≤ ·) && !x.coolEdgeProtected

/-- The room carries more vapour than its fabric tolerates. -/
def overSafe : Bool :=
  match x.rhPct, x.rhMaxSafePct with
  | some rh, some safe => safe < rh
  | _, _ => false

def protectReasonValid (prevMoistureProtect : Bool) : Bool :=
  let threshold := if prevMoistureProtect then cfg.deltaOffGm3 else cfg.deltaOnGm3
  x.overSafe && x.delta.any (threshold ≤ ·) && !x.coolEdgeProtected

def ownAiringRunning : Bool :=
  (flags.prevMoistureAiring && x.moistureReasonValid cfg flags.prevAdviceActive) ||
    (flags.prevMoistureProtect && x.protectReasonValid cfg flags.prevMoistureProtect)

def tooDry : Bool :=
  x.wInGm3.any (· ≤ cfg.dryWarnGm3) || x.rhPct.any (· ≤ cfg.dryWarnRhPct)

def surfaceNearLimit : Bool :=
  match x.surfaceRhMeanPct, x.criticalRhPct with
  | some mean, some critical => critical - cfg.moldGuardMarginPp ≤ mean
  | _, _ => false

/-- The room is above the comfort edge, and the outside cooler than its air. -/
def freeCooling (prevHeatOut : Bool) : Bool :=
  let drop := if prevHeatOut then cfg.heatOutDtOffK else cfg.heatOutDtOnK
  match x.delta, x.roomC, x.coolEdgeC, x.tOutC with
  | some delta, some room, some edge, some tOut =>
    !x.coolCapable && !x.fanCapable && !x.coolEdgeProtected && !x.surfaceNearLimit cfg &&
      decide (edge < x.roomDecideC.getD room) && decide (tOut ≤ room - drop) &&
      decide (-cfg.heatOutHumidGuardGm3 ≤ delta)
  | _, _, _, _ => false

def co2Due : Bool := x.occupied && x.co2Ppm.any (cfg.co2Ppm ≤ ·)

end VentilationInput

/-! ### The rule table -/

def ventilationAdvise (cfg : VentConfig) (x : VentilationInput) (windowOpen : Bool)
    (flags : OracleFlags) : VentilationAdvice :=
  let d := x.delta.map (roundTo · 1)
  let moisture := x.moistureReasonValid cfg flags.prevAdviceActive
  if x.moldRisk cfg then
    ⟨.openWindow, .moldRisk, if x.moldFloorBinding || x.moldCapped then .alert else .warn, d⟩
  else if windowOpen && !x.ownAiringRunning cfg flags && x.surfaceNeedsWarmer && x.overSafe then
    ⟨.closeWindow, .moldGuard, .warn, d⟩
  else if x.tooDry cfg && x.outsideDrier then
    ⟨if windowOpen then .closeWindow else .discourage, .tooDry, .warn, d⟩
  else if windowOpen && x.roomAtThermalFloor then ⟨.closeWindow, .thermalFloor, .warn, d⟩
  else if x.protectReasonValid cfg flags.prevMoistureProtect then
    ⟨.openWindow, .moistureProtect, .warn, d⟩
  else if windowOpen && flags.prevMoistureProtect && !moisture then
    ⟨.closeWindow, .targetReached, .ok, d⟩
  else if x.freeCooling cfg flags.prevHeatOut then ⟨.openWindow, .heatOut, .ok, d⟩
  else if moisture then ⟨.openWindow, .moistureOut, .ok, d⟩
  else if x.co2Due cfg then ⟨.openWindow, .co2, .ok, d⟩
  else if windowOpen && flags.prevHeatOut then ⟨.closeWindow, .cooledOff, .ok, d⟩
  else if windowOpen && x.delta.any (· < cfg.deltaOffGm3) then
    ⟨.closeWindow, .targetReached, .ok, d⟩
  else ⟨.idle, if x.delta.isSome then .noGain else .noData, .ok, d⟩

/-- Every close rule reads the window. -/
theorem ventilationAdvise_closes {cfg : VentConfig} {x : VentilationInput} {windowOpen : Bool}
    {flags : OracleFlags}
    (closes : (ventilationAdvise cfg x windowOpen flags).action = .closeWindow) :
    windowOpen = true := by
  cases windowOpen with
  | true => rfl
  | false =>
    simp only [ventilationAdvise, Bool.false_and, Bool.false_eq_true, if_false] at closes
    split at closes
    · cases closes
    · split at closes
      · cases closes
      · split at closes
        · cases closes
        · split at closes
          · cases closes
          · split at closes
            · cases closes
            · split at closes <;> cases closes

end Poise
