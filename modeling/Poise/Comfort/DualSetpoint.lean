import Poise.Foundation.Rounding

/-!
# The dual-setpoint comfort decision

The EN 16798-1 tables (`comfort/en16798.py`), the operative-to-air transform
(`comfort/operative.py`), the adaptive cooling edge (`comfort/free_running.py`),
the mode decision (`control/cooling.py`) and `comfort/dual_setpoint.py::decide`,
on exact rational temperatures.
-/
namespace Poise

open Rounding

/-! ### EN 16798-1 -/

inductive Category where
  | I
  | II
  | III
  deriving DecidableEq, Repr

structure ComfortBand where
  comfort : ℚ
  lower : ℚ
  upper : ℚ
  -- The running mean lies outside the model's range.
  extrapolated : Bool
  extrapolatedLower : Bool
  deriving DecidableEq, Repr

def comfortTemperature (tRm : ℚ) : ℚ := 0.33 * tRm + 18.8

def Category.upperTolerance : Category → ℚ
  | .I => 2
  | .II => 3
  | .III => 4

def Category.lowerTolerance : Category → ℚ
  | .I => 3
  | .II => 4
  | .III => 5

/-- The adaptive operative band; the running mean is clamped to 10..30 °C. -/
def adaptiveBand (tRm : ℚ) (category : Category) : ComfortBand :=
  let clamped := min (max tRm 10) 30
  let comfort := comfortTemperature clamped
  { comfort
    lower := comfort - category.lowerTolerance
    upper := comfort + category.upperTolerance
    extrapolated := clamped ≠ tRm
    extrapolatedLower := tRm < 15 }

def heatingBand (category : Category) (residential : Bool) : ℚ × ℚ :=
  match category, residential with
  | .I, false => (21, 23)
  | .II, false => (20, 24)
  | .III, false => (19, 25)
  | .I, true => (21, 25)
  | .II, true => (20, 25)
  | .III, true => (18, 25)

def Category.coolingLower : Category → ℚ
  | .I => 23.5
  | .II => 23
  | .III => 22

def Category.coolingUpper : Category → ℚ
  | .I => 25.5
  | .II => 26
  | .III => 27

-- One kelvin below the upper limit, so control deviation does not breach it.
def Category.coolingDesign (category : Category) : ℚ := category.coolingUpper - 1

/-! ### Operative and air temperature -/

def airWeight (velocity : ℚ) : ℚ :=
  -- The air-temperature weight of EN ISO 7726.
  if velocity < 0.2 then 0.5 else if velocity < 0.6 then 0.6 else 0.7

def operativeToAir (tOpTarget : ℚ) (tMrt : Option ℚ) (velocity : ℚ) : ℚ :=
  match tMrt with
  | none => tOpTarget
  | some mrt =>
    let a := airWeight velocity
    (tOpTarget - (1 - a) * mrt) / a

/-- Mean radiant temperature as an affine function of the air temperature. -/
structure RadiantModel where
  slope : ℚ
  intercept : ℚ
  deriving DecidableEq, Repr

def operativeToAirModel (tOpTarget : ℚ) (model : RadiantModel) (velocity : ℚ) : ℚ :=
  let a := airWeight velocity
  (tOpTarget - (1 - a) * model.intercept) / (a + (1 - a) * model.slope)

/-! ### Edges and mode -/

/-- The cooling edge raised toward the adaptive upper limit, and whether it was. -/
def adaptiveCoolEdge (fixedCoolOp tRm : ℚ) (category : Category) (cap : ℚ)
    (enabled canCool : Bool) : ℚ × Bool :=
  if ¬ (enabled && canCool) then (fixedCoolOp, false)
  else
    let ab := adaptiveBand tRm category
    if ab.extrapolated then (fixedCoolOp, false)
    else
      let edge := min ab.upper cap
      if edge ≤ fixedCoolOp then (fixedCoolOp, false) else (roundTo edge 1, true)

inductive ClimateMode where
  | auto
  | heatOnly
  | coolOnly
  -- Any other stored text: it permits neither direction.
  | other
  deriving DecidableEq, Repr

inductive ConditioningMode where
  | heat
  | cool
  | idle
  deriving DecidableEq, Repr

/-- The heat and cool edges the mode decision compares the room with. -/
structure DualSetpoint where
  heat : ℚ
  cool : ℚ
  deriving DecidableEq, Repr

/-- What permits a direction besides the room temperature. -/
structure ModeGates where
  climateMode : ClimateMode
  canHeat : Bool
  canCool : Bool
  coolMinOutdoor : Option ℚ
  heatMaxOutdoor : Option ℚ
  outdoor : ℚ
  deriving DecidableEq, Repr

def ModeGates.heatOk (g : ModeGates) : Bool :=
  g.canHeat && decide (g.climateMode = .auto ∨ g.climateMode = .heatOnly) &&
    g.heatMaxOutdoor.all fun limit => decide (g.outdoor ≤ limit)

def ModeGates.coolOk (g : ModeGates) : Bool :=
  g.canCool && decide (g.climateMode = .auto ∨ g.climateMode = .coolOnly) &&
    g.coolMinOutdoor.all fun limit => decide (limit ≤ g.outdoor)

def decideMode (room : ℚ) (setpoint : DualSetpoint) (gates : ModeGates) : ConditioningMode :=
  if setpoint.cool < setpoint.heat then .idle
  else if gates.heatOk ∧ room < setpoint.heat then .heat
  else if gates.coolOk ∧ setpoint.cool < room then .cool
  else .idle

/-! ### The decision -/

inductive LowerCause where
  | mould
  | frost
  | en16798
  | presence
  | comfortBase
  deriving DecidableEq, Repr

structure ComfortDecision where
  heatSp : ℚ
  coolSp : ℚ
  mode : ConditioningMode
  writeSetpoint : ℚ
  target : Option ℚ
  lowerCause : LowerCause
  deriving DecidableEq, Repr

/-- The keyword arguments of `decide`. -/
structure DecideInput where
  tRm : ℚ
  room : ℚ
  category : Category := .II
  comfortBase : ℚ := 21
  canHeat : Bool := true
  canCool : Bool := false
  climateMode : ClimateMode := .auto
  coolMinOutdoor : Option ℚ := some 16
  heatMaxOutdoor : Option ℚ := some 22
  tOut : ℚ
  tMrt : Option ℚ := none
  velocity : ℚ := 0.1
  frostFloor : ℚ := 7
  moldMin : Option ℚ := none
  dewpoint : Option ℚ := none
  priority : ℚ := 1
  occupied : Bool := true
  adaptiveCool : Bool := false
  adaptiveCap : ℚ := 26
  ecoWiden : ℚ := 0
  coolCeilingOverride : Option ℚ := none
  coolEdgeCredit : ℚ := 0
  pmvOffsetK : ℚ := 0
  residential : Bool := false
  radiant : Option RadiantModel := none
  deriving DecidableEq, Repr

def clamp (value lo hi : ℚ) : ℚ := min (max value lo) hi

namespace DecideInput

variable (i : DecideInput)

def widen : ℚ := (1 - clamp i.priority 0 1) * 1.5

def pmvShift : ℚ := clamp i.pmvOffsetK (-1) 1

def heatLower : ℚ :=
  -- The lower operative clamp; an unoccupied setback relaxes it to the frost floor.
  if i.occupied then (heatingBand i.category i.residential).1 else i.frostFloor

def heatRaw : ℚ := i.comfortBase - i.widen - i.ecoWiden + i.pmvShift

def heatOp : ℚ := clamp i.heatRaw i.heatLower (heatingBand i.category i.residential).2

def operativeCause : LowerCause :=
  if i.heatRaw < i.heatLower then (if i.occupied then .en16798 else .frost)
  else if 0 < i.ecoWiden then .presence
  else .comfortBase

def coolAnchor : ℚ :=
  let anchor := i.comfortBase + 2
  if i.canCool then max i.category.coolingDesign anchor else anchor

def fixedCoolOp : ℚ :=
  clamp (i.coolAnchor + i.widen + i.ecoWiden + i.pmvShift + max 0 i.coolEdgeCredit)
    i.category.coolingLower (i.coolCeilingOverride.getD i.category.coolingUpper)

def coolOp : ℚ :=
  if i.adaptiveCool && !i.occupied then
    (adaptiveCoolEdge i.fixedCoolOp i.tRm i.category i.adaptiveCap true i.canCool).1
  else i.fixedCoolOp

def toAir (tOp : ℚ) : ℚ :=
  match i.radiant with
  | some model => operativeToAirModel tOp model i.velocity
  | none => operativeToAir tOp i.tMrt i.velocity

def raiseTo (floor : ℚ) (cause : LowerCause) (edge : ℚ × LowerCause) : ℚ × LowerCause :=
  -- Raise the heating edge to a floor that holds it, ties included; the floor takes the cause
  -- with it.
  if edge.1 ≤ floor then (floor, cause) else edge

def heatEdgeVia (toAir : ℚ → ℚ) : ℚ × LowerCause :=
  -- The unrounded heating edge and its cause: frost first, then mould.
  let edge := raiseTo i.frostFloor .frost (toAir i.heatOp, i.operativeCause)
  match i.moldMin with
  | some floor => raiseTo floor .mould edge
  | none => edge

def coolEdgeVia (toAir : ℚ → ℚ) : ℚ :=
  -- The unrounded cooling edge: two kelvin above the dew point, never inverted.
  let cool := toAir i.coolOp
  let cool := match i.dewpoint with
    | some dewpoint => max cool (dewpoint + 2)
    | none => cool
  max cool (i.heatEdgeVia toAir).1

def heatEdge : ℚ × LowerCause := i.heatEdgeVia i.toAir

def coolEdge : ℚ := i.coolEdgeVia i.toAir

def gates : ModeGates :=
  ⟨i.climateMode, i.canHeat, i.canCool, i.coolMinOutdoor, i.heatMaxOutdoor, i.tOut⟩

end DecideInput

/-- The decision under any operative-to-air transform. -/
def comfortDecideVia (toAir : ℚ → ℚ) (i : DecideInput) : ComfortDecision :=
  let setpoint : DualSetpoint :=
    ⟨roundTo (i.heatEdgeVia toAir).1 1, roundTo (i.coolEdgeVia toAir) 1⟩
  let mode := decideMode i.room setpoint i.gates
  let (write, target) := match mode with
    | .heat => (setpoint.heat, some setpoint.heat)
    | .cool => (setpoint.cool, some setpoint.cool)
    | .idle => (if i.canHeat then setpoint.heat else setpoint.cool, none)
  ⟨setpoint.heat, setpoint.cool, mode, write, target, (i.heatEdgeVia toAir).2⟩

/-- The dual-setpoint decision of one zone (`decide` in the source). -/
def comfortDecide (i : DecideInput) : ComfortDecision := comfortDecideVia i.toAir i

end Poise
