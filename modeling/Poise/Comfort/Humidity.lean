import Poise.Comfort.DualSetpoint

/-!
# Humidity

`comfort/humidity.py` and its stage in `ha/phase_prepare.py`: the dry guard, cooling first, and
the latched drying inside the dead band. A failed stage keeps the latch. The reasons carry the
numbers that their texts print.
-/
namespace Poise

structure HumidityConfig where
  rhHigh : ℚ := 60
  rhLow : ℚ := 40
  hysteresis : ℚ := 5
  absHigh : ℚ := 12
  absHysteresis : ℚ := 1
  deriving DecidableEq, Repr

def absHighNaDeGkg : ℚ := 11.5

def humidityConfigFor (normBasis : String) : HumidityConfig :=
  if normBasis = "na_de" then { absHigh := absHighNaDeGkg } else {}

def rhHighForCategory (cfg : HumidityConfig) : Option Category → ℚ
  | none => cfg.rhHigh
  | some .I => 50
  | some .II => 60
  | some .III => 70

inductive HumidityAction where
  | idle
  | cool
  | dry
  | dryGuard
  deriving DecidableEq, Repr

inductive HumidityReason where
  | noSensor
  | blocked (rh low : ℚ)
  | coolCovers
  | absBackstop (w : ℚ)
  | overCeiling (rh ceiling : ℚ)
  | fanRaises
  | cannotDry
  | deferred (rh ceiling : ℚ)
  | withinBand
  | failed
  deriving DecidableEq, Repr

structure HumidityDecision where
  action : HumidityAction
  dryActive : Bool
  reason : HumidityReason
  deriving DecidableEq, Repr

/-- What one decision reads, but for the latch. -/
structure HumidityTick where
  rh : Option ℚ
  absHumidityGkg : Option ℚ := none
  -- The operative room temperature and the band that is written.
  roomDecide : ℚ
  heatSp : ℚ
  effCool : ℚ
  canDry : Bool
  canFanOnly : Bool := false
  category : Option Category := none
  occupied : Bool := true
  deriving DecidableEq, Repr

namespace HumidityTick

def tooWarm (t : HumidityTick) : Bool := decide (t.effCool < t.roomDecide)

def inDeadband (t : HumidityTick) : Bool :=
  decide (t.heatSp ≤ t.roomDecide ∧ t.roomDecide ≤ t.effCool)

/-- At least `rhBound` while occupied. -/
def rhAtLeast (t : HumidityTick) (rh rhBound : ℚ) : Bool := t.occupied && decide (rhBound ≤ rh)

def absAtLeast (t : HumidityTick) (bound : ℚ) : Bool := t.absHumidityGkg.any (bound ≤ ·)

end HumidityTick

def humidityDecide (cfg : HumidityConfig) (prevDryActive : Bool) (t : HumidityTick) :
    HumidityDecision :=
  match t.rh with
  | none => ⟨.idle, false, .noSensor⟩
  | some rh =>
    if rh < cfg.rhLow then ⟨.dryGuard, false, .blocked rh cfg.rhLow⟩
    else if t.tooWarm then ⟨.cool, false, .coolCovers⟩
    else
      let rhHigh := rhHighForCategory cfg t.category
      let rhOver := t.rhAtLeast rh rhHigh
      let absOver := t.absAtLeast cfg.absHigh
      let rhHold := t.rhAtLeast rh (rhHigh - cfg.hysteresis)
      let absHold := t.absAtLeast (cfg.absHigh - cfg.absHysteresis)
      let humidEnough := rhOver || absOver || (prevDryActive && (rhHold || absHold))
      if t.inDeadband && humidEnough then
        if t.canDry then
          let rhDriven := rhOver || (prevDryActive && rhHold)
          match rhDriven, t.absHumidityGkg with
          | false, some w => ⟨.dry, true, .absBackstop w⟩
          | _, _ => ⟨.dry, true, .overCeiling rh rhHigh⟩
        else if t.canFanOnly then ⟨.idle, false, .fanRaises⟩
        else ⟨.idle, false, .cannotDry⟩
      else if !t.occupied && decide (rhHigh ≤ rh) then ⟨.idle, false, .deferred rh rhHigh⟩
      else ⟨.idle, false, .withinBand⟩

/-! ### The stage -/

inductive HumidityEvent where
  | decided (t : HumidityTick)
  -- The decision raised: the nudge idles, the latch stays.
  | failed
  deriving DecidableEq, Repr

/-- `_climate_humidity`; the state is the latch. -/
def climateHumidity (cfg : HumidityConfig) (dryActive : Bool) :
    HumidityEvent → Bool × HumidityDecision
  | .decided t =>
    let hum := humidityDecide cfg dryActive t
    (hum.dryActive, hum)
  | .failed => (dryActive, ⟨.idle, dryActive, .failed⟩)

end Poise
