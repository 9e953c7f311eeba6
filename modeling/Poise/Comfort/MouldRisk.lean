import Poise.Foundation.Trace
import Mathlib.Algebra.Order.Field.Basic
import Mathlib.Data.Rat.Cast.Defs

/-!
# Dose-based mould risk

The psychrometry (`estimation/psychrometrics.py`, `comfort/mold.py`), the VTT
mould index (`comfort/mould_risk.py`) and the state cycle around it
(`control/pipeline_prepare.py::stage_safety_floors` and its glue). The code's
floats are an ordered field; `exp` and `log` are the only transcendental
functions it uses.
-/
namespace Poise

/-- The exponential and the natural logarithm of the number type. -/
class ExpLog (K : Type*) where
  exp : K → K
  log : K → K

open ExpLog

variable {K : Type*} [Field K] [LinearOrder K] [ExpLog K]

/-! ### Psychrometry -/

-- Saturation vapour pressure over water [Pa].
def saturationPressure (tC : K) : K := 610.94 * exp (17.625 * tC / (243.04 + tC))

def vapourPressure (tC rhPercent : K) : K :=
  let rh := min (max rhPercent 1) 100
  rh / 100 * saturationPressure tC

def dewpoint (tC rhPercent : K) : K :=
  let rh := min (max rhPercent 1) 100
  let gamma := log (rh / 100) + 17.625 * tC / (243.04 + tC)
  243.04 * gamma / (17.625 - gamma)

def surfaceTemperature (tAir tOut fRsi : K) : K := tOut + fRsi * (tAir - tOut)

def surfaceRelativeHumidity (tAir rhPercent tOut fRsi : K) : K :=
  vapourPressure tAir rhPercent / saturationPressure (surfaceTemperature tAir tOut fRsi)

/-! ### The mould index -/

structure SubstrateSpec (K : Type*) where
  k1Lo : K
  k1Hi : K
  a : K
  b : K
  c : K
  rhMin : K
  decline : K

inductive SubstrateClass where
  | verySensitive
  | sensitive
  | mediumResistant
  | resistant
  deriving DecidableEq, Repr

def SubstrateClass.spec : SubstrateClass → SubstrateSpec K
  | .verySensitive => ⟨1, 2, 1, 7, 2, 80, 1⟩
  | .sensitive => ⟨0.578, 0.386, 0.3, 6, 1, 80, 0.5⟩
  | .mediumResistant => ⟨0.072, 0.097, 0, 5, 1.5, 85, 0.25⟩
  | .resistant => ⟨0.033, 0.014, 0, 3, 1, 85, 0.1⟩

variable (spec : SubstrateSpec K)

def criticalRh (tSurface : K) : K :=
  -- Lowest surface humidity [%] at which growth is possible.
  if 20 < tSurface then spec.rhMin
  else
    let cubic := -0.00267 * tSurface ^ 3 + 0.160 * tSurface ^ 2 - 3.13 * tSurface + 100
    max cubic spec.rhMin

def maxIndex (tSurface rhSurface : K) : K :=
  let rhCrit := criticalRh spec tSurface
  if rhSurface ≤ rhCrit then 0
  else
    let span := 100 - rhCrit
    let x := if span ≤ 1e-9 then 1 else (rhSurface - rhCrit) / span
    let x := min (max x 0) 1
    min (max (spec.a + spec.b * x - spec.c * x ^ 2) 0) 6

def growthPerHour (index tSurface rhSurface : K) : K :=
  let k1 := if index < 1 then spec.k1Lo else spec.k1Hi
  let k2 := max (1 - exp (2.3 * (index - maxIndex spec tSurface rhSurface))) 0
  let exponent := -0.68 * log tSurface - 13.9 * log rhSurface + 66.02
  k1 * k2 / (7 * exp exponent) / 24

/-- One tick of the index: growth while wet, else the three-stage decline. -/
def indexStep (index tSurface rhSurface dtH dryHours : K) : K :=
  let delta :=
    if criticalRh spec tSurface ≤ rhSurface ∧ 0 < tSurface ∧ tSurface < 50 then
      growthPerHour spec index tSurface rhSurface * dtH
    else
      let rate := if dryHours ≤ 6 then -0.00133 else if dryHours ≤ 24 then 0 else -0.000667
      rate * spec.decline * dtH
  min (max (index + delta) 0) 6

/-! ### The required air temperature -/

def surfaceRhExcess (tAir tOut pV fRsi : K) : K :=
  let tSi := surfaceTemperature tAir tOut fRsi
  100 * pV / saturationPressure tSi - criticalRh spec tSi

def floorCeilingC : K := 24

def bisect (excess : K → K) : ℕ → K → K → K
  -- the safe end of the bracket is returned
  | 0, _, hi => hi
  | steps + 1, lo, hi =>
    let mid := 0.5 * (lo + hi)
    if 0 < excess mid then bisect excess steps mid hi else bisect excess steps lo mid

/-- The search of `required_air_temperature`, over an excess of the air temperature; with whether
even the ceiling fails. -/
def requiredFor (excess : K → K) (tOut : K) : K × Bool :=
  let lo := min tOut floorCeilingC
  if 0 < excess floorCeilingC then (floorCeilingC, true)
  else if excess lo ≤ 0 then (lo, false)
  else (bisect excess 60 lo floorCeilingC, false)

/-- The air temperature that brings the surface back to its critical line. -/
def requiredAirTemperature (tOut rhRoom tRoom fRsi : K) : K × Bool :=
  let f := min (max fRsi 0.1) 1
  let pV := vapourPressure tRoom rhRoom
  requiredFor (fun t => surfaceRhExcess spec t tOut pV f) tOut

/-! ### The verdict -/

inductive MouldReason where
  | index
  | acute
  | clear
  | noHumidity
  deriving DecidableEq, Repr

structure MouldRisk (K : Type*) where
  index : K
  wetHours : K
  dryHours : K
  engaged : Bool
  floor : Option K
  capped : Bool
  surfaceRh : K
  criticalRh : K
  reason : MouldReason

structure MouldInput (K : Type*) where
  tRoom : K
  rhRoom : Option K
  tOut : K
  index : K
  wetHours : K
  dryHours : K
  dtH : K
  wasEngaged : Bool

structure MouldDose (K : Type*) where
  index : K
  wetHours : K
  dryHours : K

def MouldInput.advance (i : MouldInput K) (rh fRsi : K) : MouldDose K :=
  let tSi := surfaceTemperature i.tRoom i.tOut fRsi
  let surfaceRh := surfaceRelativeHumidity i.tRoom rh i.tOut fRsi * 100
  let (wetHours, dryHours) :=
    if criticalRh spec tSi ≤ surfaceRh then (i.wetHours + i.dtH, 0) else (0, i.dryHours + i.dtH)
  ⟨indexStep spec i.index tSi surfaceRh i.dtH dryHours, wetHours, dryHours⟩

def indexEngage : K := 2

def indexRelease : K := 1.5

def acuteWetHours : K := 48

def engagement (dose : MouldDose K) (wasEngaged : Bool) : Bool × MouldReason :=
  if indexEngage ≤ dose.index then (true, .index)
  else if acuteWetHours ≤ dose.wetHours then (true, .acute)
  -- hysteresis: once engaged, the floor is held down to the release index
  else if wasEngaged ∧ indexRelease ≤ dose.index then (true, .index)
  else (false, .clear)

/-- `evaluate`: without a humidity reading the dose is frozen. -/
def MouldInput.evaluate (i : MouldInput K) (fRsi : K) : MouldRisk K :=
  let tSi := surfaceTemperature i.tRoom i.tOut fRsi
  let rhCrit := criticalRh spec tSi
  match i.rhRoom with
  | none => ⟨i.index, i.wetHours, i.dryHours, false, none, false, 0, rhCrit, .noHumidity⟩
  | some rh =>
    let surfaceRh := surfaceRelativeHumidity i.tRoom rh i.tOut fRsi * 100
    let dose := i.advance spec rh fRsi
    let (engaged, reason) := engagement dose i.wasEngaged
    let required := requiredAirTemperature spec i.tOut rh i.tRoom fRsi
    let (floor, capped) := if engaged then (some required.1, required.2) else (none, false)
    ⟨dose.index, dose.wetHours, dose.dryHours, engaged, floor, capped, surfaceRh, rhCrit, reason⟩

/-! ### The state cycle of the safety-floor stage -/

structure HealthUpdate where
  issueId : String
  active : Bool
  translationKey : String
  entity : String
  deriving DecidableEq, Repr

structure FloorTick (K : Type*) where
  room : K
  rh : Option K
  tOutEff : K

structure SafetyFloorsResult (K : Type*) where
  moldMin : Option K
  moldCapped : Bool
  dewpoint : Option K
  mouldIndex : K
  mouldWetHours : K
  mouldDryHours : K
  mouldEngaged : Bool
  mouldReason : MouldReason
  healthUpdates : List HealthUpdate

/-- The mould fields of the long-lived humidity state; only the dose is persisted. -/
structure MouldState (K : Type*) where
  mouldIndex : K
  mouldWetHours : K
  mouldDryHours : K
  mouldEngaged : Bool

def MouldState.input (hum : MouldState K) (ing : FloorTick K) : MouldInput K where
  tRoom := ing.room
  rhRoom := ing.rh
  tOut := ing.tOutEff
  index := hum.mouldIndex
  wetHours := hum.mouldWetHours
  dryHours := hum.mouldDryHours
  -- the dose books one tick interval of 60 s
  dtH := 60 / 3600
  wasEngaged := hum.mouldEngaged

/-- `stage_safety_floors`, with the default substrate and surface factor. -/
def stageSafetyFloors (entryId : String) (humidityEntity : Option String) (hum : MouldState K)
    (ing : FloorTick K) : SafetyFloorsResult K :=
  let risk := (hum.input ing).evaluate SubstrateClass.sensitive.spec 0.7
  { moldMin := risk.floor
    moldCapped := risk.capped
    dewpoint := ing.rh.map fun rh => dewpoint ing.room rh
    mouldIndex := risk.index
    mouldWetHours := risk.wetHours
    mouldDryHours := risk.dryHours
    mouldEngaged := risk.engaged
    mouldReason := risk.reason
    healthUpdates := [⟨"mould_protection_inactive_" ++ entryId,
      humidityEntity.isSome && ing.rh.isNone, "mould_protection_inactive",
      humidityEntity.getD ""⟩] }

/-- The glue folds the advanced dose and the verdict back into the runtime. -/
def floorStep (entryId : String) (humidityEntity : Option String) (hum : MouldState K)
    (ing : FloorTick K) : MouldState K × SafetyFloorsResult K :=
  let floors := stageSafetyFloors entryId humidityEntity hum ing
  (⟨floors.mouldIndex, floors.mouldWetHours, floors.mouldDryHours, floors.mouldEngaged⟩, floors)

end Poise
