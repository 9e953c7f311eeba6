import Poise.Estimation.TauSettle

/-!
# Regulation quality

`control/regulation_quality.py`: weighted means of deviation, time in band and regime changes over
the scored comfort time, the gate that a feature passes before it may act, and the fold of
`ha/phase_report.py` that masks what the zone could not have prevented.
-/
namespace Poise

variable {K : Type*} [Field K] [LinearOrder K] [ExpSqrt K]

def defaultHorizonH : K := 72.0

def devMaxK : K := 0.5

def cycleMaxPerH : K := 3.0

def bandMin : K := 0.9

def bandTolK : K := devMaxK

def warmupMin : K := 3.0 * 24.0 * 60.0

def ppdSeed : K := 5.0

def ppdTolPct : K := 1.0

structure RegulationQuality (K : Type*) where
  deviationK : K
  inBand : K
  cyclesPerHour : K
  minutes : K
  lastMode : String
  ppd : K
  ppdMinutes : K

/-- The optimistic seed. -/
def RegulationQuality.fresh : RegulationQuality K where
  deviationK := 0
  inBand := 1
  cyclesPerHour := 0
  minutes := 0
  lastMode := ""
  ppd := ppdSeed
  ppdMinutes := 0

/-- `1 - exp(-dt/horizon)`: what the new sample takes. -/
def qualityGain (dtMin : K) : K := 1 - ExpSqrt.exp (-dtMin / (defaultHorizonH * 60.0))

/-- How far the room is outside its band. -/
def bandDeviation (room heatSp coolSp : K) : K := max (max 0 (heatSp - room)) (room - coolSp)

def inBandScore (room heatSp coolSp : K) : K :=
  if heatSp - bandTolK ≤ room ∧ room ≤ coolSp + bandTolK then 1 else 0

/-- Regime changes an hour, over one interval. -/
def changeRate (lastMode mode : String) (dtMin : K) : K :=
  (if lastMode ≠ "" ∧ mode ≠ lastMode then 1 else 0) / (max dtMin 0.000001 / 60.0)

namespace RegulationQuality

def observe (q : RegulationQuality K) (room heatSp coolSp : K) (mode : String) (dtMin : K) :
    RegulationQuality K :=
  let alpha := qualityGain dtMin
  { q with
    deviationK := (1 - alpha) * q.deviationK + alpha * bandDeviation room heatSp coolSp
    inBand := (1 - alpha) * q.inBand + alpha * inBandScore room heatSp coolSp
    cyclesPerHour := (1 - alpha) * q.cyclesPerHour + alpha * changeRate q.lastMode mode dtMin
    minutes := q.minutes + dtMin
    lastMode := mode }

def observePpd (q : RegulationQuality K) (ppd dtMin : K) : RegulationQuality K :=
  let alpha := qualityGain dtMin
  { q with
    ppd := (1 - alpha) * q.ppd + alpha * ppd
    ppdMinutes := q.ppdMinutes + dtMin }

end RegulationQuality

/-! ### The gate -/

/-- A violation that the zone cannot act against is not scored. -/
def caTickScorable (room heatSp coolSp : K) (canHeat canCool : Bool) : Bool :=
  if coolSp < room ∧ canCool = false then false
  else !(decide (room < heatSp) && !canHeat)

def meetsQuality (q : RegulationQuality K) (identified : Bool) : Bool :=
  identified && decide (warmupMin ≤ q.minutes) && decide (q.deviationK ≤ devMaxK) &&
    decide (q.cyclesPerHour ≤ cycleMaxPerH) && decide (bandMin ≤ q.inBand)

def meetsComfortQuality (q : RegulationQuality K) (identified : Bool) (baselinePpd : Option K) :
    Bool :=
  meetsQuality q identified && decide (warmupMin ≤ q.ppdMinutes) &&
    baselinePpd.all fun baseline => decide (q.ppd ≤ baseline + ppdTolPct)

/-- The tiers by name; an unknown one fails closed. -/
def flipMetricOk (tier : String) (q : RegulationQuality K) (identified : Bool)
    (baselinePpd : Option K) : Bool :=
  if tier = "reversible" then true
  else if tier = "comfort" then meetsComfortQuality q identified baselinePpd
  else if tier = "actuator" then meetsQuality q identified
  else false

/-! ### The fold of a tick -/

structure QualityRuntime (K : Type*) where
  regq : RegulationQuality K
  caLastMono : Option K := none
  ppdLastMono : Option K := none

def QualityRuntime.fresh : QualityRuntime K := { regq := .fresh }

structure QualityTick (K : Type*) where
  now : K
  room : K
  heatSp : K
  coolSp : K
  mode : String
  -- The predicted dissatisfaction, when the comfort model is valid.
  ppd : Option K := none
  enabled : Bool := true
  windowOpen : Bool := false
  frozen : Bool := false
  overridden : Bool := false
  isComfort : Bool := true
  canHeat : Bool := true
  canCool : Bool := true

/-- Comfort time that is the controller's to answer for. -/
def QualityTick.unmasked (t : QualityTick K) : Bool :=
  t.enabled && !t.windowOpen && !t.frozen && !t.overridden && t.isComfort

def QualityTick.scored (t : QualityTick K) : Bool :=
  t.unmasked && caTickScorable t.room t.heatSp t.coolSp t.canHeat t.canCool

/-- The first half of `_fold_regulation_quality`. -/
def QualityRuntime.foldCa (tickMin : K) (rt : QualityRuntime K) (t : QualityTick K) :
    QualityRuntime K :=
  if t.scored = false then rt
  else
    { rt with
      caLastMono := some t.now
      regq := rt.regq.observe t.room t.heatSp t.coolSp t.mode
        (cappedElapsedMin rt.caLastMono t.now tickMin) }

/-- The second half, with an anchor of its own. -/
def QualityRuntime.foldPpd (tickMin : K) (rt : QualityRuntime K) (t : QualityTick K) :
    QualityRuntime K :=
  match t.ppd with
  | none => rt
  | some ppd =>
    if t.unmasked = false then rt
    else
      { rt with
        ppdLastMono := some t.now
        regq := rt.regq.observePpd ppd (cappedElapsedMin rt.ppdLastMono t.now tickMin) }

/-- `_fold_regulation_quality` -/
def QualityRuntime.fold (tickMin : K) (rt : QualityRuntime K) (t : QualityTick K) :
    QualityRuntime K :=
  (rt.foldCa tickMin t).foldPpd tickMin t

end Poise
