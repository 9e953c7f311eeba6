import Poise.Foundation.Trace
import Poise.Comfort.MouldRisk

/-!
# The heat-up sampler and the seasonless prior

`estimation/heatup_rate.py`, `estimation/seasonless_rate.py` and their wiring in
`control/pipeline_prepare.py`: a burst of heating is anchored at its start, a rate is emitted once
the room has really risen, and the rate per kelvin of drive is kept with the outdoor temperature
and the day it belongs to.
-/
namespace Poise

open ExpLog

variable {K : Type*} [Field K] [LinearOrder K]

/-! ### The sampler -/

def minRiseK : K := 0.3

def maxSpanH : K := 1.0

/-- The anchor of the current burst: its room and its instant, or none. -/
structure HeatupAccumulator (K : Type*) where
  anchorRoom : Option K := none
  anchorMono : Option K := none
  deriving DecidableEq

/-- Anchor here, emit nothing. -/
def HeatupAccumulator.at (room mono : K) : HeatupAccumulator K := ⟨some room, some mono⟩

def sampleHeatupRate (acc : HeatupAccumulator K) (heating : Bool) (room mono : K) :
    HeatupAccumulator K × Option K :=
  if heating = false then ({}, none)
  else
    match acc.anchorRoom, acc.anchorMono with
    | some anchorRoom, some anchorMono =>
      let elapsedH := (mono - anchorMono) / 3600.0
      if elapsedH ≤ 0 ∨ maxSpanH < elapsedH then (.at room mono, none)
      else
        let rise := room - anchorRoom
        if rise < 0 then (.at room mono, none)
        else if rise < minRiseK then (acc, none)
        else (.at room mono, some (rise / elapsedH))
    | _, _ => (.at room mono, none)

/-! ### The prior -/

def halfLifeDays : K := 180.0

def tempSigma : K := 5.0

def minDriveK : K := 1.0

def historyCap : ℕ := 200

def normalizedRate (heatRate target outdoor : K) : Option K :=
  let drive := target - outdoor
  if drive < minDriveK then none else some (heatRate / drive)

structure SeasonObs (K : Type*) where
  outdoor : K
  rNorm : K
  day : K
  deriving DecidableEq

structure SeasonlessRate (K : Type*) [Field K] where
  tempSigma : K := tempSigma
  halfLifeDays : K := halfLifeDays
  obs : List (SeasonObs K) := []
  deriving DecidableEq

namespace SeasonlessRate

def observe (s : SeasonlessRate K) (heatRate target outdoor day : K) : SeasonlessRate K :=
  match normalizedRate heatRate target outdoor with
  | none => s
  | some r =>
    if r ≤ 0 then s
    else
      let obs := s.obs ++ [⟨outdoor, r, day⟩]
      { s with obs := if historyCap < obs.length then obs.drop (obs.length - historyCap) else obs }

variable [ExpLog K]

def gaussianWeight (delta sigma : K) : K :=
  if sigma ≤ 0 then if delta = 0 then 1 else 0 else exp (-0.5 * (delta / sigma) ^ 2)

def halfLifeWeight (ageDays halfLife : K) : K :=
  if ageDays ≤ 0 ∨ halfLife ≤ 0 then 1 else exp (-log 2.0 * ageDays / halfLife)

def weight (s : SeasonlessRate K) (outdoor nowDay : K) (o : SeasonObs K) : K :=
  gaussianWeight (outdoor - o.outdoor) s.tempSigma * halfLifeWeight (nowDay - o.day) s.halfLifeDays

/-- The weighted sum of the rates and the sum of the weights. -/
def weigh (w : SeasonObs K → K) : List (SeasonObs K) → K × K
  | [] => (0, 0)
  | o :: rest => (w o * o.rNorm + (weigh w rest).1, w o + (weigh w rest).2)

def estimateNorm (s : SeasonlessRate K) (outdoor nowDay : K) : Option K :=
  let (num, den) := weigh (s.weight outdoor nowDay) s.obs
  if 0 < den then some (num / den) else none

def heatRatePrior (s : SeasonlessRate K) (target outdoor nowDay : K) : Option K :=
  match s.estimateNorm outdoor nowDay with
  | none => none
  | some r =>
    let drive := target - outdoor
    if drive < minDriveK then none else some (r * drive)

end SeasonlessRate

/-! ### The tick -/

/-- What `observe_seasonless` reads. -/
structure HeatupTick (K : Type*) where
  mono : K
  room : K
  tOut : K
  day : K
  -- The last written target and the last heating drive.
  lastTarget : Option K
  lastUH : K

def HeatupTick.heating (t : HeatupTick K) : Bool := t.lastTarget.isSome && decide (0.5 < t.lastUH)

inductive HeatupEvent (K : Type*) where
  | tick (t : HeatupTick K)
  -- Learning is paused: an open window, a frozen or unavailable sensor, a failure.
  | pause

structure HeatupLearner (K : Type*) [Field K] where
  heatupAcc : HeatupAccumulator K := {}
  seasonless : SeasonlessRate K := {}
  deriving DecidableEq

/-- `observe_seasonless`; the output is the emitted rate. -/
def HeatupLearner.step (s : HeatupLearner K) : HeatupEvent K → HeatupLearner K × Option K
  | .pause => ({ s with heatupAcc := {} }, none)
  | .tick t =>
    let sampled := sampleHeatupRate s.heatupAcc t.heating t.room t.mono
    let seasonless := match sampled.2, t.lastTarget with
      | some rate, some target =>
        if 0 < rate then s.seasonless.observe rate target t.tOut t.day else s.seasonless
      | _, _ => s.seasonless
    ({ heatupAcc := sampled.1, seasonless }, sampled.2)

end Poise
