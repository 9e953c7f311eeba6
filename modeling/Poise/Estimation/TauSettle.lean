import Poise.Estimation.ThermalEkf
import Mathlib.Data.Rat.Cast.OfScientific

/-!
# Settling of the time constant

`estimation/tau_settle.py`: a weighted mean and variance of α over the learn-active time, with
the gate and the confidence read off them, and the fold of `ha/phase_report.py` that books each
tick's capped interval.
-/
namespace Poise

variable {K : Type*} [Field K] [LinearOrder K] [ExpSqrt K]

def settleHorizonMin : K := 90.0

def settleWarmupMin : K := 60.0

def settleRelGate : K := 0.04

structure TauSettle (K : Type*) where
  mean : K
  var : K
  minutes : K
  settled : Bool

namespace TauSettle

-- `none` is infinite.
def relSpread (s : TauSettle K) : Option K :=
  if s.mean ≤ 0 then none else some (ExpSqrt.sqrt (max 0 s.var) / s.mean)

/-- Restored from the store, a settling is never settled. -/
def restored (s : TauSettle K) : TauSettle K := { s with settled := false }

end TauSettle

/-- `1 - exp(-dt/horizon)`: what the new sample takes. -/
def settleGain (dt : K) : K :=
  if 0 < (settleHorizonMin : K) then 1 - ExpSqrt.exp (-dt / settleHorizonMin) else 1

def updateSettle (prev : Option (TauSettle K)) (alpha : Option K) (dtMin : K)
    (learnActive : Bool) : Option (TauSettle K) :=
  match alpha with
  | none => prev
  | some alpha =>
    if learnActive = false ∨ alpha ≤ 0 then prev
    else
      match prev with
      | none => some { mean := alpha, var := 0, minutes := max 0 dtMin, settled := false }
      | some prev =>
        let dt := max 0 dtMin
        let a := settleGain dt
        let diff := alpha - prev.mean
        let incr := a * diff
        let mean := prev.mean + incr
        let var := (1 - a) * (prev.var + diff * incr)
        let minutes := prev.minutes + dt
        let settled := decide (settleWarmupMin ≤ minutes) &&
          (if 0 < mean then decide (ExpSqrt.sqrt (max 0 var) / mean ≤ settleRelGate) else false)
        some { mean, var, minutes, settled }

def settleConfidence (est : Option (TauSettle K)) : K :=
  match est with
  | none => 0
  | some est =>
    if est.minutes < settleWarmupMin ∨ est.mean ≤ 0 then 0
    else
      match est.relSpread with
      | none => 0
      | some spread => max 0 (min 1 (1 - spread / (2.0 * settleRelGate)))

/-! ### The fold of a tick -/

/-- Real minutes since the last tick, capped at two ticks. -/
def cappedElapsedMin (lastMono : Option K) (now tickMin : K) : K :=
  match lastMono with
  | none => tickMin
  | some last => min (max ((now - last) / 60.0) 0) (2.0 * tickMin)

structure SettleRuntime (K : Type*) where
  tauSettle : Option (TauSettle K) := none
  tauLastMono : Option K := none

structure SettleTick (K : Type*) where
  now : K
  -- The filter's α.
  alpha : Option K
  -- The actuator drove the room.
  conditioning : Bool

/-- `_fold_tau_settle` -/
def SettleRuntime.fold (tickMin : K) (rt : SettleRuntime K) (t : SettleTick K) :
    SettleRuntime K where
  tauSettle := updateSettle rt.tauSettle t.alpha (cappedElapsedMin rt.tauLastMono t.now tickMin)
    t.conditioning
  tauLastMono := some t.now

end Poise
