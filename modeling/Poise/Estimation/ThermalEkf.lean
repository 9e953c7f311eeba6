import Poise.Estimation.TauTrust
import Poise.Foundation.Covariance
import Mathlib.Data.Fintype.Defs
import Mathlib.Data.Matrix.Diagonal
import Mathlib.Data.Rat.Cast.Defs

/-!
# The thermal filter

`estimation/thermal_ekf.py`: the extended Kalman filter of the room model, with its
runtime recovery and its restore. The numbers are those of any ordered field with the
exponential and the square root.
-/
namespace Poise

class ExpSqrt (K : Type*) where
  exp : K → K
  sqrt : K → K

/-- The components of the state, in the code's order. -/
inductive StateIx where
  -- The air temperature.
  | t
  -- The inverse time constant.
  | a
  -- The responsivities: heating, cooling, solar, occupancy.
  | bh
  | bc
  | bs
  | bo
  deriving DecidableEq, Repr

instance : Fintype StateIx := ⟨{.t, .a, .bh, .bc, .bs, .bo}, fun i => by cases i <;> decide⟩

/-- Six values in the code's order; `none` is any other number of them. -/
def StateIx.ofList {α : Type*} : List α → Option (StateIx → α)
  | [v0, v1, v2, v3, v4, v5] => some fun
    | .t => v0
    | .a => v1
    | .bh => v2
    | .bc => v3
    | .bs => v4
    | .bo => v5
  | _ => none

inductive EkfMode where
  | idle
  | heating
  | cooling
  deriving DecidableEq, Repr

variable {K : Type*} [Field K] [LinearOrder K]

structure ThermalEkf (K : Type*) [Zero K] where
  x : StateIx → K
  p : Matrix StateIx StateIx K
  nUpdates : ℤ := 0
  nIdle : ℤ := 0
  nHeating : ℤ := 0
  nCooling : ℤ := 0
  lastMode : EkfMode := .idle
  alphaPeggedCount : ℕ := 0
  nUc : ℤ := 0
  nQocc : ℤ := 0
  tauTrust : TauTrust K := {}
  lastDtH : K := 0

namespace ThermalEkf

/-! ### Tuning -/

def measurementVar : K := 0.04

def processNoise : StateIx → K
  | .t => 0.01
  | .a => 0.0005
  | .bh => 0.005
  | .bc => 0.005
  | .bs => 0.002
  | .bo => 0.002

def nominalDtH : K := 1 / 60.0

def anomalySigma : K := 4.0

def anomalyInflate : K := 100.0

def psdFloor : K := 1e-10

def alphaRef : K := 0.15

def recoveryPegCount : ℕ := 50

def defaults : StateIx → K
  | .t => 21.0
  | .a => 0.15
  | .bh => 3.0
  | .bc => 4.0
  | .bs => 0.5
  | .bo => 0.3

def lower : StateIx → K
  | .t => -50.0
  | .a => 0.005
  | .bh => 0.1
  | .bc => 0.1
  | .bs => 0
  | .bo => 0

def upper : StateIx → K
  | .t => 60.0
  | .a => 2.0
  | .bh => 200.0
  | .bc => 300.0
  | .bs => 50.0
  | .bo => 20.0

-- The initial covariance diagonal.
def p0 : StateIx → K
  | .t => 1
  | .a => 0.01
  | .bh => 1
  | .bc => 1
  | .bs => 0.5
  | .bo => 0.5

def seedBhVar : K := 25.0

def ekfVersion : ℤ := 1

/-! ### The repairs -/

def clamp (x : StateIx → K) : StateIx → K := fun i => min (max (x i) (lower i)) (upper i)

-- Both entries of a pair become their mean, the diagonal is floored.
def symmetrise (p : Matrix StateIx StateIx K) : Matrix StateIx StateIx K := .of fun i j =>
  if i = j then (if p i i < psdFloor then psdFloor else p i i) else 0.5 * (p i j + p j i)

def boundCorrelations [ExpSqrt K] (p : Matrix StateIx StateIx K) : Matrix StateIx StateIx K :=
  .of fun i j =>
    if i = j then p i i else Covariance.clip (ExpSqrt.sqrt (p i i * p j j)) (p i j)

def enforcePsd [ExpSqrt K] (p : Matrix StateIx StateIx K) : Matrix StateIx StateIx K :=
  boundCorrelations (symmetrise p)

def fresh : ThermalEkf K where
  x := defaults
  p := Matrix.diagonal p0

/-! ### Prediction -/

variable [ExpSqrt K]

def predict (ekf : ThermalEkf K) (dtH tOut uH uC qSolar qOcc : K) : ThermalEkf K :=
  let t := ekf.x .t
  let alpha := ekf.x .a
  let ex := ExpSqrt.exp (-alpha * dtH)
  let drive := ekf.x .bh * uH - ekf.x .bc * uC + ekf.x .bs * qSolar + ekf.x .bo * qOcc
  let tEq := tOut + drive / alpha
  -- The Jacobian: the identity for the random-walk parameters.
  let f : Matrix StateIx StateIx K := .of fun
    | .t, .t => ex
    | .t, .a => -drive / (alpha * alpha) * (1 - ex) + dtH * ex * (tEq - t)
    | .t, .bh => (1 - ex) * uH / alpha
    | .t, .bc => -(1 - ex) * uC / alpha
    | .t, .bs => (1 - ex) * qSolar / alpha
    | .t, .bo => (1 - ex) * qOcc / alpha
    | i, j => if i = j then 1 else 0
  let qScale := max 0 dtH / nominalDtH
  -- Noise only on what the inputs make observable.
  let noise : StateIx → K
    | .t => processNoise .t * qScale
    | .a => processNoise .a * qScale * min 1 ((alpha / alphaRef) ^ 2)
    | .bh => if 0 < uH then processNoise .bh * qScale else 0
    | .bc => if 0 < uC then processNoise .bc * qScale else 0
    | .bs => if 0 < qSolar then processNoise .bs * qScale else 0
    | .bo => if 0 < qOcc then processNoise .bo * qScale else 0
  { ekf with
    x := Function.update ekf.x .t (tEq + (t - tEq) * ex)
    p := enforcePsd (f * ekf.p * f.transpose + Matrix.diagonal noise)
    lastDtH := dtH
    lastMode := if 0 < uH then .heating else if 0 < uC then .cooling else .idle
    nUc := if 0 < uC then ekf.nUc + 1 else ekf.nUc
    nQocc := if 0 < qOcc then ekf.nQocc + 1 else ekf.nQocc }

/-! ### Measurement -/

/-- The measurement noise, inflated for an outlier. -/
def effectiveVar (tempVar innovation : K) : K :=
  let s := tempVar + measurementVar
  if anomalySigma ^ 2 * s < innovation * innovation then
    max (measurementVar * anomalyInflate) (innovation * innovation / anomalySigma ^ 2 - tempVar)
  else measurementVar

/-- The correction by one measurement, up to and including the repairs. -/
def correct (ekf : ThermalEkf K) (zTemp : K) : ThermalEkf K :=
  let innovation := zTemp - ekf.x .t
  let rEff := effectiveVar (ekf.p .t .t) innovation
  let s := ekf.p .t .t + rEff
  let k := fun i => ekf.p i .t / s
  { ekf with
    x := clamp fun i => ekf.x i + k i * innovation
    p := enforcePsd (Covariance.joseph .t k rEff ekf.p)
    nUpdates := ekf.nUpdates + 1
    nHeating := if ekf.lastMode = .heating then ekf.nHeating + 1 else ekf.nHeating
    nCooling := if ekf.lastMode = .cooling then ekf.nCooling + 1 else ekf.nCooling
    nIdle := if ekf.lastMode = .idle then ekf.nIdle + 1 else ekf.nIdle }

omit [ExpSqrt K] in
/-- The state between the gain and the physical clamp. -/
def measured (ekf : ThermalEkf K) (zTemp : K) : StateIx → K :=
  let innovation := zTemp - ekf.x .t
  let s := ekf.p .t .t + effectiveVar (ekf.p .t .t) innovation
  fun i => ekf.x i + ekf.p i .t / s * innovation

theorem correct_x_eq (ekf : ThermalEkf K) (zTemp : K) :
    (ekf.correct zTemp).x = clamp (ekf.measured zTemp) := rfl

omit [ExpSqrt K] in
/-- Pegged: within one per cent of a bound. -/
def pegged (alpha : K) : Bool :=
  decide (alpha ≤ lower .a * 1.01) || decide (upper .a * 0.99 ≤ alpha)

/-- Reset α once it stayed pegged; the flag tells whether it was reset. -/
def runtimeRecovery (ekf : ThermalEkf K) : ThermalEkf K × Bool :=
  if pegged (ekf.x .a) then
    if recoveryPegCount ≤ ekf.alphaPeggedCount + 1 then
      ({ ekf with
          x := Function.update ekf.x .a (defaults .a)
          p := Covariance.setDiag ekf.p .a (p0 .a)
          alphaPeggedCount := 0 }, true)
    else ({ ekf with alphaPeggedCount := ekf.alphaPeggedCount + 1 }, false)
  else ({ ekf with alphaPeggedCount := 0 }, false)

def tauHours (ekf : ThermalEkf K) : K := 1 / ekf.x .a

def update (ekf : ThermalEkf K) (zTemp : K) : ThermalEkf K :=
  let (recovered, reset) := (ekf.correct zTemp).runtimeRecovery
  { recovered with
    tauTrust := observeTau recovered.tauTrust (some recovered.tauHours) recovered.lastDtH reset }

/-- The cold-start prior of the heating responsivity. -/
def seedBetaH (ekf : ThermalEkf K) (value : K) : ThermalEkf K :=
  { ekf with
    x := Function.update ekf.x .bh (min (max value (lower .bh)) (upper .bh))
    p := Covariance.setDiag ekf.p .bh (max (ekf.p .bh .bh) seedBhVar) }

/-! ### Restore -/

/-- The stored record. `none` is a version that is no integer, and an `x` or a `p` that is
absent or holds anything but finite numbers. -/
structure Payload (K : Type*) where
  ekfVersion : Option ℤ := some 0
  x : Option (List K) := none
  p : Option (List (List K)) := none
  nUpdates : ℤ := 0
  nIdle : ℤ := 0
  nHeating : ℤ := 0
  nCooling : ℤ := 0
  nUc : ℤ := 0
  nQocc : ℤ := 0
  tauTrust : Option (TauTrust.Payload K) := none

def matrixOfRows (rows : List (List K)) : Option (Matrix StateIx StateIx K) :=
  (rows.mapM StateIx.ofList).bind fun rows => (StateIx.ofList rows).map .of

def fromDict (data : Payload K) : ThermalEkf K :=
  match data.ekfVersion, data.x.bind StateIx.ofList, data.p.bind matrixOfRows with
  | some version, some x, some p =>
    let versionOk := version = ekfVersion
    let ekf : ThermalEkf K :=
      { x
        p := if versionOk then p else Matrix.diagonal p0
        nUpdates := data.nUpdates
        nIdle := data.nIdle
        nHeating := data.nHeating
        nCooling := data.nCooling
        nUc := data.nUc
        nQocc := data.nQocc }
    let ekf :=
      if ¬ versionOk ∨ upper .a * 0.99 ≤ ekf.x .a ∨ ekf.x .a ≤ lower .a * 1.01 then
        -- An unreliable model keeps its temperature and its counters only.
        { ekf with
          x := fun i => if i = .t then ekf.x .t else defaults i
          p := .of fun i j => if i = j ∧ i ≠ .t then p0 i else ekf.p i j }
      else { ekf with tauTrust := .fromDict data.tauTrust }
    { ekf with x := clamp ekf.x, p := enforcePsd ekf.p }
  | _, _, _ => fresh

end ThermalEkf

end Poise
