import Poise.Comfort.MouldRisk

/-!
# Optimal start and stop

`ThermalModel` of `estimation/thermal_ekf.py`, `control/optimal_start.py::heatup_minutes`
and `control/optimal_stop.py::coastdown_minutes`: the time that full heating, or no heating,
needs to bring the room to its target.
-/
namespace Poise

open ExpLog

variable {K : Type*} [Field K] [LinearOrder K] [ExpLog K]

/-- The learned model, frozen. -/
structure ThermalModel (K : Type*) where
  alpha : K
  betaH : K
  betaC : K
  betaS : K
  betaO : K

namespace ThermalModel

variable (model : ThermalModel K)

/-- The air temperature after `dtH` hours under constant inputs. -/
def predict (tAir dtH tOut uH uC qSolar qOcc : K) : K :=
  let ex := exp (-model.alpha * dtH)
  let drive :=
    model.betaH * uH - model.betaC * uC + model.betaS * qSolar + model.betaO * qOcc
  let tEq := tOut + drive / model.alpha
  tEq + (tAir - tEq) * ex

end ThermalModel

-- Guard against a degenerate model.
def minAlpha : K := 1e-4

-- The equilibrium must clear the target by this much.
def tEqMargin : K := 0.1

/-- Minutes of full heating to the target; nothing when it is out of reach. -/
def heatupMinutes (model : ThermalModel K) (room target tOut qSolar qOcc maxLeadH : K) :
    Option K :=
  if target ≤ room then some 0
  else
    let alpha := max model.alpha minAlpha
    let drive := model.betaH + model.betaS * qSolar + model.betaO * qOcc
    let tEq := tOut + drive / alpha
    if tEq ≤ target + tEqMargin then none
    else
      let ratio := (target - tEq) / (room - tEq)
      let tH := -log ratio / alpha
      if maxLeadH < tH then none else some (tH * 60.0)

/-- Minutes without heating until the room has drifted down to the target. -/
def coastdownMinutes (model : ThermalModel K) (room target tOut qSolar maxLeadH : K) :
    Option K :=
  if room ≤ target then some 0
  else
    let alpha := max model.alpha minAlpha
    let tEq := tOut + model.betaS * qSolar / alpha
    if target - tEqMargin ≤ tEq then none
    else
      let ratio := (target - tEq) / (room - tEq)
      let tH := -log ratio / alpha
      if maxLeadH < tH then none else some (tH * 60.0)

end Poise
