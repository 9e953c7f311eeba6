import Poise.Foundation.Greedy
import Poise.Foundation.Rounding
import Poise.Runtime.State

/-!
# Load shedding

`control/hub_aggregate.py::resolve_load_shedding` and the fields of `ZoneRequest` that it reads.
Gaps and declared powers are finite: the hub reads both through a finiteness test.
-/
namespace Poise

open Rounding

structure ZoneRequest where
  zoneId : String
  heating : Bool
  -- Target − room; positive below the target.
  comfortGap : ℚ
  frostActive : Bool
  declaredPower : Option ℚ
  healthActive : Bool
  deriving DecidableEq, Repr

/-- `r.declared_power or 0.0`. -/
def ZoneRequest.power (r : ZoneRequest) : ℚ := r.declaredPower.getD 0

/-- The zones that may be shed. -/
def ZoneRequest.eligible (r : ZoneRequest) : Bool :=
  r.heating && r.power ≠ 0 && !r.frostActive && !r.healthActive

structure SheddingResult where
  shed : List String
  freedPower : ℚ
  deficit : ℚ
  deriving DecidableEq, Repr

/-- The loop over the candidates, from what is shed and freed so far. -/
def shedLoop (deficit : ℚ) : List ZoneRequest → List String → ℚ → List String × ℚ
  | [], shed, freed => (shed, freed)
  | r :: rest, shed, freed =>
    if deficit ≤ freed then (shed, freed)
    else shedLoop deficit rest (shed ++ [r.zoneId]) (freed + r.power)

def resolveLoadShedding (requests : List ZoneRequest) (availablePower : PyFloat) :
    SheddingResult :=
  match availablePower with
  | .finite available =>
    if 0 ≤ available then ⟨[], 0, 0⟩
    else
      let deficit := -available
      -- The smallest gap is nearest to its setpoint and goes first.
      let candidates := Greedy.rank ZoneRequest.comfortGap (requests.filter ZoneRequest.eligible)
      let (shed, freed) := shedLoop deficit candidates [] 0
      ⟨shed, roundTo freed 3, roundTo deficit 3⟩
  -- No data.
  | .infinite _ | .nan => ⟨[], 0, 0⟩

end Poise
