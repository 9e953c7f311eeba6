import Poise.Diagnostics.OutcomeScoring
import Poise.Estimation.TauSettle

/-!
# The savings estimate and the outcome fold

`control/hdh_savings.py`: the share of the heating gradient that setbacks did not spend, by
calendar month. The fold of `ha/phase_report.py` books the same minutes to this estimate and to
the open heating session.
-/
namespace Poise

open Rounding

structure HdhConfig where
  annualKwh : ℚ := 12000.0
  priceEurKwh : ℚ := 0.30
  -- The gradient is never taken smaller.
  baseFloor : ℚ := 1.0

def savedFractionTick (cfg : HdhConfig) (comfort setpoint outdoor dtMin : ℚ) : ℚ :=
  if comfort ≤ outdoor then 0
  else
    let saved := max 0 (comfort - setpoint)
    let base := max cfg.baseFloor (comfort - outdoor)
    saved / base * dtMin

structure HdhSavings where
  savedMin : ℚ := 0
  eligibleMin : ℚ := 0
  month : Option ℕ := none
  deriving DecidableEq, Repr

structure HdhReport where
  kwh : ℚ
  eur : ℚ
  pct : ℚ
  deriving DecidableEq, Repr

namespace HdhSavings

/-- The accumulators start again with each calendar month. -/
def base (s : HdhSavings) (nowMonth : ℕ) : HdhSavings :=
  if s.month = none ∨ s.month = some nowMonth then s else { month := some nowMonth }

def observe (cfg : HdhConfig) (s : HdhSavings) (comfort setpoint outdoor dtMin : ℚ)
    (nowMonth : ℕ) : HdhSavings :=
  let base := s.base nowMonth
  if comfort ≤ outdoor then { base with month := some nowMonth }
  else
    { savedMin := base.savedMin + savedFractionTick cfg comfort setpoint outdoor dtMin
      eligibleMin := base.eligibleMin + dtMin
      month := some nowMonth }

def report (cfg : HdhConfig) (s : HdhSavings) : HdhReport :=
  if s.eligibleMin ≤ 0 ∨ cfg.annualKwh ≤ 0 then ⟨0, 0, 0⟩
  else
    let frac := min (s.savedMin / s.eligibleMin) 1
    let kwh := frac * cfg.annualKwh / 12
    ⟨roundTo kwh 2, roundTo (kwh * cfg.priceEurKwh) 2, roundTo (frac * 100) 1⟩

end HdhSavings

/-! ### The fold of a tick -/

structure OutcomeRuntime where
  hdhLastMono : Option ℚ := none
  hdh : HdhSavings := {}
  outcomeSession : OutcomeSession := {}
  outcomeStats : OutcomeStats := {}
  deriving DecidableEq

structure OutcomeTick where
  now : ℚ
  month : ℕ
  room : ℚ
  heatSp : ℚ
  comfortBase : ℚ
  outdoor : ℚ
  heating : Bool
  enabled : Bool := true
  -- `model_expected_minutes`
  expectedMinutes : ℚ := 0
  qSolar : ℚ := 0

/-- The session's view of a tick that books `dt` minutes. -/
def OutcomeTick.booked (t : OutcomeTick) (dt : ℚ) : SessionTick where
  temp := t.room
  target := t.heatSp
  heating := t.heating
  controlling := t.enabled
  dtMin := dt
  expectedMinutes := t.expectedMinutes
  qSolar := t.qSolar
  outdoor := t.outdoor

/-- `_fold_hdh_and_outcome`, with the session it finished. -/
def OutcomeRuntime.fold (cfg : HdhConfig) (tickMin : ℚ) (rt : OutcomeRuntime) (t : OutcomeTick) :
    OutcomeRuntime × Option FinishedSession :=
  let dt := cappedElapsedMin rt.hdhLastMono t.now tickMin
  let observed := observeSession {} rt.outcomeSession (t.booked dt)
  ({ hdhLastMono := some t.now
     hdh := rt.hdh.observe cfg t.comfortBase t.heatSp t.outdoor dt t.month
     outcomeSession := observed.1
     outcomeStats := match observed.2 with
      | none => rt.outcomeStats
      | some finished => rt.outcomeStats.observe finished.score finished.controller },
    observed.2)

end Poise
