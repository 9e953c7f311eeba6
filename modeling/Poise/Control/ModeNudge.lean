import Poise.Control.PipelineActuate
import Poise.Safety.WriteConvergence

/-!
# The mode-nudge segment

`_stage_mode_nudge` of `ha/phase_actuate.py`, with the watchdog that it feeds. The watchdog sees
the tick after the compressor guard and before the throttle: a throttled nudge is evidence, a
blocked one is not. Both read the baselines before the commit moves them.
-/
namespace Poise

/-- The zone, and the watchdog of its safety runtime. -/
structure ModeChannel where
  zone : ZoneRuntime := {}
  convergence : WriteConvergenceWatchdog := {}
  deriving DecidableEq, Repr

structure NudgeTick where
  tick : TickInput
  adoption : ModeAdoptionResult
  -- Seconds since the device's state object was updated, by the wall clock.
  stateAgeS : ℚ
  deriving DecidableEq, Repr

/-- `_convergence_evidence_fresh`: the state was updated after the last command. -/
def convergenceEvidenceFresh (stateAgeS lastCmd : Option ℚ) (now : ℚ) : Bool :=
  match stateAgeS, lastCmd with
  | none, _ => false
  -- no state is staler than a write that never happened
  | some _, none => true
  | some age, some commanded => age ≤ now - commanded

namespace NudgeTick

variable (t : NudgeTick)

def desired : String := t.adoption.desiredHvac

/-- The nudge is needed, and the guard does not hold it. -/
def nudged : Bool := t.tick.nudgeNeeded t.desired && (t.tick.nudgeBlocked t.desired).isNone

/-- What the watchdog is told. -/
def sample (external : ExternalOverrideRuntime) : ModeSample where
  nudged := t.nudged
  reNudge := external.lastCommandedHvac = some t.desired
  currentMatchesDesired := t.tick.deviceMode = some t.desired
  evidenceFresh := convergenceEvidenceFresh (t.tick.actState.map fun _ => t.stateAgeS)
    external.lastHvacCmdTs t.tick.now
  now := t.tick.now

end NudgeTick

/-- The segment of one tick. -/
def modeNudgeTick (channel : ModeChannel) (t : NudgeTick) : ModeChannel × ModeNudgeResult :=
  let convergence := channel.convergence.observeMode (t.sample channel.zone.external)
  let (zone, result) := stageModeNudge channel.zone t.tick t.adoption
  ({ zone, convergence }, result)

end Poise
