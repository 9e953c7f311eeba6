import Poise.Control.TickResolve

/-!
# The write-convergence watchdog

`safety/write_convergence.py`: counts re-asserts a device does not follow, on the
setpoint and on the mode channel, and escalates when they persist. The two
channels keep the same three fields under the same rules and differ in what a
call's reading says, so each is an `Episode`.
-/
namespace Poise

/-! ### Thresholds -/

def convFailWrites : ℕ := 5

def convFailNudges : ℕ := 5

def convFailMinS : ℚ := 600

def convEvidenceTtlS : ℚ := 3600

/-! ### One channel -/

/-- `sp_diverged_writes`, `sp_diverged_since`, `sp_last_evidence`, and the same
three of the mode channel. -/
structure Episode where
  diverged : ℕ := 0
  since : Option ℚ := none
  lastEvidence : Option ℚ := none
  deriving DecidableEq, Repr

def reanchor (now : ℚ) (anchor : Option ℚ) : Option ℚ :=
  -- a clock that went back must not make the episode look old
  anchor.map fun t => if now < t then now else t

/-- `_expire_sp` and `_expire_mode`. -/
def Episode.expire (episode : Episode) (now : ℚ) : Episode :=
  let since := reanchor now episode.since
  let lastEvidence := reanchor now episode.lastEvidence
  if lastEvidence.any fun last => convEvidenceTtlS < now - last then {}
  else { episode with since := since, lastEvidence := lastEvidence }

def Episode.count (episode : Episode) (now : ℚ) : Episode where
  diverged := episode.diverged + 1
  since := some (episode.since.getD now)
  lastEvidence := some now

/-- What a call says about its channel. -/
inductive Reading where
  | noEvidence
  -- The device follows, or the command is a new one.
  | ended
  -- A re-assert while the previous command still diverges.
  | diverged
  deriving DecidableEq, Repr

def Episode.observe (episode : Episode) (reading : Reading) (now : ℚ) : Episode :=
  match reading with
  | .noEvidence => episode.expire now
  | .ended => {}
  | .diverged => (episode.expire now).count now

def Episode.escalated (episode : Episode) (failCount : ℕ) (now : ℚ) : Bool :=
  decide (failCount ≤ episode.diverged) &&
    episode.since.any fun since => convFailMinS ≤ now - since

/-! ### Calls -/

structure SetpointSample where
  actualSp : Option ℚ
  lastWrittenSp : Option ℚ
  tolerance : ℚ
  wrote : Bool
  evidenceFresh : Bool
  now : ℚ
  deriving DecidableEq, Repr

def SetpointSample.reading (o : SetpointSample) : Reading :=
  match o.actualSp, o.lastWrittenSp with
  | some actual, some written =>
    if !o.evidenceFresh then .noEvidence
    else if distance actual written ≤ o.tolerance then .ended
    else if o.wrote then .diverged
    else .noEvidence
  | _, _ => .noEvidence

structure ModeSample where
  nudged : Bool
  reNudge : Bool
  currentMatchesDesired : Bool
  evidenceFresh : Bool
  now : ℚ
  deriving DecidableEq, Repr

def ModeSample.reading (o : ModeSample) : Reading :=
  if !o.evidenceFresh then .noEvidence
  else if o.currentMatchesDesired then .ended
  else if o.nudged && o.reNudge then .diverged
  -- A nudge to a new mode is a fresh command.
  else if o.nudged then .ended
  else .noEvidence

structure WriteConvergenceWatchdog where
  sp : Episode := {}
  mode : Episode := {}
  deriving DecidableEq, Repr

namespace WriteConvergenceWatchdog

def observeSetpoint (watchdog : WriteConvergenceWatchdog) (o : SetpointSample) :
    WriteConvergenceWatchdog :=
  { watchdog with sp := watchdog.sp.observe o.reading o.now }

def observeMode (watchdog : WriteConvergenceWatchdog) (o : ModeSample) :
    WriteConvergenceWatchdog :=
  { watchdog with mode := watchdog.mode.observe o.reading o.now }

def reset (_ : WriteConvergenceWatchdog) : WriteConvergenceWatchdog := {}

def escalated (watchdog : WriteConvergenceWatchdog) (now : ℚ) : Bool :=
  watchdog.sp.escalated convFailWrites now || watchdog.mode.escalated convFailNudges now

end WriteConvergenceWatchdog

inductive WatchdogCall where
  | observeSetpoint (o : SetpointSample)
  | observeMode (o : ModeSample)
  | reset
  deriving DecidableEq, Repr

def WatchdogCall.apply (watchdog : WriteConvergenceWatchdog) :
    WatchdogCall → WriteConvergenceWatchdog
  | .observeSetpoint o => watchdog.observeSetpoint o
  | .observeMode o => watchdog.observeMode o
  | .reset => watchdog.reset

def WatchdogCall.run (calls : List WatchdogCall) : WriteConvergenceWatchdog :=
  calls.foldl WatchdogCall.apply {}

end Poise
