import Mathlib.Algebra.Order.Field.Rat

/-!
# Heating failure detection

`safety/heating_failure.py`: a demand window with one start anchor and a no-demand
window with another, around a latched verdict. The cooling detector is the same code on
negated temperatures.
-/
namespace Poise

structure FailureConfig where
  delayH : ℚ := 35 / 60
  cmdDelta : ℚ := 2
  minRise : ℚ := 1 / 5
  deriving DecidableEq, Repr

structure HeatingFailureDetector where
  -- The time and the room temperature the demand window started with.
  start : Option (ℚ × ℚ) := none
  clearStart : Option ℚ := none
  failed : Bool := false
  deriving DecidableEq, Repr

structure FailureTick where
  nowH : ℚ
  room : ℚ
  setpoint : ℚ
  running : Bool
  deriving DecidableEq, Repr

def FailureTick.demand (cfg : FailureConfig) (t : FailureTick) : Bool :=
  t.running && decide (cfg.cmdDelta ≤ t.setpoint - t.room)

namespace HeatingFailureDetector

variable (cfg : FailureConfig) (s : HeatingFailureDetector) (t : FailureTick)

/-- An anchor that a clock correction left in the future restarts now. -/
def reanchor : HeatingFailureDetector :=
  { s with
    start := s.start.map fun anchor => if t.nowH < anchor.1 then (t.nowH, t.room) else anchor
    clearStart := s.clearStart.map fun since => if t.nowH < since then t.nowH else since }

def noDemand : HeatingFailureDetector :=
  match s.clearStart with
  | none => { s with clearStart := some t.nowH }
  | some since =>
    if cfg.delayH ≤ t.nowH - since then { start := none, clearStart := none, failed := false }
    else s

def underDemand : HeatingFailureDetector :=
  match s.start with
  | none => { s with clearStart := none, start := some (t.nowH, t.room) }
  | some (startH, room0) =>
    if cfg.delayH ≤ t.nowH - startH then
      -- The window tumbles: judge the rise over it, then re-arm.
      { clearStart := none
        failed := decide (t.room - room0 < cfg.minRise)
        start := some (t.nowH, t.room) }
    else { s with clearStart := none }

/-- The detector after one update; the verdict is its `failed`. -/
def update : HeatingFailureDetector :=
  if t.demand cfg then (s.reanchor t).underDemand cfg t else (s.reanchor t).noDemand cfg t

end HeatingFailureDetector

/-- The cooling pendant: rises of the negated temperatures are drops. -/
def FailureTick.mirrored (t : FailureTick) : FailureTick :=
  { t with room := -t.room, setpoint := -t.setpoint }

def coolingFailureUpdate (cfg : FailureConfig) (inner : HeatingFailureDetector)
    (t : FailureTick) : HeatingFailureDetector :=
  inner.update cfg t.mirrored

end Poise
