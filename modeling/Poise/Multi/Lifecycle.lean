import Poise.Foundation.Rounding

/-!
# The compressor lifecycle

`multi/lifecycle.py`: the wall-clock record of one device's observed stops, starts and
mode changes, its storage form, and the guard that holds a mode nudge back. The echo of
the last command has no reader among these functions.
-/
namespace Poise

open Rounding

structure LifecyclePolicy where
  minOnS : ℚ := 120
  minOffS : ℚ := 600
  minModeHoldS : ℚ := 300
  maxStartsPerH : Option ℕ := none
  deriving DecidableEq, Repr

structure DeviceLifecycle where
  isOn : Bool := false
  lastOnWall : Option ℚ := none
  lastOffWall : Option ℚ := none
  lastMode : Option String := none
  modeChangedWall : Option ℚ := none
  startsWindow : List ℚ := []
  health : String := "ok"
  deriving DecidableEq, Repr

def startsWindowS : ℚ := 3600

-- A stamp further ahead than this means the clock jumped backwards.
def clockSkewToleranceS : ℚ := 120

def prune (starts : List ℚ) (now : ℚ) : List ℚ := starts.filter (now - · ≤ startsWindowS)

def clampFuture (t now : ℚ) : ℚ := if now + clockSkewToleranceS < t then now else t

/-! ### Observation -/

/-- Fold one fresh observation into the lifecycle. -/
def observe (state : DeviceLifecycle) (conditioning : Bool) (mode : Option String) (now : ℚ)
    (health : String) : DeviceLifecycle :=
  let start := conditioning && !state.isOn
  let halt := !conditioning && state.isOn
  let starts := if start then prune state.startsWindow now ++ [now] else state.startsWindow
  let changed := mode.isSome && decide (mode ≠ state.lastMode)
  { isOn := conditioning
    lastOnWall := if start then some now else state.lastOnWall
    lastOffWall := if halt then some now else state.lastOffWall
    lastMode := if changed then mode else state.lastMode
    modeChangedWall := if changed then some now else state.modeChangedWall
    startsWindow := prune starts now
    health := health }

/-- Seconds the device must stay off before a fresh start is allowed. -/
def minOffRemaining (state : DeviceLifecycle) (now : ℚ) (policy : LifecyclePolicy) : ℚ :=
  if state.isOn then 0
  else
    match state.lastOffWall with
    | none => 0
    | some off => max 0 (policy.minOffS - (now - off))

/-- Seconds before a mode change is allowed again. -/
def modeHoldRemaining (state : DeviceLifecycle) (now : ℚ) (policy : LifecyclePolicy) : ℚ :=
  match state.modeChangedWall with
  | none => 0
  | some changed => max 0 (policy.minModeHoldS - (now - changed))

/-! ### Storage -/

/-- The stored form; an outer `none` is an absent key. -/
structure LifecyclePayload where
  isOn : Option Bool := none
  lastOnWall : Option ℚ := none
  lastOffWall : Option ℚ := none
  lastMode : Option String := none
  modeChangedWall : Option ℚ := none
  startsWindow : Option (List ℚ) := none
  health : Option String := none
  deriving DecidableEq, Repr

namespace DeviceLifecycle

def toDict (state : DeviceLifecycle) : LifecyclePayload where
  isOn := some state.isOn
  lastOnWall := state.lastOnWall
  lastOffWall := state.lastOffWall
  lastMode := state.lastMode
  modeChangedWall := state.modeChangedWall
  startsWindow := some state.startsWindow
  health := some state.health

/-- Restore on startup: a stamp too far in the future becomes `now`. -/
def fromDict (d : LifecyclePayload) (now : ℚ) : DeviceLifecycle where
  isOn := d.isOn.getD false
  lastOnWall := d.lastOnWall.map (clampFuture · now)
  lastOffWall := d.lastOffWall.map (clampFuture · now)
  lastMode := d.lastMode
  modeChangedWall := d.modeChangedWall.map (clampFuture · now)
  startsWindow := prune ((d.startsWindow.getD []).map (clampFuture · now)) now
  health := d.health.getD "ok"

end DeviceLifecycle

/-! ### The guard -/

/-- Whether the mode runs the compressor for cooling or drying. -/
def compressorConditioning (mode : Option String) : Bool := mode = some "cool" || mode = some "dry"

/-- The anti-short-cycle gate of one nudge; `none` lets it pass. -/
def modeNudgeBlockReason (desired : String) (current : Option String)
    (minOffRemainingS modeHoldRemainingS : ℚ) (isSafety : Bool) : Option String :=
  if isSafety then none
  else
    let want := compressorConditioning (some desired)
    let have_ := compressorConditioning current
    if want && !have_ && decide (0 < minOffRemainingS) then
      some s!"min-off {roundHalfEven minOffRemainingS}s"
    else if want && have_ && decide (some desired ≠ current) && decide (0 < modeHoldRemainingS) then
      some s!"mode-hold {roundHalfEven modeHoldRemainingS}s"
    else none

def guardBlockReason (policy : Option LifecyclePolicy) (state : DeviceLifecycle) (now : ℚ)
    (desired : String) (current : Option String) (isSafety : Bool) : Option String :=
  match policy with
  | none => none
  | some policy =>
    modeNudgeBlockReason desired current (minOffRemaining state now policy)
      (modeHoldRemaining state now policy) isSafety

/-! ### What the guard lets pass -/

variable {policy : LifecyclePolicy} {state : DeviceLifecycle} {now : ℚ} {desired : String}
  {current : Option String}

theorem guardBlockReason_outward (leaves : compressorConditioning (some desired) = false)
    (isSafety : Bool) :
    guardBlockReason (some policy) state now desired current isSafety = none := by
  cases isSafety <;> simp [guardBlockReason, modeNudgeBlockReason, leaves]

theorem guardBlockReason_start (enters : compressorConditioning (some desired) = true)
    (other : compressorConditioning current = false) :
    guardBlockReason (some policy) state now desired current false = none ↔
      minOffRemaining state now policy ≤ 0 := by
  by_cases waits : 0 < minOffRemaining state now policy
  · simp [guardBlockReason, modeNudgeBlockReason, enters, other, waits]
  · simp [guardBlockReason, modeNudgeBlockReason, enters, other, waits, not_lt.mp waits]

theorem guardBlockReason_flip (enters : compressorConditioning (some desired) = true)
    (runs : compressorConditioning current = true) (flips : some desired ≠ current) :
    guardBlockReason (some policy) state now desired current false = none ↔
      modeHoldRemaining state now policy ≤ 0 := by
  by_cases waits : 0 < modeHoldRemaining state now policy
  · simp [guardBlockReason, modeNudgeBlockReason, enters, runs, flips, waits]
  · simp [guardBlockReason, modeNudgeBlockReason, enters, runs, waits, not_lt.mp waits]

theorem minOffRemaining_le_zero {off : ℚ} (isOff : state.isOn = false)
    (stopped : state.lastOffWall = some off) :
    minOffRemaining state now policy ≤ 0 ↔ policy.minOffS ≤ now - off := by
  simp [minOffRemaining, isOff, stopped]

theorem modeHoldRemaining_le_zero {changed : ℚ} (stamped : state.modeChangedWall = some changed) :
    modeHoldRemaining state now policy ≤ 0 ↔ policy.minModeHoldS ≤ now - changed := by
  simp [modeHoldRemaining, stamped]

/-- A restored stamp is no earlier than the stored one counted as `now` at most, and no
further ahead than the tolerance. -/
theorem clampFuture_bounds (t now : ℚ) :
    min t now ≤ clampFuture t now ∧ clampFuture t now ≤ now + clockSkewToleranceS := by
  unfold clampFuture clockSkewToleranceS
  split
  next => exact ⟨min_le_right _ _, by linarith⟩
  next near => exact ⟨min_le_left _ _, not_lt.mp near⟩

end Poise
