import Poise.Control.Override
import Poise.Foundation.Trace

/-!
# Timed user state

The rest of `control/override_runtime.py`: presets with their timed Boost and
the per-tick expiry of Boost and hold. A run of hold commands and ticks is a
machine that reports the ends it fires.
-/
namespace Poise

inductive OverrideMode where
  | none
  | eco
  | comfort
  | boost
  | away
  deriving DecidableEq, Repr

/-- The hold lifecycle together with the preset and its Boost timer. -/
structure TimedUserState extends UserControlState where
  preset : OverrideMode := .none
  boostExpiresAt : Option ℚ := none
  boostPrevPreset : Option OverrideMode := none
  deriving DecidableEq, Repr

def HoldActive (user : UserControlState) : Prop :=
  user.override.isSome ∨ user.modeOverride.isSome

instance (user : UserControlState) : Decidable (HoldActive user) := by
  unfold HoldActive
  infer_instance

def resolveBoostExpiry (setAt boostDurationMin : ℚ) : ℚ := setAt + boostDurationMin * 60

def setPreset (user : TimedUserState) (mode : OverrideMode) (boostDurationMin now : ℚ) :
    TimedUserState :=
  if mode = .boost then
    -- Boost is not stacked onto itself as the frozen preset
    let prev := if user.preset = .boost then user.boostPrevPreset else some user.preset
    { user with
      boostPrevPreset := prev
      boostExpiresAt := some (resolveBoostExpiry now boostDurationMin)
      preset := mode }
  else
    { user with boostExpiresAt := .none, boostPrevPreset := .none, preset := mode }

def holdExpired (expiresAt : Option ℚ) (now : ℚ) (presenceChanged endOnPresence : Bool) : Bool :=
  (presenceChanged && endOnPresence) || expiresAt.any fun expires => expires ≤ now

/-- What one tick reads to expire the timed states. -/
structure ExpiryTick where
  now : ℚ
  home : Option Bool
  endOnPresence : Bool
  boostDurationMin : ℚ
  deriving DecidableEq, Repr

/-- The user state and the presence of the previous tick. -/
structure HoldState where
  user : TimedUserState := {}
  prevHome : Option Bool := .none
  deriving DecidableEq, Repr

def presenceChanged (prevHome home : Option Bool) : Bool :=
  match prevHome, home with
  | some prev, some home => home != prev
  | _, _ => false

-- A due Boost restores the preset frozen at its activation.
def expireBoost (user : TimedUserState) (tick : ExpiryTick) : TimedUserState :=
  if user.boostExpiresAt.any fun expires => expires ≤ tick.now then
    setPreset user (user.boostPrevPreset.getD .none) tick.boostDurationMin tick.now
  else user

def expireTimedStates (state : HoldState) (tick : ExpiryTick) : HoldState × List OverrideEnded :=
  let changed := presenceChanged state.prevHome tick.home
  let user := expireBoost state.user tick
  if HoldActive user.toUserControlState ∧
      holdExpired user.overrideExpiresAt tick.now changed tick.endOnPresence = true then
    let reason :=
      if changed && tick.endOnPresence then "presence_change"
      else if user.overrideExpiryIsSwitchpoint then "schedule_point"
      else "expired_timer"
    let (ended, event) := endHold user.toUserControlState reason
    ({ user := { user with toUserControlState := ended }, prevHome := tick.home }, [event])
  else ({ user := user, prevHome := tick.home }, [])

/-! ### Runs of hold commands -/

/-- The clock, the schedule and the timer options of a command; the policy is
the zone's. -/
structure HoldTimes where
  timerH : ℚ
  maxH : ℚ
  setAt : ℚ
  minutesToSwitchpoint : Option ℚ
  deriving DecidableEq, Repr

def HoldTimes.context (times : HoldTimes) (policy : HoldPolicy) : HoldContext where
  policy := policy
  timerH := times.timerH
  maxH := times.maxH
  setAt := times.setAt
  minutesToSwitchpoint := times.minutesToSwitchpoint

inductive HoldCall where
  | setOverride (value : Option PyFloat) (reason : Option String) (times : HoldTimes)
  | setModeOverride (mode : String) (times : HoldTimes)
  | endHold (reason : String)
  | expireTimedStates (tick : ExpiryTick)
  deriving DecidableEq, Repr

def holdStep (policy : HoldPolicy) (state : HoldState) :
    HoldCall → HoldState × List OverrideEnded
  | .setOverride value reason times =>
    let (user, events) :=
      setOverride state.user.toUserControlState value reason (times.context policy)
    ({ state with user := { state.user with toUserControlState := user } }, events)
  | .setModeOverride mode times =>
    let user := setModeOverride state.user.toUserControlState (some mode) (times.context policy)
    ({ state with user := { state.user with toUserControlState := user } }, [])
  | .endHold reason =>
    let (user, event) := endHold state.user.toUserControlState reason
    ({ state with user := { state.user with toUserControlState := user } }, [event])
  | .expireTimedStates tick => expireTimedStates state tick

end Poise
