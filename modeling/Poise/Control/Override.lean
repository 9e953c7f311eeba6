import Poise.Control.TickResolve

/-!
# Holds and adoption decisions

The pure decisions of `control/override.py` (why a device reading is or is not
adopted, when a hold ends) and the hold commands of `control/override_runtime.py`.
-/
namespace Poise

/-! ### Adoption reasons -/

/-- Why the reported setpoint is or is not a user change; guards in source order. -/
def setpointAdoptReason (deviceSp lastWrittenSp lastWriteTs : Option ℚ)
    (now echoWindow deadband : ℚ) (prevDeviceSp preWriteSp frostFloor : Option ℚ) : AdoptReason :=
  match deviceSp, lastWrittenSp, lastWriteTs with
  | some device, some written, some writtenAt =>
    if distance device written < deadband then .commandEcho
    else if frostFloor.any fun floor => Rounding.roundTo (device - floor) 3 ≤ 0 then
      .implausibleFrost
    else if now - writtenAt < echoWindow then
      -- only the command and the reading before it can still be in flight
      if preWriteSp.any fun pre => deadband ≤ distance device pre then .adopt else .echoWindow
    else if prevDeviceSp.any fun prev => distance device prev < deadband then .stableOffset
    else .adopt
  | _, _, _ => .noBaseline

/-- Why the reported mode is or is not a user change; guards in source order. -/
def modeAdoptReason (deviceMode : Option String) (desiredMode : String)
    (lastCommandedMode : Option String) (lastCmdTs : Option ℚ) (now echoWindow : ℚ)
    (supportedModes : List String) (prevMode : Option String) : AdoptReason :=
  match deviceMode with
  | none => .noSignal
  | some mode =>
    if mode ∈ ["unknown", "unavailable"] then .noSignal
    else if mode = desiredMode then .deviceAligned
    else if mode ∉ supportedModes ∨ mode = "heat_cool" then .unsupported
    else if some mode = lastCommandedMode then .ownCommandEcho
    else
      match lastCommandedMode, lastCmdTs with
      | some _, some commandedAt =>
        if now - commandedAt < echoWindow then .echoWindow
        else if some mode = prevMode then .stablePrev
        else .adopt
      | _, _ => .noBaseline

/-- A setpoint is adopted exactly when it has left the echo baseline, lies above
the floor, and is new: inside the window next to a known pre-write reading, after
it next to the previous reading. -/
theorem setpointAdoptReason_adopt
    {deviceSp lastWrittenSp lastWriteTs prevDeviceSp preWriteSp : Option ℚ}
    {now echoWindow deadband floor : ℚ} :
    setpointAdoptReason deviceSp lastWrittenSp lastWriteTs now echoWindow deadband prevDeviceSp
      preWriteSp (some floor) = .adopt ↔
    ∃ device written writtenAt, deviceSp = some device ∧ lastWrittenSp = some written ∧
      lastWriteTs = some writtenAt ∧ deadband ≤ distance device written ∧
      0 < Rounding.roundTo (device - floor) 3 ∧
      (now - writtenAt < echoWindow →
        ∃ pre, preWriteSp = some pre ∧ deadband ≤ distance device pre) ∧
      (echoWindow ≤ now - writtenAt →
        ∀ prev, prevDeviceSp = some prev → deadband ≤ distance device prev) := by
  cases deviceSp with
  | none => simp [setpointAdoptReason]
  | some device =>
    cases lastWrittenSp with
    | none => simp [setpointAdoptReason]
    | some written =>
      cases lastWriteTs with
      | none => simp [setpointAdoptReason]
      | some writtenAt =>
        simp only [setpointAdoptReason, Option.any_some, decide_eq_true_eq, Option.some.injEq,
          exists_eq_left', exists_and_left]
        rcases lt_or_ge (distance device written) deadband with echo | apart
        · simp [echo, not_le.mpr echo]
        rcases le_or_gt (Rounding.roundTo (device - floor) 3) 0 with frost | above
        · simp [not_lt.mpr apart, frost, not_lt.mpr frost]
        rcases lt_or_ge (now - writtenAt) echoWindow with inside | outside
        · cases preWriteSp <;>
            simp [not_lt.mpr apart, not_le.mpr above, inside, apart, above, not_le.mpr inside]
        · cases prevDeviceSp <;>
            simp [not_lt.mpr apart, not_le.mpr above, outside, apart, above, not_lt.mpr outside]

/-- A mode is adopted exactly when it is usable, offered, not the wanted, the
commanded or the remembered one, and the echo window of a known command is over. -/
theorem modeAdoptReason_adopt {mode desiredMode : String}
    {lastCommandedMode prevMode : Option String} {lastCmdTs : Option ℚ} {now echoWindow : ℚ}
    {supportedModes : List String} :
    modeAdoptReason (some mode) desiredMode lastCommandedMode lastCmdTs now echoWindow
      supportedModes prevMode = .adopt ↔
    usableMode (some mode) ∧ mode ≠ desiredMode ∧ mode ∈ supportedModes ∧ mode ≠ "heat_cool" ∧
      (∃ commanded commandedAt, lastCommandedMode = some commanded ∧ mode ≠ commanded ∧
        lastCmdTs = some commandedAt ∧ echoWindow ≤ now - commandedAt) ∧
      prevMode ≠ some mode := by
  simp only [modeAdoptReason, usableMode]
  split
  next silent =>
    simp only [List.mem_cons, List.not_mem_nil, or_false] at silent
    cases silent with
    | inl unknown => simp [unknown]
    | inr unavailable => simp [unavailable]
  next usable =>
    split
    next aligned => simp [aligned]
    next other =>
      split
      next refused => grind
      next offered =>
        split
        next echo => grind
        next foreign => split <;> grind

/-! ### Hold lifecycle -/

inductive HoldPolicy where
  | permanent
  | schedule
  -- `"timer"` and every text that is no other policy.
  | timer
  deriving DecidableEq, Repr

/-- What a hold command reads besides the user state. -/
structure HoldContext where
  policy : HoldPolicy
  timerH : ℚ
  maxH : ℚ
  -- Wall clock of the command.
  setAt : ℚ
  minutesToSwitchpoint : Option ℚ
  deriving DecidableEq, Repr

def HoldContext.switchpoint (ctx : HoldContext) : Option ℚ :=
  ctx.minutesToSwitchpoint.filter fun minutes => 0 < minutes

def resolveHoldExpiry (ctx : HoldContext) : Option ℚ :=
  match ctx.policy with
  | .permanent => none
  | .schedule =>
    let base := match ctx.switchpoint with
      | some minutes => ctx.setAt + minutes * 60
      | none => ctx.setAt + ctx.timerH * 3600
    some (min base (ctx.setAt + ctx.maxH * 3600))
  | .timer => some (ctx.setAt + ctx.timerH * 3600)

def announceHoldExpiry (user : UserControlState) (ctx : HoldContext) : UserControlState :=
  -- The expiry is announced together with whether it is the switchpoint itself.
  { user with
    overrideExpiresAt := resolveHoldExpiry ctx
    overrideExpiryIsSwitchpoint :=
      ctx.policy = .schedule ∧ ctx.switchpoint.any fun minutes =>
        ctx.setAt + minutes * 60 ≤ ctx.setAt + ctx.maxH * 3600 }

structure OverrideEnded where
  reason : String
  deriving DecidableEq, Repr

def reasonOr (reason : Option String) (fallback : String) : String :=
  -- `reason or fallback`: an empty text counts as none given.
  (reason.filter (· ≠ "")).getD fallback

/-- `set_override`: set the manual setpoint hold, or clear it. -/
def setOverride (user : UserControlState) (value : Option PyFloat) (reason : Option String)
    (ctx : HoldContext) : UserControlState × List OverrideEnded :=
  match sanitizeOverride value frostFloorC deviceMaxC with
  | some clamped =>
    let requested := match value with
      | some (.finite asked) => some asked
      | _ => none
    let held := { user with
      override := some clamped
      overrideSetWall := some ctx.setAt
      overrideRequested := requested }
    ({ announceHoldExpiry held ctx with overrideReason := some (reasonOr reason "ui_setpoint") }, [])
  | none =>
    let dropped := { user with override := none, overrideRequested := none }
    -- a mode hold shares the lifecycle and keeps it alive
    if user.modeOverride.isSome then (dropped, [])
    else
      ({ dropped with
          overrideSetWall := none
          overrideExpiresAt := none
          overrideExpiryIsSwitchpoint := false
          overrideReason := none },
        if value.isNone && user.override.isSome then
          [⟨reasonOr reason "user_resume"⟩]
        else [])

/-- `set_mode_override`: adopt a device mode as a hold, or drop only the mode pin. -/
def setModeOverride (user : UserControlState) (mode : Option String) (ctx : HoldContext) :
    UserControlState :=
  match mode with
  | none => { user with modeOverride := none }
  | some mode =>
    let held := { user with
      modeOverride := some mode
      overrideReason := some "device_adopt_mode" }
    if user.overrideSetWall.isSome then held
    else announceHoldExpiry { held with overrideSetWall := some ctx.setAt } ctx

/-- `end_hold`: the one teardown of both holds. -/
def endHold (user : UserControlState) (reason : String) : UserControlState × OverrideEnded :=
  ({ user with
      override := none
      modeOverride := none
      overrideSetWall := none
      overrideExpiresAt := none
      overrideRequested := none
      overrideReason := none
      overrideExpiryIsSwitchpoint := false }, ⟨reason⟩)

end Poise
