import Poise.Runtime.TickInput

/-!
# The external-override state machine

`control/external_override.py`: the tracker over the echo and adoption
baselines, and the three adoption stages. A reading is classified once; the
decision to adopt it and the diagnosis reason come from that one call.
-/
namespace Poise

/-! ### The tracker -/

def ExternalOverrideRuntime.isOwnWrite (external : ExternalOverrideRuntime)
    (contextId : Option String) : Bool :=
  contextId.any fun id => id ∈ external.ownWriteCtxIds.ids

/-- What lets a device reading through to a detector. -/
structure AdoptGates where
  adoptEnabled : Bool
  -- The device runs its own schedule (setpoint channel only).
  schedActive : Bool := false
  ownChange : Bool
  windowOpen : Bool
  frozen : Bool
  -- An off hold ended this tick (mode channel only).
  holdResumed : Bool := false
  deriving DecidableEq, Repr

def observeMode (external : ExternalOverrideRuntime) (gates : AdoptGates)
    (deviceMode : Option String) (desiredMode : String) (now echoWindow : ℚ)
    (supportedModes : List String) : AdoptReason :=
  if ¬ gates.adoptEnabled then .optOut
  else if gates.windowOpen then .safetyWindow
  else if gates.frozen then .safetyFrozen
  else if gates.ownChange then .ownEcho
  else if gates.holdResumed then .holdResumed
  else
    modeAdoptReason deviceMode desiredMode external.lastCommandedHvac external.lastHvacCmdTs now
      echoWindow supportedModes external.prevDeviceMode

def AdoptGates.letMode (gates : AdoptGates) : Bool :=
  gates.adoptEnabled && ! gates.windowOpen && ! gates.frozen && ! gates.ownChange &&
    ! gates.holdResumed

theorem observeMode_open {external : ExternalOverrideRuntime} {gates : AdoptGates}
    {deviceMode : Option String} {desiredMode : String} {now echoWindow : ℚ}
    {supportedModes : List String} :
    observeMode external gates deviceMode desiredMode now echoWindow supportedModes = .adopt ↔
      gates.letMode ∧ modeAdoptReason deviceMode desiredMode external.lastCommandedHvac
        external.lastHvacCmdTs now echoWindow supportedModes external.prevDeviceMode = .adopt := by
  simp only [observeMode, AdoptGates.letMode]
  grind

def freezeModeReference (external : ExternalOverrideRuntime) (deviceMode : Option String)
    (now echoWindow : ℚ) : ExternalOverrideRuntime :=
  -- The mode move-guard stands still while the echo window is open.
  if external.lastHvacCmdTs.all fun commanded => echoWindow ≤ now - commanded then
    { external with prevDeviceMode := deviceMode }
  else external

def rebaselineOwnEcho (external : ExternalOverrideRuntime) (actualSp : ℚ) :
    ExternalOverrideRuntime :=
  { external with lastWrittenSp := some actualSp }

def observeSetpoint (external : ExternalOverrideRuntime) (gates : AdoptGates)
    (deviceSp : Option ℚ) (now echoWindow deadband frostFloor : ℚ) : AdoptReason :=
  if ¬ gates.adoptEnabled then .optOut
  else if gates.schedActive then .scheduleActive
  else if gates.ownChange then .ownEcho
  else if gates.windowOpen then .safetyWindow
  else if gates.frozen then .safetyFrozen
  else
    setpointAdoptReason deviceSp external.lastWrittenSp external.lastSpWriteTs now echoWindow
      deadband external.prevDeviceSp external.preWriteSp (some frostFloor)

def AdoptGates.letSetpoint (gates : AdoptGates) : Bool :=
  gates.adoptEnabled && ! gates.schedActive && ! gates.ownChange && ! gates.windowOpen &&
    ! gates.frozen

theorem observeSetpoint_open {external : ExternalOverrideRuntime} {gates : AdoptGates}
    {deviceSp : Option ℚ} {now echoWindow deadband frostFloor : ℚ} (letThrough : gates.letSetpoint) :
    observeSetpoint external gates deviceSp now echoWindow deadband frostFloor =
      setpointAdoptReason deviceSp external.lastWrittenSp external.lastSpWriteTs now echoWindow
        deadband external.prevDeviceSp external.preWriteSp (some frostFloor) := by
  simp only [observeSetpoint, AdoptGates.letSetpoint] at letThrough ⊢
  grind

theorem observeSetpoint_closed {external : ExternalOverrideRuntime} {gates : AdoptGates}
    {deviceSp : Option ℚ} {now echoWindow deadband frostFloor : ℚ} (held : ¬ gates.letSetpoint) :
    observeSetpoint external gates deviceSp now echoWindow deadband frostFloor ≠ .adopt ∧
      ¬ (observeSetpoint external gates deviceSp now echoWindow deadband frostFloor).detectorRan := by
  -- each gate answers with a reason of its own before the detector is asked
  simp only [observeSetpoint, AdoptGates.letSetpoint] at held ⊢
  grind [AdoptReason.detectorRan]

def AdoptReason.adopted {α : Type} (reason : AdoptReason) (device : Option α) : Option α :=
  if reason = .adopt then device else none

def noteDeviceSetpoint (external : ExternalOverrideRuntime) (actualSp : Option ℚ) :
    ExternalOverrideRuntime :=
  { external with prevDeviceSp := actualSp }

def adoptSetpointBaselines (external : ExternalOverrideRuntime) (adoptedSp step now : ℚ) :
    ExternalOverrideRuntime :=
  -- our own command stays known: a late echo of it is recognised by the pre-write baseline
  { external with
    preWriteSp := external.lastWrittenSp
    lastWrittenSp := some (snapValue adoptedSp step)
    lastSpWriteTs := some now }

/-! ### The stages -/

/-- Own-write echo, off-hold routing, and the user's way out of an off hold. -/
def stageHoldRouting (rt : ZoneRuntime) (i : TickInput) : ZoneRuntime × HoldRoutingResult :=
  let ownChange := rt.external.isOwnWrite i.contextId
  let offHeld := rt.user.modeOverride = some "off"
  if offHeld ∧ ¬ ownChange ∧ usableMode i.deviceMode ∧ i.deviceMode ≠ some "off" then
    ((teardownHold rt "user_resume").1, { ownChange, offHeld := false, holdResumed := true })
  else (rt, { ownChange, offHeld, holdResumed := false })

def TickInput.modeGates (i : TickInput) (routing : HoldRoutingResult) : AdoptGates where
  adoptEnabled := i.adoptExternalMode
  ownChange := routing.ownChange
  windowOpen := i.windowOpen
  frozen := i.frozen
  holdResumed := routing.holdResumed

/-- Adopt a device mode, move the guard reference, end or pin the mode hold. -/
def stageModeAdoption (rt : ZoneRuntime) (i : TickInput) (routing : HoldRoutingResult) :
    ZoneRuntime × ModeAdoptionResult :=
  let desired := resolveDesiredMode i.finalMode i.deviceMode i.canCool i.canHeat i.idleParkMode
  let reason := observeMode rt.external (i.modeGates routing) i.deviceMode desired i.now
    setpointAdoptEchoWindowS i.actModes
  let rt := { rt with
    external := freezeModeReference rt.external i.deviceMode i.now setpointAdoptEchoWindowS }
  let rt :=
    match reason.adopted i.deviceMode with
    | some mode => { rt with user := setModeOverride rt.user (some mode) i.hold, dirty := true }
    | none =>
      if rt.user.modeOverride.isSome ∧ ¬ routing.ownChange ∧ i.deviceMode = some desired ∧
          i.deviceMode ≠ rt.user.modeOverride ∧ ¬ i.windowOpen ∧ ¬ i.frozen then
        (teardownHold rt "user_resume").1
      else rt
  let desiredHvac :=
    match rt.user.modeOverride with
    | some pinned => if ¬ i.windowOpen ∧ ¬ i.frozen then pinned else desired
    | none => desired
  (rt, { desiredHvac, modeAdoptReason := reason })

def AdoptReason.suppressed : AdoptReason → Bool
  -- `SUPPRESSED_ADOPT_REASONS`.
  | .echoWindow | .ownEcho | .optOut | .safetyWindow | .safetyFrozen | .holdResumed | .stablePrev
  | .stableOffset | .noBaseline | .unsupported | .scheduleActive => true
  | _ => false

def suppressedReason (modeReason spReason : AdoptReason) : AdoptReason :=
  -- The first suppression worth surfacing, the mode channel's before the setpoint's.
  if modeReason.suppressed then modeReason
  else if spReason.suppressed then spReason
  else .noneYet

def stageSetpointAdopt (rt : ZoneRuntime) (i : TickInput) (spo : SetpointObservation)
    (modeAdoptReason : AdoptReason) : ZoneRuntime :=
  let rt := { rt with
    user := { rt.user with lastAdoptLog := suppressedReason modeAdoptReason spo.spAdoptReason }
    external := noteDeviceSetpoint rt.external spo.actualSp }
  match spo.adoptedSp with
  | none => rt
  -- the hold's expiry is taken from the zone's policy at this tick
  | some adopted =>
    { rt with
      user := (setOverride rt.user (some (.finite adopted)) (some "device_adopt_setpoint") i.hold).1
      external := adoptSetpointBaselines rt.external adopted spo.step i.now
      dirty := true }

end Poise
