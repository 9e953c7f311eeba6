import Poise.Persistence.Codec

/-!
# Snapshot and restore

The persisted side of a zone: the adapter's snapshot of the state groups
(`coordinator.py::_save_payload`) and `ZoneRuntime.restore`, which applies a
decoded store to a fresh runtime. Restored numbers are the store's floats, finite
or not; the clock is exact.
-/
namespace Poise

/-! ### State groups -/

/-- `UserControlState.PERSISTED_FIELDS`. -/
structure StoredUserState where
  enabled : Bool := true
  preset : OverrideMode := .none
  climateMode : String := "auto"
  windowBypass : Bool := false
  override : Option PyFloat := none
  modeOverride : Option String := none
  overrideSetWall : Option PyFloat := none
  overrideRequested : Option PyFloat := none
  overrideExpiresAt : Option PyFloat := none
  overrideExpiryIsSwitchpoint : Bool := false
  overrideReason : Option String := none
  boostExpiresAt : Option PyFloat := none
  boostPrevPreset : Option OverrideMode := none
  overrideStats : List JsonObject := []
  feedbackStats : List JsonObject := []
  suggestionRejectedKey : Option String := none
  suggestionRejectedAt : Option PyFloat := none
  cloSuggestionRejectedKey : Option String := none
  cloSuggestionRejectedAt : Option PyFloat := none
  seasonHintLastActiveTs : Option PyFloat := none

/-- The six persisted baselines of `ExternalOverrideRuntime` and their echo stamps. -/
structure StoredBaselines where
  lastWrittenSp : Option PyFloat := none
  prevDeviceSp : Option PyFloat := none
  lastCommandedHvac : Option String := none
  prevDeviceMode : Option String := none
  lastCommandedFan : Option String := none
  prevDeviceFan : Option String := none
  lastSpWriteTs : Option ℚ := none
  lastHvacCmdTs : Option ℚ := none
  lastFanCmdTs : Option ℚ := none
  deriving DecidableEq, Repr

/-- `ActuatorRuntime.PERSISTED_FIELDS`. -/
structure StoredOwnership where
  hasActuated : Bool := false
  calBaseline : Option PyFloat := none
  calEntity : Option String := none
  deriving DecidableEq, Repr

/-- `HumidityRuntime.PERSISTED_FIELDS`. -/
structure HumidityRuntime where
  dryActive : Bool := false
  ventActive : Bool := false
  surfaceRhMean : Option PyFloat := none
  mouldIndex : PyFloat := .finite 1
  mouldWetHours : PyFloat := .finite 0
  mouldDryHours : PyFloat := .finite 0
  deriving DecidableEq, Repr

structure StoredZone (M : Type) where
  user : StoredUserState
  external : StoredBaselines
  actuator : StoredOwnership
  humidity : HumidityRuntime
  models : LearnedModel → M

/-- A fresh runtime: the configured climate mode and new models. -/
def StoredZone.fresh {M : Type} (climateMode : String) (models : LearnedModel → M) :
    StoredZone M where
  user := { climateMode }
  external := {}
  actuator := {}
  humidity := {}
  models := models

variable {M : Type}

/-! ### Snapshot -/

/-- `_save_payload`; the stored policy is the configured one. -/
def snapshot (zone : StoredZone M) (overridePolicy : String) : PersistedZoneState M where
  models := zone.models
  dryActive := zone.humidity.dryActive
  ventActive := zone.humidity.ventActive
  surfaceRhMean := zone.humidity.surfaceRhMean
  mouldIndex := zone.humidity.mouldIndex
  mouldWetHours := zone.humidity.mouldWetHours
  mouldDryHours := zone.humidity.mouldDryHours
  enabled := zone.user.enabled
  preset := zone.user.preset
  climateMode := zone.user.climateMode
  windowBypass := zone.user.windowBypass
  hasActuated := zone.actuator.hasActuated
  override := zone.user.override
  modeOverride := zone.user.modeOverride
  overrideSetWall := zone.user.overrideSetWall
  overrideRequested := zone.user.overrideRequested
  overridePolicy := overridePolicy
  overrideExpiresAt := zone.user.overrideExpiresAt
  overrideExpiryIsSwitchpoint := zone.user.overrideExpiryIsSwitchpoint
  boostExpiresAt := zone.user.boostExpiresAt
  boostPrevPreset := zone.user.boostPrevPreset
  overrideStats := zone.user.overrideStats
  feedbackStats := zone.user.feedbackStats
  suggestionRejectedKey := zone.user.suggestionRejectedKey
  suggestionRejectedAt := zone.user.suggestionRejectedAt
  cloSuggestionRejectedKey := zone.user.cloSuggestionRejectedKey
  cloSuggestionRejectedAt := zone.user.cloSuggestionRejectedAt
  seasonHintLastActiveTs := zone.user.seasonHintLastActiveTs
  overrideReason := zone.user.overrideReason
  lastWrittenSp := zone.external.lastWrittenSp
  prevDeviceSp := zone.external.prevDeviceSp
  lastCommandedHvac := zone.external.lastCommandedHvac
  prevDeviceMode := zone.external.prevDeviceMode
  lastCommandedFan := zone.external.lastCommandedFan
  prevDeviceFan := zone.external.prevDeviceFan
  calBaseline := zone.actuator.calBaseline
  calEntity := zone.actuator.calEntity

/-! ### Restore -/

/-- What the adapter hands to `restore`: the configured hold options, the schedule
and the runtime's own clock. -/
structure RestoreContext where
  overridePolicy : HoldPolicy
  overrideTimerH : ℚ
  overrideMaxH : ℚ
  minutesToSwitchpoint : Option ℚ
  monotonic : ℚ
  deriving DecidableEq, Repr

/-- `resolve_hold_expiry` at a stored set time. A set time that is not finite
absorbs every duration. -/
def RestoreContext.resolveHoldExpiry (ctx : RestoreContext) (setAt : PyFloat) : Option PyFloat :=
  match setAt with
  | .finite setAt =>
    (Poise.resolveHoldExpiry {
      policy := ctx.overridePolicy
      timerH := ctx.overrideTimerH
      maxH := ctx.overrideMaxH
      setAt := setAt
      minutesToSwitchpoint := ctx.minutesToSwitchpoint }).map .finite
  | endless => if ctx.overridePolicy = .permanent then none else some endless

def RestoreContext.stale (ctx : RestoreContext) : ℚ := ctx.monotonic - setpointAdoptEchoWindowS * 2

def restoreExpiry (hold : OverrideLifecycleSection) (ctx : RestoreContext) : Option PyFloat :=
  match hold.overrideExpiresAt, hold.overrideSetWall with
  | none, some setAt => if hold.holdActive then ctx.resolveHoldExpiry setAt else none
  | expiresAt, _ => expiresAt

def restoreUser (fresh : StoredUserState) (user : UserStateSection)
    (hold : OverrideLifecycleSection) (ctx : RestoreContext) : StoredUserState where
  enabled := user.enabled
  preset := user.preset
  climateMode := user.climateMode.getD fresh.climateMode
  windowBypass := user.windowBypass
  override := hold.override
  modeOverride := hold.modeOverride
  overrideSetWall := hold.overrideSetWall
  overrideRequested := hold.overrideRequested
  overrideExpiresAt := restoreExpiry hold ctx
  overrideExpiryIsSwitchpoint := hold.overrideExpiryIsSwitchpoint
  overrideReason := hold.overrideReason
  boostExpiresAt := hold.boostExpiresAt
  boostPrevPreset := hold.boostPrevPreset
  overrideStats := hold.overrideStats
  feedbackStats := hold.feedbackStats
  suggestionRejectedKey := hold.suggestionRejectedKey
  suggestionRejectedAt := hold.suggestionRejectedAt
  cloSuggestionRejectedKey := hold.cloSuggestionRejectedKey
  cloSuggestionRejectedAt := hold.cloSuggestionRejectedAt
  seasonHintLastActiveTs := hold.seasonHintLastActiveTs

def restoreBaselines (fresh : StoredBaselines) (base : AdoptionBaselinesSection)
    (ctx : RestoreContext) : StoredBaselines where
  lastWrittenSp := base.lastWrittenSp
  prevDeviceSp := base.prevDeviceSp
  lastCommandedHvac := base.lastCommandedHvac
  prevDeviceMode := base.prevDeviceMode
  lastCommandedFan := base.lastCommandedFan
  prevDeviceFan := base.prevDeviceFan
  -- only where a baseline exists
  lastSpWriteTs := if base.lastWrittenSp.isSome then some ctx.stale else fresh.lastSpWriteTs
  lastHvacCmdTs := if base.lastCommandedHvac.isSome then some ctx.stale else fresh.lastHvacCmdTs
  lastFanCmdTs := if base.lastCommandedFan.isSome then some ctx.stale else fresh.lastFanCmdTs

def restoreHumidity (fresh : HumidityRuntime) (tail : DecodedTail M) : HumidityRuntime :=
  -- The mould dose is decoded and not applied.
  { fresh with
    dryActive := (tail.flag .dryActive).getD fresh.dryActive
    ventActive := (tail.flag .ventActive).getD fresh.ventActive
    surfaceRhMean := (tail.number .surfaceRhMean).or fresh.surfaceRhMean }

def StoredZone.restore (fresh : StoredZone M) (decoded : DecodedPersistence M)
    (ctx : RestoreContext) : StoredZone M where
  user := restoreUser fresh.user decoded.userState decoded.overrideLifecycle ctx
  external := restoreBaselines fresh.external decoded.adoptionBaselines ctx
  actuator :=
    { hasActuated := decoded.userState.hasActuated
      calBaseline := decoded.userState.calBaseline
      calEntity := decoded.userState.calEntity }
  humidity := restoreHumidity fresh.humidity decoded.tail
  models := fun m => (decoded.tail.model m).getD (fresh.models m)

/-- The adapter's boot: decode what the store returned and apply it. What it
raises ends in the recovery boundary, which starts fresh. -/
def restart (codec : ModelCodec M) (nowWall : ℚ) (fresh : StoredZone M) (ctx : RestoreContext)
    (payload : Json) : Except PyException (StoredZone M) := do
  match ← decode codec nowWall payload with
  | .empty => return fresh
  | .v1 decoded => return fresh.restore decoded ctx
  | .legacyBareEkf =>
    -- `migrate_v0_bare_ekf`
    let ekf ← codec.fromDict .ekf nowWall payload
    return { fresh with models := fun m => if m = .ekf then ekf else fresh.models m }

end Poise
