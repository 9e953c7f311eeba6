import Poise.Runtime.Restore
import Poise.Properties.DecodeTotal
import Poise.Properties.HoldLifecycle

/-!
# The restart round trip

A zone is snapshot, encoded, decoded and restored into a fresh runtime. The user's
intent, the adoption baselines and the ownership of device state come back as they
were; of the humidity state only the latches and the mean do.
-/
namespace Poise

variable {M : Type}

/-! ### Values -/

theorem asFloat_ofFloat (x : Option PyFloat) : (Json.ofFloat x).asFloat = .ok x := by
  cases x <;> rfl

theorem asStr_ofStr (s : Option String) : (Json.ofStr s).asStr = s := by
  cases s <;> rfl

theorem overrideModeOf_value (mode : OverrideMode) : overrideModeOf (.str mode.value) = some mode := by
  cases mode <;> rfl

theorem overrideModeOf_ofStr (mode : Option OverrideMode) :
    overrideModeOf (.ofStr (mode.map OverrideMode.value)) = mode := by
  cases mode with
  | none => rfl
  | some mode => exact overrideModeOf_value mode

theorem asRecords_ofRecords {records : List JsonObject} (bounded : records.length ≤ 50) :
    (Json.ofRecords records).asRecords = records := by
  simp only [Json.ofRecords, Json.asRecords, List.filterMap_map, Function.comp_def,
    List.filterMap_some]
  have undropped : records.length - 50 = 0 := by omega
  rw [undropped, List.drop_zero]

/-! ### Sections -/

theorem decodeUserState_toDict (codec : ModelCodec M) (state : PersistedZoneState M) :
    decodeUserState (state.toDict codec) = .ok {
      enabled := state.enabled
      preset := state.preset
      windowBypass := state.windowBypass
      climateMode := some state.climateMode
      hasActuated := state.hasActuated
      calBaseline := state.calBaseline
      calEntity := state.calEntity } := by
  have baseline : (state.toDict codec).get "cal_baseline" = .ofFloat state.calBaseline := rfl
  have preset : (state.toDict codec).getD "preset" (.str "none") = .str state.preset.value := rfl
  have entity : (state.toDict codec).get "cal_entity" = .ofStr state.calEntity := rfl
  simp only [decodeUserState, baseline, asFloat_ofFloat, preset, overrideModeOf_value, entity,
    asStr_ofStr]
  rfl

theorem decodeAdoptionBaselines_toDict (codec : ModelCodec M) (state : PersistedZoneState M) :
    decodeAdoptionBaselines (state.toDict codec) = .ok {
      lastWrittenSp := state.lastWrittenSp
      prevDeviceSp := state.prevDeviceSp
      lastCommandedHvac := state.lastCommandedHvac
      prevDeviceMode := state.prevDeviceMode
      lastCommandedFan := state.lastCommandedFan
      prevDeviceFan := state.prevDeviceFan } := by
  have written : (state.toDict codec).get "last_written_sp" = .ofFloat state.lastWrittenSp := rfl
  have previous : (state.toDict codec).get "prev_device_sp" = .ofFloat state.prevDeviceSp := rfl
  have hvac : (state.toDict codec).get "last_commanded_hvac" = .ofStr state.lastCommandedHvac := rfl
  have mode : (state.toDict codec).get "prev_device_mode" = .ofStr state.prevDeviceMode := rfl
  have fan : (state.toDict codec).get "last_commanded_fan" = .ofStr state.lastCommandedFan := rfl
  have fanBefore : (state.toDict codec).get "prev_device_fan" = .ofStr state.prevDeviceFan := rfl
  simp only [decodeAdoptionBaselines, written, previous, hvac, mode, fan, fanBefore,
    asFloat_ofFloat, asStr_ofStr]
  rfl

theorem asFloatIf_ofFloat (gate : Bool) (x : Option PyFloat) :
    (Json.ofFloat x).asFloatIf gate = .ok (if gate then x else none) := by
  cases gate with
  | false => rfl
  | true => exact asFloat_ofFloat x

theorem asStrIf_ofStr (gate : Bool) (s : Option String) :
    (Json.ofStr s).asStrIf gate = if gate then s else none := by
  cases gate with
  | false => rfl
  | true => exact asStr_ofStr s

/-- What the codec keeps of a hold: the gated fields, each under its gate. -/
def PersistedZoneState.lifecycle (state : PersistedZoneState M) : OverrideLifecycleSection :=
  let held := state.override.isSome || state.modeOverride.isSome
  { override := state.override
    modeOverride := state.modeOverride
    holdActive := held
    overrideReason := if held then state.overrideReason else none
    overrideSetWall := if held then state.overrideSetWall else none
    overrideRequested := if state.override.isSome then state.overrideRequested else none
    overrideExpiresAt := if held then state.overrideExpiresAt else none
    overrideExpiryIsSwitchpoint := state.overrideExpiryIsSwitchpoint
    boostExpiresAt := state.boostExpiresAt
    boostPrevPreset := state.boostPrevPreset
    overrideStats := (Json.ofRecords state.overrideStats).asRecords
    feedbackStats := (Json.ofRecords state.feedbackStats).asRecords
    suggestionRejectedKey := state.suggestionRejectedKey
    suggestionRejectedAt := state.suggestionRejectedAt
    cloSuggestionRejectedKey := state.cloSuggestionRejectedKey
    cloSuggestionRejectedAt := state.cloSuggestionRejectedAt
    seasonHintLastActiveTs := state.seasonHintLastActiveTs
    overridePolicy := some state.overridePolicy }

theorem decodeOverrideLifecycle_toDict (codec : ModelCodec M) (state : PersistedZoneState M) :
    decodeOverrideLifecycle (state.toDict codec) = .ok state.lifecycle := by
  have override : (state.toDict codec).get "override" = .ofFloat state.override := rfl
  have mode : (state.toDict codec).get "mode_override" = .ofStr state.modeOverride := rfl
  have setWall : (state.toDict codec).get "override_set_wall" = .ofFloat state.overrideSetWall := rfl
  have requested : (state.toDict codec).get "override_requested" =
    .ofFloat state.overrideRequested := rfl
  have expires : (state.toDict codec).get "override_expires_at" =
    .ofFloat state.overrideExpiresAt := rfl
  have boost : (state.toDict codec).get "boost_expires_at" = .ofFloat state.boostExpiresAt := rfl
  have preset : (state.toDict codec).get "boost_prev_preset" =
    .ofStr (state.boostPrevPreset.map OverrideMode.value) := rfl
  have rejected : (state.toDict codec).get "suggestion_rejected_at" =
    .ofFloat state.suggestionRejectedAt := rfl
  have rejectedKey : (state.toDict codec).get "suggestion_rejected_key" =
    .ofStr state.suggestionRejectedKey := rfl
  have clo : (state.toDict codec).get "clo_suggestion_rejected_at" =
    .ofFloat state.cloSuggestionRejectedAt := rfl
  have cloKey : (state.toDict codec).get "clo_suggestion_rejected_key" =
    .ofStr state.cloSuggestionRejectedKey := rfl
  have season : (state.toDict codec).get "season_hint_last_active_ts" =
    .ofFloat state.seasonHintLastActiveTs := rfl
  have reason : (state.toDict codec).get "override_reason" = .ofStr state.overrideReason := rfl
  have stats : (state.toDict codec).get "override_stats" = .ofRecords state.overrideStats := rfl
  have feedback : (state.toDict codec).get "feedback_stats" = .ofRecords state.feedbackStats := rfl
  simp only [decodeOverrideLifecycle, override, mode, setWall, requested, expires, boost, preset,
    rejected, rejectedKey, clo, cloKey, season, reason, stats, feedback, asFloat_ofFloat,
    asFloatIf_ofFloat, asStr_ofStr, asStrIf_ofStr, overrideModeOf_ofStr]
  rfl

/-! ### The humidity state -/

def modelKeys : List TailKey :=
  [.ekf, .trm, .seasonless, .windowAuto, .multiLifecycle, .outcomeStats, .regulationQuality,
    .comfortActivation, .refOffset, .tauSettle, .hdhSavings].map .model

def humidityKeys : List TailKey :=
  [.dryActive, .ventActive, .surfaceRhMean, .mouldIndex, .mouldWetHours, .mouldDryHours]

/-- The model's own payload makes its `from_dict` raise. -/
def ModelCodec.Throws (codec : ModelCodec M) (nowWall : ℚ) (m : LearnedModel) (v : Json) : Prop :=
  (m = .ekf ∨ v.isDict = true) ∧ ∃ e, codec.fromDict m nowWall v = .error e

theorem parse_model_error (codec : ModelCodec M) (nowWall : ℚ) (data : JsonObject)
    (m : LearnedModel) :
    (∃ e, (TailKey.model m).parse codec nowWall data = .error e) ↔
      codec.Throws nowWall m (data.get m.key) := by
  have mapped : ∀ result : Except PyException M,
      (∃ e, ((some ∘ TailValue.model) <$> result : Except PyException _) = .error e) ↔
        ∃ e, result = .error e := by
    intro result
    cases result <;> simp [Functor.map, Except.map]
  unfold TailKey.parse ModelCodec.Throws
  by_cases unguarded : m = .ekf
  · subst unguarded
    simp only [true_or, true_and]
    exact mapped _
  · simp only [TailKey.key]
    by_cases dict : (data.get m.key).isDict = true
    · simpa [dict, unguarded] using mapped _
    · simp [dict, unguarded]

theorem parseTail_append (codec : ModelCodec M) (nowWall : ℚ) (data : JsonObject)
    (front back : List TailKey) (tail : DecodedTail M) :
    parseTail codec nowWall data (front ++ back) tail =
      match parseTail codec nowWall data front tail with
      | (kept, some e) => (kept, some e)
      | (kept, none) => parseTail codec nowWall data back kept := by
  induction front generalizing tail with
  | nil => rfl
  | cons k front ih =>
    simp only [List.cons_append, parseTail]
    split
    · rfl
    · exact ih _
    · exact ih _

theorem parseTail_error (codec : ModelCodec M) (nowWall : ℚ) (data : JsonObject)
    (keys : List TailKey) (tail : DecodedTail M) :
    (parseTail codec nowWall data keys tail).2 = none ↔
      ∀ k ∈ keys, ¬ ∃ e, k.parse codec nowWall data = .error e := by
  induction keys generalizing tail with
  | nil => simp [parseTail]
  | cons k keys ih =>
    simp only [parseTail, List.forall_mem_cons]
    cases parsed : k.parse codec nowWall data with
    | error e => simp
    | ok value => cases value <;> simp [ih]

/-- Every model of the zone is read back without a throw. -/
def ModelsLoad (codec : ModelCodec M) (nowWall : ℚ) (models : LearnedModel → M) : Prop :=
  ∀ m, ¬ codec.Throws nowWall m (codec.toDict m (models m))

theorem modelKeys_error (codec : ModelCodec M) (nowWall : ℚ) (state : PersistedZoneState M) :
    (parseTail codec nowWall (state.toDict codec) modelKeys fun _ => none).2 = none ↔
      ModelsLoad codec nowWall state.models := by
  have stored : ∀ m : LearnedModel,
      (state.toDict codec).get m.key = codec.toDict m (state.models m) := by
    intro m
    cases m <;> rfl
  rw [parseTail_error]
  constructor
  · intro parsed m
    rw [← stored m, ← parse_model_error]
    apply parsed
    cases m <;> decide
  · intro loads k member
    obtain ⟨m, _, rfl⟩ := List.mem_map.mp member
    rw [parse_model_error, stored m]
    exact loads m

/-- The latches and the mean come back exactly when the models do; the mould dose
never does. -/
theorem restoreHumidity_toDict (codec : ModelCodec M) (nowWall : ℚ)
    (state : PersistedZoneState M) (fresh : HumidityRuntime) :
    (ModelsLoad codec nowWall state.models →
      restoreHumidity fresh (decodeModels codec nowWall (state.toDict codec)).1 =
        { fresh with
          dryActive := state.dryActive
          ventActive := state.ventActive
          surfaceRhMean := state.surfaceRhMean.or fresh.surfaceRhMean }) ∧
    (¬ ModelsLoad codec nowWall state.models →
      restoreHumidity fresh (decodeModels codec nowWall (state.toDict codec)).1 = fresh) := by
  have order : tailOrder = modelKeys ++ humidityKeys := rfl
  have apart : ∀ k ∈ humidityKeys, k ∉ modelKeys := by decide
  rw [← modelKeys_error, decodeModels, order, parseTail_append]
  have untouched := fun k member =>
    @parseTail_frame M codec nowWall (state.toDict codec) modelKeys (fun _ => none) k
      (apart k member)
  cases models : parseTail codec nowWall (state.toDict codec) modelKeys fun _ => none with
  | mk kept error =>
    simp only [models] at untouched
    cases error with
    | some e =>
      refine ⟨fun loaded => by simp at loaded, fun _ => ?_⟩
      simp only [restoreHumidity, DecodedTail.flag, DecodedTail.number,
        untouched .dryActive (by decide), untouched .ventActive (by decide),
        untouched .surfaceRhMean (by decide), Option.getD_none, Option.none_or]
    | none =>
      refine ⟨fun _ => ?_, fun failed => absurd rfl failed⟩
      have dry : TailKey.dryActive.parse codec nowWall (state.toDict codec) =
        .ok (some (.flag state.dryActive)) := rfl
      have vent : TailKey.ventActive.parse codec nowWall (state.toDict codec) =
        .ok (some (.flag state.ventActive)) := rfl
      have index : TailKey.mouldIndex.parse codec nowWall (state.toDict codec) =
        .ok (some (.number state.mouldIndex)) := rfl
      have wet : TailKey.mouldWetHours.parse codec nowWall (state.toDict codec) =
        .ok (some (.number state.mouldWetHours)) := rfl
      have dryHours : TailKey.mouldDryHours.parse codec nowWall (state.toDict codec) =
        .ok (some (.number state.mouldDryHours)) := rfl
      have mean : TailKey.surfaceRhMean.parse codec nowWall (state.toDict codec) =
          .ok (state.surfaceRhMean.map .number) := by
        have stored : (state.toDict codec).get "surface_rh_mean" =
          .ofFloat state.surfaceRhMean := rfl
        simp only [TailKey.parse, TailKey.key, stored, asFloat_ofFloat]
        rfl
      simp only [humidityKeys, parseTail, dry, vent, mean, index, wet, dryHours]
      cases state.surfaceRhMean with
      | none =>
        simp [restoreHumidity, DecodedTail.flag, DecodedTail.number,
          untouched .surfaceRhMean (by decide)]
      | some rh => simp [restoreHumidity, DecodedTail.flag, DecodedTail.number]

/-- The decoded store of a snapshot. -/
def PersistedZoneState.decoded (codec : ModelCodec M) (nowWall : ℚ)
    (state : PersistedZoneState M) : DecodedPersistence M where
  userState :=
    { enabled := state.enabled
      preset := state.preset
      windowBypass := state.windowBypass
      climateMode := some state.climateMode
      hasActuated := state.hasActuated
      calBaseline := state.calBaseline
      calEntity := state.calEntity }
  overrideLifecycle := state.lifecycle
  adoptionBaselines :=
    { lastWrittenSp := state.lastWrittenSp
      prevDeviceSp := state.prevDeviceSp
      lastCommandedHvac := state.lastCommandedHvac
      prevDeviceMode := state.prevDeviceMode
      lastCommandedFan := state.lastCommandedFan
      prevDeviceFan := state.prevDeviceFan }
  tail := (decodeModels codec nowWall (state.toDict codec)).1
  modelError := (decodeModels codec nowWall (state.toDict codec)).2

theorem restart_encode (codec : ModelCodec M) (nowWall : ℚ) (fresh : StoredZone M)
    (ctx : RestoreContext) (state : PersistedZoneState M) :
    restart codec nowWall fresh ctx (encode codec state) =
      .ok (fresh.restore (state.decoded codec nowWall) ctx) := by
  have gate : ((state.toDict codec).lookup "ekf").isSome = true := rfl
  have decoded : decode codec nowWall (encode codec state) =
      .ok (.v1 (state.decoded codec nowWall)) := by
    simp only [decode, encode, gate, if_true, decodeUserState_toDict,
      decodeOverrideLifecycle_toDict, decodeAdoptionBaselines_toDict]
    rfl
  rw [restart, decoded]
  rfl

/-- A dose that a fresh runtime would have as well. -/
def MouldUndosed (humidity : HumidityRuntime) : Prop :=
  humidity.mouldIndex = .finite 1 ∧ humidity.mouldWetHours = .finite 0 ∧
    humidity.mouldDryHours = .finite 0

def LatchesFresh (humidity : HumidityRuntime) : Prop :=
  humidity.dryActive = false ∧ humidity.ventActive = false ∧ humidity.surfaceRhMean = none

/-- A restart keeps the humidity state exactly where the mould dose never left its
start; the rest of it comes back whenever the models load. -/
theorem restart_keeps_humidity_iff (codec : ModelCodec M) (nowWall : ℚ) (climateMode : String)
    (models : LearnedModel → M) (ctx : RestoreContext) (zone : StoredZone M) (policy : String) :
    (∃ restored, restart codec nowWall (.fresh climateMode models) ctx
        (encode codec (snapshot zone policy)) = .ok restored ∧
      restored.humidity = zone.humidity) ↔
    MouldUndosed zone.humidity ∧
      (ModelsLoad codec nowWall zone.models ∨ LatchesFresh zone.humidity) := by
  obtain ⟨loaded, failed⟩ := restoreHumidity_toDict codec nowWall (snapshot zone policy) {}
  rw [restart_encode]
  simp only [Except.ok.injEq, exists_eq_left']
  by_cases loads : ModelsLoad codec nowWall zone.models
  · have restored := loaded loads
    simp only [StoredZone.restore, StoredZone.fresh, PersistedZoneState.decoded, restored, loads,
      true_or, and_true]
    constructor
    · intro same
      rw [← same]
      exact ⟨rfl, rfl, rfl⟩
    · intro ⟨index, wet, dry⟩
      cases humidity : zone.humidity
      simp_all [snapshot]
  · have restored := failed loads
    simp only [StoredZone.restore, StoredZone.fresh, PersistedZoneState.decoded, restored, loads,
      false_or]
    constructor
    · intro same
      rw [← same]
      exact ⟨⟨rfl, rfl, rfl⟩, rfl, rfl, rfl⟩
    · intro ⟨⟨index, wet, dryHours⟩, dry, vent, mean⟩
      cases humidity : zone.humidity
      simp_all

def restartAtNoon : RestoreContext := ⟨.timer, 2, 8, none, 43200⟩

def dosedZone : StoredZone Unit :=
  { StoredZone.fresh "auto" (fun _ => ()) with
    humidity := { mouldIndex := .finite 3, mouldWetHours := .finite 40 } }

theorem restart_loses_dose :
    ¬ ∃ restored, restart unitCodec 0 (.fresh "auto" fun _ => ()) restartAtNoon
        (encode unitCodec (snapshot dosedZone "timer")) = .ok restored ∧
      restored.humidity = dosedZone.humidity := by
  rintro ⟨restored, result, same⟩
  rw [restart_encode] at result
  have fresh : restored.humidity.mouldIndex = .finite 1 := by
    rw [← Except.ok.inj result]
    rfl
  rw [same] at fresh
  exact absurd fresh (by decide)

/-! ### Intent and ownership -/

def StoredUserState.Held (user : StoredUserState) : Prop :=
  user.override.isSome = true ∨ user.modeOverride.isSome = true

instance (user : StoredUserState) : Decidable user.Held := by
  unfold StoredUserState.Held
  infer_instance

/-- The stored side of the hold lifecycle. -/
structure StoredHold (user : StoredUserState) : Prop where
  gated : ¬ user.Held →
    user.overrideSetWall = none ∧ user.overrideExpiresAt = none ∧ user.overrideReason = none
  -- A mode hold alone has no requested setpoint.
  requested : user.override = none → user.overrideRequested = none
  bounded : user.overrideStats.length ≤ 50 ∧ user.feedbackStats.length ≤ 50

/-- The hold whose expiry the restart announces anew. -/
def StoredUserState.Unannounced (user : StoredUserState) (setAt : PyFloat) : Prop :=
  user.Held ∧ user.overrideExpiresAt = none ∧ user.overrideSetWall = some setAt

/-- No reading from the restart on falls into the window of this stamp. -/
def StaleStamp (ctx : RestoreContext) (stamp : Option ℚ) : Prop :=
  ∃ writtenAt, stamp = some writtenAt ∧
    ∀ now, ctx.monotonic ≤ now → setpointAdoptEchoWindowS ≤ now - writtenAt

/-- What a restart keeps of a zone. -/
structure IntentKept (ctx : RestoreContext) (zone restored : StoredZone M) : Prop where
  user : restored.user =
    { zone.user with overrideExpiresAt := restored.user.overrideExpiresAt }
  announced : (∀ setAt, ¬ zone.user.Unannounced setAt) →
    restored.user.overrideExpiresAt = zone.user.overrideExpiresAt
  recomputed : ∀ setAt, zone.user.Unannounced setAt →
    restored.user.overrideExpiresAt = ctx.resolveHoldExpiry setAt ∧
      (ctx.overridePolicy ≠ .permanent → restored.user.overrideExpiresAt.isSome = true)
  lastWrittenSp : restored.external.lastWrittenSp = zone.external.lastWrittenSp
  prevDeviceSp : restored.external.prevDeviceSp = zone.external.prevDeviceSp
  lastCommandedHvac : restored.external.lastCommandedHvac = zone.external.lastCommandedHvac
  prevDeviceMode : restored.external.prevDeviceMode = zone.external.prevDeviceMode
  lastCommandedFan : restored.external.lastCommandedFan = zone.external.lastCommandedFan
  prevDeviceFan : restored.external.prevDeviceFan = zone.external.prevDeviceFan
  ownership : restored.actuator = zone.actuator
  spEcho : zone.external.lastWrittenSp.isSome = true → StaleStamp ctx restored.external.lastSpWriteTs
  hvacEcho : zone.external.lastCommandedHvac.isSome = true →
    StaleStamp ctx restored.external.lastHvacCmdTs
  fanEcho : zone.external.lastCommandedFan.isSome = true →
    StaleStamp ctx restored.external.lastFanCmdTs

theorem staleStamp_stale (ctx : RestoreContext) : StaleStamp ctx (some ctx.stale) := by
  refine ⟨ctx.stale, rfl, fun now later => ?_⟩
  simp only [RestoreContext.stale, setpointAdoptEchoWindowS]
  linarith

theorem restoreBaselines_stale (fresh : StoredBaselines) (base : AdoptionBaselinesSection)
    (ctx : RestoreContext) :
    (base.lastWrittenSp.isSome = true →
      StaleStamp ctx (restoreBaselines fresh base ctx).lastSpWriteTs) ∧
    (base.lastCommandedHvac.isSome = true →
      StaleStamp ctx (restoreBaselines fresh base ctx).lastHvacCmdTs) ∧
    (base.lastCommandedFan.isSome = true →
      StaleStamp ctx (restoreBaselines fresh base ctx).lastFanCmdTs) := by
  refine ⟨fun baseline => ?_, fun baseline => ?_, fun baseline => ?_⟩ <;>
    simpa only [restoreBaselines, baseline, if_true] using staleStamp_stale ctx

theorem RestoreContext.resolveHoldExpiry_isSome (ctx : RestoreContext) (setAt : PyFloat)
    (timed : ctx.overridePolicy ≠ .permanent) : (ctx.resolveHoldExpiry setAt).isSome = true := by
  unfold RestoreContext.resolveHoldExpiry
  cases setAt with
  | finite setAt =>
    rw [Option.isSome_map]
    exact Poise.resolveHoldExpiry_isSome timed
  | infinite negative => simp [timed]
  | nan => simp [timed]

/-- Under the invariant the codec's gates drop nothing. -/
theorem lifecycle_snapshot (zone : StoredZone M) (policy : String) (hold : StoredHold zone.user) :
    (snapshot zone policy).lifecycle = {
      override := zone.user.override
      modeOverride := zone.user.modeOverride
      holdActive := decide zone.user.Held
      overrideReason := zone.user.overrideReason
      overrideSetWall := zone.user.overrideSetWall
      overrideRequested := zone.user.overrideRequested
      overrideExpiresAt := zone.user.overrideExpiresAt
      overrideExpiryIsSwitchpoint := zone.user.overrideExpiryIsSwitchpoint
      boostExpiresAt := zone.user.boostExpiresAt
      boostPrevPreset := zone.user.boostPrevPreset
      overrideStats := zone.user.overrideStats
      feedbackStats := zone.user.feedbackStats
      suggestionRejectedKey := zone.user.suggestionRejectedKey
      suggestionRejectedAt := zone.user.suggestionRejectedAt
      cloSuggestionRejectedKey := zone.user.cloSuggestionRejectedKey
      cloSuggestionRejectedAt := zone.user.cloSuggestionRejectedAt
      seasonHintLastActiveTs := zone.user.seasonHintLastActiveTs
      overridePolicy := some policy } := by
  have gate : (zone.user.override.isSome || zone.user.modeOverride.isSome) =
      decide zone.user.Held := by
    rw [Bool.eq_iff_iff, decide_eq_true_iff]
    simp [StoredUserState.Held]
  have requested : (if zone.user.override.isSome then zone.user.overrideRequested else none) =
      zone.user.overrideRequested := by
    cases setpoint : zone.user.override with
    | none => simp [hold.requested setpoint]
    | some value => rfl
  simp only [PersistedZoneState.lifecycle, snapshot, gate,
    asRecords_ofRecords hold.bounded.1, asRecords_ofRecords hold.bounded.2]
  by_cases held : zone.user.Held
  · simp only [held, decide_true, if_true, OverrideLifecycleSection.mk.injEq, and_true, true_and]
    exact requested
  · obtain ⟨setWall, expires, reason⟩ := hold.gated held
    simp only [setWall, expires, reason, ite_self, OverrideLifecycleSection.mk.injEq, and_true,
      true_and]
    exact requested

theorem restoreExpiry_lifecycle {zone : StoredZone M} {policy : String} (ctx : RestoreContext)
    (hold : StoredHold zone.user) :
    ((∀ setAt, ¬ zone.user.Unannounced setAt) →
      restoreExpiry (snapshot zone policy).lifecycle ctx = zone.user.overrideExpiresAt) ∧
    ∀ setAt, zone.user.Unannounced setAt →
      restoreExpiry (snapshot zone policy).lifecycle ctx = ctx.resolveHoldExpiry setAt := by
  rw [lifecycle_snapshot zone policy hold]
  constructor
  · intro announced
    unfold restoreExpiry
    split
    next setAt expires stamped =>
      have idle : ¬ zone.user.Held := fun held => announced setAt ⟨held, expires, stamped⟩
      simp [idle, (hold.gated idle).2.1]
    next => rfl
  · intro setAt ⟨held, expires, stamped⟩
    simp [restoreExpiry, held, expires, stamped]

/-- The stored copy of the configured policy reaches nothing. -/
theorem restore_policy (codec : ModelCodec M) (nowWall : ℚ) (fresh : StoredZone M)
    (ctx : RestoreContext) (zone : StoredZone M) (policy other : String) :
    fresh.restore ((snapshot zone policy).decoded codec nowWall) ctx =
      fresh.restore ((snapshot zone other).decoded codec nowWall) ctx := by
  have tail : decodeModels codec nowWall ((snapshot zone policy).toDict codec) =
      decodeModels codec nowWall ((snapshot zone other).toDict codec) := by
    apply parseTail_agree
    intro k _
    cases k with
    | model m => cases m <;> rfl
    | _ => rfl
  simp only [StoredZone.restore, PersistedZoneState.decoded, tail]
  rfl

/-- A restart keeps the user's intent and the ownership of device state, whatever
policy the store names. -/
theorem restart_keeps_intent (codec : ModelCodec M) (nowWall : ℚ) (climateMode : String)
    (models : LearnedModel → M) (ctx : RestoreContext) (zone : StoredZone M)
    (hold : StoredHold zone.user) :
    ∃ restored, IntentKept ctx zone restored ∧ ∀ policy,
      restart codec nowWall (.fresh climateMode models) ctx (encode codec (snapshot zone policy)) =
        .ok restored := by
  refine ⟨(StoredZone.fresh climateMode models).restore
    ((snapshot zone "").decoded codec nowWall) ctx, ?_, ?_⟩
  · obtain ⟨kept, recomputed⟩ := @restoreExpiry_lifecycle M zone "" ctx hold
    have user : ((StoredZone.fresh climateMode models).restore
        ((snapshot zone "").decoded codec nowWall) ctx).user =
        { zone.user with
          overrideExpiresAt := restoreExpiry (snapshot zone "").lifecycle ctx } := by
      simp only [StoredZone.restore, PersistedZoneState.decoded, restoreUser]
      rw [lifecycle_snapshot zone "" hold]
      rfl
    have stale := restoreBaselines_stale {}
      ((snapshot zone "").decoded codec nowWall).adoptionBaselines ctx
    constructor
    · rw [user]
    · rw [user]
      exact kept
    · intro setAt unannounced
      rw [user]
      have expiry := recomputed setAt unannounced
      exact ⟨expiry, fun timed => expiry ▸ ctx.resolveHoldExpiry_isSome setAt timed⟩
    · rfl
    · rfl
    · rfl
    · rfl
    · rfl
    · rfl
    · rfl
    · exact stale.1
    · exact stale.2.1
    · exact stale.2.2
  · intro policy
    rw [restart_encode, restore_policy codec nowWall _ ctx zone policy ""]

def heldZone : StoredZone Unit :=
  { StoredZone.fresh "auto" (fun _ => ()) with
    user :=
      { override := some (.finite 24)
        overrideSetWall := some (.finite 36000)
        overrideRequested := some (.finite 24)
        overrideReason := some "ui_setpoint" }
    external := { lastWrittenSp := some (.finite 24) } }

theorem restart_keeps_intent_held :
    ∃ restored, IntentKept restartAtNoon heldZone restored ∧ ∀ policy,
      restart unitCodec 0 (.fresh "auto" fun _ => ()) restartAtNoon
        (encode unitCodec (snapshot heldZone policy)) = .ok restored := by
  apply restart_keeps_intent
  exact ⟨by decide, by decide, by decide⟩

/-- The weaker invariant that lets any hold carry every hold field. -/
structure GatedByAnyHold (user : StoredUserState) : Prop where
  gated : ¬ user.Held →
    user.overrideSetWall = none ∧ user.overrideExpiresAt = none ∧ user.overrideReason = none ∧
      user.overrideRequested = none
  bounded : user.overrideStats.length ≤ 50 ∧ user.feedbackStats.length ≤ 50

/-- A mode hold with a requested setpoint left over. -/
def requestUnderModeHold : StoredZone Unit :=
  { heldZone with user := { heldZone.user with override := none, modeOverride := some "heat" } }

/-- A hold whose set time is gone with its expiry. -/
def untimedHold : StoredZone Unit :=
  { heldZone with user := { heldZone.user with overrideSetWall := none } }

theorem restart_departs_from_intent :
    (GatedByAnyHold requestUnderModeHold.user ∧
      ¬ ∃ restored, restart unitCodec 0 (.fresh "auto" fun _ => ()) restartAtNoon
          (encode unitCodec (snapshot requestUnderModeHold "timer")) = .ok restored ∧
        restored.user.overrideRequested = requestUnderModeHold.user.overrideRequested) ∧
    (GatedByAnyHold untimedHold.user ∧ untimedHold.user.Held ∧
      untimedHold.user.overrideExpiresAt = none ∧ restartAtNoon.overridePolicy ≠ .permanent ∧
      ¬ ∃ restored, restart unitCodec 0 (.fresh "auto" fun _ => ()) restartAtNoon
          (encode unitCodec (snapshot untimedHold "timer")) = .ok restored ∧
        restored.user.overrideExpiresAt.isSome = true) := by
  refine ⟨⟨⟨by decide, by decide⟩, ?_⟩, ⟨by decide, by decide⟩, by decide, rfl, by decide, ?_⟩
  · rintro ⟨restored, result, same⟩
    rw [restart_encode] at result
    have dropped : restored.user.overrideRequested = none := by
      rw [← Except.ok.inj result]
      rfl
    rw [dropped] at same
    cases same
  · rintro ⟨restored, result, announced⟩
    rw [restart_encode] at result
    have unannounced : restored.user.overrideExpiresAt = none := by
      rw [← Except.ok.inj result]
      rfl
    rw [unannounced] at announced
    cases announced

/-! ### The states that runs reach -/

/-- The persisted image of a run's user state. -/
def TimedUserState.stored (user : TimedUserState) (rest : StoredUserState) : StoredUserState :=
  { rest with
    enabled := user.enabled
    preset := user.preset
    override := user.override.map .finite
    modeOverride := user.modeOverride
    overrideSetWall := user.overrideSetWall.map .finite
    overrideRequested := user.overrideRequested.map .finite
    overrideExpiresAt := user.overrideExpiresAt.map .finite
    overrideExpiryIsSwitchpoint := user.overrideExpiryIsSwitchpoint
    overrideReason := user.overrideReason
    boostExpiresAt := user.boostExpiresAt.map .finite
    boostPrevPreset := user.boostPrevPreset }

/-- A requested setpoint belongs to a setpoint hold, and a hold to a set time. -/
structure HoldStamped (user : UserControlState) : Prop where
  requested : user.override = none → user.overrideRequested = none
  stamped : HoldActive user → user.overrideSetWall.isSome = true

theorem HoldStamped.setOverride {user : UserControlState} (stamped : HoldStamped user)
    (value : Option PyFloat) (reason : Option String) (ctx : HoldContext) :
    HoldStamped (Poise.setOverride user value reason ctx).1 := by
  unfold Poise.setOverride
  split
  · constructor <;> simp [announceHoldExpiry]
  · split
    · next pinned =>
      -- the set time of the surviving mode hold
      have running := stamped.stamped (.inr pinned)
      constructor <;> simp [running]
    · next free =>
      constructor
      · simp
      · intro active
        simp [HoldActive] at active
        simp [active] at free

theorem HoldStamped.setModeOverride {user : UserControlState} (stamped : HoldStamped user)
    (mode : String) (ctx : HoldContext) :
    HoldStamped (Poise.setModeOverride user (some mode) ctx) := by
  simp only [Poise.setModeOverride]
  split
  · next running => exact ⟨stamped.requested, fun _ => running⟩
  · exact ⟨stamped.requested, fun _ => rfl⟩

theorem HoldStamped.endHold (user : UserControlState) (reason : String) :
    HoldStamped (Poise.endHold user reason).1 :=
  ⟨fun _ => rfl, fun active => absurd active (endHold_inactive user reason)⟩

theorem holdStamped_step {policy : HoldPolicy} (state : HoldState) (call : HoldCall)
    (stamped : HoldStamped state.user.toUserControlState) :
    HoldStamped (holdStep policy state call).1.user.toUserControlState := by
  apply holdStep_keeps HoldStamped state call stamped
  · exact fun value reason times => stamped.setOverride value reason (times.context policy)
  · exact fun mode times => stamped.setModeOverride mode (times.context policy)
  · exact HoldStamped.endHold _

/-- Every state of a run stores as a hold that a restart keeps, with a set time
from which a lost expiry is announced anew. -/
theorem holdRun_stored (policy : HoldPolicy) (calls : List HoldCall) (rest : StoredUserState)
    (bounded : rest.overrideStats.length ≤ 50 ∧ rest.feedbackStats.length ≤ 50) :
    ∀ e ∈ holdRun policy calls,
      StoredHold (e.post.user.stored rest) ∧
        ((e.post.user.stored rest).Held → (e.post.user.stored rest).overrideSetWall.isSome) := by
  intro e member
  have lifecycle : HoldLifecycle policy e.post.user.toUserControlState :=
    (Trace.invariant_of_mem (holdStep policy)
      (fun state => HoldLifecycle policy state.user.toUserControlState)
      (holdLifecycle_inactive (by simp [HoldActive]) (by simp))
      (fun state call => holdLifecycle_step state call) member).2
  have stamped : HoldStamped e.post.user.toUserControlState :=
    (Trace.invariant_of_mem (holdStep policy)
      (fun state => HoldStamped state.user.toUserControlState)
      ⟨fun _ => rfl, by simp [HoldActive]⟩
      (fun state call => holdStamped_step state call) member).2
  have held : (e.post.user.stored rest).Held ↔ HoldActive e.post.user.toUserControlState := by
    simp [StoredUserState.Held, TimedUserState.stored, HoldActive]
  constructor
  · constructor
    · intro idle
      obtain ⟨setWall, expires, _, reason, _⟩ := lifecycle.gated fun active => idle (held.mpr active)
      simp [TimedUserState.stored, setWall, expires, reason]
    · intro unset
      simp only [TimedUserState.stored, Option.map_eq_none_iff] at unset ⊢
      exact stamped.requested unset
    · exact bounded
  · intro active
    simpa [TimedUserState.stored] using stamped.stamped (held.mp active)

end Poise
