import Poise.Persistence.Json
import Poise.Control.OverrideRuntime

/-!
# The storage codec

`persistence/codec.py`: the v1 payload of one zone and its tolerant decoder. The
cheap sections convert key by key; the learned models and the diagnostic tail are
one sequential parse that keeps what it read before the first throw. The models'
own `to_dict` and `from_dict` are a parameter.
-/
namespace Poise

/-! ### Keys -/

inductive LearnedModel where
  | ekf
  | trm
  | seasonless
  | windowAuto
  | multiLifecycle
  | outcomeStats
  | regulationQuality
  | comfortActivation
  | refOffset
  | tauSettle
  | hdhSavings
  deriving DecidableEq, Repr

def LearnedModel.key : LearnedModel → String
  | .ekf => "ekf"
  | .trm => "trm"
  | .seasonless => "seasonless"
  | .windowAuto => "window_auto"
  | .multiLifecycle => "multi_lifecycle"
  | .outcomeStats => "outcome_stats"
  | .regulationQuality => "regulation_quality"
  | .comfortActivation => "comfort_activation"
  | .refOffset => "ref_offset"
  | .tauSettle => "tau_settle"
  | .hdhSavings => "hdh_savings"

/-- A key of the sequentially parsed tail. -/
inductive TailKey where
  | model (m : LearnedModel)
  | dryActive
  | ventActive
  | surfaceRhMean
  | mouldIndex
  | mouldWetHours
  | mouldDryHours
  deriving DecidableEq, Repr

def TailKey.key : TailKey → String
  | .model m => m.key
  | .dryActive => "dry_active"
  | .ventActive => "vent_active"
  | .surfaceRhMean => "surface_rh_mean"
  | .mouldIndex => "mould_index"
  | .mouldWetHours => "mould_wet_hours"
  | .mouldDryHours => "mould_dry_hours"

/-- The documented restore order. -/
def tailOrder : List TailKey :=
  [.model .ekf, .model .trm, .model .seasonless, .model .windowAuto, .model .multiLifecycle,
    .model .outcomeStats, .model .regulationQuality, .model .comfortActivation,
    .model .refOffset, .model .tauSettle, .model .hdhSavings, .dryActive, .ventActive,
    .surfaceRhMean, .mouldIndex, .mouldWetHours, .mouldDryHours]

/-- `to_dict` and `from_dict` of the learned models; an absent estimate has the
payload `null`. The wall clock is the anchor of the lifecycle's clamp. -/
structure ModelCodec (M : Type) where
  toDict : LearnedModel → M → Json
  fromDict : LearnedModel → ℚ → Json → Except PyException M

variable {M : Type}

/-! ### Encoding -/

def OverrideMode.value : OverrideMode → String
  | .none => "none"
  | .eco => "eco"
  | .comfort => "comfort"
  | .boost => "boost"
  | .away => "away"

/-- The typed snapshot that is encoded. -/
structure PersistedZoneState (M : Type) where
  models : LearnedModel → M
  dryActive : Bool
  ventActive : Bool
  surfaceRhMean : Option PyFloat
  mouldIndex : PyFloat
  mouldWetHours : PyFloat
  mouldDryHours : PyFloat
  enabled : Bool
  preset : OverrideMode
  climateMode : String
  windowBypass : Bool
  hasActuated : Bool
  override : Option PyFloat
  modeOverride : Option String
  overrideSetWall : Option PyFloat
  overrideRequested : Option PyFloat
  -- The configured policy: stored, never restored.
  overridePolicy : String
  overrideExpiresAt : Option PyFloat
  overrideExpiryIsSwitchpoint : Bool
  boostExpiresAt : Option PyFloat
  boostPrevPreset : Option OverrideMode
  overrideStats : List JsonObject
  feedbackStats : List JsonObject
  suggestionRejectedKey : Option String
  suggestionRejectedAt : Option PyFloat
  cloSuggestionRejectedKey : Option String
  cloSuggestionRejectedAt : Option PyFloat
  seasonHintLastActiveTs : Option PyFloat
  overrideReason : Option String
  lastWrittenSp : Option PyFloat
  prevDeviceSp : Option PyFloat
  lastCommandedHvac : Option String
  prevDeviceMode : Option String
  lastCommandedFan : Option String
  prevDeviceFan : Option String
  calBaseline : Option PyFloat
  calEntity : Option String

def Json.ofFloat : Option PyFloat → Json
  | none => .null
  | some x => .float x

def Json.ofStr : Option String → Json
  | none => .null
  | some s => .str s

def Json.ofRecords (records : List JsonObject) : Json := .list (records.map .dict)

def PersistedZoneState.toDict (codec : ModelCodec M) (state : PersistedZoneState M) : JsonObject :=
  let model (m : LearnedModel) : String × Json := (m.key, codec.toDict m (state.models m))
  [model .ekf, model .trm, model .seasonless, model .windowAuto, model .multiLifecycle,
    model .outcomeStats, model .regulationQuality, model .comfortActivation,
    model .refOffset, model .tauSettle, model .hdhSavings,
    ("dry_active", .bool state.dryActive),
    ("vent_active", .bool state.ventActive),
    ("surface_rh_mean", .ofFloat state.surfaceRhMean),
    ("mould_index", .float state.mouldIndex),
    ("mould_wet_hours", .float state.mouldWetHours),
    ("mould_dry_hours", .float state.mouldDryHours),
    ("window_bypass", .bool state.windowBypass),
    ("preset", .str state.preset.value),
    ("enabled", .bool state.enabled),
    ("override", .ofFloat state.override),
    ("mode_override", .ofStr state.modeOverride),
    ("override_set_wall", .ofFloat state.overrideSetWall),
    ("override_requested", .ofFloat state.overrideRequested),
    ("override_policy", .str state.overridePolicy),
    ("override_expires_at", .ofFloat state.overrideExpiresAt),
    ("override_expiry_is_switchpoint", .bool state.overrideExpiryIsSwitchpoint),
    ("boost_expires_at", .ofFloat state.boostExpiresAt),
    ("boost_prev_preset", .ofStr (state.boostPrevPreset.map OverrideMode.value)),
    ("override_stats", .ofRecords state.overrideStats),
    ("feedback_stats", .ofRecords state.feedbackStats),
    ("suggestion_rejected_key", .ofStr state.suggestionRejectedKey),
    ("suggestion_rejected_at", .ofFloat state.suggestionRejectedAt),
    ("clo_suggestion_rejected_key", .ofStr state.cloSuggestionRejectedKey),
    ("clo_suggestion_rejected_at", .ofFloat state.cloSuggestionRejectedAt),
    ("season_hint_last_active_ts", .ofFloat state.seasonHintLastActiveTs),
    ("override_reason", .ofStr state.overrideReason),
    ("last_written_sp", .ofFloat state.lastWrittenSp),
    ("prev_device_sp", .ofFloat state.prevDeviceSp),
    ("last_commanded_hvac", .ofStr state.lastCommandedHvac),
    ("prev_device_mode", .ofStr state.prevDeviceMode),
    ("last_commanded_fan", .ofStr state.lastCommandedFan),
    ("prev_device_fan", .ofStr state.prevDeviceFan),
    ("climate_mode", .str state.climateMode),
    ("has_actuated", .bool state.hasActuated),
    ("cal_baseline", .ofFloat state.calBaseline),
    ("cal_entity", .ofStr state.calEntity)]

def encode (codec : ModelCodec M) (state : PersistedZoneState M) : Json :=
  .dict (state.toDict codec)

/-! ### The cheap sections -/

/-- `OverrideMode(v)`, where a `ValueError` is no mode. -/
def overrideModeOf : Json → Option OverrideMode
  | .str "none" => some .none
  | .str "eco" => some .eco
  | .str "comfort" => some .comfort
  | .str "boost" => some .boost
  | .str "away" => some .away
  | _ => none

structure UserStateSection where
  enabled : Bool
  preset : OverrideMode
  windowBypass : Bool
  -- No text keeps the configured mode.
  climateMode : Option String
  hasActuated : Bool
  calBaseline : Option PyFloat
  calEntity : Option String
  deriving DecidableEq, Repr

def decodeUserState (data : JsonObject) : Except PyException UserStateSection := do
  let calBaseline ← (data.get "cal_baseline").asFloat
  return {
    enabled := (data.getD "enabled" (.bool true)).truthy
    preset := (overrideModeOf (data.getD "preset" (.str "none"))).getD .none
    windowBypass := (data.getD "window_bypass" (.bool false)).truthy
    climateMode := (data.get "climate_mode").asStr
    hasActuated := (data.getD "has_actuated" (.bool false)).truthy
    calBaseline := calBaseline
    calEntity := (data.get "cal_entity").asStr }

structure OverrideLifecycleSection where
  override : Option PyFloat
  modeOverride : Option String
  holdActive : Bool
  overrideReason : Option String
  overrideSetWall : Option PyFloat
  overrideRequested : Option PyFloat
  overrideExpiresAt : Option PyFloat
  overrideExpiryIsSwitchpoint : Bool
  boostExpiresAt : Option PyFloat
  boostPrevPreset : Option OverrideMode
  overrideStats : List JsonObject
  feedbackStats : List JsonObject
  suggestionRejectedKey : Option String
  suggestionRejectedAt : Option PyFloat
  cloSuggestionRejectedKey : Option String
  cloSuggestionRejectedAt : Option PyFloat
  seasonHintLastActiveTs : Option PyFloat
  overridePolicy : Option String

def Json.asFloatIf (gate : Bool) (v : Json) : Except PyException (Option PyFloat) :=
  if gate then v.asFloat else .ok none

def Json.asStrIf (gate : Bool) (v : Json) : Option String := if gate then v.asStr else none

def decodeOverrideLifecycle (data : JsonObject) : Except PyException OverrideLifecycleSection := do
  let override ← (data.get "override").asFloat
  let modeOverride := (data.get "mode_override").asStr
  let holdActive := override.isSome || modeOverride.isSome
  let overrideSetWall ← (data.get "override_set_wall").asFloatIf holdActive
  -- a mode hold alone does not bring the requested setpoint back
  let overrideRequested ← (data.get "override_requested").asFloatIf override.isSome
  let overrideExpiresAt ← (data.get "override_expires_at").asFloatIf holdActive
  let boostExpiresAt ← (data.get "boost_expires_at").asFloat
  let suggestionRejectedAt ← (data.get "suggestion_rejected_at").asFloat
  let cloSuggestionRejectedAt ← (data.get "clo_suggestion_rejected_at").asFloat
  let seasonHintLastActiveTs ← (data.get "season_hint_last_active_ts").asFloat
  return {
    override := override
    modeOverride := modeOverride
    holdActive := holdActive
    overrideReason := (data.get "override_reason").asStrIf holdActive
    overrideSetWall := overrideSetWall
    overrideRequested := overrideRequested
    overrideExpiresAt := overrideExpiresAt
    overrideExpiryIsSwitchpoint :=
      (data.getD "override_expiry_is_switchpoint" (.bool false)).truthy
    boostExpiresAt := boostExpiresAt
    boostPrevPreset := overrideModeOf (data.get "boost_prev_preset")
    overrideStats := (data.get "override_stats").asRecords
    feedbackStats := (data.get "feedback_stats").asRecords
    suggestionRejectedKey := (data.get "suggestion_rejected_key").asStr
    suggestionRejectedAt := suggestionRejectedAt
    cloSuggestionRejectedKey := (data.get "clo_suggestion_rejected_key").asStr
    cloSuggestionRejectedAt := cloSuggestionRejectedAt
    seasonHintLastActiveTs := seasonHintLastActiveTs
    overridePolicy := (data.get "override_policy").asStr }

structure AdoptionBaselinesSection where
  lastWrittenSp : Option PyFloat
  prevDeviceSp : Option PyFloat
  lastCommandedHvac : Option String
  prevDeviceMode : Option String
  lastCommandedFan : Option String
  prevDeviceFan : Option String
  deriving DecidableEq, Repr

def decodeAdoptionBaselines (data : JsonObject) : Except PyException AdoptionBaselinesSection := do
  let lastWrittenSp ← (data.get "last_written_sp").asFloat
  let prevDeviceSp ← (data.get "prev_device_sp").asFloat
  return {
    lastWrittenSp := lastWrittenSp
    prevDeviceSp := prevDeviceSp
    lastCommandedHvac := (data.get "last_commanded_hvac").asStr
    prevDeviceMode := (data.get "prev_device_mode").asStr
    lastCommandedFan := (data.get "last_commanded_fan").asStr
    prevDeviceFan := (data.get "prev_device_fan").asStr }

/-! ### The model tail -/

inductive TailValue (M : Type) where
  | model (m : M)
  | flag (b : Bool)
  | number (x : PyFloat)

/-- What the tail parse kept: the keyword arguments of the two sections. -/
abbrev DecodedTail (M : Type) := TailKey → Option (TailValue M)

def DecodedTail.model (tail : DecodedTail M) (m : LearnedModel) : Option M :=
  match tail (.model m) with
  | some (.model value) => some value
  | _ => none

def DecodedTail.flag (tail : DecodedTail M) (k : TailKey) : Option Bool :=
  match tail k with
  | some (.flag b) => some b
  | _ => none

def DecodedTail.number (tail : DecodedTail M) (k : TailKey) : Option PyFloat :=
  match tail k with
  | some (.number x) => some x
  | _ => none

/-- One key of the tail: its value, `none` where it is left alone, or the throw. -/
def TailKey.parse (codec : ModelCodec M) (nowWall : ℚ) (data : JsonObject) (k : TailKey) :
    Except PyException (Option (TailValue M)) :=
  let v := data.get k.key
  match k with
  -- no guard: the gate of the format promises the key
  | .model .ekf => (some ∘ .model) <$> codec.fromDict .ekf nowWall v
  | .model m =>
    if v.isDict then (some ∘ .model) <$> codec.fromDict m nowWall v else .ok none
  | .dryActive | .ventActive => .ok (v.asBool.map .flag)
  | .surfaceRhMean | .mouldIndex | .mouldWetHours | .mouldDryHours =>
    (Option.map .number) <$> v.asFloat

def parseTail (codec : ModelCodec M) (nowWall : ℚ) (data : JsonObject) :
    List TailKey → DecodedTail M → DecodedTail M × Option PyException
  | [], tail => (tail, none)
  | k :: rest, tail =>
    match k.parse codec nowWall data with
    | .error e => (tail, some e)
    | .ok none => parseTail codec nowWall data rest tail
    | .ok (some value) =>
      parseTail codec nowWall data rest fun other => if other = k then some value else tail other

def decodeModels (codec : ModelCodec M) (nowWall : ℚ) (data : JsonObject) :
    DecodedTail M × Option PyException :=
  parseTail codec nowWall data tailOrder fun _ => none

/-! ### Decoding -/

structure DecodedPersistence (M : Type) where
  userState : UserStateSection
  overrideLifecycle : OverrideLifecycleSection
  adoptionBaselines : AdoptionBaselinesSection
  tail : DecodedTail M
  modelError : Option PyException

inductive Decoded (M : Type) where
  | empty
  -- A payload without the key `ekf`; no section is decoded.
  | legacyBareEkf
  | v1 (decoded : DecodedPersistence M)

def decode (codec : ModelCodec M) (nowWall : ℚ) : Json → Except PyException (Decoded M)
  | .null => .ok .empty
  | .dict data =>
    if (data.lookup "ekf").isSome then do
      let (tail, modelError) := decodeModels codec nowWall data
      let userState ← decodeUserState data
      let overrideLifecycle ← decodeOverrideLifecycle data
      let adoptionBaselines ← decodeAdoptionBaselines data
      return .v1 { userState, overrideLifecycle, adoptionBaselines, tail, modelError }
    else .ok .legacyBareEkf
  | _ => .ok .legacyBareEkf

end Poise
