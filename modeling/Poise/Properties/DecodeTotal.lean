import Poise.Persistence.Codec

/-!
# Totality and isolation of decoding

Which payloads the decoder rejects, what each cheap section depends on, and what
the sequential tail keeps. Decoding raises only where a cheap section converts an
integer that no double can hold; the tail catches its own throws.
-/
namespace Poise

variable {M : Type}

/-! ### Conversions of the cheap sections -/

def userStateKeys : List String :=
  ["enabled", "preset", "window_bypass", "climate_mode", "has_actuated", "cal_baseline",
    "cal_entity"]

def overrideLifecycleKeys : List String :=
  ["override", "mode_override", "override_reason", "override_set_wall", "override_requested",
    "override_expires_at", "override_expiry_is_switchpoint", "boost_expires_at",
    "boost_prev_preset", "override_stats", "feedback_stats", "suggestion_rejected_key",
    "suggestion_rejected_at", "clo_suggestion_rejected_key", "clo_suggestion_rejected_at",
    "season_hint_last_active_ts", "override_policy"]

def adoptionBaselinesKeys : List String :=
  ["last_written_sp", "prev_device_sp", "last_commanded_hvac", "prev_device_mode",
    "last_commanded_fan", "prev_device_fan"]

def tailKeys : List String := tailOrder.map TailKey.key

/-- Two payloads say the same under every one of these keys. -/
def AgreeOn (keys : List String) (data other : JsonObject) : Prop :=
  ∀ key ∈ keys, data.lookup key = other.lookup key

theorem AgreeOn.get {keys : List String} {data other : JsonObject} (agree : AgreeOn keys data other)
    (key : String) (member : key ∈ keys) (default : Json) :
    data.getD key default = other.getD key default := by
  simp only [JsonObject.getD, agree key member]

theorem decodeUserState_agree {data other : JsonObject} (agree : AgreeOn userStateKeys data other) :
    decodeUserState data = decodeUserState other := by
  have same := agree.get
  simp only [decodeUserState, JsonObject.get]
  rw [same "cal_baseline" (by decide), same "enabled" (by decide), same "preset" (by decide),
    same "window_bypass" (by decide), same "climate_mode" (by decide),
    same "has_actuated" (by decide), same "cal_entity" (by decide)]

theorem decodeOverrideLifecycle_agree {data other : JsonObject}
    (agree : AgreeOn overrideLifecycleKeys data other) :
    decodeOverrideLifecycle data = decodeOverrideLifecycle other := by
  have same := agree.get
  simp only [decodeOverrideLifecycle, JsonObject.get]
  simp only [same "override" (by decide), same "mode_override" (by decide),
    same "override_reason" (by decide), same "override_set_wall" (by decide),
    same "override_requested" (by decide), same "override_expires_at" (by decide),
    same "override_expiry_is_switchpoint" (by decide), same "boost_expires_at" (by decide),
    same "boost_prev_preset" (by decide), same "override_stats" (by decide),
    same "feedback_stats" (by decide), same "suggestion_rejected_key" (by decide),
    same "suggestion_rejected_at" (by decide), same "clo_suggestion_rejected_key" (by decide),
    same "clo_suggestion_rejected_at" (by decide), same "season_hint_last_active_ts" (by decide),
    same "override_policy" (by decide)]

theorem decodeAdoptionBaselines_agree {data other : JsonObject}
    (agree : AgreeOn adoptionBaselinesKeys data other) :
    decodeAdoptionBaselines data = decodeAdoptionBaselines other := by
  have same := agree.get
  simp only [decodeAdoptionBaselines, JsonObject.get]
  rw [same "last_written_sp" (by decide), same "prev_device_sp" (by decide),
    same "last_commanded_hvac" (by decide), same "prev_device_mode" (by decide),
    same "last_commanded_fan" (by decide), same "prev_device_fan" (by decide)]

/-! ### Where a section raises -/

def Succeeds {ε α : Type} (computation : Except ε α) : Prop := ∃ value, computation = .ok value

theorem succeeds_pure {ε α : Type} (value : α) : Succeeds (pure value : Except ε α) := ⟨value, rfl⟩

theorem succeeds_bind {ε α β : Type} (first : Except ε α) (next : α → Except ε β) :
    Succeeds (first >>= next) ↔ ∃ value, first = .ok value ∧ Succeeds (next value) := by
  cases first with
  | error e => simp [Succeeds, bind, Except.bind]
  | ok value => simp [bind, Except.bind]

/-- A conversion followed by steps that raise under a condition of their own. -/
theorem succeeds_convert {α : Type} {v : Json} {next : Option PyFloat → Except PyException α}
    {P : Prop} (onward : ∀ x, v.asFloat = .ok x → (Succeeds (next x) ↔ P)) :
    Succeeds (v.asFloat >>= next) ↔ ¬ v.Overflows ∧ P := by
  rw [succeeds_bind]
  constructor
  · intro ⟨x, read, rest⟩
    refine ⟨fun big => ?_, (onward x read).mp rest⟩
    rw [Json.asFloat_error.mpr ⟨big, rfl⟩] at read
    cases read
  · intro ⟨fits, rest⟩
    obtain ⟨x, read⟩ := Json.asFloat_ok fits
    exact ⟨x, read, (onward x read).mpr rest⟩

theorem succeeds_convertIf {α : Type} {gate : Bool} {v : Json}
    {next : Option PyFloat → Except PyException α} {P : Prop}
    (onward : ∀ x, Succeeds (next x) ↔ P) :
    Succeeds (v.asFloatIf gate >>= next) ↔ (gate = true → ¬ v.Overflows) ∧ P := by
  cases gate with
  | false =>
    simp only [Json.asFloatIf, Bool.false_eq_true, if_false, false_implies, true_and]
    exact onward none
  | true =>
    simp only [Json.asFloatIf, if_true, true_implies]
    exact succeeds_convert fun x _ => onward x

/-- Whether the payload holds a setpoint or a mode hold, as the decoder sees it. -/
def holdsIn (data : JsonObject) : Bool :=
  (data.get "override").isNumber || (data.get "mode_override").asStr.isSome

theorem decodeUserState_succeeds (data : JsonObject) :
    Succeeds (decodeUserState data) ↔ ¬ (data.get "cal_baseline").Overflows ∧ True := by
  apply succeeds_convert
  intro baseline _
  exact iff_true_intro (succeeds_pure _)

theorem decodeOverrideLifecycle_succeeds (data : JsonObject) :
    Succeeds (decodeOverrideLifecycle data) ↔
      ¬ (data.get "override").Overflows ∧
      (holdsIn data = true → ¬ (data.get "override_set_wall").Overflows) ∧
      ((data.get "override").isNumber = true → ¬ (data.get "override_requested").Overflows) ∧
      (holdsIn data = true → ¬ (data.get "override_expires_at").Overflows) ∧
      ¬ (data.get "boost_expires_at").Overflows ∧
      ¬ (data.get "suggestion_rejected_at").Overflows ∧
      ¬ (data.get "clo_suggestion_rejected_at").Overflows ∧
      ¬ (data.get "season_hint_last_active_ts").Overflows ∧ True := by
  apply succeeds_convert
  intro override read
  have held : override.isSome = (data.get "override").isNumber := Json.asFloat_isSome read
  rw [holdsIn, ← held]
  apply succeeds_convertIf
  intro setWall
  apply succeeds_convertIf
  intro requested
  apply succeeds_convertIf
  intro expiresAt
  apply succeeds_convert
  intro boost _
  apply succeeds_convert
  intro rejected _
  apply succeeds_convert
  intro cloRejected _
  apply succeeds_convert
  intro season _
  exact iff_true_intro (succeeds_pure _)

theorem decodeAdoptionBaselines_succeeds (data : JsonObject) :
    Succeeds (decodeAdoptionBaselines data) ↔
      ¬ (data.get "last_written_sp").Overflows ∧ ¬ (data.get "prev_device_sp").Overflows ∧
        True := by
  apply succeeds_convert
  intro written _
  apply succeeds_convert
  intro previous _
  exact iff_true_intro (succeeds_pure _)

/-- Keys whose number is converted whenever it is there. -/
def alwaysConverted : List String :=
  ["cal_baseline", "override", "boost_expires_at", "suggestion_rejected_at",
    "clo_suggestion_rejected_at", "season_hint_last_active_ts", "last_written_sp",
    "prev_device_sp"]

/-- No cheap section meets an integer that no double can hold. -/
structure Convertible (data : JsonObject) : Prop where
  always : ∀ key ∈ alwaysConverted, ¬ (data.get key).Overflows
  held : holdsIn data = true → ∀ key ∈ ["override_set_wall", "override_expires_at"],
    ¬ (data.get key).Overflows
  requested : (data.get "override").isNumber = true → ¬ (data.get "override_requested").Overflows

theorem sections_succeed (data : JsonObject) :
    (Succeeds (decodeUserState data) ∧ Succeeds (decodeOverrideLifecycle data) ∧
      Succeeds (decodeAdoptionBaselines data)) ↔ Convertible data := by
  rw [decodeUserState_succeeds, decodeOverrideLifecycle_succeeds, decodeAdoptionBaselines_succeeds]
  constructor
  · intro ⟨⟨baseline, _⟩, ⟨override, setWall, requested, expires, boost, rejected, clo, season, _⟩,
      written, previous, _⟩
    constructor
    · simp only [alwaysConverted, List.forall_mem_cons, List.not_mem_nil, false_implies,
        implies_true, and_true]
      exact ⟨baseline, override, boost, rejected, clo, season, written, previous⟩
    · intro hold
      simp only [List.forall_mem_cons, List.not_mem_nil, false_implies, implies_true, and_true]
      exact ⟨setWall hold, expires hold⟩
    · exact requested
  · intro ⟨always, held, requested⟩
    have unheld := fun key member hold => held hold key member
    exact ⟨⟨always _ (by decide), trivial⟩,
      ⟨always _ (by decide), unheld _ (by decide), requested, unheld _ (by decide),
        always _ (by decide), always _ (by decide), always _ (by decide), always _ (by decide),
        trivial⟩,
      always _ (by decide), always _ (by decide), trivial⟩

/-! ### The tail -/

/-- The tail is cut at its first throw: what came before is kept as it parsed, and
nothing from the throwing key on is. -/
def CutAtFirstThrow (codec : ModelCodec M) (nowWall : ℚ) (data : JsonObject)
    (keys : List TailKey) (tail : DecodedTail M) : Option PyException → Prop
  | none => ∀ k ∈ keys, k.parse codec nowWall data = .ok (tail k)
  | some e => ∃ before k after, keys = before ++ k :: after ∧
      (∀ earlier ∈ before, earlier.parse codec nowWall data = .ok (tail earlier)) ∧
      k.parse codec nowWall data = .error e ∧ ∀ later ∈ k :: after, tail later = none

theorem CutAtFirstThrow.cons {codec : ModelCodec M} {nowWall : ℚ} {data : JsonObject} {k : TailKey}
    {keys : List TailKey} {tail : DecodedTail M} {error : Option PyException}
    (parsed : k.parse codec nowWall data = .ok (tail k))
    (cut : CutAtFirstThrow codec nowWall data keys tail error) :
    CutAtFirstThrow codec nowWall data (k :: keys) tail error := by
  cases error with
  | none => exact List.forall_mem_cons.mpr ⟨parsed, cut⟩
  | some e =>
    obtain ⟨before, thrower, after, rfl, kept, throws, lost⟩ := cut
    exact ⟨k :: before, thrower, after, rfl, List.forall_mem_cons.mpr ⟨parsed, kept⟩, throws, lost⟩

/-- The loop leaves alone every key it does not visit. -/
theorem parseTail_frame {codec : ModelCodec M} {nowWall : ℚ} {data : JsonObject}
    {keys : List TailKey} {tail : DecodedTail M} {k : TailKey} (absent : k ∉ keys) :
    (parseTail codec nowWall data keys tail).1 k = tail k := by
  induction keys generalizing tail with
  | nil => rfl
  | cons head keys ih =>
    rw [List.mem_cons, not_or] at absent
    obtain ⟨other, rest⟩ := absent
    simp only [parseTail]
    split
    · rfl
    · exact ih rest
    · rw [ih rest, if_neg other]

theorem parseTail_cut (codec : ModelCodec M) (nowWall : ℚ) (data : JsonObject)
    {keys : List TailKey} {tail : DecodedTail M} (distinct : keys.Nodup)
    (untouched : ∀ k ∈ keys, tail k = none) :
    CutAtFirstThrow codec nowWall data keys (parseTail codec nowWall data keys tail).1
      (parseTail codec nowWall data keys tail).2 := by
  induction keys generalizing tail with
  | nil => exact fun k member => by cases member
  | cons k keys ih =>
    obtain ⟨absent, distinct⟩ := List.nodup_cons.mp distinct
    obtain ⟨unset, untouched⟩ := List.forall_mem_cons.mp untouched
    simp only [parseTail]
    cases parsed : k.parse codec nowWall data with
    | error e =>
      exact ⟨[], k, keys, rfl, by simp, parsed, List.forall_mem_cons.mpr ⟨unset, untouched⟩⟩
    | ok value =>
      cases value with
      | none =>
        apply (ih distinct untouched).cons
        rw [parseTail_frame absent, unset, parsed]
      | some value =>
        have later : ∀ other ∈ keys, (if other = k then some value else tail other) = none := by
          intro other member
          have apart : other ≠ k := fun same => absent (same ▸ member)
          rw [if_neg apart, untouched other member]
        apply (ih distinct later).cons
        rw [parseTail_frame absent, if_pos rfl, parsed]

theorem TailKey.parse_agree {codec : ModelCodec M} {nowWall : ℚ} {data other : JsonObject}
    {k : TailKey} (agree : data.lookup k.key = other.lookup k.key) :
    k.parse codec nowWall data = k.parse codec nowWall other := by
  have same : data.get k.key = other.get k.key := by
    simp only [JsonObject.get, JsonObject.getD, agree]
  simp only [TailKey.parse, same]

theorem parseTail_agree {codec : ModelCodec M} {nowWall : ℚ} {data other : JsonObject}
    {keys : List TailKey} {tail : DecodedTail M}
    (agree : ∀ k ∈ keys, data.lookup k.key = other.lookup k.key) :
    parseTail codec nowWall data keys tail = parseTail codec nowWall other keys tail := by
  induction keys generalizing tail with
  | nil => rfl
  | cons k keys ih =>
    obtain ⟨here, later⟩ := List.forall_mem_cons.mp agree
    simp only [parseTail, TailKey.parse_agree here, ih later]

/-! ### The whole payload -/

/-- What a decoded store owes its payload: every section is the function of its own
keys, which are no tail keys, and the tail is cut at its first throw. -/
structure Faithful (codec : ModelCodec M) (nowWall : ℚ) (data : JsonObject)
    (decoded : DecodedPersistence M) : Prop where
  userState : ∀ other, AgreeOn userStateKeys data other →
    decodeUserState other = .ok decoded.userState
  overrideLifecycle : ∀ other, AgreeOn overrideLifecycleKeys data other →
    decodeOverrideLifecycle other = .ok decoded.overrideLifecycle
  adoptionBaselines : ∀ other, AgreeOn adoptionBaselinesKeys data other →
    decodeAdoptionBaselines other = .ok decoded.adoptionBaselines
  isolated : ∀ key ∈ userStateKeys ++ overrideLifecycleKeys ++ adoptionBaselinesKeys,
    key ∉ tailKeys
  cut : CutAtFirstThrow codec nowWall data tailOrder decoded.tail decoded.modelError

/-- Decoding returns, and what it returns is faithful to the payload. -/
def DecodesTotally (codec : ModelCodec M) (nowWall : ℚ) (data : JsonObject) : Prop :=
  ∃ result, decode codec nowWall (.dict data) = .ok result ∧
    ∀ decoded, result = .v1 decoded → Faithful codec nowWall data decoded

theorem decode_v1 {codec : ModelCodec M} {nowWall : ℚ} {data : JsonObject}
    {decoded : DecodedPersistence M}
    (result : decode codec nowWall (.dict data) = .ok (.v1 decoded)) :
    decodeUserState data = .ok decoded.userState ∧
      decodeOverrideLifecycle data = .ok decoded.overrideLifecycle ∧
      decodeAdoptionBaselines data = .ok decoded.adoptionBaselines ∧
      decodeModels codec nowWall data = (decoded.tail, decoded.modelError) := by
  simp only [decode] at result
  split at result
  · cases user : decodeUserState data with
    | error e => simp [user, bind, Except.bind] at result
    | ok user' =>
      cases hold : decodeOverrideLifecycle data with
      | error e => simp [user, hold, bind, Except.bind] at result
      | ok hold' =>
        cases base : decodeAdoptionBaselines data with
        | error e => simp [user, hold, base, bind, Except.bind] at result
        | ok base' =>
          simp only [user, hold, base, bind, Except.bind, pure, Except.pure, Except.ok.injEq,
            Decoded.v1.injEq] at result
          subst result
          exact ⟨rfl, rfl, rfl, rfl⟩
  · simp at result

theorem decode_returns (codec : ModelCodec M) (nowWall : ℚ) (data : JsonObject) :
    Succeeds (decode codec nowWall (.dict data)) ↔
      ((data.lookup "ekf").isSome = true → Convertible data) := by
  simp only [decode]
  split
  next v1 =>
    rw [← sections_succeed]
    simp only [succeeds_bind]
    simp [v1, Succeeds, pure, Except.pure]
  next legacy => simp [legacy, Succeeds]

theorem decode_faithful {codec : ModelCodec M} {nowWall : ℚ} {data : JsonObject}
    {decoded : DecodedPersistence M}
    (result : decode codec nowWall (.dict data) = .ok (.v1 decoded)) :
    Faithful codec nowWall data decoded := by
  obtain ⟨user, hold, base, tail⟩ := decode_v1 result
  constructor
  · intro other agree
    rw [← decodeUserState_agree agree, user]
  · intro other agree
    rw [← decodeOverrideLifecycle_agree agree, hold]
  · intro other agree
    rw [← decodeAdoptionBaselines_agree agree, base]
  · decide
  · have distinct : tailOrder.Nodup := by decide
    have cut := parseTail_cut codec nowWall data distinct fun _ _ => rfl
    rw [← decodeModels, tail] at cut
    exact cut

/-- Decoding is total and isolated exactly where no section meets an integer beyond
the doubles. -/
theorem decode_total_iff (codec : ModelCodec M) (nowWall : ℚ) (data : JsonObject) :
    DecodesTotally codec nowWall data ↔
      ((data.lookup "ekf").isSome = true → Convertible data) := by
  rw [← decode_returns codec nowWall data]
  constructor
  · intro ⟨result, returned, _⟩
    exact ⟨result, returned⟩
  · intro ⟨result, returned⟩
    refine ⟨result, returned, fun decoded same => ?_⟩
    subst same
    exact decode_faithful returned

/-- Every model is the unit and parses. -/
def unitCodec : ModelCodec Unit where
  toDict _ _ := .null
  fromDict _ _ _ := .ok ()

/-- A stored setpoint of four hundred digits. -/
def oversizedStore : JsonObject :=
  [("ekf", .dict []), ("enabled", .bool false), ("override", .int (10 ^ 400))]

theorem decode_oversized_raises :
    Succeeds (decodeUserState oversizedStore) ∧ ¬ DecodesTotally unitCodec 0 oversizedStore := by
  constructor
  · exact ⟨_, rfl⟩
  · intro ⟨result, returned, _⟩
    have convertible := (decode_returns _ _ _).mp ⟨result, returned⟩ rfl
    exact convertible.always "override" (by decide) (by decide +kernel)

end Poise
