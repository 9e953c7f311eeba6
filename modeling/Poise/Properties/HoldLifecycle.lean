import Poise.Control.OverrideRuntime

/-!
# The hold lifecycle

Setpoint and mode hold share one lifecycle. Its fields are set only under a hold,
every hold has an origin and, unless it is permanent, an announced expiry, and the
end of a hold is reported once. The one silent end is a rejected setpoint: a value
that is not finite clears a setpoint hold without the event of an explicit clear.
-/
namespace Poise

open Trace

/-- The invariant of the hold fields under one configured policy. -/
structure HoldLifecycle (policy : HoldPolicy) (user : UserControlState) : Prop where
  gated : ¬ HoldActive user →
    user.overrideSetWall = none ∧ user.overrideExpiresAt = none ∧
      user.overrideRequested = none ∧ user.overrideReason = none ∧
      user.overrideExpiryIsSwitchpoint = false
  origin : user.overrideReason.isSome = true ↔ HoldActive user
  announced : policy ≠ .permanent → HoldActive user → user.overrideExpiresAt.isSome = true

theorem resolveHoldExpiry_isSome {ctx : HoldContext} (timed : ctx.policy ≠ .permanent) :
    (resolveHoldExpiry ctx).isSome = true := by
  unfold resolveHoldExpiry
  cases policy : ctx.policy with
  | permanent => exact absurd policy timed
  | schedule => rfl
  | timer => rfl

theorem holdLifecycle_inactive {policy : HoldPolicy} {user : UserControlState}
    (inactive : ¬ HoldActive user)
    (cleared : user.overrideSetWall = none ∧ user.overrideExpiresAt = none ∧
      user.overrideRequested = none ∧ user.overrideReason = none ∧
      user.overrideExpiryIsSwitchpoint = false) : HoldLifecycle policy user where
  gated _ := cleared
  origin := by simp [cleared.2.2.2.1, inactive]
  announced _ active := absurd active inactive

theorem holdLifecycle_active {policy : HoldPolicy} {user : UserControlState}
    (active : HoldActive user) (origin : user.overrideReason.isSome = true)
    (announced : policy ≠ .permanent → user.overrideExpiresAt.isSome = true) :
    HoldLifecycle policy user where
  gated inactive := absurd active inactive
  origin := by simp [origin, active]
  announced timed _ := announced timed

/-! ### One command -/

theorem endHold_inactive (user : UserControlState) (reason : String) :
    ¬ HoldActive (endHold user reason).1 := by
  simp [endHold, HoldActive]

theorem HoldLifecycle.endHold (policy : HoldPolicy) (user : UserControlState)
    (reason : String) : HoldLifecycle policy (Poise.endHold user reason).1 :=
  holdLifecycle_inactive (endHold_inactive user reason) (by simp [Poise.endHold])

theorem HoldLifecycle.setOverride {user : UserControlState} {ctx : HoldContext}
    (lifecycle : HoldLifecycle ctx.policy user) (value : Option PyFloat)
    (reason : Option String) :
    HoldLifecycle ctx.policy (Poise.setOverride user value reason ctx).1 := by
  unfold Poise.setOverride
  split
  · apply holdLifecycle_active
    · simp [HoldActive, announceHoldExpiry]
    · rfl
    · exact resolveHoldExpiry_isSome
  · split
    · next pinned =>
      -- the surviving mode hold keeps origin and expiry
      have active : HoldActive user := .inr pinned
      exact holdLifecycle_active (.inr pinned) (lifecycle.origin.mpr active)
        fun timed => lifecycle.announced timed active
    · next free =>
      apply holdLifecycle_inactive
      · simpa [HoldActive] using free
      · simp

theorem HoldLifecycle.setModeOverride {user : UserControlState} {ctx : HoldContext}
    (lifecycle : HoldLifecycle ctx.policy user) (mode : String) :
    HoldLifecycle ctx.policy (Poise.setModeOverride user (some mode) ctx) := by
  simp only [Poise.setModeOverride]
  split
  · next running =>
    -- a running lifecycle has a hold, and that hold its announced expiry
    have active : HoldActive user := by
      by_contra inactive
      simp [(lifecycle.gated inactive).1] at running
    exact holdLifecycle_active (by simp [HoldActive]) rfl
      fun timed => lifecycle.announced timed active
  · apply holdLifecycle_active
    · simp [HoldActive, announceHoldExpiry]
    · rfl
    · exact resolveHoldExpiry_isSome

-- Presets and Boost leave the hold alone.
theorem expireBoost_hold (user : TimedUserState) (tick : ExpiryTick) :
    (expireBoost user tick).toUserControlState = user.toUserControlState := by
  unfold expireBoost
  split
  · unfold setPreset
    split <;> rfl
  · rfl

/-- A tick either ends an active hold with one event or leaves the hold as it was. -/
theorem expireTimedStates_cases (state : HoldState) (tick : ExpiryTick) :
    (∃ reason, HoldActive state.user.toUserControlState ∧
      (expireTimedStates state tick).1.user.toUserControlState =
        (endHold state.user.toUserControlState reason).1 ∧
      (expireTimedStates state tick).2 = [⟨reason⟩]) ∨
    (expireTimedStates state tick).1.user.toUserControlState = state.user.toUserControlState ∧
      (expireTimedStates state tick).2 = [] := by
  simp only [expireTimedStates, expireBoost_hold]
  split
  · next ends => exact .inl ⟨_, ends.1, rfl, rfl⟩
  · exact .inr ⟨expireBoost_hold _ _, rfl⟩

/-- What the two setters and the end of a hold keep, every call keeps. -/
theorem holdStep_keeps {policy : HoldPolicy} (P : UserControlState → Prop) (state : HoldState)
    (call : HoldCall) (here : P state.user.toUserControlState)
    (sets : ∀ value reason (times : HoldTimes),
      P (setOverride state.user.toUserControlState value reason (times.context policy)).1)
    (setsMode : ∀ mode (times : HoldTimes),
      P (setModeOverride state.user.toUserControlState (some mode) (times.context policy)))
    (ends : ∀ reason, P (endHold state.user.toUserControlState reason).1) :
    P (holdStep policy state call).1.user.toUserControlState := by
  cases call with
  | setOverride value reason times => exact sets value reason times
  | setModeOverride mode times => exact setsMode mode times
  | endHold reason => exact ends reason
  | expireTimedStates tick =>
    cases expireTimedStates_cases state tick with
    | inl ended =>
      obtain ⟨reason, _, cleared, _⟩ := ended
      simp only [holdStep, cleared]
      exact ends reason
    | inr kept =>
      simp only [holdStep, kept.1]
      exact here

theorem holdLifecycle_step {policy : HoldPolicy} (state : HoldState) (call : HoldCall)
    (lifecycle : HoldLifecycle policy state.user.toUserControlState) :
    HoldLifecycle policy (holdStep policy state call).1.user.toUserControlState := by
  apply holdStep_keeps (HoldLifecycle policy) state call lifecycle
  · intro value reason times
    exact @HoldLifecycle.setOverride _ (times.context policy) lifecycle value reason
  · intro mode times
    exact @HoldLifecycle.setModeOverride _ (times.context policy) lifecycle mode
  · exact HoldLifecycle.endHold policy _

/-! ### Runs -/

abbrev HoldMoment := Step HoldState HoldCall (List OverrideEnded)

def holdRun (policy : HoldPolicy) (calls : List HoldCall) : List HoldMoment :=
  trace (holdStep policy) {} calls

def HoldEnds (e : HoldMoment) : Prop :=
  HoldActive e.pre.user.toUserControlState ∧ ¬ HoldActive e.post.user.toUserControlState

instance (e : HoldMoment) : Decidable (HoldEnds e) := by
  unfold HoldEnds
  infer_instance

/-- The end of a hold is reported once, and nothing else is. -/
def ReportedOnce (e : HoldMoment) : Prop :=
  (HoldEnds e → ∃ ended, e.output = [ended]) ∧ (¬ HoldEnds e → e.output = [])

/-- `end_hold` is called only while a hold is active. -/
def Permitted (e : HoldMoment) : Prop :=
  ∀ reason, e.input = .endHold reason → HoldActive e.pre.user.toUserControlState

/-- A setpoint that is not finite, on a setpoint hold without a mode hold. -/
def SilentClear (e : HoldMoment) : Prop :=
  ∃ value reason times, e.input = .setOverride (some value) reason times ∧
    (∀ finite, value ≠ .finite finite) ∧
    e.pre.user.override.isSome = true ∧ e.pre.user.modeOverride = none

theorem reportedOnce_endHold {user : UserControlState} {reason : String} {e : HoldMoment}
    (active : HoldActive e.pre.user.toUserControlState)
    (post : e.post.user.toUserControlState = (endHold user reason).1)
    (output : e.output = [⟨reason⟩]) : ReportedOnce e := by
  refine ⟨fun _ => ⟨_, output⟩, fun survives => ?_⟩
  exact absurd ⟨active, post ▸ endHold_inactive user reason⟩ survives

-- An operation that ends no hold and reports nothing.
theorem reportedOnce_silent {e : HoldMoment} (survives : ¬ HoldEnds e) (output : e.output = []) :
    ReportedOnce e :=
  ⟨fun ends => absurd ends survives, fun _ => output⟩

-- A value that is set makes the hold active and reports nothing.
theorem setOverride_finite (user : UserControlState) (value : ℚ) (reason : Option String)
    (ctx : HoldContext) :
    HoldActive (setOverride user (some (.finite value)) reason ctx).1 ∧
      (setOverride user (some (.finite value)) reason ctx).2 = [] := by
  simp [setOverride, sanitizeOverride, HoldActive, announceHoldExpiry]

-- A value that clears leaves exactly the mode hold; only an explicit clear of the
-- last setpoint hold is reported.
theorem setOverride_clear (user : UserControlState) {value : Option PyFloat}
    (reason : Option String) (ctx : HoldContext) (clears : ∀ finite, value ≠ some (.finite finite)) :
    (HoldActive (setOverride user value reason ctx).1 ↔ user.modeOverride.isSome = true) ∧
      (setOverride user value reason ctx).2 =
        if user.modeOverride.isNone && value.isNone && user.override.isSome then
          [⟨reasonOr reason "user_resume"⟩]
        else [] := by
  have rejected : sanitizeOverride value frostFloorC deviceMaxC = none := by
    unfold sanitizeOverride
    split
    · next finite => exact absurd rfl (clears finite)
    · rfl
  unfold setOverride
  cases pinned : user.modeOverride <;> simp [rejected, HoldActive]

theorem setOverride_reported {policy : HoldPolicy} (state : HoldState) (value : Option PyFloat)
    (reason : Option String) (times : HoldTimes) (e : HoldMoment)
    (step : e = Step.of (holdStep policy) state (.setOverride value reason times)) :
    (SilentClear e → e.output = []) ∧ (¬ SilentClear e → ReportedOnce e) := by
  subst step
  by_cases finite : ∃ v, value = some (.finite v)
  · obtain ⟨v, rfl⟩ := finite
    obtain ⟨active, output⟩ :=
      setOverride_finite state.user.toUserControlState v reason (times.context policy)
    exact ⟨fun _ => output, fun _ => reportedOnce_silent (fun ends => ends.2 active) output⟩
  · have clears : ∀ v, value ≠ some (.finite v) := fun v same => finite ⟨v, same⟩
    obtain ⟨survives, reported⟩ :=
      setOverride_clear state.user.toUserControlState reason (times.context policy) clears
    have output : (Step.of (holdStep policy) state (.setOverride value reason times)).output = _ :=
      reported
    constructor
    · rintro ⟨given, _, _, input, _⟩
      cases input
      simpa using output
    · intro loud
      cases pinned : state.user.modeOverride with
      | some mode =>
        -- the mode hold keeps the lifecycle alive
        simp only [pinned, Option.isNone_some, Bool.false_and] at output
        exact reportedOnce_silent (fun ends => ends.2 (survives.mpr (by simp [pinned]))) output
      | none =>
        have cleared : ¬ HoldActive (setOverride state.user.toUserControlState value reason
            (times.context policy)).1 := by
          rw [survives]
          simp [pinned]
        cases held : state.user.override with
        | none =>
          have idle : ¬ HoldActive state.user.toUserControlState := by
            simp [HoldActive, held, pinned]
          simp only [held, Option.isSome_none, Bool.and_false] at output
          exact reportedOnce_silent (fun ends => idle ends.1) output
        | some kept =>
          cases value with
          | none =>
            simp only [pinned, held, Option.isNone_none, Option.isSome_some, Bool.and_self] at output
            have ends : HoldEnds (Step.of (holdStep policy) state (.setOverride none reason times)) :=
              ⟨.inl (by simp [held]), cleared⟩
            exact ⟨fun _ => ⟨_, output⟩, fun survives => absurd ends survives⟩
          | some given =>
            have silent : SilentClear
                (Step.of (holdStep policy) state (.setOverride (some given) reason times)) := by
              refine ⟨given, reason, times, rfl, fun v same => clears v (by rw [same]), ?_, pinned⟩
              simp [held]
            exact absurd silent loud

theorem setModeOverride_active (user : UserControlState) (mode : String) (ctx : HoldContext) :
    HoldActive (setModeOverride user (some mode) ctx) := by
  simp only [setModeOverride]
  split <;> simp [HoldActive, announceHoldExpiry]

theorem holdStep_reported {policy : HoldPolicy} (state : HoldState) (call : HoldCall)
    (e : HoldMoment) (step : e = Step.of (holdStep policy) state call) (permitted : Permitted e) :
    (SilentClear e → e.output = []) ∧ (¬ SilentClear e → ReportedOnce e) := by
  cases call with
  | setOverride value reason times => exact setOverride_reported state value reason times e step
  | setModeOverride mode times =>
    subst step
    have active := setModeOverride_active state.user.toUserControlState mode (times.context policy)
    exact ⟨fun _ => rfl, fun _ => reportedOnce_silent (fun ends => ends.2 active) rfl⟩
  | endHold reason =>
    subst step
    refine ⟨?_, fun _ => reportedOnce_endHold (permitted reason rfl) rfl rfl⟩
    rintro ⟨_, _, _, input, _⟩
    cases input
  | expireTimedStates tick =>
    subst step
    constructor
    · rintro ⟨_, _, _, input, _⟩
      cases input
    · intro _
      cases expireTimedStates_cases state tick with
      | inl ended =>
        obtain ⟨reason, active, cleared, output⟩ := ended
        exact reportedOnce_endHold active cleared output
      | inr kept =>
        apply reportedOnce_silent
        · intro ends
          have post : (Step.of (holdStep policy) state
              (.expireTimedStates tick)).post.user.toUserControlState =
              state.user.toUserControlState := kept.1
          exact ends.2 (post ▸ ends.1)
        · exact kept.2

/-- In every run under one policy the hold fields keep their invariant, and every
end of a hold but the silent one is reported exactly once. -/
theorem hold_lifecycle (policy : HoldPolicy) (calls : List HoldCall) :
    ∀ e ∈ holdRun policy calls,
      (HoldLifecycle policy e.pre.user.toUserControlState ∧
        HoldLifecycle policy e.post.user.toUserControlState) ∧
      (Permitted e →
        (SilentClear e → e.output = []) ∧ (¬ SilentClear e → ReportedOnce e)) := by
  intro e member
  constructor
  · refine Trace.invariant_of_mem (holdStep policy)
      (fun state => HoldLifecycle policy state.user.toUserControlState) ?_
      (fun state call lifecycle => holdLifecycle_step state call lifecycle) member
    exact holdLifecycle_inactive (by simp [HoldActive]) (by simp)
  · exact holdStep_reported e.pre e.input e (Trace.step_of_mem _ member)

def twoHours : HoldTimes := ⟨2, 8, 0, none⟩

def holdAt24 : HoldCall := .setOverride (some (.finite 24)) none twoHours

def holdAtNan : HoldCall := .setOverride (some .nan) none twoHours

theorem hold_lifecycle_explicit_clear :
    ReportedOnce (Step.of (holdStep .timer) (final (holdStep .timer) {} [holdAt24])
      (.setOverride none none twoHours)) := by
  have law := (hold_lifecycle .timer ([holdAt24] ++ [.setOverride none none twoHours]) _
    (last_mem_trace (holdStep .timer) {} [holdAt24] _)).2 (by simp [Permitted])
  exact law.2 (by simp [SilentClear])

/-- A user's hold at 24 degrees, cleared by a setpoint that is no number. -/
theorem silent_end :
    ¬ ∀ policy calls, ∀ e ∈ holdRun policy calls, Permitted e → ReportedOnce e := by
  intro law
  have reported := law .timer ([holdAt24] ++ [holdAtNan]) _
    (last_mem_trace (holdStep .timer) {} [holdAt24] holdAtNan) (by simp [Permitted, holdAtNan])
  obtain ⟨ended, output⟩ := reported.1 (by decide +kernel)
  have silent : (Step.of (holdStep .timer) (final (holdStep .timer) {} [holdAt24])
      holdAtNan).output = [] := by decide +kernel
  rw [silent] at output
  cases output

end Poise
