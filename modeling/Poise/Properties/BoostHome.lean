import Poise.Control.OverrideRuntime

/-!
# Boost returns home

Runs that mix preset choices with every hold command and every tick: Boost is the
preset exactly while its timer is set, and its expiry restores what was active when it
was first pressed.
-/
namespace Poise

inductive PresetCall where
  | setPreset (mode : OverrideMode) (boostDurationMin now : ℚ)
  | hold (call : HoldCall)
  deriving DecidableEq, Repr

def presetStep (policy : HoldPolicy) (state : HoldState) :
    PresetCall → HoldState × List OverrideEnded
  | .setPreset mode boostDurationMin now =>
    ({ state with user := setPreset state.user mode boostDurationMin now }, [])
  | .hold call => holdStep policy state call

abbrev PresetTrace := Trace.Step HoldState PresetCall (List OverrideEnded)

def presetRun (policy : HoldPolicy) (calls : List PresetCall) : List PresetTrace :=
  Trace.trace (presetStep policy) {} calls

/-- Boost is pressed out of another preset. -/
def Activates (e : PresetTrace) : Prop :=
  e.pre.user.preset ≠ .boost ∧ e.post.user.preset = .boost

/-- A tick on which the Boost timer has run out. -/
def BoostExpires (e : PresetTrace) : Prop :=
  ∃ tick expires, e.input = .hold (.expireTimedStates tick) ∧
    e.pre.user.boostExpiresAt = some expires ∧ expires ≤ tick.now

def PresetCall.choosesPreset : PresetCall → Bool
  | .setPreset .. => true
  | .hold _ => false

structure BoostReturnsHome (run : List PresetTrace) : Prop where
  paired : ∀ e ∈ run, e.post.user.preset = .boost ↔ e.post.user.boostExpiresAt.isSome
  unstacked : ∀ e ∈ run, e.post.user.boostPrevPreset ≠ some .boost
  -- `f` is the first press of the Boost that runs out at `e`.
  restores : ∀ past e, past ++ [e] <+: run → BoostExpires e →
    ∃ before f after, past = before ++ f :: after ∧ Activates f ∧
      (∀ d ∈ after, d.post.user.preset = .boost) ∧
      e.post.user.preset = f.pre.user.preset ∧ e.post.user.boostExpiresAt = none
  cancels : ∀ before f between, before ++ f :: between <+: run →
    ∀ mode boostDurationMin now, f.input = .setPreset mode boostDurationMin now → mode ≠ .boost →
      (∀ d ∈ between, d.input.choosesPreset = false) →
      ∀ d ∈ f :: between, d.post.user.preset = mode ∧ d.post.user.boostExpiresAt = none ∧
        d.post.user.boostPrevPreset = none

/-! ### What a call does to the three fields -/

/-- The preset and the two fields of its Boost. -/
structure SamePreset (user user' : TimedUserState) : Prop where
  preset : user'.preset = user.preset
  expires : user'.boostExpiresAt = user.boostExpiresAt
  prev : user'.boostPrevPreset = user.boostPrevPreset

/-- The timer is set exactly in Boost, which remembers a preset other than itself. -/
structure BoostSound (user : TimedUserState) : Prop where
  paired : user.preset = .boost ↔ user.boostExpiresAt.isSome
  remembers : user.preset = .boost → ∃ home, home ≠ .boost ∧ user.boostPrevPreset = some home
  clear : user.preset ≠ .boost → user.boostPrevPreset = none

section Calls

variable {policy : HoldPolicy} {state : HoldState} {user : TimedUserState}

theorem setPreset_other {mode : OverrideMode} (other : mode ≠ .boost) (boostDurationMin now : ℚ) :
    setPreset user mode boostDurationMin now =
      { user with boostExpiresAt := none, boostPrevPreset := none, preset := mode } := by
  simp [setPreset, other]

theorem setPreset_boost (boostDurationMin now : ℚ) :
    setPreset user .boost boostDurationMin now =
      { user with
        boostPrevPreset := if user.preset = .boost then user.boostPrevPreset else some user.preset
        boostExpiresAt := some (resolveBoostExpiry now boostDurationMin)
        preset := .boost } := by
  simp [setPreset]

theorem expireTimedStates_preset (state : HoldState) (tick : ExpiryTick) :
    SamePreset (expireBoost state.user tick) (expireTimedStates state tick).1.user := by
  unfold expireTimedStates
  dsimp only
  split <;> exact ⟨rfl, rfl, rfl⟩

/-- A hold call leaves the preset alone, or is the tick on which Boost runs out. -/
theorem holdStep_preset (policy : HoldPolicy) (state : HoldState) (call : HoldCall) :
    SamePreset state.user (holdStep policy state call).1.user ∨
      ∃ tick expires, call = .expireTimedStates tick ∧
        state.user.boostExpiresAt = some expires ∧ expires ≤ tick.now := by
  cases call with
  | setOverride => exact .inl ⟨rfl, rfl, rfl⟩
  | setModeOverride => exact .inl ⟨rfl, rfl, rfl⟩
  | endHold => exact .inl ⟨rfl, rfl, rfl⟩
  | expireTimedStates tick =>
    have same : SamePreset _ (holdStep policy state (.expireTimedStates tick)).1.user :=
      expireTimedStates_preset state tick
    cases timer : state.user.boostExpiresAt with
    | none => exact .inl (by simpa [expireBoost, timer] using same)
    | some expires =>
      by_cases due : expires ≤ tick.now
      · exact .inr ⟨tick, expires, rfl, rfl, due⟩
      · exact .inl (by simpa [expireBoost, timer, due] using same)

theorem expireTimedStates_due {tick : ExpiryTick} {expires : ℚ} {home : OverrideMode}
    (timer : state.user.boostExpiresAt = some expires) (due : expires ≤ tick.now)
    (remembered : state.user.boostPrevPreset = some home) (other : home ≠ .boost) :
    (expireTimedStates state tick).1.user.preset = home ∧
      (expireTimedStates state tick).1.user.boostExpiresAt = none ∧
      (expireTimedStates state tick).1.user.boostPrevPreset = none := by
  have same := expireTimedStates_preset state tick
  have restored : expireBoost state.user tick =
      { state.user with boostExpiresAt := none, boostPrevPreset := none, preset := home } := by
    simp [expireBoost, timer, due, remembered, setPreset_other other]
  rw [restored] at same
  exact ⟨same.preset, same.expires, same.prev⟩

theorem boostSound_same {user' : TimedUserState} (sound : BoostSound user)
    (same : SamePreset user user') : BoostSound user' where
  paired := by
    rw [same.preset, same.expires]
    exact sound.paired
  remembers on := same.prev ▸ sound.remembers (same.preset ▸ on)
  clear off := same.prev ▸ sound.clear (same.preset ▸ off)

theorem boostSound_cleared {home : OverrideMode} (other : home ≠ .boost)
    (preset : user.preset = home) (expires : user.boostExpiresAt = none)
    (prev : user.boostPrevPreset = none) : BoostSound user where
  paired := by simp [preset, expires, other]
  remembers on := absurd (preset.symm.trans on) other
  clear _ := prev

theorem boostSound_setPreset (sound : BoostSound user) (mode : OverrideMode)
    (boostDurationMin now : ℚ) : BoostSound (setPreset user mode boostDurationMin now) := by
  by_cases boosts : mode = .boost
  · rw [boosts, setPreset_boost]
    refine ⟨by simp, fun _ => ?_, fun off => absurd rfl off⟩
    by_cases was : user.preset = .boost
    · simpa [was] using sound.remembers was
    · exact ⟨user.preset, was, by simp [was]⟩
  · rw [setPreset_other boosts]
    exact boostSound_cleared boosts rfl rfl rfl

theorem boostSound_step (state : HoldState) (call : PresetCall) (sound : BoostSound state.user) :
    BoostSound (presetStep policy state call).1.user := by
  cases call with
  | setPreset mode boostDurationMin now => exact boostSound_setPreset sound mode _ now
  | hold call =>
    rcases holdStep_preset policy state call with same | ⟨tick, expires,
      rfl, timer, due⟩
    · exact boostSound_same sound same
    · have on := sound.paired.mpr (by rw [timer]; rfl)
      obtain ⟨home, other, remembered⟩ := sound.remembers on
      obtain ⟨preset, cleared, prev⟩ := expireTimedStates_due timer due remembered other
      exact boostSound_cleared other preset cleared prev

end Calls

/-! ### The home of the running Boost -/

/-- The past activated the running Boost once, and the state remembers from where. -/
def BoostSince (past : List PresetTrace) (state : HoldState) : Prop :=
  state.user.preset = .boost → ∃ before f after, past = before ++ f :: after ∧ Activates f ∧
    (∀ d ∈ after, d.post.user.preset = .boost) ∧
    state.user.boostPrevPreset = some f.pre.user.preset

section Run

variable {policy : HoldPolicy} {calls : List PresetCall}

theorem boostSound_initial : BoostSound ({} : HoldState).user where
  paired := by simp
  remembers on := by cases on
  clear _ := rfl

theorem boostSound_at {e : PresetTrace} (member : e ∈ presetRun policy calls) :
    BoostSound e.pre.user ∧ BoostSound e.post.user :=
  Trace.invariant_of_mem (presetStep policy) (fun state => BoostSound state.user)
    boostSound_initial boostSound_step member

/-- While Boost stays the preset, what it remembers stays. -/
theorem presetStep_remembers {state : HoldState} {call : PresetCall}
    (was : state.user.preset = .boost) (sound : BoostSound state.user)
    (stays : (presetStep policy state call).1.user.preset = .boost) :
    (presetStep policy state call).1.user.boostPrevPreset = state.user.boostPrevPreset := by
  cases call with
  | setPreset mode boostDurationMin now =>
    have boosts : mode = .boost := by
      simp only [presetStep, setPreset] at stays
      split at stays
      next boosts => exact boosts
      next => exact stays
    simp [presetStep, boosts, setPreset_boost, was]
  | hold call =>
    rcases holdStep_preset policy state call with same | ⟨tick, expires,
      rfl, timer, due⟩
    · exact same.prev
    · obtain ⟨home, other, remembered⟩ := sound.remembers was
      have restored := (expireTimedStates_due timer due remembered other).1
      exact absurd (restored.symm.trans stays) other

/-- Pressing Boost freezes the preset it is pressed out of. -/
theorem presetStep_activates {state : HoldState} {call : PresetCall}
    (was : state.user.preset ≠ .boost) (sound : BoostSound state.user)
    (boosts : (presetStep policy state call).1.user.preset = .boost) :
    (presetStep policy state call).1.user.boostPrevPreset = some state.user.preset := by
  cases call with
  | setPreset mode boostDurationMin now =>
    have boost : mode = .boost := by
      simp only [presetStep, setPreset] at boosts
      split at boosts
      next boost => exact boost
      next => exact boosts
    simp [presetStep, boost, setPreset_boost, was]
  | hold call =>
    rcases holdStep_preset policy state call with same | ⟨tick, expires,
      rfl, timer, due⟩
    · exact absurd (same.preset.symm.trans boosts) was
    · exact absurd (sound.paired.mpr (by rw [timer]; rfl)) was

theorem boostSince_step (past : List PresetTrace) (state : HoldState) (call : PresetCall)
    (kept : BoostSound state.user ∧ BoostSince past state) :
    BoostSound (presetStep policy state call).1.user ∧
      BoostSince (past ++ [Trace.Step.of (presetStep policy) state call])
        (presetStep policy state call).1 := by
  obtain ⟨sound, since⟩ := kept
  refine ⟨boostSound_step state call sound, fun on => ?_⟩
  by_cases was : state.user.preset = .boost
  · obtain ⟨before, f, after, rfl, activates, held, remembered⟩ := since was
    refine ⟨before, f, after ++ [Trace.Step.of (presetStep policy) state call], by simp,
      activates, ?_, (presetStep_remembers was sound on).trans remembered⟩
    intro d member
    rw [List.mem_append, List.mem_singleton] at member
    cases member with
    | inl earlier => exact held d earlier
    | inr last => exact last ▸ on
  · exact ⟨past, Trace.Step.of (presetStep policy) state call, [], rfl, ⟨was, on⟩, by simp,
      presetStep_activates was sound on⟩

theorem boostSince_at {past : List PresetTrace} {e : PresetTrace}
    (moment : past ++ [e] <+: presetRun policy calls) : BoostSince past e.pre :=
  (Trace.history_of_moment (presetStep policy)
    (fun past state => BoostSound state.user ∧ BoostSince past state)
    ⟨boostSound_initial, fun on => by cases on⟩ boostSince_step moment).2

/-- Without a preset choice a preset other than Boost stays, its Boost fields empty. -/
theorem hold_keeps_preset (policy : HoldPolicy) {state : HoldState} {call : PresetCall}
    (unset : state.user.boostExpiresAt = none) (keeps : call.choosesPreset = false) :
    SamePreset state.user (presetStep policy state call).1.user := by
  cases call with
  | setPreset => cases keeps
  | hold call =>
    rcases holdStep_preset policy state call with same | ⟨tick, expires,
      rfl, timer, due⟩
    · exact same
    · rw [unset] at timer
      cases timer

theorem hold_run_keeps {state : HoldState} {mode : OverrideMode} {js : List PresetCall}
    (preset : state.user.preset = mode) (unset : state.user.boostExpiresAt = none)
    (prev : state.user.boostPrevPreset = none)
    (keeps : ∀ d ∈ Trace.trace (presetStep policy) state js, d.input.choosesPreset = false) :
    ∀ d ∈ Trace.trace (presetStep policy) state js, d.post.user.preset = mode ∧
      d.post.user.boostExpiresAt = none ∧ d.post.user.boostPrevPreset = none := by
  induction js generalizing state with
  | nil => simp [Trace.trace]
  | cons call js ih =>
    simp only [Trace.trace, List.mem_cons, forall_eq_or_imp] at keeps ⊢
    have same := hold_keeps_preset policy unset keeps.1
    have preset := same.preset.trans preset
    have unset := same.expires.trans unset
    have prev := same.prev.trans prev
    exact ⟨⟨preset, unset, prev⟩, ih preset unset prev keeps.2⟩

theorem boost_returns_home (policy : HoldPolicy) (calls : List PresetCall) :
    BoostReturnsHome (presetRun policy calls) where
  paired e member := (boostSound_at member).2.paired
  unstacked e member := by
    have sound := (boostSound_at member).2
    by_cases on : e.post.user.preset = .boost
    · obtain ⟨home, other, remembered⟩ := sound.remembers on
      simpa [remembered] using other
    · simp [sound.clear on]
  restores past e moment expires := by
    obtain ⟨tick, expires, input, timer, due⟩ := expires
    have member := Trace.mem_of_moment _ moment
    have sound := (boostSound_at member).1
    have on := sound.paired.mpr (by rw [timer]; rfl)
    obtain ⟨before, f, after, split, activates, held, remembered⟩ := boostSince_at moment on
    obtain ⟨preset, cleared, _⟩ := expireTimedStates_due timer due remembered activates.1
    refine ⟨before, f, after, split, activates, held, ?_⟩
    rw [Trace.step_of_mem _ member, input]
    exact ⟨preset, cleared⟩
  cancels before f between moment mode boostDurationMin now input other keeps := by
    obtain ⟨stepped, js, rfl⟩ := Trace.after_trace (presetStep policy) moment
    have chosen : f.post.user = { f.pre.user with
        boostExpiresAt := none, boostPrevPreset := none, preset := mode } := by
      rw [stepped, input]
      exact setPreset_other other boostDurationMin now
    have preset : f.post.user.preset = mode := by rw [chosen]
    have unset : f.post.user.boostExpiresAt = none := by rw [chosen]
    have prev : f.post.user.boostPrevPreset = none := by rw [chosen]
    intro d member
    rw [List.mem_cons] at member
    cases member with
    | inl here => exact here ▸ ⟨preset, unset, prev⟩
    | inr later => exact hold_run_keeps preset unset prev keeps d later

end Run

end Poise
