import Poise.Control.AdoptionChannels
import Poise.Foundation.Trace

/-!
# Phantom mode holds

When a run of the mode channel adopts the mode of a device that never left it.
The guard reference is overwritten by every reading outside the echo window, a
missing or unusable one included; a device that comes back after such a reading
looks like a device that moved.
-/
namespace Poise

open Trace

abbrev ModeMoment := Step ZoneRuntime ModeEvent (Option String)

def ModeEvent.deviceMode : ModeEvent → Option String
  | .observe o => o.deviceMode
  | .nudge _ => none

/-- Every usable reading is the one mode `m`. -/
def StaticMode (m : String) (event : ModeEvent) : Prop :=
  ∀ mode, event.deviceMode = some mode → usableMode (some mode) → mode = m

instance (m : String) (event : ModeEvent) : Decidable (StaticMode m event) := by
  unfold StaticMode
  infer_instance

/-- The mode is back, the gates open and the echo window over, while the guard
reference holds no usable mode. -/
def forgottenModeReturn (m : String) (e : ModeMoment) : Bool :=
  match e.input with
  | .nudge _ => false
  | .observe o =>
    o.gates.letMode && o.deviceMode = some m && usableMode (some m) && m ≠ o.desiredMode &&
      m ∈ o.supportedModes && m ≠ "heat_cool" &&
      (e.pre.external.lastCommandedHvac.any fun commanded => m ≠ commanded) &&
      (e.pre.external.lastHvacCmdTs.any fun commandedAt =>
        setpointAdoptEchoWindowS ≤ o.now - commandedAt) &&
      ! usableMode e.pre.external.prevDeviceMode

def ReferenceIs (m : String) (rt : ZoneRuntime) : Prop :=
  -- The guard reference is the device's one mode, or not usable.
  ∀ prev, rt.external.prevDeviceMode = some prev → usableMode (some prev) → prev = m

theorem ReferenceIs.adopts_iff {m : String} {rt : ZoneRuntime} {event : ModeEvent}
    (reference : ReferenceIs m rt) (static : StaticMode m event) :
    (modeStep rt event).2 ≠ none ↔ forgottenModeReturn m (Step.of modeStep rt event) = true := by
  cases event with
  | nudge w => simp [modeStep, forgottenModeReturn]
  | observe o =>
    simp only [Option.ne_none_iff_exists', mode_adopts, forgottenModeReturn, Step.of_input,
      Step.of_pre, Bool.and_eq_true, decide_eq_true_eq, Bool.not_eq_true', Option.any_eq_true]
    constructor
    · rintro ⟨mode, reads, opened, usable, other, offered, single,
        ⟨commanded, commandedAt, command, foreign, stamp, elapsed⟩, moved⟩
      obtain rfl : mode = m := static mode reads usable
      refine ⟨⟨⟨⟨⟨⟨⟨⟨opened, reads⟩, usable⟩, other⟩, offered⟩, single⟩,
        commanded, command, foreign⟩, commandedAt, stamp, elapsed⟩, ?_⟩
      -- a usable reference would be the very mode the device reports
      cases known : rt.external.prevDeviceMode with
      | none => rfl
      | some prev =>
        by_contra remembered
        have same := reference prev known (by simpa using remembered)
        exact moved (same ▸ known)
    · rintro ⟨⟨⟨⟨⟨⟨⟨⟨opened, reads⟩, usable⟩, other⟩, offered⟩, single⟩,
        commanded, command, foreign⟩, commandedAt, stamp, elapsed⟩, forgotten⟩
      refine ⟨m, reads, opened, usable, other, offered, single,
        ⟨commanded, commandedAt, command, foreign, stamp, elapsed⟩, ?_⟩
      intro known
      rw [known, usable] at forgotten
      exact absurd forgotten (by decide)

theorem ReferenceIs.step {m : String} {rt : ZoneRuntime} {event : ModeEvent}
    (reference : ReferenceIs m rt) (static : StaticMode m event) :
    ReferenceIs m (modeStep rt event).1 := by
  intro prev known
  cases event with
  | nudge w => exact reference prev ((mode_nudge_reference rt w).symm.trans known)
  | observe o =>
    cases mode_observe_reference rt o with
    | inl moved => exact static prev (moved.symm.trans known)
    | inr kept => exact reference prev (kept.symm.trans known)

/-- A device that keeps its mode is never adopted in a run exactly when no forgotten
return happens in it. -/
theorem static_mode_unadopted_iff (m : String) (events : List ModeEvent)
    (static : ∀ event ∈ events, StaticMode m event) :
    (∀ e ∈ trace modeStep {} events, e.output = none) ↔
      ∀ e ∈ trace modeStep {} events, forgottenModeReturn m e = false := by
  apply forall_trace_iff modeStep (ReferenceIs m) (StaticMode m)
  · intro prev known
    simp at known
  · exact static
  · intro rt event reference still
    have adopts := reference.adopts_iff still
    rw [Step.of_output, ← not_iff_not, ← ne_eq, adopts, Bool.not_eq_false]
  · intro rt event reference still _
    exact reference.step still

def valveMode (now : ℚ) (mode : Option String) : ModeEvent :=
  .observe {
    now
    deviceMode := mode
    desiredMode := "heat"
    supportedModes := ["off", "heat", "auto"]
    gates := { adoptEnabled := true, ownChange := false, windowOpen := false, frozen := false } }

def nudgeToHeat : ModeEvent :=
  .nudge { now := 0, mode := "heat", contextId := "nudge", sent := true }

/-- A valve that refuses `heat` stays unadopted while it can be read. -/
def refusedNudge : List ModeEvent :=
  [valveMode 0 (some "auto"), nudgeToHeat, valveMode 60 (some "auto"), valveMode 180 (some "auto"),
    valveMode 240 (some "auto")]

def refusedNudgeDropout : List ModeEvent :=
  [valveMode 0 (some "auto"), nudgeToHeat, valveMode 60 (some "auto"),
    valveMode 180 (some "unavailable"), valveMode 240 (some "auto")]

theorem static_mode_refused_nudge :
    (∀ e ∈ trace modeStep {} refusedNudge, forgottenModeReturn "auto" e = false) ∧
      ∀ e ∈ trace modeStep {} refusedNudge, e.output = none := by
  have known : ∀ e ∈ trace modeStep {} refusedNudge, forgottenModeReturn "auto" e = false := by
    decide +kernel
  exact ⟨known, (static_mode_unadopted_iff "auto" refusedNudge (by decide +kernel)).mpr known⟩

/-- A dropout outside the echo window wipes the guard reference, and the mode the
device never left is adopted as a hold. -/
theorem static_mode_adopted_after_dropout :
    ¬ ∀ (m : String) (events : List ModeEvent), (∀ event ∈ events, StaticMode m event) →
      ∀ e ∈ trace modeStep {} events, e.output = none := by
  intro claim
  have adopted : ¬ ∀ e ∈ trace modeStep {} refusedNudgeDropout, e.output = none := by
    decide +kernel
  exact adopted (claim "auto" refusedNudgeDropout (by decide +kernel))

end Poise
