import Poise.Control.ModeNudge
import Poise.Properties.ConvergenceWatchdog
import Poise.Foundation.Trace

/-!
# The economy of the mode channel

A mode that the device does not take is commanded again, ten minutes after the last command
went out at the earliest, and another mode at once. The watchdog counts the ticks on which the
device still does not follow, sent or throttled, so the spacing hides no dead device.
-/
namespace Poise

open Trace

abbrev NudgeMoment := Step ModeChannel NudgeTick ModeNudgeResult

/-- The desired mode is the one last commanded. -/
def reNudges (e : NudgeMoment) : Bool :=
  e.pre.zone.external.lastCommandedHvac = some e.input.desired

/-- A nudge is due and unblocked, and does not go out. -/
def nudgeThrottled (e : NudgeMoment) : Bool := e.input.nudged && !e.output.modeNudge

def nudgeSucceeded (e : NudgeMoment) : Bool :=
  e.output.modeNudge && e.input.tick.nudgeDispatch.sent

def modeReading (e : NudgeMoment) : Reading := (e.input.sample e.pre.zone.external).reading

/-- An unblocked re-nudge is due, and the device's state is fresh. -/
def unheeded (e : NudgeMoment) : Bool :=
  e.input.nudged && reNudges e && (e.input.sample e.pre.zone.external).evidenceFresh

def unheededTimes (moments : List NudgeMoment) : List ℚ :=
  (moments.filter unheeded).map fun e => e.input.tick.now

/-- Over the stretch the device is told the same mode and does not follow: no fresh state shows
the desired mode, no other mode is commanded, and the unheeded ticks are many enough, long
enough ago, and no further apart than an episode lives. -/
structure Ignored (stretch : List NudgeMoment) (now : ℚ) : Prop where
  unfollowed : ∀ g ∈ stretch, modeReading g ≠ .ended
  gaps : (unheededTimes stretch).IsChain fun a b => b - a ≤ convEvidenceTtlS
  enough : convFailNudges ≤ (unheededTimes stretch).length
  old : ∀ first ∈ (unheededTimes stretch).head?, convFailMinS ≤ now - first

/-! ### One tick -/

theorem NudgeTick.nudged_iff (t : NudgeTick) :
    t.nudged = true ↔
      ¬ (¬ t.tick.nudgeNeeded t.desired ∨ (t.tick.nudgeBlocked t.desired).isSome) := by
  rw [NudgeTick.nudged]
  cases t.tick.nudgeNeeded t.desired <;> cases t.tick.nudgeBlocked t.desired <;> simp

/-- The mode in force, and when it was last commanded. -/
def ModeChannel.command (channel : ModeChannel) : Option String × Option ℚ :=
  (channel.zone.external.lastCommandedHvac, channel.zone.external.lastModeNudgeTs)

theorem commitModeNudge_command (external : ExternalOverrideRuntime) (x : EffectExecution)
    (now : ℚ) :
    let after := commitModeNudge external x now
    (after.lastCommandedHvac, after.lastModeNudgeTs) =
      if x.success then (x.commandedMode, some now)
      else (external.lastCommandedHvac, external.lastModeNudgeTs) := by
  obtain ⟨_, attempted, success, contextId, _, _, _, modeChanged, _⟩ := x
  simp only [commitModeNudge, ExternalOverrideRuntime.register]
  cases attempted <;> cases success <;> cases contextId <;> cases modeChanged <;> rfl

/-- A due nudge goes out unless the throttle holds it, and only a nudge that went out moves the
command in force. -/
theorem modeNudgeTick_cases (channel : ModeChannel) (t : NudgeTick) :
    let after := modeNudgeTick channel t
    let throttled := modeReassertThrottled t.desired channel.zone.external.lastCommandedHvac
      channel.zone.external.lastModeNudgeTs t.tick.now
    (after.2.modeNudge = true ↔ t.nudged = true ∧ throttled = false) ∧
      after.1.command = if after.2.modeNudge && t.tick.nudgeDispatch.sent
        then (some t.desired, some t.tick.now) else channel.command := by
  simp only [NudgeTick.nudged_iff, modeNudgeTick, stageModeNudge, NudgeTick.desired]
  split
  next held => exact ⟨iff_of_false Bool.false_ne_true fun due => due.1 held, rfl⟩
  next due =>
    split
    next throttled =>
      refine ⟨iff_of_false Bool.false_ne_true fun free => ?_, rfl⟩
      exact absurd throttled (Bool.eq_false_iff.mp free.2)
    next free =>
      refine ⟨iff_of_true rfl ⟨due, Bool.eq_false_iff.mpr free⟩, ?_⟩
      simp only [commitReport, List.foldl, ModeChannel.command]
      rw [commitEffect_modeNudge rfl, commitModeNudge_command]
      rfl

theorem unthrottled_of_change {channel : ModeChannel} {t : NudgeTick}
    (change : reNudges (Step.of modeNudgeTick channel t) = false) :
    nudgeThrottled (Step.of modeNudgeTick channel t) = false := by
  have other : channel.zone.external.lastCommandedHvac ≠ some t.desired := of_decide_eq_false change
  have free : modeReassertThrottled t.desired channel.zone.external.lastCommandedHvac
      channel.zone.external.lastModeNudgeTs t.tick.now = false := by
    rw [modeReassertThrottled, if_pos other]
  have sent := (modeNudgeTick_cases channel t).1
  rw [nudgeThrottled, Step.of_input, Step.of_output]
  cases due : t.nudged with
  | false => rfl
  | true => simp [sent.mpr ⟨due, free⟩]

theorem spaced_of_succeeded {channel : ModeChannel} {t : NudgeTick} {last : ℚ}
    (command : channel.command = (some t.desired, some last)) (order : last ≤ t.tick.now)
    (succeeded : nudgeSucceeded (Step.of modeNudgeTick channel t) = true) :
    minModeReassertIntervalS ≤ t.tick.now - last := by
  obtain ⟨mode, stamp⟩ := Prod.mk.inj command
  rw [nudgeSucceeded, Bool.and_eq_true] at succeeded
  have free := ((modeNudgeTick_cases channel t).1.mp succeeded.1).2
  rw [mode, stamp, modeReassertThrottled, if_neg (not_not_intro rfl), Option.any_some,
    Bool.and_eq_false_iff] at free
  rcases free with back | spaced
  · exact absurd order (of_decide_eq_false back)
  · exact not_lt.mp (of_decide_eq_false spaced)

/-! ### The commands of a run -/

theorem command_kept {channel : ModeChannel} {ticks : List NudgeTick}
    (quiet : ∀ g ∈ trace modeNudgeTick channel ticks, nudgeSucceeded g = false) :
    (final modeNudgeTick channel ticks).command = channel.command := by
  induction ticks generalizing channel with
  | nil => rfl
  | cons t ticks ih =>
    have here := quiet _ List.mem_cons_self
    rw [final, ih fun g member => quiet g (List.mem_cons_of_mem _ member),
      (modeNudgeTick_cases channel t).2, if_neg]
    exact Bool.eq_false_iff.mp here

theorem nudges_spaced {channel : ModeChannel} {ticks : List NudgeTick}
    (ordered : ticks.Pairwise fun a b => a.tick.now ≤ b.tick.now)
    {before between : List NudgeMoment} {f e : NudgeMoment}
    (moment : before ++ f :: between ++ [e] <+: trace modeNudgeTick channel ticks)
    (first : nudgeSucceeded f = true) (second : nudgeSucceeded e = true)
    (quiet : ∀ g ∈ between, nudgeSucceeded g = false)
    (same : e.input.desired = f.input.desired) :
    minModeReassertIntervalS ≤ e.input.tick.now - f.input.tick.now := by
  have order : f.input.tick.now ≤ e.input.tick.now :=
    pairwise_past modeNudgeTick ordered moment f (by simp)
  obtain ⟨itself, js, j, rfl, rfl⟩ := between_trace modeNudgeTick moment
  have command : f.post.command = (some f.input.desired, some f.input.tick.now) := by
    rw [itself] at first ⊢
    exact ((modeNudgeTick_cases _ _).2).trans (if_pos first)
  have kept := command_kept quiet
  rw [command] at kept
  rw [Step.of_input] at same order ⊢
  exact spaced_of_succeeded (by rw [kept, same]) order second

/-! ### The watchdog of a run -/

theorem NudgeTick.elsewhere {t : NudgeTick} (nudged : t.nudged = true) :
    t.tick.deviceMode ≠ some t.desired := by
  rw [NudgeTick.nudged, Bool.and_eq_true, TickInput.nudgeNeeded, needsModeNudge,
    Bool.and_eq_true] at nudged
  exact of_decide_eq_true nudged.1.2

theorem modeReading_diverged_iff (e : NudgeMoment) : modeReading e = .diverged ↔ unheeded e := by
  have elsewhere : e.input.nudged = true →
      (e.input.sample e.pre.zone.external).currentMatchesDesired = false :=
    fun nudged => decide_eq_false (NudgeTick.elsewhere nudged)
  have due : (e.input.sample e.pre.zone.external).nudged = e.input.nudged := rfl
  have again : (e.input.sample e.pre.zone.external).reNudge = reNudges e := rfl
  rw [modeReading, ModeSample.reading, unheeded, due, again]
  cases nudged : e.input.nudged with
  | false => split_ifs <;> simp_all
  | true => cases reNudges e <;> split_ifs <;> simp_all

theorem modeNudgeTick_mode (channel : ModeChannel) (t : NudgeTick) :
    (modeNudgeTick channel t).1.convergence.mode = channel.convergence.mode.observe
      (modeReading (Step.of modeNudgeTick channel t)) t.tick.now := rfl

/-- What the watchdog is told of a moment. -/
def toldOf (e : NudgeMoment) : Reading × ℚ := (modeReading e, e.input.tick.now)

theorem final_episode (channel : ModeChannel) (ticks : List NudgeTick) :
    (final modeNudgeTick channel ticks).convergence.mode =
      channel.convergence.mode.observeAll ((trace modeNudgeTick channel ticks).map toldOf) := by
  induction ticks generalizing channel with
  | nil => rfl
  | cons t ticks ih =>
    rw [final, ih]
    rfl

theorem divergedTimes_toldOf (moments : List NudgeMoment) :
    divergedTimes (moments.map toldOf) = unheededTimes moments := by
  have same : (fun read : Reading × ℚ => decide (read.1 = .diverged)) ∘ toldOf = unheeded := by
    funext e
    rw [Function.comp_apply, Bool.eq_iff_iff, decide_eq_true_eq]
    exact modeReading_diverged_iff e
  rw [divergedTimes, unheededTimes, List.filter_map, List.map_map, same]
  rfl

theorem expired_any (lastEvidence : Option ℚ) (now : ℚ) :
    ((reanchor now lastEvidence).any fun last => convEvidenceTtlS < now - last) =
      lastEvidence.any fun last => convEvidenceTtlS < now - last := by
  cases lastEvidence with
  | none => rfl
  | some last =>
    rcases le_or_gt last now with past | ahead
    · rw [reanchor_eq (by simpa using past)]
    · -- evidence from ahead of the clock is not old, re-anchored or not
      have young : ¬ convEvidenceTtlS < now - last := by
        norm_num [convEvidenceTtlS]
        linarith
      simp only [reanchor, Option.map_some, if_pos ahead, Option.any_some, sub_self, young]
      norm_num [convEvidenceTtlS]

theorem unheeded_counted {channel : ModeChannel} {t : NudgeTick}
    (ignored : unheeded (Step.of modeNudgeTick channel t)) :
    (modeNudgeTick channel t).1.convergence.mode.diverged =
      if channel.convergence.mode.lastEvidence.any fun last => convEvidenceTtlS < t.tick.now - last
      then 1 else channel.convergence.mode.diverged + 1 := by
  rw [modeNudgeTick_mode, (modeReading_diverged_iff _).mpr ignored, ← expired_any]
  simp only [Episode.observe, Episode.count, Episode.expire]
  split <;> rfl

theorem ignored_escalated {channel : ModeChannel} {ticks : List NudgeTick}
    (ordered : ticks.Pairwise fun a b => a.tick.now ≤ b.tick.now)
    {before stretch : List NudgeMoment} {e : NudgeMoment}
    (moment : before ++ stretch ++ [e] <+: trace modeNudgeTick channel ticks)
    (last : unheeded e) (ignored : Ignored (stretch ++ [e]) e.input.tick.now) :
    e.post.convergence.escalated e.input.tick.now = true := by
  obtain ⟨start, js, within, run, post⟩ := stretch_trace modeNudgeTick moment
  have forward : ((stretch ++ [e]).map toldOf).Pairwise fun a b => a.2 ≤ b.2 := by
    have inputs : ((trace modeNudgeTick start js).map Step.input).Pairwise
        fun a b => a.tick.now ≤ b.tick.now := by
      rw [trace_map_input]
      exact ordered.sublist within.sublist
    have moments := List.pairwise_map.mp inputs
    rw [run]
    exact List.pairwise_map.mpr moments
  have ends : unheededTimes (stretch ++ [e]) = unheededTimes stretch ++ [e.input.tick.now] := by
    simp [unheededTimes, List.filter_append, last]
  have counts := counts_observeAll start.convergence.mode forward ?_ ?_ ?_
  · rw [divergedTimes_toldOf, run, ← final_episode, ← run, ← post] at counts
    rw [WriteConvergenceWatchdog.escalated, Bool.or_eq_true]
    exact .inr (counts.escalated (by simp [ends]) ignored.enough ignored.old)
  · intro read member
    obtain ⟨g, inside, rfl⟩ := List.mem_map.mp member
    exact ignored.unfollowed g inside
  · rw [divergedTimes_toldOf]
    exact ignored.gaps
  · intro latest evidence read member
    rw [divergedTimes_toldOf, ends, List.getLast?_concat] at evidence
    obtain rfl := Option.some.inj evidence
    have order : read.2 ≤ e.input.tick.now := by
      rw [List.map_append] at forward member
      rcases List.mem_append.mp member with earlier | here
      · exact (List.pairwise_append.mp forward).2.2 read earlier (toldOf e) (by simp)
      · rw [List.mem_singleton.mp here]
        exact le_rfl
    norm_num [convEvidenceTtlS]
    linarith

/-! ### The law -/

/-- A nudge to another mode is never throttled, and one to the mode in force goes out ten
minutes after the last at the earliest. Every unheeded tick is counted, in an episode of its
own after an hour without evidence, and a device that is ignoring its mode is escalated. -/
theorem mode_channel_economy (channel : ModeChannel) (ticks : List NudgeTick)
    (ordered : ticks.Pairwise fun a b => a.tick.now ≤ b.tick.now) :
    (∀ e ∈ trace modeNudgeTick channel ticks, reNudges e = false → nudgeThrottled e = false) ∧
      (∀ before f between e,
        before ++ f :: between ++ [e] <+: trace modeNudgeTick channel ticks →
        nudgeSucceeded f → nudgeSucceeded e → (∀ g ∈ between, nudgeSucceeded g = false) →
        e.input.desired = f.input.desired →
          minModeReassertIntervalS ≤ e.input.tick.now - f.input.tick.now) ∧
      (∀ e ∈ trace modeNudgeTick channel ticks, unheeded e →
        e.post.convergence.mode.diverged =
          if e.pre.convergence.mode.lastEvidence.any fun last =>
            convEvidenceTtlS < e.input.tick.now - last
          then 1 else e.pre.convergence.mode.diverged + 1) ∧
      ∀ before stretch e, before ++ stretch ++ [e] <+: trace modeNudgeTick channel ticks →
        unheeded e → Ignored (stretch ++ [e]) e.input.tick.now →
          e.post.convergence.escalated e.input.tick.now = true := by
  refine ⟨fun e member change => ?_, fun before f between e moment first second quiet same => ?_,
    fun e member ignored => ?_, fun before stretch e moment last ignored => ?_⟩
  · rw [step_of_mem modeNudgeTick member] at change ⊢
    exact unthrottled_of_change change
  · exact nudges_spaced ordered moment first second quiet same
  · rw [step_of_mem modeNudgeTick member] at ignored ⊢
    exact unheeded_counted ignored
  · exact ignored_escalated ordered moment last ignored

/-- A tick of a valve that is to heat and stays off. -/
def deafTick (now : ℚ) : NudgeTick where
  tick := { valveTick now (some 20) with
    actState := some { state := "off", hvacModes := ["off", "heat"], temperature := some 20 } }
  adoption := { desiredHvac := "heat", modeAdoptReason := .noneYet }
  stateAgeS := 0

def deafTicks : List NudgeTick := [0, 200, 400, 600, 800, 1000].map deafTick

theorem mode_channel_economy_deaf :
    (trace modeNudgeTick {} deafTicks).map nudgeSucceeded =
        [true, false, false, true, false, false] ∧
      (final modeNudgeTick {} deafTicks).convergence.escalated 1000 = true :=
  ⟨by decide +kernel, (mode_channel_economy {} deafTicks (by decide +kernel)).2.2.2
    ((trace modeNudgeTick {} deafTicks).take 1)
    (((trace modeNudgeTick {} deafTicks).drop 1).take 4)
    (Step.of modeNudgeTick (final modeNudgeTick {} (deafTicks.take 5)) (deafTick 1000))
    ⟨[], rfl⟩ (by decide +kernel)
    ⟨by decide +kernel, by decide +kernel, by decide +kernel, by decide +kernel⟩⟩

/-- After an hour without evidence the count starts again, and an unheeded tick leaves it at
one. -/
theorem unheeded_count_restarts :
    ¬ ∀ e ∈ trace modeNudgeTick {} ([0, 600, 4260].map deafTick), unheeded e →
      e.post.convergence.mode.diverged = e.pre.convergence.mode.diverged + 1 := by
  decide +kernel

end Poise
