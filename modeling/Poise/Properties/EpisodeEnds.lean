import Poise.Properties.VentAdvice
import Mathlib.Algebra.BigOperators.Group.List.Basic

/-!
# How an episode ends

Over whole runs: an airing that was asked for or seen ends on a contact that proves the
window closed, or, as a stop request, on a full stretch in which nothing could be seen
and the table had nothing to warn about.
-/
namespace Poise

abbrev EpisodeTrace := Trace.Step EpisodeState EpisodeInput EpisodeResult

/-- The run of the episode machine from its initial state. -/
def episodeRun (cfg : EpisodeConfig) (ticks : List EpisodeInput) : List EpisodeTrace :=
  Trace.trace (episodeTick cfg) {} ticks

/-! ### Events of a run -/

def Leaves (e : EpisodeTrace) : Prop :=
  e.pre.phase ∈ [.requested, .ventilating, .stopRequested] ∧ e.post.phase ∈ [.idle, .cooldown]

/-- A fresh reading of a contact that says closed. -/
def ProvenClosed (cfg : EpisodeConfig) (i : EpisodeInput) : Prop :=
  i.window.closedish ∧ i.windowSource = .contact ∧
    i.windowAgeMin.any (cfg.windowStaleAfterMin < ·) = false

/-- A stop request that nobody could observe, under a quiet table. -/
def SilentStop (cfg : EpisodeConfig) (d : EpisodeTrace) : Prop :=
  d.pre.phase = .stopRequested ∧ d.input.seen cfg = .unknown ∧ d.input.resolverQuiet

def cappedMinutes (cfg : EpisodeConfig) (steps : List EpisodeTrace) : ℚ :=
  (steps.map fun d => d.input.step cfg).sum

/-- `past` ends in silent stops which `e` fills up to the release time. -/
def SilentRelease (cfg : EpisodeConfig) (past : List EpisodeTrace) (e : EpisodeTrace) : Prop :=
  ∃ before since, past = before ++ since ∧ (∀ d ∈ since ++ [e], SilentStop cfg d) ∧
    cfg.unknownStopReleaseMin ≤ cappedMinutes cfg (since ++ [e])

/-! ### One tick -/

section Step

variable {cfg : EpisodeConfig} {i : EpisodeInput} {s : EpisodeState}

theorem provenClosed_of_closedish (shut : i.closedish cfg) : ProvenClosed cfg i := by
  simp only [EpisodeInput.closedish, EpisodeInput.seen, effectiveWindow] at shut
  split at shut
  next => cases shut
  next =>
    split at shut
    next => cases shut
    next young =>
      split at shut
      next => cases shut
      next proven =>
        refine ⟨shut, ?_, by simpa using young⟩
        cases source : i.windowSource <;>
          simp_all [WindowSource.provesClosed]

theorem idleMove_phase {r : EpisodeResult} (move : IdleMove cfg i s r) (idle : s.phase = .idle) :
    r.state.phase = .stopRequested → r.state.unknownDwellMin = 0 := by
  cases move <;> simp [asked, ventilates, requests, stop, carried, EpisodeState.enter, idle]

theorem standMove_state {r : EpisodeResult} (move : StandMove cfg i s r) :
    r.state.phase = s.phase ∧ r.state.unknownDwellMin = s.unknownDwellMin := by
  cases move <;> simp [reminded]

/-- The dwell of a stop request restarts, or this silent tick adds to it. -/
theorem episodeStep_dwell (stops : (episodeStep cfg i s).state.phase = .stopRequested) :
    (episodeStep cfg i s).state.unknownDwellMin = 0 ∨
      SilentStop cfg (Trace.Step.of (episodeTick cfg) s i) ∧
        (episodeStep cfg i s).state.unknownDwellMin = s.unknownDwellMin + i.step cfg := by
  have move := episodeStep_move cfg i s
  generalize episodeStep cfg i s = r at move stops
  cases move with
  | idle phase move => exact .inl (idleMove_phase move phase stops)
  | cooldown phase move =>
    cases move with
    | wakes breaks move => exact .inl (idleMove_phase move rfl stops)
    | restsClosing => simp [phase] at stops
    | rests => simp [phase] at stops
  | requested phase move =>
    cases move with
    | stops => exact .inl (by simp [asked, stop, EpisodeState.enter])
    | ends => exact .inl (by simp [airingDone, asked, stop, EpisodeState.enter])
    | airs => simp [ventilates, carried, EpisodeState.enter] at stops
    | drops => simp [shutRequest, EpisodeState.enter] at stops
    | expires => simp [settle, EpisodeState.enter] at stops
    | waits => simp [reminded, carried, phase] at stops
  | ventilating phase move =>
    cases move with
    | stops => exact .inl (by simp [asked, stop, EpisodeState.enter])
    | ends => exact .inl (by simp [airingDone, asked, stop, EpisodeState.enter])
    | shut => simp [settle, EpisodeState.enter] at stops
    | airs => simp [carried, phase] at stops
  | stopRequested phase move =>
    cases move with
    | dwells blind silent move =>
      exact .inr ⟨⟨phase, blind, silent⟩, (standMove_state move).2⟩
    | stands move => exact .inl (standMove_state move).2
    | shut => simp [settle, EpisodeState.enter] at stops
    | airs => simp [ventilates, carried, EpisodeState.enter] at stops
    | asksAgain => simp [asked, requests, carried, EpisodeState.enter] at stops
    | releases => simp [settle, EpisodeState.enter] at stops

/-- What ends an airing: a proven closed window, or a dwell that reaches its release. -/
theorem episodeStep_leaves (leaves : Leaves (Trace.Step.of (episodeTick cfg) s i)) :
    ProvenClosed cfg i ∨
      SilentStop cfg (Trace.Step.of (episodeTick cfg) s i) ∧
        cfg.unknownStopReleaseMin ≤ s.unknownDwellMin + i.step cfg := by
  obtain ⟨airing, ended⟩ := leaves
  simp only [Trace.Step.of_pre, Trace.Step.of_post, episodeTick] at airing ended
  have same : (s.advance cfg i).phase = s.phase := rfl
  have move := episodeStep_move cfg i s
  generalize episodeStep cfg i s = r at move ended
  cases move with
  | idle phase => simp [← same, phase] at airing
  | cooldown phase => simp [← same, phase] at airing
  | requested phase move =>
    cases move with
    | drops _ shut => exact .inl (provenClosed_of_closedish shut)
    | expires _ shut => exact .inl (provenClosed_of_closedish shut)
    | airs => simp [ventilates, carried, EpisodeState.enter] at ended
    | stops => simp [asked, stop, EpisodeState.enter] at ended
    | ends => simp [airingDone, asked, stop, EpisodeState.enter] at ended
    | waits => simp [reminded, carried, phase] at ended
  | ventilating phase move =>
    cases move with
    | shut shut => exact .inl (provenClosed_of_closedish shut)
    | airs => simp [carried, phase] at ended
    | stops => simp [asked, stop, EpisodeState.enter] at ended
    | ends => simp [airingDone, asked, stop, EpisodeState.enter] at ended
  | stopRequested phase move =>
    cases move with
    | shut shut => exact .inl (provenClosed_of_closedish shut)
    | releases blind silent dwelt => exact .inr ⟨⟨phase, blind, silent⟩, dwelt⟩
    | airs => simp [ventilates, carried, EpisodeState.enter] at ended
    | asksAgain => simp [asked, requests, carried, EpisodeState.enter] at ended
    | dwells _ _ move => simp [(standMove_state move).1, EpisodeState.dwell, phase] at ended
    | stands move => simp [(standMove_state move).1, phase] at ended

end Step

/-! ### Whole runs -/

/-- The dwell of a stop request is the silent time it has stood so far. -/
def SilenceAccounted (cfg : EpisodeConfig) (past : List EpisodeTrace) (s : EpisodeState) : Prop :=
  s.phase = .stopRequested → ∃ before since, past = before ++ since ∧
    (∀ d ∈ since, SilentStop cfg d) ∧ s.unknownDwellMin = cappedMinutes cfg since

@[simp] theorem cappedMinutes_append (cfg : EpisodeConfig) (steps : List EpisodeTrace)
    (e : EpisodeTrace) :
    cappedMinutes cfg (steps ++ [e]) = cappedMinutes cfg steps + e.input.step cfg := by
  simp [cappedMinutes]

theorem silentStop_append {cfg : EpisodeConfig} {since : List EpisodeTrace} {e : EpisodeTrace}
    (silent : ∀ d ∈ since, SilentStop cfg d) (last : SilentStop cfg e) :
    ∀ d ∈ since ++ [e], SilentStop cfg d := by
  intro d member
  rw [List.mem_append, List.mem_singleton] at member
  cases member with
  | inl earlier => exact silent d earlier
  | inr here => exact here ▸ last

theorem silenceAccounted_step (cfg : EpisodeConfig) (past : List EpisodeTrace) (s : EpisodeState)
    (i : EpisodeInput) (accounted : SilenceAccounted cfg past s) :
    SilenceAccounted cfg (past ++ [Trace.Step.of (episodeTick cfg) s i])
      (episodeTick cfg s i).1 := by
  intro stops
  cases episodeStep_dwell stops with
  | inl restarted =>
    exact ⟨past ++ [Trace.Step.of (episodeTick cfg) s i], [], by simp, by simp,
      by simpa [cappedMinutes, episodeTick] using restarted⟩
  | inr continued =>
    obtain ⟨last, dwell⟩ := continued
    obtain ⟨before, since, rfl, silent, total⟩ := accounted last.1
    refine ⟨before, since ++ [Trace.Step.of (episodeTick cfg) s i], by simp,
      silentStop_append silent last, ?_⟩
    rw [cappedMinutes_append, ← total]
    exact dwell

/-- Every airing that was asked for or seen leaves to idle or cooldown on a proven closed
window, or as a stop request out of a full silent stretch. -/
def EndsOnKnowledge (cfg : EpisodeConfig) (run : List EpisodeTrace) : Prop :=
  ∀ past e, past ++ [e] <+: run → Leaves e →
    ProvenClosed cfg e.input ∨ e.pre.phase = .stopRequested ∧ SilentRelease cfg past e

theorem episode_ends_on_knowledge (cfg : EpisodeConfig) (ticks : List EpisodeInput) :
    EndsOnKnowledge cfg (episodeRun cfg ticks) := by
  intro past e moment leaves
  have taken := Trace.step_of_mem _ (Trace.mem_of_moment _ moment)
  rw [taken] at leaves
  cases episodeStep_leaves leaves with
  | inl shut => exact .inl shut
  | inr silent =>
    obtain ⟨last, dwelt⟩ := silent
    rw [← taken] at last
    have accounted : SilenceAccounted cfg past e.pre :=
      Trace.history_of_moment (episodeTick cfg) (SilenceAccounted cfg)
        (fun stops => by cases stops) (silenceAccounted_step cfg) moment
    obtain ⟨before, since, split, quiet, total⟩ := accounted last.1
    refine .inr ⟨last.1, before, since, split, silentStop_append quiet last, ?_⟩
    rw [cappedMinutes_append, ← total]
    exact dwelt

end Poise
