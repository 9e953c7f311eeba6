import Poise.Control.FanFirst
import Poise.Foundation.Trace
import Mathlib.Tactic.Linarith

/-!
# Runs of the fan-first stage

Over every run from the idle state, the clock and the observations free: no assertion
fails, stages are commanded under the clamp, the time budget and the re-entry block
hold, and a foreign fan change ends the sequence without a write.
-/
namespace Poise

def fanFirstStep (state : FanFirstState) (i : FanFirstInput) :
    FanFirstState × Option FanFirstDecision :=
  match fanFirstDecision state i with
  | some decision => (decision.state, some decision)
  | none => (state, none)

abbrev FanFirstTrace := Trace.Step FanFirstState FanFirstInput (Option FanFirstDecision)

def fanFirstRun (ticks : List FanFirstInput) : List FanFirstTrace :=
  Trace.trace fanFirstStep {} ticks

def Engages (e : FanFirstTrace) : Prop := e.pre.phase = .idle ∧ e.post.phase.engaged

/-- The end of a sequence: a release, or the reset after a yield. -/
def EndsSequence (e : FanFirstTrace) : Prop :=
  (∃ d, e.output = some d ∧ d.command = .release) ∨
    e.pre.phase = .yielded ∧ e.post.phase = .idle

/-- A stage under this tick's clamp, commanded while `fan_only` is observed. -/
def CommandsUnderClamp (i : FanFirstInput) (d : FanFirstDecision) : Prop :=
  i.observedHvacMode = some "fan_only" ∧ ∃ stage velocity,
    d.state.stage = some stage ∧ stage ∈ i.advertisedModes ∧ stage.toLower ≠ "auto" ∧
      knownStageVelocity stage = some velocity ∧ clampLowMs < velocity ∧
      velocity ≤ maxStageVelocity i.operativeC

structure FanFirstSafe (run : List FanFirstTrace) : Prop where
  asserts : ∀ e ∈ run, e.output.isSome
  commands : ∀ e ∈ run, ∀ d, e.output = some d → d.command = .stage →
    CommandsUnderClamp e.input d
  engages : ∀ e ∈ run, Engages e →
    ∃ action, e.input.observedHvacAction = some action ∧ action ≠ "cooling"
  -- An engaged tick lies within the budget of the engagement it continues.
  budget : ∀ past e, past ++ [e] <+: run → e.post.phase.engaged →
    ∃ before f after, past ++ [e] = before ++ f :: after ∧ Engages f ∧
      (∀ d ∈ after, d.pre.phase.engaged ∧ d.post.phase.engaged) ∧
      e.input.now - f.input.now ≤ fanFirstTimeoutS
  reentry : ∀ before f between e, before ++ f :: between ++ [e] <+: run → EndsSequence f →
    (∀ d ∈ between, ¬Engages d) → Engages e → reentryBlockS ≤ e.input.now - f.input.now
  foreign : ∀ e ∈ run, e.pre.phase.engaged → e.input.foreignFanChange = true →
    e.post.phase = .idle ∧ ∃ d, e.output = some d ∧ d.command = .release ∧ d.restoreStage = none

/-! ### What a tick can do -/

section Tick

variable {s : FanFirstState} {i : FanFirstInput}

/-- The engaged phases carry what their assertions ask for. -/
def FanReady (s : FanFirstState) : Prop :=
  s.phase.engaged → s.engagedAt.isSome ∧ s.phaseAt.isSome ∧ s.roomAtEntry.isSome

/-- The sequence goes on: its entry is kept, and a stage obeys the clamp. -/
structure Advances (s : FanFirstState) (i : FanFirstInput) (d : FanFirstDecision) : Prop where
  phase : d.state.phase.engaged
  engagedAt : d.state.engagedAt = s.engagedAt
  roomAtEntry : d.state.roomAtEntry = s.roomAtEntry
  phaseAt : s.phaseAt.isSome → d.state.phaseAt.isSome
  holds : d.command ≠ .release
  stage : d.command = .stage → CommandsUnderClamp i d

inductive FanMove (s : FanFirstState) (i : FanFirstInput) : FanFirstDecision → Prop
  | rests (phase : s.phase = .idle) : FanMove s i ⟨s, .none, "idle", none⟩
  | engages (phase : s.phase = .idle) (ok : entryOk s i) :
      FanMove s i
        ⟨{ phase := .awaitFanOnly, engagedAt := some i.now, phaseAt := some i.now,
           roomAtEntry := some i.roomC, entryFanMode := i.observedFanMode },
          .fanOnly, "engage", none⟩
  | releases (phase : s.phase.engaged) (reason : String) (restore : Option String)
      (foreign : i.foreignFanChange = true → restore = none) :
      FanMove s i (released i.now reason restore)
  | yields (phase : s.phase.engaged) (own : i.foreignFanChange = false) (reason : String)
      (restore : Option String) : FanMove s i (yielded s i.now reason restore)
  | advances {d : FanFirstDecision} (phase : s.phase.engaged) (own : i.foreignFanChange = false)
      (within : ∀ engagedAt, s.engagedAt = some engagedAt →
        i.now - engagedAt ≤ fanFirstTimeoutS)
      (advances : Advances s i d) : FanMove s i d
  | resets (phase : s.phase = .yielded) :
      FanMove s i ⟨{ blockedUntil := some (i.now + reentryBlockS) }, .none, "reset", none⟩
  | keeps (phase : s.phase = .yielded) : FanMove s i ⟨s, .none, "yielded", none⟩

theorem engagedExit_none {engagedAt roomAtEntry : ℚ}
    (stays : engagedExit s i engagedAt roomAtEntry = none) :
    i.foreignFanChange = false ∧ i.now - engagedAt ≤ fanFirstTimeoutS := by
  unfold engagedExit at stays
  split at stays
  next => cases stays
  next own =>
    split at stays
    next => cases stays
    next =>
      split at stays
      next => cases stays
      next =>
        split at stays
        next => cases stays
        next =>
          split at stays
          next => cases stays
          next early => exact ⟨by simpa using own, not_lt.mp early⟩

theorem engagedExit_move {engagedAt roomAtEntry : ℚ} {d : FanFirstDecision}
    (phase : s.phase.engaged) (leaves : engagedExit s i engagedAt roomAtEntry = some d) :
    FanMove s i d := by
  unfold engagedExit at leaves
  split at leaves
  next =>
    rw [← Option.some.inj leaves]
    exact .releases phase _ _ fun _ => rfl
  next own =>
    have mine : i.foreignFanChange = true → restore s i = none := fun foreign => absurd foreign own
    rw [Bool.not_eq_true] at own
    split at leaves
    next => exact Option.some.inj leaves ▸ .releases phase _ _ mine
    next =>
      split at leaves
      next => exact Option.some.inj leaves ▸ .releases phase _ _ mine
      next =>
        split at leaves
        next => exact Option.some.inj leaves ▸ .yields phase own _ _
        next =>
          split at leaves
          next => exact Option.some.inj leaves ▸ .yields phase own _ _
          next =>
            split at leaves
            next => exact Option.some.inj leaves ▸ .yields phase own _ _
            next => cases leaves

/-- What the tick of an engaged phase may return, once no exit was taken. -/
def OwnTick (s : FanFirstState) (i : FanFirstInput) (own : Option FanFirstDecision) : Prop :=
  ∃ d, own = some d ∧ (Advances s i d ∨ ∃ reason restore, d = yielded s i.now reason restore)

theorem engagedTick_move {own : Option FanFirstDecision} (ready : FanReady s)
    (phase : s.phase.engaged) (ticks : OwnTick s i own) :
    ∃ d, engagedTick s i own = some d ∧ FanMove s i d := by
  obtain ⟨since, at_, room⟩ := ready phase
  obtain ⟨engagedAt, since⟩ := Option.isSome_iff_exists.mp since
  obtain ⟨phaseAt, at_⟩ := Option.isSome_iff_exists.mp at_
  obtain ⟨roomAtEntry, room⟩ := Option.isSome_iff_exists.mp room
  simp only [engagedTick, since, at_, room]
  cases leaves : engagedExit s i engagedAt roomAtEntry with
  | some d => exact ⟨d, rfl, engagedExit_move phase leaves⟩
  | none =>
    obtain ⟨mine, early⟩ := engagedExit_none leaves
    obtain ⟨d, rfl, advances | ⟨reason, restore, rfl⟩⟩ := ticks
    · refine ⟨d, rfl, .advances phase mine (fun a same => ?_) advances⟩
      rw [since] at same
      rw [← Option.some.inj same]
      exact early
    · exact ⟨_, rfl, .yields phase mine _ _⟩

theorem waits_advances (phase : s.phase.engaged) (reason : String) :
    Advances s i ⟨s, .none, reason, none⟩ :=
  ⟨phase, rfl, rfl, id, by simp, by simp⟩

theorem awaitFanOnlyTick_own (ready : s.phaseAt.isSome) (phase : s.phase.engaged) :
    OwnTick s i (awaitFanOnlyTick s i) := by
  unfold awaitFanOnlyTick
  split
  next observed =>
    split
    next => exact ⟨_, rfl, .inr ⟨_, _, rfl⟩⟩
    next stage selected =>
      split
      next => exact ⟨_, rfl, .inl ⟨rfl, rfl, rfl, fun _ => rfl, by simp, by simp⟩⟩
      next =>
        -- the only branch that commands a stage
        obtain ⟨advertised, velocity, qualifies⟩ := selectFanStage_spec selected
        obtain ⟨named, known, above, below⟩ := qualifyingVelocity_spec qualifies
        refine ⟨_, rfl, .inl ⟨rfl, rfl, rfl, fun _ => rfl, by simp, fun _ => ?_⟩⟩
        exact ⟨observed, stage, velocity, rfl, advertised, named, known, above, below⟩
  next =>
    obtain ⟨phaseAt, at_⟩ := Option.isSome_iff_exists.mp ready
    simp only [at_]
    split
    next => exact ⟨_, rfl, .inr ⟨_, _, rfl⟩⟩
    next => exact ⟨_, rfl, .inl (waits_advances phase _)⟩

theorem awaitStageTick_own (ready : s.phaseAt.isSome) (phase : s.phase.engaged) :
    OwnTick s i (awaitStageTick s i) := by
  unfold awaitStageTick
  split
  next => exact ⟨_, rfl, .inl ⟨rfl, rfl, rfl, fun _ => rfl, by simp, by simp⟩⟩
  next =>
    obtain ⟨phaseAt, at_⟩ := Option.isSome_iff_exists.mp ready
    simp only [at_]
    split
    next => exact ⟨_, rfl, .inr ⟨_, _, rfl⟩⟩
    next => exact ⟨_, rfl, .inl (waits_advances phase _)⟩

theorem dwellTick_own (ready : s.phaseAt.isSome) (entered : s.roomAtEntry.isSome)
    (phase : s.phase.engaged) : OwnTick s i (dwellTick s i) := by
  obtain ⟨phaseAt, at_⟩ := Option.isSome_iff_exists.mp ready
  obtain ⟨roomAtEntry, room⟩ := Option.isSome_iff_exists.mp entered
  simp only [dwellTick, at_, room]
  split
  next => exact ⟨_, rfl, .inr ⟨_, _, rfl⟩⟩
  next => exact ⟨_, rfl, .inl (waits_advances phase _)⟩

/-- From a ready state no assertion fails, and the tick is one of the moves. -/
theorem fanFirstDecision_move (ready : FanReady s) (i : FanFirstInput) :
    ∃ d, fanFirstDecision s i = some d ∧ FanMove s i d := by
  unfold fanFirstDecision
  cases phase : s.phase with
  | idle =>
    refine ⟨_, rfl, ?_⟩
    unfold idleTick
    split
    next => exact .rests phase
    next ok => exact .engages phase (by simpa using ok)
  | yielded =>
    refine ⟨_, rfl, ?_⟩
    unfold yieldedTick
    split
    next => exact .resets phase
    next => exact .keeps phase
  | awaitFanOnly =>
    have engaged : s.phase.engaged := by rw [phase]; rfl
    exact engagedTick_move ready engaged (awaitFanOnlyTick_own (ready engaged).2.1 engaged)
  | awaitStage =>
    have engaged : s.phase.engaged := by rw [phase]; rfl
    exact engagedTick_move ready engaged (awaitStageTick_own (ready engaged).2.1 engaged)
  | dwell =>
    have engaged : s.phase.engaged := by rw [phase]; rfl
    obtain ⟨_, at_, room⟩ := ready engaged
    exact engagedTick_move ready engaged (dwellTick_own at_ room engaged)

theorem fanReady_move {d : FanFirstDecision} (ready : FanReady s) (move : FanMove s i d) :
    FanReady d.state := by
  intro engaged
  cases move with
  | rests => exact ready engaged
  | engages => exact ⟨rfl, rfl, rfl⟩
  | releases => cases engaged
  | yields => cases engaged
  | advances phase _ _ advances =>
    obtain ⟨since, at_, room⟩ := ready phase
    exact ⟨advances.engagedAt ▸ since, advances.phaseAt at_, advances.roomAtEntry ▸ room⟩
  | resets => cases engaged
  | keeps => exact ready engaged

end Tick

/-! ### Single steps of a run -/

section Step

variable {ticks : List FanFirstInput} {e : FanFirstTrace}

theorem fanFirstStep_of_decision {s : FanFirstState} {i : FanFirstInput} {d : FanFirstDecision}
    (decides : fanFirstDecision s i = some d) : fanFirstStep s i = (d.state, some d) := by
  simp [fanFirstStep, decides]

theorem fanReady_step (s : FanFirstState) (i : FanFirstInput) (ready : FanReady s) :
    FanReady (fanFirstStep s i).1 := by
  obtain ⟨d, decides, move⟩ := fanFirstDecision_move ready i
  rw [fanFirstStep_of_decision decides]
  exact fanReady_move ready move

theorem fanReady_initial : FanReady {} := fun engaged => by cases engaged

/-- Every step of a run decides, by one of the moves. -/
theorem run_move (member : e ∈ fanFirstRun ticks) :
    ∃ d, e.output = some d ∧ e.post = d.state ∧ FanMove e.pre e.input d := by
  have ready := (Trace.invariant_of_mem fanFirstStep FanReady fanReady_initial fanReady_step
    member).1
  obtain ⟨d, decides, move⟩ := fanFirstDecision_move ready e.input
  have stepped := Trace.step_of_mem _ member
  rw [Trace.Step.of, fanFirstStep_of_decision decides] at stepped
  refine ⟨d, ?_, ?_, move⟩
  · rw [stepped]
  · rw [stepped]

theorem engages_entry (member : e ∈ fanFirstRun ticks) (engages : Engages e) :
    entryOk e.pre e.input ∧ e.post.engagedAt = some e.input.now := by
  obtain ⟨d, _, post, move⟩ := run_move member
  obtain ⟨was, on⟩ := engages
  rw [post] at on ⊢
  generalize e.pre = s at was move
  cases move with
  | rests => simp [was, FanPhase.engaged] at on
  | engages _ ok => exact ⟨ok, rfl⟩
  | releases phase => simp [was, FanPhase.engaged] at phase
  | yields phase => simp [was, FanPhase.engaged] at phase
  | advances phase => simp [was, FanPhase.engaged] at phase
  | resets phase => simp [was] at phase
  | keeps phase => simp [was] at phase

/-- An engaged tick engages now, or goes on within the budget. -/
theorem engaged_step (member : e ∈ fanFirstRun ticks) (on : e.post.phase.engaged) :
    Engages e ∨ e.pre.phase.engaged ∧ e.post.engagedAt = e.pre.engagedAt ∧
      ∀ engagedAt, e.pre.engagedAt = some engagedAt →
        e.input.now - engagedAt ≤ fanFirstTimeoutS := by
  obtain ⟨d, _, post, move⟩ := run_move member
  unfold Engages
  rw [post] at on ⊢
  generalize e.pre = s at move
  cases move with
  | rests phase => simp [phase, FanPhase.engaged] at on
  | engages phase => exact .inl ⟨phase, on⟩
  | releases => cases on
  | yields => cases on
  | advances phase _ within advances => exact .inr ⟨phase, advances.engagedAt, within⟩
  | resets => cases on
  | keeps phase => simp [phase, FanPhase.engaged] at on

theorem ends_blocks (member : e ∈ fanFirstRun ticks) (ends : EndsSequence e) :
    e.post = { blockedUntil := some (e.input.now + reentryBlockS) } := by
  obtain ⟨d, output, post, move⟩ := run_move member
  unfold EndsSequence at ends
  rw [output, post] at ends
  rw [post]
  generalize e.pre = s at move ends
  cases move with
  | rests phase => simp [phase] at ends
  | engages phase => simp [phase] at ends
  | releases => rfl
  | yields phase => simp [yielded] at ends
  | advances phase _ _ advances =>
    rcases ends with ⟨_, same, releases⟩ | ⟨was, _⟩
    · exact absurd (Option.some.inj same ▸ releases) advances.holds
    · simp [was, FanPhase.engaged] at phase
  | resets => rfl
  | keeps phase => simp [phase] at ends

/-- An idle zone that does not engage stays as it is. -/
theorem idle_stays {s : FanFirstState} {i : FanFirstInput} (idle : s.phase = .idle)
    (rests : ¬Engages (Trace.Step.of fanFirstStep s i)) : (fanFirstStep s i).1 = s := by
  have ready : FanReady s := fun engaged => by rw [idle] at engaged; cases engaged
  obtain ⟨d, decides, move⟩ := fanFirstDecision_move ready i
  unfold Engages at rests
  simp only [Trace.Step.of_pre, Trace.Step.of_post, fanFirstStep_of_decision decides] at rests ⊢
  cases move with
  | rests => rfl
  | engages => exact absurd ⟨idle, rfl⟩ rests
  | releases phase => simp [idle, FanPhase.engaged] at phase
  | yields phase => simp [idle, FanPhase.engaged] at phase
  | advances phase => simp [idle, FanPhase.engaged] at phase
  | resets phase => simp [idle] at phase
  | keeps phase => simp [idle] at phase

theorem idle_run {s : FanFirstState} {js : List FanFirstInput} (idle : s.phase = .idle)
    (rest : ∀ d ∈ Trace.trace fanFirstStep s js, ¬Engages d) :
    Trace.final fanFirstStep s js = s := by
  induction js with
  | nil => rfl
  | cons j js ih =>
    simp only [Trace.trace, List.mem_cons, forall_eq_or_imp] at rest
    have same := idle_stays idle rest.1
    rw [Trace.final, same]
    rw [same] at rest
    exact ih rest.2

end Step

/-! ### The budget over a run -/

/-- The engaged state remembers the tick that engaged it. -/
def EngagedSince (past : List FanFirstTrace) (s : FanFirstState) : Prop :=
  s.phase.engaged → ∃ before f after, past = before ++ f :: after ∧ Engages f ∧
    (∀ d ∈ after, d.pre.phase.engaged ∧ d.post.phase.engaged) ∧
    s.engagedAt = some f.input.now

theorem engagedSince_append {ticks : List FanFirstInput} {past : List FanFirstTrace}
    {e : FanFirstTrace} (member : e ∈ fanFirstRun ticks) (since : EngagedSince past e.pre) :
    EngagedSince (past ++ [e]) e.post := by
  intro on
  rcases engaged_step member on with engages | ⟨was, same, _⟩
  · exact ⟨past, e, [], rfl, engages, by simp, (engages_entry member engages).2⟩
  · obtain ⟨before, f, after, rfl, engages, held, stamp⟩ := since was
    refine ⟨before, f, after ++ [e], by simp, engages, ?_, same.trans stamp⟩
    intro d later
    rw [List.mem_append, List.mem_singleton] at later
    cases later with
    | inl earlier => exact held d earlier
    | inr last => exact last ▸ ⟨was, on⟩

theorem engagedSince_at {ticks : List FanFirstInput} {past : List FanFirstTrace}
    {e : FanFirstTrace} (moment : past ++ [e] <+: fanFirstRun ticks) : EngagedSince past e.pre :=
  Trace.history_at fanFirstStep EngagedSince (fun _ d => d ∈ fanFirstRun ticks)
    (fun engaged => by cases engaged)
    (fun past _ _ since member => @engagedSince_append ticks past _ member since)
    (fun _ _ earlier => Trace.mem_of_moment _ earlier) moment

theorem fanFirst_safe (ticks : List FanFirstInput) : FanFirstSafe (fanFirstRun ticks) where
  asserts e member := by
    obtain ⟨d, output, _⟩ := run_move member
    rw [output]
    rfl
  commands e member d output commands := by
    obtain ⟨d', decided, _, move⟩ := run_move member
    obtain rfl : d = d' := Option.some.inj (output.symm.trans decided)
    cases move with
    | rests => cases commands
    | engages => cases commands
    | releases => cases commands
    | yields => cases commands
    | advances _ _ _ advances => exact advances.stage commands
    | resets => cases commands
    | keeps => cases commands
  engages e member engages := by
    have ok := (engages_entry member engages).1
    simp only [entryOk, Bool.and_eq_true, decide_eq_true_eq] at ok
    obtain ⟨⟨⟨⟨_, known⟩, other⟩, _⟩, _⟩ := ok
    obtain ⟨action, seen⟩ := Option.isSome_iff_exists.mp known
    exact ⟨action, seen, fun cooling => other (by rw [seen, cooling])⟩
  budget past e moment on := by
    have member := Trace.mem_of_moment _ moment
    obtain ⟨before, f, after, split, engages, held, stamp⟩ :=
      engagedSince_append member (engagedSince_at moment) on
    refine ⟨before, f, after, split, engages, held, ?_⟩
    rcases engaged_step member on with now | ⟨_, same, within⟩
    · rw [(engages_entry member now).2, Option.some.injEq] at stamp
      rw [← stamp, sub_self]
      norm_num [fanFirstTimeoutS]
    · exact within _ (same ▸ stamp)
  reentry before f between e moment ends rest engages := by
    have first : f ∈ fanFirstRun ticks := moment.subset (by simp)
    have last : e ∈ fanFirstRun ticks := moment.subset (by simp)
    have blocked := ends_blocks first ends
    have ok := (engages_entry last engages).1
    obtain ⟨_, js, j, rfl, rfl⟩ := Trace.between_trace fanFirstStep moment
    rw [blocked] at rest ok
    rw [Trace.Step.of_pre, idle_run rfl rest] at ok
    simp only [entryOk, Bool.and_eq_true, Option.all_some, decide_eq_true_eq] at ok
    rw [Trace.Step.of_input] at ok ⊢
    linarith [ok.2]
  foreign e member on interferes := by
    obtain ⟨d, output, post, move⟩ := run_move member
    rw [post]
    generalize e.pre = s at on move
    cases move with
    | rests phase => simp [phase, FanPhase.engaged] at on
    | engages phase => simp [phase, FanPhase.engaged] at on
    | releases _ _ _ foreign => exact ⟨rfl, _, output, rfl, foreign interferes⟩
    | yields _ own => simp [interferes] at own
    | advances _ own => simp [interferes] at own
    | resets phase => simp [phase, FanPhase.engaged] at on
    | keeps phase => simp [phase, FanPhase.engaged] at on

end Poise
