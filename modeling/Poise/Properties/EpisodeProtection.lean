import Poise.Properties.EpisodeEnds

/-!
# Protection outranks comfort

Runs in which the rule table and the episode machine read the same effective window:
a latched protection stop keeps saying so until the episode settles, no cooldown holds
a protection verdict back, and no protection request runs out.
-/
namespace Poise

/-! ### The two layers together -/

/-- What one tick of both layers reads; `flags` may be any. -/
structure VentTick where
  physics : VentilationInput
  flags : OracleFlags
  window : WindowState
  windowSource : WindowSource
  windowAgeMin : Option ℚ
  dtMin : ℚ
  coolEdgeProtected : Bool
  roomOverSafe : Bool
  outsideDrier : Bool
  deriving DecidableEq, Repr

def VentTick.verdict (vcfg : VentConfig) (cfg : EpisodeConfig) (t : VentTick) :
    VentilationAdvice :=
  ventilationAdvise vcfg t.physics
    (oracleWindowOpen (effectiveWindow cfg t.window t.windowSource t.windowAgeMin)) t.flags

def VentTick.input (vcfg : VentConfig) (cfg : EpisodeConfig) (t : VentTick) : EpisodeInput where
  action := (t.verdict vcfg cfg).action
  reason := (t.verdict vcfg cfg).reason
  level := (t.verdict vcfg cfg).level
  window := t.window
  dtMin := t.dtMin
  windowSource := t.windowSource
  windowAgeMin := t.windowAgeMin
  coolEdgeProtected := t.coolEdgeProtected
  roomOverSafe := t.roomOverSafe
  outsideDrier := t.outsideDrier

def ventStep (vcfg : VentConfig) (cfg : EpisodeConfig) (s : EpisodeState) (t : VentTick) :
    EpisodeState × EpisodeResult :=
  episodeTick cfg s (t.input vcfg cfg)

abbrev VentTrace := Trace.Step EpisodeState VentTick EpisodeResult

def ventRun (vcfg : VentConfig) (cfg : EpisodeConfig) (ticks : List VentTick) : List VentTrace :=
  Trace.trace (ventStep vcfg cfg) {} ticks

/-- Protection outranks comfort on this run. -/
structure ProtectionFirst (vcfg : VentConfig) (cfg : EpisodeConfig) (run : List VentTrace) :
    Prop where
  -- From the latch of an emergency stop to the tick that settles the episode.
  latched : ∀ before f between e, before ++ f :: between ++ [e] <+: run →
    f.post.phase = .stopRequested → f.post.emergency = true →
    (∀ d ∈ between ++ [e], d.post.phase ≠ .cooldown) →
    e.output.action = .closeWindow ∧ e.output.reason ∈ protectionClose
  opens : ∀ e ∈ run, e.pre.phase = .cooldown →
    (e.input.verdict vcfg cfg).action = .openWindow →
    (e.input.verdict vcfg cfg).reason ∈ protectionOpen →
    e.output.action = .openWindow ∧ e.output.reason = (e.input.verdict vcfg cfg).reason
  closes : ∀ e ∈ run, e.pre.phase = .cooldown →
    (e.input.verdict vcfg cfg).action = .closeWindow →
    (e.input.verdict vcfg cfg).reason ∈ protectionClose →
    e.output.action = .closeWindow ∧ e.output.reason = (e.input.verdict vcfg cfg).reason
  -- The owner of an expired request is the reason that carried it on that tick.
  expiry : ∀ e ∈ run, e.pre.phase = .requested → e.post.phase = .cooldown →
    e.post.owner = (e.input.verdict vcfg cfg).reason ∧ isProtection e.post.owner = false

/-! ### The latch -/

section Step

variable {cfg : EpisodeConfig} {i : EpisodeInput} {s : EpisodeState}

/-- A latched emergency is a stop request for a protection reason. -/
def LatchSound (s : EpisodeState) : Prop :=
  s.emergency = true → s.phase = .stopRequested ∧ s.reason ∈ protectionClose

/-- The latch of a result is sound, and the result publishes it. -/
def PublishesLatch (r : EpisodeResult) : Prop :=
  r.state.emergency = true →
    r.state.phase = .stopRequested ∧ r.state.reason ∈ protectionClose ∧
      r.action = .closeWindow ∧ r.reason = r.state.reason

theorem protectionAbort_reason (aborts : i.protectionAbort) : i.reason ∈ protectionClose := by
  simp only [EpisodeInput.protectionAbort, Bool.and_eq_true, decide_eq_true_eq] at aborts
  exact aborts.2

theorem calm_of_phase (sound : LatchSound s) (other : s.phase ≠ .stopRequested) :
    s.emergency = false := by
  cases latched : s.emergency with
  | true => exact absurd (sound latched).1 other
  | false => rfl

theorem publishesLatch_of_calm {r : EpisodeResult} (calm : r.state.emergency = false) :
    PublishesLatch r := by
  intro latched
  rw [calm] at latched
  cases latched

/-- A stop that asks for the window to be closed for the verdict's own reason. -/
theorem publishesLatch_asked {s' : EpisodeState} (lv : VentLevel)
    (phase : s'.phase = .stopRequested) (reason : s'.reason = i.reason)
    (latch : s'.emergency = i.protectionAbort) :
    PublishesLatch (asked cfg i s' .closeWindow i.reason lv) := by
  intro latched
  simp only [asked, out_state, ask_state] at latched ⊢
  exact ⟨phase, reason ▸ protectionAbort_reason (latch ▸ latched), rfl, reason.symm⟩

theorem idleMove_latch {r : EpisodeResult} (move : IdleMove cfg i s r)
    (calm : s.emergency = false) : PublishesLatch r := by
  cases move with
  | airs => exact publishesLatch_of_calm calm
  | requests =>
    exact publishesLatch_of_calm
      (by simpa [asked, Poise.requests, carried, EpisodeState.enter, fresh] using calm)
  | stops => exact publishesLatch_asked _ rfl rfl rfl
  | watches => exact publishesLatch_of_calm (by simpa using calm)

theorem standMove_latch {r : EpisodeResult} (move : StandMove cfg i s r)
    (phase : s.phase = .stopRequested) (sound : LatchSound s) : PublishesLatch r := by
  intro latched
  cases move with
  | escalates aborts => exact ⟨phase, protectionAbort_reason aborts, rfl, rfl⟩
  | latched aborts =>
    exact ⟨by simpa [reminded] using phase, by simpa [reminded] using protectionAbort_reason aborts,
      rfl, by simp [reminded]⟩
  | closes _ _ calm => simp [reminded, calm] at latched
  | keeps =>
    simp only [reminded, out_state, remind_state] at latched ⊢
    exact ⟨phase, (sound latched).2, rfl, rfl⟩

theorem episodeStep_latch (sound : LatchSound s) : PublishesLatch (episodeStep cfg i s) := by
  have move := episodeStep_move cfg i s
  have sound : LatchSound (s.advance cfg i) := sound
  generalize s.advance cfg i = st at move sound
  generalize episodeStep cfg i s = r at move
  cases move with
  | idle phase move => exact idleMove_latch move (calm_of_phase sound (by simp [phase]))
  | cooldown phase move =>
    have calm := calm_of_phase sound (by simp [phase])
    cases move with
    | wakes breaks move => exact idleMove_latch move rfl
    | restsClosing => exact publishesLatch_of_calm calm
    | rests => exact publishesLatch_of_calm (by simpa using calm)
  | requested phase move =>
    have calm := calm_of_phase sound (by simp [phase])
    cases move with
    | airs => exact publishesLatch_of_calm calm
    | stops => exact publishesLatch_asked _ rfl rfl rfl
    | ends => exact publishesLatch_of_calm (by simp [airingDone, asked, stop])
    | drops => exact publishesLatch_of_calm (by simpa [shutRequest, EpisodeState.enter] using calm)
    | expires => exact publishesLatch_of_calm (by simp [settle])
    | waits => exact publishesLatch_of_calm (by simpa [reminded, carried] using calm)
  | ventilating phase move =>
    have calm := calm_of_phase sound (by simp [phase])
    cases move with
    | shut => exact publishesLatch_of_calm (by simp [settle])
    | airs => exact publishesLatch_of_calm calm
    | stops => exact publishesLatch_asked _ rfl rfl rfl
    | ends => exact publishesLatch_of_calm (by simp [airingDone, asked, stop])
  | stopRequested phase move =>
    cases move with
    | shut => exact publishesLatch_of_calm (by simp [settle])
    | airs calm => exact publishesLatch_of_calm calm
    | asksAgain calm =>
      exact publishesLatch_of_calm
        (by simpa [asked, requests, carried, EpisodeState.enter] using calm)
    | releases => exact publishesLatch_of_calm (by simp [settle])
    | dwells _ _ move => exact standMove_latch move phase sound
    | stands move => exact standMove_latch move phase sound

theorem standMove_keeps_latch {r : EpisodeResult} (move : StandMove cfg i s r)
    (latched : s.emergency = true) : r.state.emergency = true := by
  cases move with
  | escalates => rfl
  | latched => simpa [reminded] using latched
  | closes _ _ calm => simp [calm] at latched
  | keeps => simpa [reminded] using latched

/-- A latched stop stays latched, or the tick settles the episode. -/
theorem episodeStep_keeps_latch (sound : LatchSound s) (latched : s.emergency = true) :
    (episodeStep cfg i s).state.emergency = true ∨
      (episodeStep cfg i s).state.phase = .cooldown := by
  have move : StopMove cfg i _ _ := episodeStep_stopRequested (sound latched).1
  have latched : (s.advance cfg i).emergency = true := latched
  generalize episodeStep cfg i s = r at move
  cases move with
  | shut => exact .inr (by simp [settle, EpisodeState.enter])
  | airs calm => simp [calm] at latched
  | asksAgain calm => simp [calm] at latched
  | releases => exact .inr (by simp [settle, EpisodeState.enter])
  | dwells _ _ move => exact .inl (standMove_keeps_latch move latched)
  | stands move => exact .inl (standMove_keeps_latch move latched)

/-! ### The cooldown and the expiry -/

theorem idleStep_opens (wants : i.action = .openWindow) :
    (idleStep cfg i s).action = .openWindow ∧ (idleStep cfg i s).reason = i.reason := by
  simp only [idleStep, EpisodeInput.wantsOpen, wants, decide_true, if_true]
  split <;> exact ⟨rfl, rfl⟩

theorem idleStep_closes (closes : i.action = .closeWindow) (isOpen : i.openish cfg) :
    (idleStep cfg i s).action = .closeWindow ∧ (idleStep cfg i s).reason = i.reason := by
  simp only [idleStep, EpisodeInput.wantsOpen, closes, isOpen]
  exact ⟨rfl, rfl⟩

theorem cooldown_opens (cooling : s.phase = .cooldown) (wants : i.action = .openWindow)
    (protects : i.reason ∈ protectionOpen) :
    (episodeStep cfg i s).action = .openWindow ∧ (episodeStep cfg i s).reason = i.reason := by
  have phase : (s.advance cfg i).phase = .cooldown := cooling
  have breaks : ∀ st, breaksOut i st := by simp [breaksOut, EpisodeInput.wantsOpen, wants, protects]
  simp only [episodeStep, phase, cooldownStep, breaks, if_true]
  exact idleStep_opens wants

theorem cooldown_closes (cooling : s.phase = .cooldown) (closes : i.action = .closeWindow)
    (protects : i.reason ∈ protectionClose) (isOpen : i.openish cfg) :
    (episodeStep cfg i s).action = .closeWindow ∧ (episodeStep cfg i s).reason = i.reason := by
  have phase : (s.advance cfg i).phase = .cooldown := cooling
  have breaks : ∀ st, breaksOut i st := by
    simp [breaksOut, EpisodeInput.protectionAbort, closes, protects]
  simp only [episodeStep, phase, cooldownStep, breaks, if_true]
  exact idleStep_closes closes isOpen

theorem requested_expires (requested : s.phase = .requested)
    (settled : (episodeStep cfg i s).state.phase = .cooldown) :
    (episodeStep cfg i s).state.owner = i.reason ∧ isProtection i.reason = false := by
  have move : RequestedMove cfg i _ _ := episodeStep_requested requested
  have requested : (s.advance cfg i).phase = .requested := requested
  generalize s.advance cfg i = st at move requested
  generalize episodeStep cfg i s = r at move settled ⊢
  cases move with
  | expires _ _ comfort => exact ⟨by simp [settle, carried, EpisodeState.enter], comfort⟩
  | airs => simp [ventilates, carried, EpisodeState.enter] at settled
  | stops => simp [asked, stop, EpisodeState.enter] at settled
  | ends => simp [airingDone, asked, stop, EpisodeState.enter] at settled
  | drops => simp [shutRequest, EpisodeState.enter] at settled
  | waits => simp [reminded, carried, requested] at settled

end Step

/-! ### Whole runs -/

section Run

variable {vcfg : VentConfig} {cfg : EpisodeConfig}

theorem latchSound_step (s : EpisodeState) (t : VentTick) (sound : LatchSound s) :
    LatchSound (ventStep vcfg cfg s t).1 := by
  intro latched
  have published := episodeStep_latch sound latched
  exact ⟨published.1, published.2.1⟩

theorem latchSound_initial : LatchSound {} := by
  intro latched
  cases latched

/-- From a latched state, a tick before which nothing settled speaks for protection. -/
theorem latched_run {s : EpisodeState} {ticks : List VentTick} {t : VentTick}
    (sound : LatchSound s) (latched : s.emergency = true)
    (unsettled : ∀ d ∈ Trace.trace (ventStep vcfg cfg) s (ticks ++ [t]), d.post.phase ≠ .cooldown) :
    (ventStep vcfg cfg (Trace.final (ventStep vcfg cfg) s ticks) t).2.action = .closeWindow ∧
      (ventStep vcfg cfg (Trace.final (ventStep vcfg cfg) s ticks) t).2.reason ∈
        protectionClose := by
  induction ticks generalizing s with
  | nil =>
    have stays := (episodeStep_keeps_latch sound latched).resolve_right
      (unsettled (Trace.Step.of (ventStep vcfg cfg) s t) (by simp [Trace.trace]))
    obtain ⟨_, protects, action, reason⟩ := episodeStep_latch sound stays
    exact ⟨action, reason ▸ protects⟩
  | cons first ticks ih =>
    have stays := (episodeStep_keeps_latch sound latched).resolve_right
      (unsettled (Trace.Step.of (ventStep vcfg cfg) s first) (by simp [Trace.trace]))
    refine ih (latchSound_step s first sound) stays fun d member => unsettled d ?_
    simp only [List.cons_append, Trace.trace, List.mem_cons]
    exact .inr member

theorem protection_first (vcfg : VentConfig) (cfg : EpisodeConfig) (ticks : List VentTick) :
    ProtectionFirst vcfg cfg (ventRun vcfg cfg ticks) where
  latched before f between e moment _ latched unsettled := by
    have member : f ∈ ventRun vcfg cfg ticks := moment.subset (by simp)
    have sound := (Trace.invariant_of_mem (ventStep vcfg cfg) LatchSound latchSound_initial
      latchSound_step member).2
    obtain ⟨_, js, t, rfl, rfl⟩ := Trace.between_trace _ moment
    refine latched_run sound latched fun d member => unsettled d ?_
    rw [Trace.trace_append] at member
    simpa [Trace.trace] using member
  opens e member cooling wants protects := by
    rw [Trace.step_of_mem _ member]
    exact cooldown_opens cooling wants protects
  closes e member cooling closes protects := by
    rw [Trace.step_of_mem _ member]
    -- the table closes only what it was told is open
    have isOpen := ventilationAdvise_closes closes
    exact cooldown_closes cooling closes protects isOpen
  expiry e member requested settled := by
    rw [Trace.step_of_mem _ member] at settled ⊢
    obtain ⟨owner, comfort⟩ := requested_expires requested settled
    exact ⟨owner, owner ▸ comfort⟩

end Run

end Poise
