import Poise.Safety.HeatingFailure
import Poise.Foundation.Trace

/-!
# The windows behind a failure verdict

A verdict is raised or cleared by a window of updates. The start anchor survives a
demand pause shorter than the delay, so a window may hold updates without demand; in
every run where no demand resumes inside such a pause, each verdict has the window it
claims.
-/
namespace Poise

def failureStep (cfg : FailureConfig) (s : HeatingFailureDetector) (t : FailureTick) :
    HeatingFailureDetector × Bool :=
  (s.update cfg t, (s.update cfg t).failed)

abbrev FailureTrace := Trace.Step HeatingFailureDetector FailureTick Bool

def failureRun (cfg : FailureConfig) (ticks : List FailureTick) : List FailureTrace :=
  Trace.trace (failureStep cfg) {} ticks

/-! ### Windows -/

/-- `past` ends in updates that agree on the demand, the first of them `f`. -/
def Stretch (cfg : FailureConfig) (demand : Bool) (past : List FailureTrace)
    (f : FailureTrace) : Prop :=
  ∃ before between, past = before ++ f :: between ∧
    ∀ d ∈ f :: between, d.input.demand cfg = demand

/-- `e` ends a window at least `delay_h` long that started at `f`, every update of it
with demand or every one without. -/
structure UniformWindow (cfg : FailureConfig) (demand : Bool) (past : List FailureTrace)
    (f e : FailureTrace) : Prop where
  stretch : Stretch cfg demand past f
  last : e.input.demand cfg = demand
  long : cfg.delayH ≤ e.input.nowH - f.input.nowH

/-- A verdict is raised by a demand window without the rise, and cleared by one with it
or by a window without demand. -/
structure FailureSound (cfg : FailureConfig) (run : List FailureTrace) : Prop where
  raises : ∀ past e, past ++ [e] <+: run → e.pre.failed = false → e.post.failed = true →
    ∃ f, UniformWindow cfg true past f e ∧ e.input.room - f.input.room < cfg.minRise
  clears : ∀ past e, past ++ [e] <+: run → e.pre.failed = true → e.post.failed = false →
    ∃ f, UniformWindow cfg true past f e ∧ cfg.minRise ≤ e.input.room - f.input.room ∨
      UniformWindow cfg false past f e

/-- Demand resumes inside a standing window, after a pause shorter than the delay. -/
def ResumesInWindow (cfg : FailureConfig) (e : FailureTrace) : Prop :=
  e.input.demand cfg = true ∧ e.pre.start.isSome ∧ e.pre.clearStart.isSome

instance (cfg : FailureConfig) (e : FailureTrace) : Decidable (ResumesInWindow cfg e) :=
  inferInstanceAs (Decidable (_ ∧ _))

section Stretch

variable {cfg : FailureConfig} {demand : Bool} {past : List FailureTrace} {e f : FailureTrace}

theorem stretch_here (last : e.input.demand cfg = demand) : Stretch cfg demand (past ++ [e]) e :=
  ⟨past, [], rfl, by simpa using last⟩

theorem Stretch.append (stretch : Stretch cfg demand past f) (last : e.input.demand cfg = demand) :
    Stretch cfg demand (past ++ [e]) f := by
  obtain ⟨before, between, rfl, agree⟩ := stretch
  refine ⟨before, between ++ [e], by simp, fun d member => ?_⟩
  rw [← List.cons_append, List.mem_append, List.mem_singleton] at member
  cases member with
  | inl earlier => exact agree d earlier
  | inr here => exact here ▸ last

theorem Stretch.newest (stretch : Stretch cfg demand (past ++ [e]) f) :
    e.input.demand cfg = demand := by
  obtain ⟨before, between, split, agree⟩ := stretch
  refine agree e (List.mem_of_getLast? ?_)
  have newest := congrArg List.getLast? split
  rw [List.getLast?_append_of_ne_nil _ (List.cons_ne_nil f between)] at newest
  simpa using newest.symm

end Stretch

/-! ### Anchors -/

/-- Each anchor is an update of the past. The updates since then agree on the demand, the
demand window's as long as no pause is open. -/
structure Measured (cfg : FailureConfig) (past : List FailureTrace)
    (s : HeatingFailureDetector) : Prop where
  start : ∀ t room, s.start = some (t, room) → ∃ f ∈ past, f.input.nowH = t ∧
    f.input.room = room ∧ (s.clearStart = none → Stretch cfg true past f)
  clear : ∀ t, s.clearStart = some t → ∃ f ∈ past, f.input.nowH = t ∧ Stretch cfg false past f

/-- What the law asks of a moment: time does not run back, no demand resumes. -/
def Steady (cfg : FailureConfig) (past : List FailureTrace) (e : FailureTrace) : Prop :=
  (∀ f ∈ past, f.input.nowH ≤ e.input.nowH) ∧ ¬ResumesInWindow cfg e

section Keep

variable {cfg : FailureConfig} {past : List FailureTrace} {s : HeatingFailureDetector}
  {t : FailureTick}

theorem reanchor_measured (measured : Measured cfg past s)
    (ordered : ∀ f ∈ past, f.input.nowH ≤ t.nowH) : s.reanchor t = s := by
  obtain ⟨start, clearStart, failed⟩ := s
  have startHeld : start.map
      (fun anchor => if t.nowH < anchor.1 then (t.nowH, t.room) else anchor) = start := by
    cases start with
    | none => rfl
    | some anchor =>
      obtain ⟨f, member, now, _⟩ := measured.start anchor.1 anchor.2 rfl
      have passed := now ▸ ordered f member
      simp [passed.not_gt]
  have clearHeld : clearStart.map (fun since => if t.nowH < since then t.nowH else since) =
      clearStart := by
    cases clearStart with
    | none => rfl
    | some since =>
      obtain ⟨f, member, now, _⟩ := measured.clear since rfl
      have passed := now ▸ ordered f member
      simp [passed.not_gt]
  simp only [HeatingFailureDetector.reanchor, startHeld, clearHeld]

/-- The anchors after an update under demand: a new one, or the old one with its window
extended. -/
theorem Measured.underDemand (measured : Measured cfg past s) {e : FailureTrace}
    (demand : e.input.demand cfg = true) (shut : s.start ≠ none → s.clearStart = none) :
    Measured cfg (past ++ [e]) (s.underDemand cfg e.input) := by
  have here : ∀ now room, (now, room) = (e.input.nowH, e.input.room) →
      ∃ f ∈ past ++ [e], f.input.nowH = now ∧ f.input.room = room ∧
        (none = (none : Option ℚ) → Stretch cfg true (past ++ [e]) f) := by
    intro now room reads
    obtain ⟨rfl, rfl⟩ := reads
    exact ⟨e, by simp, rfl, rfl, fun _ => stretch_here demand⟩
  simp only [HeatingFailureDetector.underDemand]
  cases start : s.start with
  | none =>
    exact ⟨fun now room anchor => here now room (Option.some.inj anchor).symm,
      fun _ open_ => by cases open_⟩
  | some anchor =>
    dsimp only
    split
    next =>
      exact ⟨fun now room anchor => here now room (Option.some.inj anchor).symm,
        fun _ open_ => by cases open_⟩
    next =>
      refine ⟨fun now room held => ?_, fun _ open_ => by cases open_⟩
      obtain ⟨f, member, reads, warm, stretch⟩ := measured.start now room (start.trans held)
      have window := stretch (shut (by simp [start]))
      exact ⟨f, List.mem_append_left _ member, reads, warm, fun _ => window.append demand⟩

/-- The anchors after an update without demand: the pause opens, goes on or completes. -/
theorem Measured.noDemand (measured : Measured cfg past s) {e : FailureTrace}
    (idle : e.input.demand cfg = false) :
    Measured cfg (past ++ [e]) (s.noDemand cfg e.input) := by
  simp only [HeatingFailureDetector.noDemand]
  cases clear : s.clearStart with
  | none =>
    refine ⟨fun now room held => ?_, fun now open_ => ?_⟩
    · obtain ⟨f, member, reads, warm, _⟩ := measured.start now room held
      exact ⟨f, List.mem_append_left _ member, reads, warm, fun shut => by cases shut⟩
    · exact ⟨e, by simp, Option.some.inj open_, stretch_here idle⟩
  | some since =>
    dsimp only
    split
    next => exact ⟨fun _ _ held => (by cases held), fun _ open_ => (by cases open_)⟩
    next =>
      refine ⟨fun now room held => ?_, fun now open_ => ?_⟩
      · obtain ⟨f, member, reads, warm, _⟩ := measured.start now room held
        exact ⟨f, List.mem_append_left _ member, reads, warm,
          fun shut => by rw [clear] at shut; cases shut⟩
      · obtain ⟨f, member, reads, stretch⟩ := measured.clear now open_
        exact ⟨f, List.mem_append_left _ member, reads, stretch.append idle⟩

theorem measured_step (measured : Measured cfg past s)
    (steady : Steady cfg past (Trace.Step.of (failureStep cfg) s t)) :
    Measured cfg (past ++ [Trace.Step.of (failureStep cfg) s t]) (failureStep cfg s t).1 := by
  obtain ⟨ordered, resumes⟩ := steady
  have same : s.reanchor t = s := reanchor_measured measured ordered
  have input : (Trace.Step.of (failureStep cfg) s t).input = t := rfl
  have pre : (Trace.Step.of (failureStep cfg) s t).pre = s := rfl
  simp only [ResumesInWindow, input, pre] at resumes
  simp only [failureStep, HeatingFailureDetector.update, same]
  generalize Trace.Step.of (failureStep cfg) s t = e at input
  subst input
  cases demand : e.input.demand cfg with
  | true =>
    refine measured.underDemand demand fun standing => ?_
    rw [← Option.isSome_iff_ne_none] at standing
    simpa [demand, standing] using resumes
  | false => exact measured.noDemand demand

/-- What an update may do to the verdict. -/
inductive VerdictMove (cfg : FailureConfig) (s : HeatingFailureDetector) (t : FailureTick) :
    Prop
  | keeps (same : (s.update cfg t).failed = s.failed)
  | judges {startH room0 : ℚ} (demand : t.demand cfg = true)
      (start : s.start = some (startH, room0)) (long : cfg.delayH ≤ t.nowH - startH)
      (verdict : (s.update cfg t).failed = decide (t.room - room0 < cfg.minRise))
  | forgets {since : ℚ} (idle : t.demand cfg = false) (clear : s.clearStart = some since)
      (long : cfg.delayH ≤ t.nowH - since) (verdict : (s.update cfg t).failed = false)

theorem update_move (steadyClock : s.reanchor t = s) : VerdictMove cfg s t := by
  cases demand : t.demand cfg with
  | true =>
    have updates : s.update cfg t = s.underDemand cfg t := by
      simp [HeatingFailureDetector.update, demand, steadyClock]
    cases start : s.start with
    | none => exact .keeps (by simp [updates, HeatingFailureDetector.underDemand, start])
    | some anchor =>
      by_cases long : cfg.delayH ≤ t.nowH - anchor.1
      · exact .judges demand start long
          (by simp [updates, HeatingFailureDetector.underDemand, start, long])
      · exact .keeps (by simp [updates, HeatingFailureDetector.underDemand, start, long])
  | false =>
    have updates : s.update cfg t = s.noDemand cfg t := by
      simp [HeatingFailureDetector.update, demand, steadyClock]
    cases clear : s.clearStart with
    | none => exact .keeps (by simp [updates, HeatingFailureDetector.noDemand, clear])
    | some since =>
      by_cases long : cfg.delayH ≤ t.nowH - since
      · exact .forgets demand clear long
          (by simp [updates, HeatingFailureDetector.noDemand, clear, long])
      · exact .keeps (by simp [updates, HeatingFailureDetector.noDemand, clear, long])

end Keep

/-! ### Whole runs -/

section Run

variable {cfg : FailureConfig} {ticks : List FailureTick} {past : List FailureTrace}
  {e : FailureTrace}

theorem measured_initial : Measured cfg [] {} :=
  ⟨fun _ _ held => (by cases held), fun _ open_ => (by cases open_)⟩

/-- A judged verdict comes with its demand window. -/
theorem judged_window {startH room0 : ℚ} (measured : Measured cfg past e.pre)
    (steady : ¬ResumesInWindow cfg e) (demand : e.input.demand cfg = true)
    (start : e.pre.start = some (startH, room0)) (long : cfg.delayH ≤ e.input.nowH - startH) :
    ∃ f, UniformWindow cfg true past f e ∧ f.input.room = room0 := by
  obtain ⟨f, _, rfl, warm, stretch⟩ := measured.start startH room0 start
  have shut : e.pre.clearStart = none := by simpa [ResumesInWindow, demand, start] using steady
  exact ⟨f, ⟨stretch shut, demand, long⟩, warm⟩

/-- In every run on a clock that does not run back and in which no demand resumes inside
a standing window, each verdict has its window. -/
theorem failure_sound (cfg : FailureConfig) (ticks : List FailureTick)
    (ordered : ticks.Pairwise (·.nowH ≤ ·.nowH))
    (steady : ∀ e ∈ failureRun cfg ticks, ¬ResumesInWindow cfg e) :
    FailureSound cfg (failureRun cfg ticks) := by
  have moments : ∀ past e, past ++ [e] <+: failureRun cfg ticks → Steady cfg past e :=
    fun past e moment => ⟨Trace.pairwise_past (failureStep cfg) ordered moment,
      steady e (Trace.mem_of_moment _ moment)⟩
  have anchors : ∀ past e, past ++ [e] <+: failureRun cfg ticks → Measured cfg past e.pre :=
    fun past e moment => Trace.history_at (failureStep cfg) (Measured cfg) (Steady cfg)
      measured_initial (fun _ _ _ measured steady => measured_step measured steady) moments moment
  have moves : ∀ past e, past ++ [e] <+: failureRun cfg ticks →
      e.post = e.pre.update cfg e.input ∧ VerdictMove cfg e.pre e.input := by
    intro past e moment
    have stepped := Trace.step_of_mem _ (Trace.mem_of_moment _ moment)
    exact ⟨congrArg Trace.Step.post stepped,
      update_move (reanchor_measured (anchors past e moment) (moments past e moment).1)⟩
  constructor
  · intro past e moment calm failed
    obtain ⟨post, move⟩ := moves past e moment
    rw [post] at failed
    cases move with
    | keeps same => simp [same, calm] at failed
    | judges demand start long verdict =>
      obtain ⟨f, window, warm⟩ := judged_window (anchors past e moment)
        (moments past e moment).2 demand start long
      rw [verdict, decide_eq_true_eq, ← warm] at failed
      exact ⟨f, window, failed⟩
    | forgets _ _ _ verdict => simp [verdict] at failed
  · intro past e moment failed calm
    obtain ⟨post, move⟩ := moves past e moment
    rw [post] at calm
    cases move with
    | keeps same => simp [same, failed] at calm
    | judges demand start long verdict =>
      obtain ⟨f, window, warm⟩ := judged_window (anchors past e moment)
        (moments past e moment).2 demand start long
      rw [verdict, decide_eq_false_iff_not, ← warm, not_lt] at calm
      exact ⟨f, .inl ⟨window, calm⟩⟩
    | forgets idle clear long _ =>
      obtain ⟨f, _, rfl, stretch⟩ := (anchors past e moment).clear _ clear
      exact ⟨f, .inr ⟨stretch, idle, long⟩⟩

/-- The cooling detector is the heating detector of the mirrored ticks. -/
theorem coolingFailure_final (s : HeatingFailureDetector) (ticks : List FailureTick) :
    ticks.foldl (coolingFailureUpdate cfg) s =
      Trace.final (failureStep cfg) s (ticks.map FailureTick.mirrored) := by
  induction ticks generalizing s with
  | nil => rfl
  | cons t ticks ih => exact ih _

end Run

/-! ### A pause inside the window -/

/-- A room at 18 °C under a setpoint of 21 °C. -/
def flatTick (nowH : ℚ) (running : Bool) : FailureTick := ⟨nowH, 18, 21, running⟩

/-- Heating, a pause six minutes later, heating again half an hour after that. -/
def pausedHeating : List FailureTick :=
  [flatTick 0 true, flatTick (1 / 10) false, flatTick (3 / 5) true]

theorem pausedHeating_unsound :
    pausedHeating.Pairwise (·.nowH ≤ ·.nowH) ∧
      ¬FailureSound {} (failureRun {} pausedHeating) := by
  refine ⟨by decide +kernel, fun sound => ?_⟩
  let first := Trace.Step.of (failureStep {}) {} (flatTick 0 true)
  let pause := Trace.Step.of (failureStep {}) first.post (flatTick (1 / 10) false)
  let resumed := Trace.Step.of (failureStep {}) pause.post (flatTick (3 / 5) true)
  obtain ⟨f, window, _⟩ := sound.raises ([first] ++ [pause]) resumed List.prefix_rfl
    (by decide +kernel) (by decide +kernel)
  have paused : pause.input.demand {} = true := window.stretch.newest
  exact absurd paused (by decide +kernel)

/-- The same room under one uninterrupted demand. -/
def steadyHeating : List FailureTick :=
  [flatTick 0 true, flatTick (1 / 10) true, flatTick (3 / 5) true]

theorem steadyHeating_sound : FailureSound {} (failureRun {} steadyHeating) :=
  failure_sound {} steadyHeating (by decide +kernel) (by decide +kernel)

end Poise
