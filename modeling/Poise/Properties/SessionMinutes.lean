import Poise.Properties.OutcomeSessions
import Mathlib.Tactic.Linarith

/-!
# The minutes of a session

The fold credits one capped interval to the open session and to the savings estimate. A scored
session's minutes are therefore no more than the real time between its first and its last tick, and
they are the minutes the estimate was credited meanwhile.
-/
namespace Poise

open Trace

variable {hcfg : HdhConfig} {tickMin : ℚ}

abbrev OutcomeMoment := Step OutcomeRuntime OutcomeTick (Option FinishedSession)

/-- The session's view of a recorded tick. -/
def creditedTick (tickMin : ℚ) (e : OutcomeMoment) : SessionTick :=
  e.input.booked (cappedElapsedMin e.pre.hdhLastMono e.input.now tickMin)

/-- A tick with a heating gradient, in the month of `f`. -/
def HeatingContext (f g : OutcomeMoment) : Prop :=
  g.input.outdoor < g.input.comfortBase ∧ g.input.month = f.input.month

/-- No more than two ticks passed since the last one. -/
def Punctual (tickMin : ℚ) (g : OutcomeMoment) : Prop :=
  ∀ last, g.pre.hdhLastMono = some last → (g.input.now - last) / 60 ≤ 2 * tickMin

/-- What the scored session from `f` to `e` was credited. -/
structure Credited (tickMin : ℚ) (f : OutcomeMoment) (inside : List OutcomeMoment)
    (e : OutcomeMoment) (s : HeatingSession) : Prop where
  followed : s =
    ⟨creditedTick tickMin f, inside.map (creditedTick tickMin), creditedTick tickMin e⟩
  lawful : s.Lawful {}
  scored : s.report {} = e.output
  longEnough : 3 ≤ s.minutes
  real : s.minutes ≤ (e.input.now - f.input.now) / 60
  punctual : (∀ g ∈ inside ++ [e], Punctual tickMin g) →
    s.minutes = (e.input.now - f.input.now) / 60
  eligible : e.post.hdh.eligibleMin ≤ f.post.hdh.eligibleMin + s.minutes
  heated : (∀ g ∈ inside ++ [e], HeatingContext f g) →
    e.post.hdh.eligibleMin = f.post.hdh.eligibleMin + s.minutes

/-! ### The open session -/

/-- Since `f` the session is open, and this is all the machine knows of it. -/
structure OpenSince (tickMin : ℚ) (past : List OutcomeMoment) (rt : OutcomeRuntime)
    (f : OutcomeMoment) (inside : List OutcomeMoment) : Prop where
  split : ∃ before, past = before ++ f :: inside
  starts : StartsSession {} (creditedTick tickMin f)
  goesOn : GoesOn {} (creditedTick tickMin f) (inside.map (creditedTick tickMin))
  session : rt.outcomeSession =
    running (creditedTick tickMin f) (inside.map (creditedTick tickMin))

def FollowsSession (tickMin : ℚ) (past : List OutcomeMoment) (rt : OutcomeRuntime) : Prop :=
  rt.outcomeSession = {} ∨ ∃ f inside, OpenSince tickMin past rt f inside

theorem fold_outcome (rt : OutcomeRuntime) (t : OutcomeTick) :
    ((rt.fold hcfg tickMin t).1.outcomeSession, (rt.fold hcfg tickMin t).2) =
      observeSession {} rt.outcomeSession
        (creditedTick tickMin (Step.of (OutcomeRuntime.fold hcfg tickMin) rt t)) := rfl

theorem followsSession_step {past : List OutcomeMoment} {rt : OutcomeRuntime} (t : OutcomeTick)
    (follows : FollowsSession tickMin past rt) :
    FollowsSession tickMin (past ++ [Step.of (OutcomeRuntime.fold hcfg tickMin) rt t])
      (rt.fold hcfg tickMin t).1 := by
  have outcome := @fold_outcome hcfg tickMin rt t
  set e := Step.of (OutcomeRuntime.fold hcfg tickMin) rt t with here
  rcases follows with idle | ⟨f, inside, since⟩
  · rw [idle] at outcome
    by_cases starts : StartsSession {} (creditedTick tickMin e)
    · rw [observe_starts starts] at outcome
      refine .inr ⟨e, [], ⟨past, rfl⟩, starts, ?_, (Prod.mk.inj outcome).1⟩
      intro early u within
      exact absurd (List.prefix_nil.mp within) (by simp)
    · rw [observe_quiet starts] at outcome
      exact .inl (Prod.mk.inj outcome).1
  · rw [since.session, observe_running] at outcome
    split_ifs at outcome with prolongs
    · obtain ⟨before, rfl⟩ := since.split
      refine .inr ⟨f, inside ++ [e], ⟨before, by simp⟩, since.starts, ?_, ?_⟩
      · rw [List.map_append]
        exact goesOn_snoc.mpr ⟨since.goesOn, prolongs⟩
      · rw [List.map_append]
        exact (Prod.mk.inj outcome).1
    · exact .inl (Prod.mk.inj outcome).1

/-- A session is scored only if it was open, and then it is the one that was. -/
theorem openSince_of_scored {ts : List OutcomeTick} {past : List OutcomeMoment} {e : OutcomeMoment}
    {finished : FinishedSession}
    (moment : past ++ [e] <+: trace (OutcomeRuntime.fold hcfg tickMin) {} ts)
    (scored : e.output = some finished) :
    ∃ f inside, OpenSince tickMin past e.pre f inside ∧
      endedBy {} (creditedTick tickMin f) (inside.map (creditedTick tickMin))
        (creditedTick tickMin e) ≠ none ∧
      (HeatingSession.mk (creditedTick tickMin f) (inside.map (creditedTick tickMin))
        (creditedTick tickMin e)).report {} = some finished := by
  have follows : FollowsSession tickMin past e.pre :=
    history_of_moment (OutcomeRuntime.fold hcfg tickMin) (FollowsSession tickMin) (.inl rfl)
      (fun _ _ t => followsSession_step t) moment
  have here := step_of_mem (OutcomeRuntime.fold hcfg tickMin)
    (mem_of_moment (OutcomeRuntime.fold hcfg tickMin) moment)
  have outcome := @fold_outcome hcfg tickMin e.pre e.input
  rw [← here, show (e.pre.fold hcfg tickMin e.input).2 = e.output by rw [here]; rfl,
    scored] at outcome
  rcases follows with idle | ⟨f, inside, since⟩
  · rw [idle] at outcome
    by_cases starts : StartsSession {} (creditedTick tickMin e)
    · rw [observe_starts starts] at outcome
      exact absurd (Prod.mk.inj outcome).2 nofun
    · rw [observe_quiet starts] at outcome
      exact absurd (Prod.mk.inj outcome).2 nofun
  · rw [since.session, observe_running] at outcome
    split_ifs at outcome with prolongs
    · exact absurd (Prod.mk.inj outcome).2 nofun
    · exact ⟨f, inside, since, prolongs, (Prod.mk.inj outcome).2.symm⟩

/-! ### The minutes of a run -/

theorem fold_last (rt : OutcomeRuntime) (t : OutcomeTick) :
    (rt.fold hcfg tickMin t).1.hdhLastMono = some t.now := rfl

theorem creditedTick_dt (e : OutcomeMoment) :
    (creditedTick tickMin e).dtMin = cappedElapsedMin e.pre.hdhLastMono e.input.now tickMin := rfl

theorem bookedMinutes_cons (t : SessionTick) (later : List SessionTick) :
    bookedMinutes (t :: later) = t.dtMin + bookedMinutes later := by
  simp [bookedMinutes]

/-- A tick books at most the interval since the last one, and all of it when it is punctual. -/
theorem credited_step {rt : OutcomeRuntime} {last : ℚ} (known : rt.hdhLastMono = some last)
    {t : OutcomeTick} (after : last ≤ t.now) :
    cappedElapsedMin rt.hdhLastMono t.now tickMin ≤ (t.now - last) / 60 ∧
      (Punctual tickMin (Step.of (OutcomeRuntime.fold hcfg tickMin) rt t) →
        cappedElapsedMin rt.hdhLastMono t.now tickMin = (t.now - last) / 60) := by
  have interval : 0 ≤ (t.now - last) / 60 := by linarith
  have sixty : (60.0 : ℚ) = 60 := by norm_num
  have two : (2.0 : ℚ) = 2 := by norm_num
  simp only [cappedElapsedMin, known, sixty, two, max_eq_left interval]
  exact ⟨min_le_left _ _, fun punctual => min_eq_left (punctual last known)⟩

/-- The credited minutes of a run never exceed the real ones, and are these in a punctual run. -/
theorem credited_real {rt : OutcomeRuntime} {last : ℚ} (known : rt.hdhLastMono = some last)
    {js : List OutcomeTick} (j : OutcomeTick) (ordered : (js ++ [j]).Pairwise (·.now ≤ ·.now))
    (later : ∀ t ∈ js ++ [j], last ≤ t.now) :
    bookedMinutes ((trace (OutcomeRuntime.fold hcfg tickMin) rt (js ++ [j])).map
        (creditedTick tickMin)) ≤ (j.now - last) / 60 ∧
      ((∀ g ∈ trace (OutcomeRuntime.fold hcfg tickMin) rt (js ++ [j]), Punctual tickMin g) →
        bookedMinutes ((trace (OutcomeRuntime.fold hcfg tickMin) rt (js ++ [j])).map
          (creditedTick tickMin)) = (j.now - last) / 60) := by
  induction js generalizing rt last with
  | nil =>
    obtain ⟨bound, exact⟩ := @credited_step hcfg tickMin rt last known j (later j (by simp))
    simp only [List.nil_append, trace, List.map_cons, List.map_nil, bookedMinutes_cons,
      creditedTick_dt, Step.of_pre, Step.of_input]
    simp only [bookedMinutes, List.map_nil, List.sum_nil, add_zero, List.mem_singleton,
      forall_eq]
    exact ⟨bound, exact⟩
  | cons t js ih =>
    rw [List.cons_append, List.pairwise_cons] at ordered
    obtain ⟨bound, exact⟩ := @credited_step hcfg tickMin rt last known t (later t (by simp))
    obtain ⟨rest, whole⟩ := ih (@fold_last hcfg tickMin rt t) ordered.2 ordered.1
    simp only [List.cons_append, trace, List.map_cons, bookedMinutes_cons, creditedTick_dt,
      Step.of_pre, Step.of_input, List.forall_mem_cons]
    constructor
    · linarith
    · rintro ⟨now, then_⟩
      rw [exact now, whole then_]
      ring

/-! ### The savings estimate -/

theorem credited_nonneg (tick : 0 ≤ tickMin) (e : OutcomeMoment) :
    0 ≤ (creditedTick tickMin e).dtMin := by
  rw [creditedTick_dt]
  unfold cappedElapsedMin
  split
  · exact tick
  · exact le_min (le_max_right _ _) (by linarith)

theorem eligible_step (tick : 0 ≤ tickMin) {rt : OutcomeRuntime} (t : OutcomeTick)
    (nonneg : 0 ≤ rt.hdh.eligibleMin) :
    let e := Step.of (OutcomeRuntime.fold hcfg tickMin) rt t
    0 ≤ e.post.hdh.eligibleMin ∧ e.post.hdh.month = some t.month ∧
      e.post.hdh.eligibleMin ≤ rt.hdh.eligibleMin + (creditedTick tickMin e).dtMin ∧
      (t.outdoor < t.comfortBase → rt.hdh.month = some t.month →
        e.post.hdh.eligibleMin = rt.hdh.eligibleMin + (creditedTick tickMin e).dtMin) := by
  intro e
  have credit := @credited_nonneg tickMin tick e
  have base : 0 ≤ (rt.hdh.base t.month).eligibleMin ∧
      (rt.hdh.base t.month).eligibleMin ≤ rt.hdh.eligibleMin := by
    unfold HdhSavings.base
    split_ifs
    · exact ⟨nonneg, le_refl _⟩
    · exact ⟨le_refl _, nonneg⟩
  have post : e.post.hdh = rt.hdh.observe hcfg t.comfortBase t.heatSp t.outdoor
      (creditedTick tickMin e).dtMin t.month := rfl
  rw [post]
  unfold HdhSavings.observe
  split_ifs with cold
  · refine ⟨base.1, rfl, by simp only; linarith [base.2], ?_⟩
    intro gradient
    exact absurd cold (not_le.mpr gradient)
  · refine ⟨by simp only; linarith [base.1], rfl, by simp only; linarith [base.2], ?_⟩
    intro _ month
    simp only [HdhSavings.base, month, or_true, if_true]

/-- The minutes a run adds to the estimate. -/
theorem eligible_run (tick : 0 ≤ tickMin) {rt : OutcomeRuntime} (nonneg : 0 ≤ rt.hdh.eligibleMin)
    (js : List OutcomeTick) :
    let credited := bookedMinutes ((trace (OutcomeRuntime.fold hcfg tickMin) rt js).map
      (creditedTick tickMin))
    let after := (final (OutcomeRuntime.fold hcfg tickMin) rt js).hdh
    after.eligibleMin ≤ rt.hdh.eligibleMin + credited ∧
      ((∀ t ∈ js, t.outdoor < t.comfortBase ∧ rt.hdh.month = some t.month) →
        after.eligibleMin = rt.hdh.eligibleMin + credited) := by
  induction js generalizing rt with
  | nil => simp [final, trace, bookedMinutes]
  | cons t js ih =>
    obtain ⟨later, month, bound, exact⟩ := @eligible_step hcfg tickMin tick rt t nonneg
    simp only [Step.of_post] at later month bound exact
    obtain ⟨rest, whole⟩ := ih later
    simp only [trace, List.map_cons, bookedMinutes_cons, final, List.forall_mem_cons]
    constructor
    · linarith
    · rintro ⟨⟨gradient, same⟩, all⟩
      rw [whole fun u member => ⟨(all u member).1, month.trans (same.symm.trans (all u member).2)⟩,
        exact gradient same]
      ring

/-! ### A scored session -/

theorem minutes_of_report {s : HeatingSession} {finished : FinishedSession}
    (report : s.report {} = some finished) : 3 ≤ s.minutes := by
  unfold HeatingSession.report at report
  obtain ⟨reason, -, told⟩ := Option.bind_eq_some_iff.mp report
  have three : ({} : ScoreConfig).minSessionMin = 3 := by norm_num
  rw [three] at told
  by_contra brief
  rw [if_pos (not_le.mp brief)] at told
  exact absurd told nofun

/-- The estimate after a tick of a run. -/
theorem eligible_of_mem (tick : 0 ≤ tickMin) {ts : List OutcomeTick} {f : OutcomeMoment}
    (member : f ∈ trace (OutcomeRuntime.fold hcfg tickMin) {} ts) :
    0 ≤ f.post.hdh.eligibleMin ∧ f.post.hdh.month = some f.input.month := by
  have nonneg := (invariant_of_mem (OutcomeRuntime.fold hcfg tickMin)
    (fun rt => 0 ≤ rt.hdh.eligibleMin) (le_refl _)
    (fun rt t kept => (@eligible_step hcfg tickMin tick rt t kept).1) member).1
  obtain ⟨kept, month, -, -⟩ := @eligible_step hcfg tickMin tick f.pre f.input nonneg
  rw [← step_of_mem (OutcomeRuntime.fold hcfg tickMin) member] at kept month
  exact ⟨kept, month⟩

/-- A scored session is credited no more than real minutes, which are those of the estimate. -/
theorem session_credits_its_minutes (tick : 0 ≤ tickMin) {ts : List OutcomeTick}
    (ordered : ts.Pairwise (·.now ≤ ·.now)) {past : List OutcomeMoment} {e : OutcomeMoment}
    (moment : past ++ [e] <+: trace (OutcomeRuntime.fold hcfg tickMin) {} ts)
    {finished : FinishedSession} (scored : e.output = some finished) :
    ∃ before f inside s, past = before ++ f :: inside ∧ Credited tickMin f inside e s := by
  obtain ⟨f, inside, since, ends, report⟩ := openSince_of_scored moment scored
  obtain ⟨before, rfl⟩ := since.split
  -- from the opening on, the record is a run of its own
  obtain ⟨js, j, between, closing⟩ :=
    (between_trace (OutcomeRuntime.fold hcfg tickMin) moment).2
  have run : inside ++ [e] =
      trace (OutcomeRuntime.fold hcfg tickMin) f.post (js ++ [j]) := by
    rw [trace_append, ← between, closing]
    rfl
  have last : e.input = j := by rw [closing, Step.of_input]
  have after : e.post = final (OutcomeRuntime.fold hcfg tickMin) f.post (js ++ [j]) := by
    rw [closing, Step.of_post, final_append]
    rfl
  have opened := eligible_of_mem tick (moment.subset (by simp : f ∈ before ++ f :: inside ++ [e]))
  have sorted : (f.input :: (js ++ [j])).Pairwise (·.now ≤ ·.now) := by
    have inputs := moment.map Step.input
    rw [trace_map_input, List.append_assoc, List.cons_append, run, List.map_append,
      List.map_cons, trace_map_input] at inputs
    exact ordered.sublist ((List.sublist_append_right _ _).trans inputs.sublist)
  rw [List.pairwise_cons] at sorted
  have known : f.post.hdhLastMono = some f.input.now := by
    rw [(between_trace (OutcomeRuntime.fold hcfg tickMin) moment).1]
    rfl
  obtain ⟨real, punctual⟩ := @credited_real hcfg tickMin f.post f.input.now known js j sorted.2
    sorted.1
  obtain ⟨eligible, heated⟩ := @eligible_run hcfg tickMin tick f.post opened.1 (js ++ [j])
  set s : HeatingSession :=
    ⟨creditedTick tickMin f, inside.map (creditedTick tickMin), creditedTick tickMin e⟩ with here
  have minutes : s.minutes = bookedMinutes ((trace (OutcomeRuntime.fold hcfg tickMin) f.post
      (js ++ [j])).map (creditedTick tickMin)) := by
    rw [← run, List.map_append]
    rfl
  rw [← minutes] at real punctual eligible heated
  refine ⟨before, f, inside, s, rfl, here, ⟨since.starts, since.goesOn, ends⟩,
    report.trans scored.symm, minutes_of_report report, ?_, ?_, ?_, ?_⟩
  · rw [last]
    exact real
  · rw [last, run]
    exact punctual
  · rw [after]
    exact eligible
  · rw [after, run]
    intro context
    refine heated fun t member => ?_
    rw [← trace_map_input (OutcomeRuntime.fold hcfg tickMin) f.post (js ++ [j])] at member
    obtain ⟨g, inside, rfl⟩ := List.mem_map.mp member
    obtain ⟨gradient, month⟩ := context g inside
    exact ⟨gradient, by rw [opened.2, month]⟩

/-! ### A heat-up -/

def warmUpTick (minute room : ℚ) : OutcomeTick where
  now := 60 * minute
  month := 1
  room := room
  heatSp := 21
  comfortBase := 21
  outdoor := 5
  heating := true
  expectedMinutes := 10

theorem warm_up_is_credited :
    let run := trace (OutcomeRuntime.fold {} 1) {}
      [warmUpTick 0 18, warmUpTick 2 19, warmUpTick 4 20]
    let e := Step.of (OutcomeRuntime.fold {} 1)
      (final (OutcomeRuntime.fold {} 1) {} [warmUpTick 0 18, warmUpTick 2 19, warmUpTick 4 20])
      (warmUpTick 6 21)
    e.output = some ⟨1, .ts⟩ ∧
      ∃ before f inside s, run = before ++ f :: inside ∧ Credited 1 f inside e s :=
  ⟨by decide +kernel, @session_credits_its_minutes {} 1 (by decide +kernel)
    [warmUpTick 0 18, warmUpTick 2 19, warmUpTick 4 20, warmUpTick 6 21] (by decide +kernel) _ _
    List.prefix_rfl ⟨1, .ts⟩ (by decide +kernel)⟩

end Poise
