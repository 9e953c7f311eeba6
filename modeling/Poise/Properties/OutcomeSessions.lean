import Poise.Diagnostics.HdhSavings
import Poise.Foundation.Excursions
import Mathlib.Algebra.BigOperators.Group.List.Basic

/-!
# The sessions of a run

The scoring machine sees one tick at a time. What it makes of a whole run: every tick belongs to
exactly one stretch, a quiet tick or a session from its opening to its end, and the machine reports
of each session what the whole of it gives.
-/
namespace Poise

open Trace

variable {cfg : ScoreConfig}

/-! ### Sessions as they happened -/

/-- A heating demand that opens a session. -/
def StartsSession (cfg : ScoreConfig) (t : SessionTick) : Prop :=
  t.heating = true ∧ cfg.startDelta < t.target - t.temp

/-- The minutes that ticks credit. -/
def bookedMinutes (ticks : List SessionTick) : ℚ := (ticks.map (·.dtMin)).sum

def peakOf (start : ℚ) (ticks : List SessionTick) : ℚ :=
  ticks.foldl (fun peak t => max peak t.temp) start

/-- Why `t` ends the session that opened with `opening` and went on with `past`, if it does. -/
def endedBy (cfg : ScoreConfig) (opening : SessionTick) (past : List SessionTick)
    (t : SessionTick) : Option EndReason :=
  sessionEndReason cfg t.temp opening.target (bookedMinutes (past ++ [t])) t.heating

/-- Ticks under which the session stays open. -/
def GoesOn (cfg : ScoreConfig) (opening : SessionTick) (inside : List SessionTick) : Prop :=
  ∀ past t, past ++ [t] <+: inside → endedBy cfg opening past t = none

/-- The first tick of a session, those it went on with, and the one that ended it. -/
structure HeatingSession where
  opening : SessionTick
  inside : List SessionTick
  closing : SessionTick

namespace HeatingSession

def ticks (s : HeatingSession) : List SessionTick := s.opening :: s.inside ++ [s.closing]

def minutes (s : HeatingSession) : ℚ := bookedMinutes (s.inside ++ [s.closing])

structure Lawful (cfg : ScoreConfig) (s : HeatingSession) : Prop where
  starts : StartsSession cfg s.opening
  goesOn : GoesOn cfg s.opening s.inside
  ends : endedBy cfg s.opening s.inside s.closing ≠ none

/-- What the whole session is scored by. -/
def scoreInput (s : HeatingSession) (reason : EndReason) : ScoreInput where
  reason := reason
  startTemp := s.opening.temp
  endTemp := s.closing.temp
  peakTemp := peakOf s.opening.temp (s.inside ++ [s.closing])
  target := s.opening.target
  minutesTaken := s.minutes
  expectedMinutes := max 0 s.opening.expectedMinutes
  qSolar := s.closing.qSolar
  weather := { outdoor := s.closing.outdoor }

def report (cfg : ScoreConfig) (s : HeatingSession) : Option FinishedSession :=
  (endedBy cfg s.opening s.inside s.closing).bind fun reason =>
    if s.minutes < cfg.minSessionMin then none
    else some
      { score := outcomeScore cfg (s.scoreInput reason)
        controller := if s.opening.controlling then .ts else .obs }

end HeatingSession

/-- A tick without a session, or a session. -/
inductive SessionStretch where
  | quiet (t : SessionTick)
  | session (s : HeatingSession)

namespace SessionStretch

def ticks : SessionStretch → List SessionTick
  | .quiet t => [t]
  | .session s => s.ticks

def Lawful (cfg : ScoreConfig) : SessionStretch → Prop
  | .quiet t => ¬ StartsSession cfg t
  | .session s => s.Lawful cfg

def report (cfg : ScoreConfig) : SessionStretch → Option FinishedSession
  | .quiet _ => none
  | .session s => s.report cfg

end SessionStretch

/-- A session that has not ended, or nothing. -/
def StillOpen (cfg : ScoreConfig) (tail : List SessionTick) : Prop :=
  tail = [] ∨ ∃ opening inside, tail = opening :: inside ∧ StartsSession cfg opening ∧
    GoesOn cfg opening inside

/-- How the ticks of a run divide into stretches. -/
structure SessionCut (cfg : ScoreConfig) (ticks : List SessionTick)
    (stretches : List SessionStretch) (tail : List SessionTick) : Prop where
  whole : ticks = stretches.flatMap SessionStretch.ticks ++ tail
  lawful : ∀ stretch ∈ stretches, stretch.Lawful cfg
  stillOpen : StillOpen cfg tail

/-! ### One tick -/

/-- The machine inside a session. -/
def running (opening : SessionTick) (past : List SessionTick) : OutcomeSession :=
  { OutcomeSession.started opening with
    peakTemp := peakOf opening.temp past
    elapsedMin := bookedMinutes past }

theorem running_nil (opening : SessionTick) : running opening [] = .started opening := rfl

theorem running_ne (opening : SessionTick) (past : List SessionTick) :
    running opening past ≠ {} := by
  intro same
  exact absurd (congrArg OutcomeSession.active same) nofun

theorem bookedMinutes_append (front back : List SessionTick) :
    bookedMinutes (front ++ back) = bookedMinutes front + bookedMinutes back := by
  simp [bookedMinutes]

theorem observe_quiet {t : SessionTick} (quiet : ¬ StartsSession cfg t) :
    observeSession cfg {} t = ({}, none) := by
  have unmet : ¬ (t.heating = true ∧ cfg.startDelta < t.target - t.temp) := quiet
  rw [observeSession, if_pos rfl, if_neg unmet]

theorem observe_starts {t : SessionTick} (starts : StartsSession cfg t) :
    observeSession cfg {} t = (running t [], none) := by
  have met : t.heating = true ∧ cfg.startDelta < t.target - t.temp := starts
  rw [observeSession, if_pos rfl, if_pos met, running_nil]

/-- A tick of an open session prolongs it or ends it. -/
theorem observe_running (opening : SessionTick) (past : List SessionTick) (t : SessionTick) :
    observeSession cfg (running opening past) t =
      if endedBy cfg opening past t = none then (running opening (past ++ [t]), none)
      else ({}, (HeatingSession.mk opening past t).report cfg) := by
  have elapsed : bookedMinutes past + t.dtMin = bookedMinutes (past ++ [t]) := by
    rw [bookedMinutes_append]
    simp [bookedMinutes]
  have peak : max (peakOf opening.temp past) t.temp = peakOf opening.temp (past ++ [t]) := by
    simp [peakOf]
  simp only [observeSession, running, OutcomeSession.started, Bool.true_eq_false, if_false,
    elapsed, peak, HeatingSession.report, HeatingSession.minutes, HeatingSession.scoreInput]
  unfold endedBy
  cases sessionEndReason cfg t.temp opening.target (bookedMinutes (past ++ [t])) t.heating with
  | none => rfl
  | some reason =>
    simp only [reduceCtorEq, if_false, Option.bind_some]
    by_cases brief : bookedMinutes (past ++ [t]) < cfg.minSessionMin
    · simp only [brief, if_true]
    · simp only [brief, if_false]

theorem goesOn_snoc {opening t : SessionTick} {inside : List SessionTick} :
    GoesOn cfg opening (inside ++ [t]) ↔
      GoesOn cfg opening inside ∧ endedBy cfg opening inside t = none := by
  constructor
  · intro all
    exact ⟨fun past s within => all past s (within.trans (List.prefix_append _ _)),
      all inside t (List.prefix_refl _)⟩
  · rintro ⟨early, last⟩ past s within
    rcases List.prefix_concat_iff.mp within with whole | part
    · obtain ⟨rfl, same⟩ := List.append_inj' whole rfl
      obtain rfl := (List.cons.inj same).1
      exact last
    · exact early past s part

/-- A session that goes on reports nothing. -/
theorem run_inside {opening : SessionTick} {inside : List SessionTick}
    (goesOn : GoesOn cfg opening inside) :
    final (observeSession cfg) (running opening []) inside = running opening inside ∧
      ∀ e ∈ trace (observeSession cfg) (running opening []) inside, e.output = none := by
  induction inside using List.reverseRecOn with
  | nil => simp [final, trace]
  | append_singleton inside t ih =>
    obtain ⟨early, last⟩ := goesOn_snoc.mp goesOn
    obtain ⟨here, silent⟩ := ih early
    have step := @observe_running cfg opening inside t
    rw [if_pos last] at step
    constructor
    · rw [final_append, here]
      simp only [final, step]
    · intro e member
      rw [trace_append, here, List.mem_append] at member
      rcases member with old | new
      · exact silent e old
      · simp only [trace, List.mem_singleton] at new
        rw [new, Step.of_output, step]

/-! ### Stretches are excursions -/

theorem HeatingSession.Lawful.run {s : HeatingSession} (lawful : s.Lawful cfg) :
    final (observeSession cfg) {} s.ticks = {} ∧
      (trace (observeSession cfg) {} s.ticks).filterMap Step.output = (s.report cfg).toList := by
  obtain ⟨here, silent⟩ := run_inside lawful.goesOn
  have opened := observe_starts lawful.starts
  have closed := @observe_running cfg s.opening s.inside s.closing
  rw [if_neg lawful.ends] at closed
  have quietly : (trace (observeSession cfg) (running s.opening []) s.inside).filterMap
      Step.output = [] := List.filterMap_eq_nil_iff.mpr silent
  constructor
  · simp only [ticks, List.cons_append, final, opened, final_append, here, closed]
  · simp only [ticks, List.cons_append, trace, opened, List.filterMap_cons, Step.of_output,
      trace_append, List.filterMap_append, here, closed, quietly, List.filterMap_nil,
      List.nil_append]
    cases s.report cfg <;> rfl

/-- Inside a session the machine is away from the base. -/
theorem away_inside {opening : SessionTick} {inside : List SessionTick}
    (starts : StartsSession cfg opening) (goesOn : GoesOn cfg opening inside) :
    Away (observeSession cfg) {} (opening :: inside) := by
  intro early nonempty within
  cases early with
  | nil => exact absurd rfl nonempty
  | cons first early =>
    obtain ⟨rfl, part⟩ := List.cons_prefix_cons.mp within
    have partly : GoesOn cfg first early := fun past t inside' => goesOn past t (inside'.trans part)
    simp only [final, observe_starts starts, (run_inside partly).1]
    exact running_ne first early

theorem excursion_of_lawful {stretch : SessionStretch} (lawful : stretch.Lawful cfg) :
    Excursion (observeSession cfg) {} stretch.ticks := by
  cases stretch with
  | quiet t =>
    refine ⟨by simp [SessionStretch.ticks], ?_, ?_⟩
    · simp only [SessionStretch.ticks, final, observe_quiet lawful]
    · intro early nonempty within _
      rcases List.prefix_concat_iff.mp (show early <+: [] ++ [t] from within) with all | part
      · exact all
      · exact absurd (List.prefix_nil.mp part) nonempty
  | session s =>
    have lawful : s.Lawful cfg := lawful
    refine ⟨by simp [SessionStretch.ticks, HeatingSession.ticks], lawful.run.1, ?_⟩
    intro early nonempty within back
    rcases List.prefix_concat_iff.mp (show early <+: (s.opening :: s.inside) ++ [s.closing] from
      within) with all | part
    · exact all
    · exact absurd back (away_inside lawful.starts lawful.goesOn early nonempty part)

/-- Ticks that never lead back are an open session. -/
theorem stillOpen_of_away {tail : List SessionTick} (away : Away (observeSession cfg) {} tail) :
    StillOpen cfg tail := by
  cases tail with
  | nil => exact .inl rfl
  | cons opening inside =>
    have starts : StartsSession cfg opening := by
      by_contra quiet
      refine away [opening] (by simp) (by simp) ?_
      simp only [final, observe_quiet quiet]
    refine .inr ⟨opening, inside, rfl, starts, ?_⟩
    induction inside using List.reverseRecOn with
    | nil =>
      intro past t within
      exact absurd (List.prefix_nil.mp within) (by simp)
    | append_singleton inside t ih =>
      have early := ih fun front nonempty within => away front nonempty
        (within.trans (List.prefix_append (opening :: inside) [t]))
      refine goesOn_snoc.mpr ⟨early, ?_⟩
      by_contra ends
      refine away (opening :: (inside ++ [t])) (by simp) (List.prefix_refl _) ?_
      simp only [final, observe_starts starts, final_append, (run_inside early).1,
        observe_running, if_neg ends]

theorem lawful_of_excursion {piece : List SessionTick}
    (excursion : Excursion (observeSession cfg) {} piece) :
    ∃ stretch : SessionStretch, stretch.Lawful cfg ∧ stretch.ticks = piece := by
  obtain ⟨front, last, rfl⟩ : ∃ front last, piece = front ++ [last] := by
    rcases piece.eq_nil_or_concat with none | ⟨front, last, whole⟩
    · exact absurd none excursion.nonempty
    · exact ⟨front, last, by rw [whole, List.concat_eq_append]⟩
  have away : Away (observeSession cfg) {} front := by
    intro early nonempty within back
    have all := excursion.first early nonempty (within.trans (List.prefix_append _ _)) back
    have short := within.length_le
    rw [all, List.length_append, List.length_singleton] at short
    omega
  have back := excursion.back
  rcases stillOpen_of_away away with rfl | ⟨opening, inside, rfl, starts, goesOn⟩
  · refine ⟨.quiet last, ?_, rfl⟩
    intro starts
    simp only [List.nil_append, final, observe_starts starts] at back
    exact running_ne last [] back
  · refine ⟨.session ⟨opening, inside, last⟩, ⟨starts, goesOn, ?_⟩, rfl⟩
    intro prolongs
    simp only [List.cons_append, final, observe_starts starts, final_append,
      (run_inside goesOn).1, observe_running, if_pos prolongs] at back
    exact running_ne opening (inside ++ [last]) back

/-! ### The cut of a run -/

theorem SessionStretch.ticks_injective {a b : SessionStretch} (same : a.ticks = b.ticks) :
    a = b := by
  cases a with
  | quiet t =>
    cases b with
    | quiet u => rw [(List.cons.inj same).1]
    | session s => exact absurd (congrArg List.length same) (by simp [ticks, HeatingSession.ticks])
  | session s =>
    cases b with
    | quiet u => exact absurd (congrArg List.length same) (by simp [ticks, HeatingSession.ticks])
    | session r =>
      obtain ⟨opening, later⟩ := List.cons.inj same
      obtain ⟨inside, closing⟩ := List.append_inj' later rfl
      obtain ⟨⟩ := s
      obtain ⟨⟩ := r
      simp_all

theorem SessionCut.cut {ticks tail : List SessionTick} {stretches : List SessionStretch}
    (cut : SessionCut cfg ticks stretches tail) :
    Cut (observeSession cfg) {} ticks (stretches.map SessionStretch.ticks) tail where
  whole := by rw [cut.whole, List.flatMap_def]
  excursions := by
    intro piece member
    obtain ⟨stretch, inside, rfl⟩ := List.mem_map.mp member
    exact excursion_of_lawful (cut.lawful stretch inside)
  away := by
    rcases cut.stillOpen with rfl | ⟨opening, inside, rfl, starts, goesOn⟩
    · exact cut_nil.away
    · exact away_inside starts goesOn

theorem exists_stretches {pieces : List (List SessionTick)}
    (excursions : ∀ piece ∈ pieces, Excursion (observeSession cfg) {} piece) :
    ∃ stretches : List SessionStretch, (∀ stretch ∈ stretches, stretch.Lawful cfg) ∧
      stretches.map SessionStretch.ticks = pieces := by
  induction pieces with
  | nil => exact ⟨[], by simp, rfl⟩
  | cons piece pieces ih =>
    obtain ⟨stretch, lawful, here⟩ := lawful_of_excursion (excursions piece (by simp))
    obtain ⟨stretches, all, there⟩ := ih fun other member => excursions other (by simp [member])
    refine ⟨stretch :: stretches, ?_, by rw [List.map_cons, here, there]⟩
    intro other member
    rcases List.mem_cons.mp member with rfl | later
    · exact lawful
    · exact all other later

theorem exists_sessionCut (cfg : ScoreConfig) (ticks : List SessionTick) :
    ∃ stretches tail, SessionCut cfg ticks stretches tail := by
  obtain ⟨pieces, tail, cut⟩ := exists_cut (observeSession cfg) {} ticks
  obtain ⟨stretches, lawful, rfl⟩ := exists_stretches cut.excursions
  exact ⟨stretches, tail, by rw [cut.whole, List.flatMap_def], lawful, stillOpen_of_away cut.away⟩

theorem SessionCut.unique {ticks tail tail' : List SessionTick}
    {stretches stretches' : List SessionStretch}
    (cut : SessionCut cfg ticks stretches tail) (cut' : SessionCut cfg ticks stretches' tail') :
    stretches = stretches' ∧ tail = tail' := by
  obtain ⟨same, rest⟩ := cut.cut.unique cut'.cut
  exact ⟨List.map_injective_iff.mpr (fun _ _ => SessionStretch.ticks_injective) same, rest⟩

theorem report_of_lawful {stretch : SessionStretch} (lawful : stretch.Lawful cfg) :
    (trace (observeSession cfg) {} stretch.ticks).filterMap Step.output =
      (stretch.report cfg).toList := by
  cases stretch with
  | quiet t =>
    simp only [SessionStretch.ticks, trace, List.filterMap_cons, Step.of_output,
      observe_quiet lawful, List.filterMap_nil]
    rfl
  | session s => exact HeatingSession.Lawful.run lawful |>.2

/-- The machine reports the sessions of the cut, each by what the whole of it gives. -/
theorem SessionCut.reports {ticks tail : List SessionTick} {stretches : List SessionStretch}
    (cut : SessionCut cfg ticks stretches tail) :
    (trace (observeSession cfg) {} ticks).filterMap Step.output =
      stretches.filterMap (SessionStretch.report cfg) := by
  have quiet : (trace (observeSession cfg) {} tail).filterMap Step.output = [] := by
    rcases cut.stillOpen with rfl | ⟨opening, inside, rfl, starts, goesOn⟩
    · rfl
    · simp only [trace, List.filterMap_cons, Step.of_output, observe_starts starts]
      exact List.filterMap_eq_nil_iff.mpr (run_inside goesOn).2
  rw [cut.cut.trace_eq, List.filterMap_append, quiet, List.append_nil]
  have lawful := cut.lawful
  clear cut
  induction stretches with
  | nil => rfl
  | cons stretch stretches ih =>
    simp only [List.map_cons, List.flatMap_cons, List.filterMap_append, List.filterMap_cons]
    rw [report_of_lawful (lawful stretch (by simp)),
      ih fun other member => lawful other (by simp [member])]
    cases stretch.report cfg <;> rfl

/-! ### The fold of the ticks -/

/-- The ticks with the minutes they book. -/
def bookedTicks (tickMin : ℚ) : Option ℚ → List OutcomeTick → List SessionTick
  | _, [] => []
  | last, t :: later =>
    t.booked (cappedElapsedMin last t.now tickMin) :: bookedTicks tickMin (some t.now) later

/-- The averages of finished sessions. -/
def tally (finished : List FinishedSession) : OutcomeStats where
  tsSum := ((finished.filter (·.controller = .ts)).map (·.score)).sum
  tsN := (finished.filter (·.controller = .ts)).length
  obsSum := ((finished.filter (·.controller = .obs)).map (·.score)).sum
  obsN := (finished.filter (·.controller = .obs)).length
  lastScore := finished.getLast?.map (·.score)

theorem tally_snoc (finished : List FinishedSession) (f : FinishedSession) :
    tally (finished ++ [f]) = (tally finished).observe f.score f.controller := by
  cases tag : f.controller <;> simp [tally, OutcomeStats.observe, tag]

variable {hcfg : HdhConfig} {tickMin : ℚ}

/-- The session part of the fold is the scoring machine on the booked ticks. -/
theorem fold_session (rt : OutcomeRuntime) (ts : List OutcomeTick) :
    (final (OutcomeRuntime.fold hcfg tickMin) rt ts).outcomeSession =
        final (observeSession {}) rt.outcomeSession (bookedTicks tickMin rt.hdhLastMono ts) ∧
      (trace (OutcomeRuntime.fold hcfg tickMin) rt ts).map Step.output =
        (trace (observeSession {}) rt.outcomeSession
          (bookedTicks tickMin rt.hdhLastMono ts)).map Step.output := by
  induction ts generalizing rt with
  | nil => exact ⟨rfl, rfl⟩
  | cons t ts ih =>
    obtain ⟨state, outputs⟩ := ih (rt.fold hcfg tickMin t).1
    constructor
    · rw [bookedTicks, final, final, state]
      rfl
    · rw [bookedTicks, trace, trace, List.map_cons, List.map_cons, outputs]
      rfl

theorem fold_stats (ts : List OutcomeTick) :
    (final (OutcomeRuntime.fold hcfg tickMin) {} ts).outcomeStats =
      tally ((trace (OutcomeRuntime.fold hcfg tickMin) {} ts).filterMap Step.output) := by
  induction ts using List.reverseRecOn with
  | nil => rfl
  | append_singleton ts t ih =>
    rw [final_append, trace_append, List.filterMap_append]
    simp only [final, trace, List.filterMap_cons, Step.of_output, List.filterMap_nil]
    cases output : (OutcomeRuntime.fold hcfg tickMin
        (final (OutcomeRuntime.fold hcfg tickMin) {} ts) t).2 with
    | none =>
      rw [List.append_nil, ← ih]
      simp only [OutcomeRuntime.fold] at output ⊢
      rw [output]
    | some finished =>
      rw [tally_snoc, ← ih]
      simp only [OutcomeRuntime.fold] at output ⊢
      rw [output]

/-- A run finishes the sessions of its cut. -/
theorem SessionCut.fold_reports {ts : List OutcomeTick} {stretches : List SessionStretch}
    {tail : List SessionTick} (cut : SessionCut {} (bookedTicks tickMin none ts) stretches tail) :
    (trace (OutcomeRuntime.fold hcfg tickMin) {} ts).filterMap Step.output =
      stretches.filterMap (SessionStretch.report {}) := by
  have outputs := congrArg (List.filterMap id) (@fold_session hcfg tickMin {} ts).2
  simp only [List.filterMap_map, Function.id_comp] at outputs
  exact outputs.trans cut.reports

/-- A run divides in one way into quiet ticks and sessions, and the averages are those of the
reports of its sessions. -/
theorem sessions_are_scored_once (hcfg : HdhConfig) (tickMin : ℚ) (ts : List OutcomeTick) :
    ∃ stretches tail, SessionCut {} (bookedTicks tickMin none ts) stretches tail ∧
      (∀ stretches' tail', SessionCut {} (bookedTicks tickMin none ts) stretches' tail' →
        stretches' = stretches ∧ tail' = tail) ∧
      (trace (OutcomeRuntime.fold hcfg tickMin) {} ts).filterMap Step.output =
        stretches.filterMap (SessionStretch.report {}) ∧
      (final (OutcomeRuntime.fold hcfg tickMin) {} ts).outcomeStats =
        tally (stretches.filterMap (SessionStretch.report {})) := by
  obtain ⟨stretches, tail, cut⟩ := exists_sessionCut {} (bookedTicks tickMin none ts)
  refine ⟨stretches, tail, cut, fun _ _ other => other.unique cut, cut.fold_reports, ?_⟩
  rw [fold_stats, cut.fold_reports]

end Poise
