import Poise.Properties.CalibrationOwnership

/-!
# The anchor of the last command

Regulation judges the device against `lastCalValue`, which only regulation writes
and the resume quarantine move; a restore goes to the same entity and leaves it
alone. Over runs of ticks of one process: where every restore repeats the anchor
and no quarantine follows a dispatch, the anchor is the latest dispatched offset,
and a device that shows it and has reported since is never waited for.
-/
namespace Poise

open Trace

/-! ### Dispatches -/

def SentTo (entity : String) (x : EffectExecution) : Bool :=
  x.success && x.entityId == some entity

/-- The latest offset that was dispatched to the entity. -/
def latestOn (entity : String) (past : List CalibrationMoment) : Option EffectExecution :=
  ((past.flatMap fun e => e.output.executions).filter (SentTo entity)).getLast?

theorem latestOn_append (entity : String) (past : List CalibrationMoment) (e : CalibrationMoment) :
    latestOn entity (past ++ [e]) =
      ((e.output.executions.filter (SentTo entity)).getLast?).or (latestOn entity past) := by
  simp [latestOn, List.flatMap_append, List.filter_append, List.getLast?_append]

theorem latestOn_silent {entity : String} {past : List CalibrationMoment} {e : CalibrationMoment}
    (silent : ∀ x ∈ e.output.executions, SentTo entity x = false) :
    latestOn entity (past ++ [e]) = latestOn entity past := by
  have nothing : e.output.executions.filter (SentTo entity) = [] :=
    List.filter_eq_nil_iff.mpr fun x member => by simp [silent x member]
  rw [latestOn_append, nothing]
  rfl

theorem latestOn_sent {entity : String} {past : List CalibrationMoment} {e : CalibrationMoment}
    {x : EffectExecution} (call : e.output.executions = [x]) (sent : SentTo entity x = true) :
    latestOn entity (past ++ [e]) = some x := by
  rw [latestOn_append, call, List.filter_singleton, sent]
  rfl

/-! ### Runs of one process -/

/-- A zone at the start of a process: what the store knew, and no evidence. -/
def ZoneRuntime.started (rest : ZoneRuntime) (stored : Option (ℚ × String)) : ZoneRuntime :=
  { rest with
    actuator :=
      { hasActuated := rest.actuator.hasActuated
        calBaseline := stored.map Prod.fst
        calEntity := stored.map Prod.snd } }

def processRun (rest : ZoneRuntime) (stored : Option (ℚ × String))
    (ticks : List CalibrationTick) : List CalibrationMoment :=
  trace calibrationStep (rest.started stored) (ticks.map .tick)

/-- Under ownership the anchor, once there is one, is the latest dispatched offset. -/
def Anchored (past : List CalibrationMoment) (rt : ZoneRuntime) : Prop :=
  rt.actuator.calBaseline.isSome = true → ∀ entity value x, rt.actuator.calEntity = some entity →
    rt.actuator.lastCalValue = some value → latestOn entity past = some x →
    x.commandedValue = some value

/-- A device that shows the latest dispatched offset and has reported since is
neither unconverged nor waited for. -/
def NeverDeadEnds (past : List CalibrationMoment) (e : CalibrationMoment) : Prop :=
  ∀ i act entity m trvTemp x value wall, e.input = .tick i →
    Regulates e.pre i act entity m trvTemp → latestOn entity past = some x →
    x.commandedValue = some value → x.dispatchWallTs = some wall →
    shows m.reported value m.step = true → wall < act.lastUpdated →
    calibrationConverged m.reported e.pre.actuator.lastCalValue m.step = true ∧
      calibrationAccumulationAllowed m.reported e.pre.actuator.lastCalValue m.step
        (updatedAfter act e.pre.actuator.lastCalDispatchWallTs) = true

/-- A dispatched restore repeats the anchor, not before the anchor's instant, and no
quarantine follows a dispatch. -/
structure Harmless (past : List CalibrationMoment) (e : CalibrationMoment) : Prop where
  restore : ∀ i owned m baseline, e.input = .tick i → Restores e.pre i owned m baseline →
    i.dispatch.sent = true →
    (∀ value, e.pre.actuator.lastCalValue = some value → value = m.snap baseline) ∧
      ∀ anchor, e.pre.actuator.lastCalDispatchWallTs = some anchor → anchor ≤ i.dispatch.wall
  resume : ∀ i act entity m trvTemp, e.input = .tick i → Resumes e.pre i act entity m trvTemp →
    latestOn entity past = none

structure AnchorHistory (past : List CalibrationMoment) (rt : ZoneRuntime) : Prop where
  paired : Paired rt
  unowned : rt.actuator.calBaseline = none → rt.actuator.lastCalValue = none
  anchored : ∀ entity value x, rt.actuator.calEntity = some entity →
    rt.actuator.lastCalValue = some value → latestOn entity past = some x →
    x.commandedValue = some value ∧ ∃ wall, x.dispatchWallTs = some wall ∧
      ∀ anchor, rt.actuator.lastCalDispatchWallTs = some anchor → anchor ≤ wall

/-- A step that dispatches nothing and leaves the zone alone. -/
theorem AnchorHistory.still {past : List CalibrationMoment} {e : CalibrationMoment}
    (history : AnchorHistory past e.pre) (same : e.post = e.pre)
    (silent : ∀ x ∈ e.output.executions, x.success = false) :
    AnchorHistory (past ++ [e]) e.post := by
  rw [same]
  refine ⟨history.paired, history.unowned, fun entity value x owner anchor latest => ?_⟩
  rw [latestOn_silent fun x member => by simp [SentTo, silent x member]] at latest
  exact history.anchored entity value x owner anchor latest

-- A call that did not go out is no dispatch, for a write and a restore alike.
theorem AnchorHistory.unsent {past : List CalibrationMoment} {e : CalibrationMoment}
    {i : CalibrationTick} {entity : String} {value preWriteValue : ℚ} {restore : Bool}
    (history : AnchorHistory past e.pre) (unsent : i.dispatch.sent = false)
    (after : e.post = commitReport i.now e.pre
      [i.runCalibration entity value preWriteValue restore])
    (call : e.output.executions = [i.runCalibration entity value preWriteValue restore]) :
    AnchorHistory (past ++ [e]) e.post := by
  have same : e.post = e.pre := by rw [after, commitReport_unsent unsent]
  refine history.still same fun x member => ?_
  rw [call, List.mem_singleton] at member
  rw [member]
  exact unsent

theorem AnchorHistory.ended {past : List CalibrationMoment} {rt : ZoneRuntime}
    (first : rt.actuator.calBaseline = none) (owner : rt.actuator.calEntity = none)
    (anchor : rt.actuator.lastCalValue = none) : AnchorHistory past rt := by
  refine ⟨by rw [Paired, first, owner]; rfl, fun _ => anchor, fun entity value x pinned => ?_⟩
  rw [owner] at pinned
  cases pinned

theorem AnchorHistory.step {past : List CalibrationMoment} {e : CalibrationMoment}
    {i : CalibrationTick} (step : e = Step.of calibrationStep e.pre e.input)
    (input : e.input = .tick i) (history : AnchorHistory past e.pre) (harmless : Harmless past e) :
    AnchorHistory (past ++ [e]) e.post := by
  have move := moment_moves step input
  have paired := paired_step step history.paired
  generalize after_eq : e.post = after at move
  generalize sent_eq : e.output.executions = sent at move
  cases move with
  | idle => exact after_eq ▸ history.still after_eq (by simp [sent_eq])
  | confirm => exact .ended rfl rfl rfl
  | orphan => exact .ended rfl rfl rfl
  | resume act entity m trvTemp resumes =>
    rw [after_eq] at paired
    refine ⟨paired, fun unheld => ?_, fun owned value x owner anchor latest => ?_⟩
    · have held := resumes.held
      simp only [ZoneRuntime.resumed] at unheld
      simp [unheld] at held
    · -- nothing was dispatched before the quarantine
      rw [latestOn_silent (by simp [sent_eq]), resumes.unpinned owned owner,
        harmless.resume i act entity m trvTemp input resumes] at latest
      cases latest
  | restore owned m baseline restores =>
    cases dispatched : i.dispatch.sent with
    | false => exact after_eq ▸ history.unsent dispatched after_eq sent_eq
    | true =>
      obtain ⟨repeats, ordered⟩ := harmless.restore i owned m baseline input restores dispatched
      obtain ⟨first, owner, value, _, wall⟩ :=
        @commitReport_restore e.pre i dispatched owned (m.snap baseline) m.reported
      rw [after_eq] at paired
      refine ⟨paired, fun unheld => ?_, fun entity target x pinned anchor latest => ?_⟩
      · rw [first] at unheld
        rw [value]
        exact history.unowned unheld
      · rw [owner, restores.pinned, Option.some.injEq] at pinned
        subst pinned
        have toOwned : SentTo owned
            (i.runCalibration owned (m.snap baseline) m.reported true) = true := by
          simp [SentTo, CalibrationTick.runCalibration, dispatched]
        rw [latestOn_sent sent_eq toOwned, Option.some.injEq] at latest
        subst latest
        rw [value] at anchor
        refine ⟨by rw [repeats target anchor]; rfl, i.dispatch.wall, rfl, fun instant stands => ?_⟩
        rw [wall] at stands
        exact ordered instant stands
  | write act entity m trvTemp writes =>
    cases dispatched : i.dispatch.sent with
    | false => exact after_eq ▸ history.unsent dispatched after_eq sent_eq
    | true =>
      have wrote : Wrote e i
          (i.runCalibration entity (i.newOffset m trvTemp) m.reported false) := by
        refine ⟨input, ?_, rfl, dispatched⟩
        rw [sent_eq]
        exact List.mem_singleton_self _
      obtain ⟨target, value, wall, call, commanded, instant, evidence⟩ :=
        wrote.evidence step history.paired
      rw [after_eq] at paired evidence
      refine ⟨paired, fun unheld => ?_, fun owned anchor x pinned stands latest => ?_⟩
      · have held := evidence.held
        simp [unheld] at held
      · rw [evidence.owner, Option.some.injEq] at pinned
        rw [evidence.value, Option.some.injEq] at stands
        subst pinned stands
        have toOwned : SentTo target
            (i.runCalibration entity (i.newOffset m trvTemp) m.reported false) = true := by
          simp only [SentTo, call, beq_self_eq_true, Bool.and_true]
          exact dispatched
        rw [latestOn_sent sent_eq toOwned, Option.some.injEq] at latest
        subst latest
        refine ⟨commanded, wall, instant, fun earlier found => ?_⟩
        rw [evidence.wall, Option.some.injEq] at found
        exact found.ge

theorem anchorHistory_started (rest : ZoneRuntime) (stored : Option (ℚ × String)) :
    AnchorHistory [] (rest.started stored) := by
  refine ⟨by cases stored <;> rfl, fun _ => rfl, fun entity value x _ anchor => ?_⟩
  cases anchor

theorem moment_tick {rest : ZoneRuntime} {stored : Option (ℚ × String)}
    {ticks : List CalibrationTick} {past : List CalibrationMoment} {e : CalibrationMoment}
    (moment : past ++ [e] <+: processRun rest stored ticks) :
    e = Step.of calibrationStep e.pre e.input ∧ ∃ i, e.input = .tick i := by
  obtain ⟨front, event, within, _, rfl⟩ := prefix_trace calibrationStep moment
  have member : event ∈ ticks.map CalibrationEvent.tick := within.subset (by simp)
  obtain ⟨i, _, input⟩ := List.mem_map.mp member
  exact ⟨rfl, i, input.symm⟩

theorem anchorHistory_run {rest : ZoneRuntime} {stored : Option (ℚ × String)}
    {ticks : List CalibrationTick}
    (harmless : ∀ past e, past ++ [e] <+: processRun rest stored ticks → Harmless past e)
    {past : List CalibrationMoment} {e : CalibrationMoment}
    (moment : past ++ [e] <+: processRun rest stored ticks) : AnchorHistory past e.pre := by
  refine history_at calibrationStep AnchorHistory
    (fun past e => Harmless past e ∧ ∃ i, e.input = .tick i) (anchorHistory_started rest stored)
    (fun past t event history ok => ?_) (fun past e earlier => ?_) moment
  · obtain ⟨harmless, i, input⟩ := ok
    exact history.step (e := Step.of calibrationStep t event) rfl input harmless
  · exact ⟨harmless past e earlier, (moment_tick earlier).2⟩

theorem AnchorHistory.neverDeadEnds {past : List CalibrationMoment} {e : CalibrationMoment}
    (history : AnchorHistory past e.pre) : NeverDeadEnds past e := by
  intro i act entity m trvTemp x value wall _ regulates latest commanded instant shown reported
  cases anchor : e.pre.actuator.lastCalValue with
  | none => simp [calibrationConverged, calibrationAccumulationAllowed]
  | some target =>
    -- an anchor belongs to an owned entity, the one that is regulated
    cases pinned : e.pre.actuator.calEntity with
    | none =>
      have unheld : e.pre.actuator.calBaseline = none := by
        simpa [Paired, pinned] using history.paired
      rw [history.unowned unheld] at anchor
      cases anchor
    | some owned =>
      rw [← regulates.unpinned owned pinned] at latest
      obtain ⟨same, dispatched, found, ordered⟩ := history.anchored owned target x pinned anchor latest
      rw [commanded, Option.some.injEq] at same
      rw [instant, Option.some.injEq] at found
      subst same found
      refine ⟨shown, calibrationAccumulationAllowed_some.mpr ⟨shown, ?_⟩⟩
      simp only [updatedAfter, Option.all_eq_true_iff_get, decide_eq_true_eq]
      intro stands
      exact lt_of_le_of_lt (ordered _ (Option.some_get stands).symm) reported

/-- In every run of harmless ticks the anchor is the latest dispatched offset in every
state, and no tick dead-ends. -/
theorem calibration_never_dead_ends (rest : ZoneRuntime) (stored : Option (ℚ × String))
    (ticks : List CalibrationTick)
    (harmless : ∀ past e, past ++ [e] <+: processRun rest stored ticks → Harmless past e) :
    ∀ past e, past ++ [e] <+: processRun rest stored ticks →
      Anchored (past ++ [e]) e.post ∧ NeverDeadEnds past e := by
  intro past e moment
  obtain ⟨step, i, input⟩ := moment_tick moment
  have history := anchorHistory_run harmless moment
  have next := history.step step input (harmless past e moment)
  exact ⟨fun _ entity value x owner anchor latest => (next.anchored entity value x owner anchor latest).1,
    history.neverDeadEnds⟩

/-- A regulating tick with its anchor in place is harmless. -/
theorem harmless_regulating {past : List CalibrationMoment} {e : CalibrationMoment}
    {i : CalibrationTick} (input : e.input = .tick i)
    (live : i.calibrationLivePath = .calibration)
    (anchored : e.pre.actuator.calBaseline.isSome = true →
      e.pre.actuator.lastCalValue.isSome = true) : Harmless past e where
  restore j owned m baseline same restores _ := by
    rw [input, CalibrationEvent.tick.injEq] at same
    exact absurd (same ▸ live) restores.displaced
  resume j act entity m trvTemp _ resumes := by
    have anchor := anchored resumes.held
    simp [resumes.unanchored] at anchor

/-- A tick at 20 degrees room and 22 degrees valve, the valve's offset as reported. -/
def anchorTick (now reported lastUpdated : ℚ) (enabled : Bool) : CalibrationTick :=
  { offsetTick now "number.a" (fun _ => .readable { freshValve with reported }) with
    trvCalibration := enabled
    actState := some { warmValve with lastUpdated } }

def valveStart : ZoneRuntime := ZoneRuntime.started {} none

def firstWrite : CalibrationMoment :=
  Step.of calibrationStep valveStart (.tick (anchorTick 1000 0 900 true))

def secondWrite : CalibrationMoment :=
  Step.of calibrationStep firstWrite.post (.tick (anchorTick 1360 (-2) 1300 true))

theorem calibration_never_dead_ends_shown :
    Anchored [firstWrite, secondWrite] secondWrite.post ∧ NeverDeadEnds [firstWrite] secondWrite := by
  refine calibration_never_dead_ends {} none
    [anchorTick 1000 0 900 true, anchorTick 1360 (-2) 1300 true] ?_ [firstWrite] secondWrite
    List.prefix_rfl
  refine always_iff.mp ⟨harmless_regulating rfl (by decide +kernel) ?_,
    harmless_regulating rfl (by decide +kernel) ?_, trivial⟩ <;>
  · decide +kernel

/-- Where the anchor is the latest dispatched offset throughout, every dispatched
restore under an anchor has repeated it. -/
theorem anchored_restores_repeat {past : List CalibrationMoment} {e : CalibrationMoment}
    {i : CalibrationTick} {owned : String} {m : CalibrationMeta} {baseline value : ℚ}
    (step : e = Step.of calibrationStep e.pre e.input) (input : e.input = .tick i)
    (restores : Restores e.pre i owned m baseline) (dispatched : i.dispatch.sent = true)
    (anchor : e.pre.actuator.lastCalValue = some value)
    (anchored : Anchored (past ++ [e]) e.post) : value = m.snap baseline := by
  obtain ⟨post, calls⟩ := calibrationStep_restores restores
  rw [← input] at post calls
  have after : e.post = commitReport i.now e.pre
      [i.runCalibration owned (m.snap baseline) m.reported true] := by
    rw [step]
    exact post
  have sent : e.output.executions =
      [i.runCalibration owned (m.snap baseline) m.reported true] := by
    rw [step]
    exact calls
  obtain ⟨first, owner, same, _⟩ :=
    @commitReport_restore e.pre i dispatched owned (m.snap baseline) m.reported
  rw [← after] at first owner same
  have toOwned : SentTo owned (i.runCalibration owned (m.snap baseline) m.reported true) = true := by
    simp [SentTo, CalibrationTick.runCalibration, dispatched]
  have held : e.post.actuator.calBaseline.isSome = true := by simp [first, restores.held]
  have latest := anchored held owned value _ (owner.trans restores.pinned) (same.trans anchor)
    (latestOn_sent sent toOwned)
  exact (Option.some.inj latest).symm

/-! ### The dead end -/

def handedBack : CalibrationMoment :=
  Step.of calibrationStep firstWrite.post (.tick (anchorTick 1360 (-2) 1300 false))

def regulatedAgain : CalibrationMoment :=
  Step.of calibrationStep handedBack.post (.tick (anchorTick 1420 0 1400 true))

/-- Written, shown, handed back, and regulated again before the confirmation. -/
theorem calibration_dead_ends :
    ¬ ∀ rest stored ticks past e, past ++ [e] <+: processRun rest stored ticks →
      Anchored (past ++ [e]) e.post ∧ NeverDeadEnds past e := by
  intro law
  have served := (law {} none
    [anchorTick 1000 0 900 true, anchorTick 1360 (-2) 1300 false, anchorTick 1420 0 1400 true]
    [firstWrite, handedBack] regulatedAgain List.prefix_rfl).2
  have unpinned : ∀ owned, regulatedAgain.pre.actuator.calEntity = some owned →
      owned = "number.a" := by
    intro owned pinned
    have entity : regulatedAgain.pre.actuator.calEntity = some "number.a" := by decide +kernel
    exact Option.some.inj (pinned.symm.trans entity)
  have converged := (served (anchorTick 1420 0 1400 true) { warmValve with lastUpdated := 1400 }
    "number.a" freshValve 22
    ((anchorTick 1360 (-2) 1300 false).runCalibration "number.a" 0 (-2) true) 0 1360 rfl
    ⟨by decide +kernel, by decide +kernel, rfl, rfl, unpinned, rfl⟩ (by decide +kernel) rfl rfl
    (by decide +kernel) (by decide +kernel)).1
  exact absurd converged (by decide +kernel)

end Poise
