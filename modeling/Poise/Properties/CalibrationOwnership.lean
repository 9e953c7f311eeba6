import Poise.Properties.CalibrationMoves
import Poise.Foundation.Trace

/-!
# Calibration ownership

The zone owns the offset of one entity from its first write to a confirmed end. In
every run of ticks, port calls and restarts the owned pair is what the device
reported before that first write, no write leaves the owned entity, and the second
write of an ownership waits for the interval and for the device to show the first.
-/
namespace Poise

open Trace

/-! ### Commits of the offset calls -/

theorem commitReport_unsent {rt : ZoneRuntime} {i : CalibrationTick}
    (unsent : i.dispatch.sent = false) (entity : String) (value preWriteValue : ℚ)
    (restore : Bool) :
    commitReport i.now rt [i.runCalibration entity value preWriteValue restore] = rt := by
  cases restore <;>
    simp [commitReport, commitEffect, commitCalWrite, CalibrationTick.runCalibration, unsent]

theorem commitReport_restore {rt : ZoneRuntime} {i : CalibrationTick}
    (sent : i.dispatch.sent = true) (entity : String) (value preWriteValue : ℚ) :
    let after := (commitReport i.now rt [i.runCalibration entity value preWriteValue true]).actuator
    after.calBaseline = rt.actuator.calBaseline ∧ after.calEntity = rt.actuator.calEntity ∧
      after.lastCalValue = rt.actuator.lastCalValue ∧
      after.lastCalWriteTs = rt.actuator.lastCalWriteTs ∧
      after.lastCalDispatchWallTs = rt.actuator.lastCalDispatchWallTs := by
  simp [commitReport, commitEffect, CalibrationTick.runCalibration, sent, EffectId.writeChannel,
    ActuatorRuntime.count]

/-- The first write owns the entity, every write moves the evidence. -/
theorem commitReport_write {rt : ZoneRuntime} {i : CalibrationTick}
    (sent : i.dispatch.sent = true) (entity : String) (value preWriteValue : ℚ) :
    let after := (commitReport i.now rt [i.runCalibration entity value preWriteValue false]).actuator
    after.calBaseline = some (rt.actuator.calBaseline.getD preWriteValue) ∧
      after.calEntity =
        (if rt.actuator.calBaseline.isNone then some entity else rt.actuator.calEntity) ∧
      after.lastCalValue = some value ∧ after.lastCalWriteTs = some i.now ∧
      after.lastCalDispatchWallTs = some i.dispatch.wall := by
  cases held : rt.actuator.calBaseline <;>
    simp [commitReport, commitEffect, commitCalWrite, CalibrationTick.runCalibration, sent,
      EffectId.writeChannel, ActuatorRuntime.count, held]

/-! ### Moments -/

abbrev CalibrationMoment := Step ZoneRuntime CalibrationEvent CalibrationOutput

/-- A zone that owns no offset and has no evidence. -/
def ZoneRuntime.unowned (rest : ZoneRuntime) : ZoneRuntime := { rest with actuator := {} }

def calibrationRun (rest : ZoneRuntime) (events : List CalibrationEvent) : List CalibrationMoment :=
  trace calibrationStep rest.unowned events

/-- A regulation write was dispatched. -/
def Wrote (e : CalibrationMoment) (i : CalibrationTick) (x : EffectExecution) : Prop :=
  e.input = .tick i ∧ x ∈ e.output.executions ∧ x.effectId = .calWrite ∧ x.success = true

def Cleared (e : CalibrationMoment) : Prop :=
  e.pre.actuator.calBaseline.isSome = true ∧ e.post.actuator.calBaseline = none

def Restarted (e : CalibrationMoment) : Prop := e.input = .restart

/-- Segment W came as far as the quarantine. -/
def WriteTick (e : CalibrationMoment) : Prop :=
  ∃ i act entity m trvTemp, e.input = .tick i ∧ Regulates e.pre i act entity m trvTemp

/-- A report that is newer than the dispatch shows the dispatched offset. -/
def ShowsOffset (e : CalibrationMoment) (entity : String) (value wall : ℚ) : Prop :=
  ∃ i act m trvTemp, e.input = .tick i ∧ Regulates e.pre i act entity m trvTemp ∧
    shows m.reported value m.step = true ∧ wall < act.lastUpdated

/-- The offset call of a tick and everything it rests on. -/
theorem execution_cases {rt : ZoneRuntime} {i : CalibrationTick} {x : EffectExecution}
    (member : x ∈ (calibrationStep rt (.tick i)).2.executions) :
    (∃ owned m baseline, Restores rt i owned m baseline ∧
      x = i.runCalibration owned (m.snap baseline) m.reported true) ∨
    ∃ act entity m trvTemp, Writes rt i act entity m trvTemp ∧
      x = i.runCalibration entity (i.newOffset m trvTemp) m.reported false ∧
      (calibrationStep rt (.tick i)).1 = commitReport i.now rt [x] := by
  have move := calibrationStep_moves rt i
  generalize (calibrationStep rt (.tick i)).1 = after at move ⊢
  generalize (calibrationStep rt (.tick i)).2.executions = sent at move member
  cases move with
  | idle => cases member
  | confirm => cases member
  | orphan => cases member
  | resume => cases member
  | restore owned m baseline restores =>
    rw [List.mem_singleton] at member
    exact .inl ⟨owned, m, baseline, restores, member⟩
  | write act entity m trvTemp writes =>
    rw [List.mem_singleton] at member
    exact .inr ⟨act, entity, m, trvTemp, writes, member, by rw [member]⟩

theorem calWrite_writes {rt : ZoneRuntime} {event : CalibrationEvent} {x : EffectExecution}
    (member : x ∈ (calibrationStep rt event).2.executions) (write : x.effectId = .calWrite) :
    ∃ i act entity m trvTemp, event = .tick i ∧ Writes rt i act entity m trvTemp ∧
      x = i.runCalibration entity (i.newOffset m trvTemp) m.reported false ∧
      (calibrationStep rt event).1 = commitReport i.now rt [x] := by
  cases event with
  | port p => cases member
  | restart => cases member
  | tick i =>
    rcases execution_cases member with ⟨owned, m, baseline, _, rfl⟩ | ⟨act, entity, m, trvTemp, found⟩
    · cases write
    · exact ⟨i, act, entity, m, trvTemp, rfl, found⟩

/-- What a dispatched write leaves behind. -/
structure WrittenBy (i : CalibrationTick) (x : EffectExecution) (before after : ActuatorRuntime)
    (entity : String) (m : CalibrationMeta) (value : ℚ) : Prop where
  call : x = i.runCalibration entity value m.reported false
  baseline : after.calBaseline = some (before.calBaseline.getD m.reported)
  owner : after.calEntity = if before.calBaseline.isNone then some entity else before.calEntity
  lastCalValue : after.lastCalValue = some value
  lastCalWriteTs : after.lastCalWriteTs = some i.now
  lastCalDispatchWallTs : after.lastCalDispatchWallTs = some i.dispatch.wall

theorem Wrote.spec {e : CalibrationMoment} {i : CalibrationTick} {x : EffectExecution}
    (step : e = Step.of calibrationStep e.pre e.input) (wrote : Wrote e i x) :
    ∃ act entity m trvTemp, Writes e.pre i act entity m trvTemp ∧
      WrittenBy i x e.pre.actuator e.post.actuator entity m (i.newOffset m trvTemp) := by
  obtain ⟨input, member, write, sent⟩ := wrote
  rw [step] at member
  obtain ⟨j, act, entity, m, trvTemp, same, writes, call, after⟩ := calWrite_writes member write
  rw [input, CalibrationEvent.tick.injEq] at same
  subst same
  have dispatched : i.dispatch.sent = true := by
    rw [call] at sent
    exact sent
  have post : e.post = commitReport i.now e.pre
      [i.runCalibration entity (i.newOffset m trvTemp) m.reported false] := by
    rw [step, ← call]
    exact after
  obtain ⟨baseline, owner, value, writeTs, wall⟩ :=
    @commitReport_write e.pre i dispatched entity (i.newOffset m trvTemp) m.reported
  rw [← post] at baseline owner value writeTs wall
  exact ⟨act, entity, m, trvTemp, writes, call, baseline, owner, value, writeTs, wall⟩

/-! ### One step -/

/-- The three ends of an ownership. -/
def EndedBy (e : CalibrationMoment) : Prop :=
  (∃ i owned m baseline, e.input = .tick i ∧ Confirms e.pre i owned m baseline) ∨
  (∃ i owned, e.input = .tick i ∧ Orphans e.pre i owned) ∨
  ∃ p baseline, e.input = .port p ∧ e.pre.actuator.calBaseline = some baseline ∧
    p.resolveRestore e.pre.actuator.calEntity baseline ≠ .failed

/-- The owned pair stands, ends as a pair, or begins with a write. -/
theorem ownership_step {e : CalibrationMoment} (step : e = Step.of calibrationStep e.pre e.input) :
    (e.post.actuator.calBaseline = e.pre.actuator.calBaseline ∧
      e.post.actuator.calEntity = e.pre.actuator.calEntity) ∨
    (e.post.actuator.calBaseline = none ∧ e.post.actuator.calEntity = none ∧ EndedBy e) ∨
    e.pre.actuator.calBaseline = none ∧ ∃ i x, Wrote e i x := by
  obtain ⟨pre, input, output, post⟩ := e
  simp only [Step.of, Step.mk.injEq, true_and] at step
  obtain ⟨rfl, rfl⟩ := step
  cases input with
  | restart => exact .inl ⟨rfl, rfl⟩
  | port p =>
    simp only [calibrationStep, prepareActuatorHandoff]
    cases held : pre.actuator.calBaseline with
    | none => exact .inl ⟨held, rfl⟩
    | some baseline =>
      simp only
      split
      next => exact .inl ⟨held, rfl⟩
      next ended =>
        right
        left
        exact ⟨rfl, rfl, .inr (.inr ⟨p, baseline, rfl, held, ended⟩)⟩
  | tick i =>
    have move := calibrationStep_moves pre i
    have calls : ∀ x ∈ (calibrationStep pre (.tick i)).2.executions,
        x.effectId = .calWrite → x.success = true →
          Wrote ⟨pre, .tick i, (calibrationStep pre (.tick i)).2, (calibrationStep pre (.tick i)).1⟩
            i x := fun x member write sent => ⟨rfl, member, write, sent⟩
    generalize (calibrationStep pre (.tick i)).1 = after at *
    generalize (calibrationStep pre (.tick i)).2 = output at *
    simp only at *
    generalize output.executions = sent at *
    cases move with
    | idle => exact .inl ⟨rfl, rfl⟩
    | confirm owned m baseline confirms =>
      right
      left
      exact ⟨rfl, rfl, .inl ⟨i, owned, m, baseline, rfl, confirms⟩⟩
    | orphan owned orphans =>
      right
      left
      exact ⟨rfl, rfl, .inr (.inl ⟨i, owned, rfl, orphans⟩)⟩
    | resume => exact .inl ⟨rfl, rfl⟩
    | restore owned m baseline restores =>
      left
      cases dispatched : i.dispatch.sent with
      | false => rw [commitReport_unsent dispatched]; exact ⟨rfl, rfl⟩
      | true =>
        obtain ⟨kept, owner, _⟩ := commitReport_restore dispatched owned (m.snap baseline) m.reported
        exact ⟨kept, owner⟩
    | write act entity m trvTemp writes =>
      cases dispatched : i.dispatch.sent with
      | false => exact .inl (by rw [commitReport_unsent dispatched]; exact ⟨rfl, rfl⟩)
      | true =>
        obtain ⟨first, owner, _⟩ :=
          @commitReport_write pre i dispatched entity (i.newOffset m trvTemp) m.reported
        cases held : pre.actuator.calBaseline with
        | some baseline =>
          simp only [held, Option.getD_some, Option.isNone_some, Bool.false_eq_true, if_false]
            at first owner
          exact .inl ⟨first, owner⟩
        | none =>
          right
          right
          exact ⟨rfl, i, _, calls _ (List.mem_singleton_self _) rfl dispatched⟩

theorem moment_moves {e : CalibrationMoment} (step : e = Step.of calibrationStep e.pre e.input)
    {i : CalibrationTick} (input : e.input = .tick i) :
    CalibrationMove e.pre i e.post e.output.executions := by
  have move := calibrationStep_moves e.pre i
  rw [← input] at move
  rw [step]
  exact move

/-- The evidence of the last command stands unless a clear, a restart or a write
touches it. -/
theorem evidence_step {e : CalibrationMoment} (step : e = Step.of calibrationStep e.pre e.input)
    (held : e.pre.actuator.calBaseline.isSome = true)
    (anchored : e.pre.actuator.lastCalValue.isSome = true) (kept : ¬ Cleared e)
    (running : ¬ Restarted e) (silent : ∀ i x, ¬ Wrote e i x) :
    e.post.actuator.calBaseline = e.pre.actuator.calBaseline ∧
      e.post.actuator.lastCalValue = e.pre.actuator.lastCalValue ∧
      e.post.actuator.lastCalWriteTs = e.pre.actuator.lastCalWriteTs ∧
      e.post.actuator.lastCalDispatchWallTs = e.pre.actuator.lastCalDispatchWallTs := by
  cases input : e.input with
  | restart => exact absurd input running
  | port p =>
    have post : e.post = (prepareActuatorHandoff e.pre p).1 := by
      rw [step, input]
      rfl
    simp only [Cleared, held, true_and] at kept
    rw [post] at kept ⊢
    simp only [prepareActuatorHandoff] at kept ⊢
    cases baseline : e.pre.actuator.calBaseline with
    | none => exact ⟨baseline, rfl, rfl, rfl⟩
    | some offset =>
      simp only [baseline] at kept ⊢
      split
      next => exact ⟨baseline, rfl, rfl, rfl⟩
      next ended => simp [ended, ZoneRuntime.clearCalibrationOwnership] at kept
  | tick i =>
    have move := moment_moves step input
    have calls : ∀ x ∈ e.output.executions, x.effectId = .calWrite → x.success = false := by
      intro x member write
      by_contra sent
      exact silent i x ⟨input, member, write, by simpa using sent⟩
    have stands : e.post.actuator.calBaseline ≠ none := fun gone => kept ⟨held, gone⟩
    generalize e.post = after at *
    generalize e.output.executions = sent at *
    cases move with
    | idle => exact ⟨rfl, rfl, rfl, rfl⟩
    | confirm => exact absurd rfl stands
    | orphan => exact absurd rfl stands
    | resume act entity m trvTemp resumes => simp [resumes.unanchored] at anchored
    | restore owned m baseline restores =>
      cases dispatched : i.dispatch.sent with
      | false =>
        rw [commitReport_unsent dispatched]
        exact ⟨rfl, rfl, rfl, rfl⟩
      | true =>
        obtain ⟨first, _, value, writeTs, wall⟩ :=
          @commitReport_restore e.pre i dispatched owned (m.snap baseline) m.reported
        exact ⟨first, value, writeTs, wall⟩
    | write act entity m trvTemp writes =>
      have unsent : i.dispatch.sent = false := calls _ (List.mem_singleton_self _) rfl
      rw [commitReport_unsent unsent]
      exact ⟨rfl, rfl, rfl, rfl⟩

/-- Without evidence no tick but a write tick brings any. -/
theorem unanchored_step {e : CalibrationMoment} (step : e = Step.of calibrationStep e.pre e.input)
    (unanchored : e.pre.actuator.lastCalValue = none) (idle : ¬ WriteTick e) :
    e.post.actuator.lastCalValue = none := by
  cases input : e.input with
  | restart =>
    rw [step, input]
    rfl
  | port p =>
    have post : e.post = (prepareActuatorHandoff e.pre p).1 := by
      rw [step, input]
      rfl
    rw [post]
    simp only [prepareActuatorHandoff]
    cases e.pre.actuator.calBaseline with
    | none => exact unanchored
    | some baseline =>
      simp only
      split
      next => exact unanchored
      next => rfl
  | tick i =>
    have move := moment_moves step input
    have closed : ∀ act entity m trvTemp, ¬ Regulates e.pre i act entity m trvTemp :=
      fun act entity m trvTemp open' => idle ⟨i, act, entity, m, trvTemp, input, open'⟩
    generalize e.post = after at *
    generalize e.output.executions = sent at *
    cases move with
    | idle => exact unanchored
    | confirm => rfl
    | orphan => rfl
    | resume act entity m trvTemp resumes => exact absurd resumes.toRegulates (closed _ _ _ _)
    | write act entity m trvTemp writes => exact absurd writes.toRegulates (closed _ _ _ _)
    | restore owned m baseline restores =>
      cases dispatched : i.dispatch.sent with
      | false =>
        rw [commitReport_unsent dispatched]
        exact unanchored
      | true =>
        obtain ⟨_, _, value, _⟩ :=
          @commitReport_restore e.pre i dispatched owned (m.snap baseline) m.reported
        rw [value]
        exact unanchored

/-! ### Runs -/

theorem unanchored_between {rt : ZoneRuntime} {events : List CalibrationEvent}
    (unanchored : rt.actuator.lastCalValue = none)
    (idle : ∀ g ∈ trace calibrationStep rt events, ¬ WriteTick g) :
    (final calibrationStep rt events).actuator.lastCalValue = none := by
  induction events generalizing rt with
  | nil => exact unanchored
  | cons event events ih =>
    simp only [trace, List.forall_mem_cons] at idle
    obtain ⟨now, later⟩ := idle
    exact ih (unanchored_step (e := Step.of calibrationStep rt event) rfl unanchored now) later

/-- Baseline and entity are set and unset together. -/
def Paired (rt : ZoneRuntime) : Prop :=
  rt.actuator.calBaseline.isSome = rt.actuator.calEntity.isSome

theorem paired_step {e : CalibrationMoment} (step : e = Step.of calibrationStep e.pre e.input)
    (paired : Paired e.pre) : Paired e.post := by
  rcases ownership_step step with ⟨first, owner⟩ | ⟨first, owner, _⟩ | ⟨unowned, i, x, wrote⟩
  · rw [Paired, first, owner]
    exact paired
  · rw [Paired, first, owner]
    rfl
  · obtain ⟨act, entity, m, trvTemp, _, written⟩ := wrote.spec step
    rw [Paired, written.baseline, written.owner, unowned]
    rfl

theorem paired_run {rest : ZoneRuntime} {events : List CalibrationEvent} {e : CalibrationMoment}
    (member : e ∈ calibrationRun rest events) : Paired e.pre ∧ Paired e.post := by
  have start : Paired rest.unowned := rfl
  exact invariant_of_mem calibrationStep Paired start
    (fun rt event paired => paired_step (e := Step.of calibrationStep rt event) rfl paired) member

/-- The evidence of one command on one entity. -/
structure Evidence (a : ActuatorRuntime) (entity : String) (value writeTs wall : ℚ) : Prop where
  held : a.calBaseline.isSome = true
  owner : a.calEntity = some entity
  value : a.lastCalValue = some value
  writeTs : a.lastCalWriteTs = some writeTs
  wall : a.lastCalDispatchWallTs = some wall

theorem Wrote.evidence {e : CalibrationMoment} {i : CalibrationTick} {x : EffectExecution}
    (step : e = Step.of calibrationStep e.pre e.input) (paired : Paired e.pre)
    (wrote : Wrote e i x) :
    ∃ entity value wall, x.entityId = some entity ∧ x.commandedValue = some value ∧
      x.dispatchWallTs = some wall ∧ Evidence e.post.actuator entity value i.now wall := by
  obtain ⟨act, entity, m, trvTemp, writes, written⟩ := wrote.spec step
  have owner : e.post.actuator.calEntity = some entity := by
    rw [written.owner]
    cases pinned : e.pre.actuator.calEntity with
    | none =>
      have unowned : e.pre.actuator.calBaseline = none := by simpa [Paired, pinned] using paired
      simp [unowned]
    | some owned =>
      rw [writes.unpinned owned pinned]
      exact ite_self _
  refine ⟨entity, i.newOffset m trvTemp, i.dispatch.wall, ?_, ?_, ?_, ?_⟩
  · rw [written.call]
    rfl
  · rw [written.call]
    rfl
  · rw [written.call]
    rfl
  · exact ⟨by rw [written.baseline]; rfl, owner, written.lastCalValue, written.lastCalWriteTs,
      written.lastCalDispatchWallTs⟩

/-- A write under standing evidence has waited for it. -/
theorem Wrote.waited {e : CalibrationMoment} {i : CalibrationTick} {x : EffectExecution}
    {entity : String} {value writeTs wall : ℚ} (step : e = Step.of calibrationStep e.pre e.input)
    (evidence : Evidence e.pre.actuator entity value writeTs wall) (wrote : Wrote e i x) :
    calibrationMinIntervalS ≤ i.now - writeTs ∧ ShowsOffset e entity value wall := by
  obtain ⟨act, written, m, trvTemp, writes, _⟩ := wrote.spec step
  have due := writes.due
  have allowed := writes.allowed
  rw [evidence.writeTs] at due
  rw [evidence.value, evidence.wall, calibrationAccumulationAllowed_some] at allowed
  obtain rfl := writes.unpinned entity evidence.owner
  refine ⟨calibrationWriteDue_spaced due, i, act, m, trvTemp, wrote.1, writes.toRegulates,
    allowed.1, ?_⟩
  simpa [updatedAfter] using allowed.2

theorem Evidence.step {e : CalibrationMoment} {entity : String} {value writeTs wall : ℚ}
    (step : e = Step.of calibrationStep e.pre e.input)
    (evidence : Evidence e.pre.actuator entity value writeTs wall) (kept : ¬ Cleared e)
    (running : ¬ Restarted e) (silent : ∀ i x, ¬ Wrote e i x) :
    Evidence e.post.actuator entity value writeTs wall := by
  have anchored : e.pre.actuator.lastCalValue.isSome = true := by simp [evidence.value]
  obtain ⟨baseline, lastValue, lastTs, lastWall⟩ :=
    evidence_step step evidence.held anchored kept running silent
  have owner : e.post.actuator.calEntity = e.pre.actuator.calEntity := by
    rcases ownership_step step with ⟨_, same⟩ | ⟨gone, _⟩ | ⟨_, i, x, wrote⟩
    · exact same
    · exact absurd ⟨evidence.held, gone⟩ kept
    · exact absurd wrote (silent i x)
  exact ⟨baseline ▸ evidence.held, owner ▸ evidence.owner, lastValue ▸ evidence.value,
    lastTs ▸ evidence.writeTs, lastWall ▸ evidence.wall⟩

/-- The next write of an ownership, however many lie between. -/
theorem write_spaced {rt : ZoneRuntime} {events : List CalibrationEvent}
    {event : CalibrationEvent} {entity : String} {value writeTs wall : ℚ} {j : CalibrationTick}
    {y : EffectExecution} (paired : Paired rt)
    (evidence : Evidence rt.actuator entity value writeTs wall)
    (kept : ∀ g ∈ trace calibrationStep rt events, ¬ Cleared g ∧ ¬ Restarted g)
    (wrote : Wrote (Step.of calibrationStep (final calibrationStep rt events) event) j y) :
    calibrationMinIntervalS ≤ j.now - writeTs ∧
      ∃ g ∈ trace calibrationStep rt events ++
          [Step.of calibrationStep (final calibrationStep rt events) event],
        ShowsOffset g entity value wall := by
  induction events generalizing rt entity value writeTs wall with
  | nil =>
    obtain ⟨spaced, shown⟩ := wrote.waited rfl evidence
    exact ⟨spaced, _, List.mem_singleton_self _, shown⟩
  | cons next events ih =>
    simp only [trace, List.forall_mem_cons] at kept
    obtain ⟨⟨uncleared, running⟩, later⟩ := kept
    by_cases between : ∃ i x, Wrote (Step.of calibrationStep rt next) i x
    · -- the first write between them is already far enough
      obtain ⟨i, x, earlier⟩ := between
      obtain ⟨spaced, shown⟩ := earlier.waited rfl evidence
      obtain ⟨entity', value', wall', _, _, _, renewed⟩ := earlier.evidence rfl paired
      have farther := (ih (paired_step rfl paired) renewed later wrote).1
      refine ⟨?_, _, List.mem_cons_self, shown⟩
      have positive : (0 : ℚ) ≤ calibrationMinIntervalS := by norm_num [calibrationMinIntervalS]
      linarith
    · have silent : ∀ i x, ¬ Wrote (Step.of calibrationStep rt next) i x :=
        fun i x found => between ⟨i, x, found⟩
      obtain ⟨spaced, g, member, shown⟩ :=
        ih (paired_step rfl paired) (evidence.step rfl uncleared running silent) later wrote
      exact ⟨spaced, g, List.mem_cons_of_mem _ member, shown⟩

/-! ### Where the owned pair comes from -/

/-- A successful write that met this reading on this entity. -/
def Acquired (f : CalibrationMoment) (baseline : ℚ) (entity : String) : Prop :=
  ∃ i x m, Wrote f i x ∧ i.calibrationEntity = some entity ∧
    i.calibrationMeta none = .readable m ∧ m.reported = baseline ∧ x.entityId = some entity ∧
    x.preWriteValue = some baseline

/-- Every write of this past was followed by a clear. -/
def AllCleared (past : List CalibrationMoment) : Prop :=
  ∀ front g back i x, past = front ++ g :: back → Wrote g i x → ∃ c ∈ back, Cleared c

/-- The pair comes from the first write since the last clear. -/
def FoundBefore (past : List CalibrationMoment) (rt : ZoneRuntime) : Prop :=
  ∀ baseline entity, rt.actuator.calBaseline = some baseline →
    rt.actuator.calEntity = some entity →
    ∃ before f after, past = before ++ f :: after ∧ Acquired f baseline entity ∧
      AllCleared before ∧ ∀ g ∈ after, ¬ Cleared g

/-- A write leaves ownership behind until a clear. -/
def OwnedSince (past : List CalibrationMoment) (rt : ZoneRuntime) : Prop :=
  ∀ front g back i x, past = front ++ g :: back → Wrote g i x → (∀ c ∈ back, ¬ Cleared c) →
    rt.actuator.calBaseline.isSome = true

structure OwnershipHistory (past : List CalibrationMoment) (rt : ZoneRuntime) : Prop where
  paired : Paired rt
  since : OwnedSince past rt
  provenance : FoundBefore past rt

theorem OwnedSince.step {past : List CalibrationMoment} {e : CalibrationMoment}
    (step : e = Step.of calibrationStep e.pre e.input) (since : OwnedSince past e.pre) :
    OwnedSince (past ++ [e]) e.post := by
  intro front g back i x split wrote uncleared
  cases back using List.reverseRecOn with
  | nil =>
    obtain ⟨_, same⟩ := List.append_inj' split rfl
    rw [List.singleton_inj] at same
    obtain ⟨act, entity, m, trvTemp, _, written⟩ := wrote.spec (same ▸ step)
    rw [same, written.baseline]
    rfl
  | append_singleton back last _ =>
    rw [← List.cons_append, ← List.append_assoc] at split
    obtain ⟨rfl, same⟩ := List.append_inj' split rfl
    rw [List.singleton_inj] at same
    subst same
    have held := since front g back i x rfl wrote fun c member => uncleared c (by simp [member])
    have kept := uncleared e (by simp)
    rw [Option.isSome_iff_ne_none]
    exact fun gone => kept ⟨held, gone⟩

theorem FoundBefore.step {past : List CalibrationMoment} {e : CalibrationMoment}
    (step : e = Step.of calibrationStep e.pre e.input) (since : OwnedSince past e.pre)
    (provenance : FoundBefore past e.pre) : FoundBefore (past ++ [e]) e.post := by
  intro baseline entity held owner
  rcases ownership_step step with ⟨first, same⟩ | ⟨gone, _⟩ | ⟨unowned, i, x, wrote⟩
  · rw [first] at held
    rw [same] at owner
    obtain ⟨before, f, after, rfl, acquired, allCleared, uncleared⟩ :=
      provenance baseline entity held owner
    refine ⟨before, f, after ++ [e], by simp, acquired, allCleared, fun g member => ?_⟩
    rcases List.mem_append.mp member with earlier | now
    · exact uncleared g earlier
    · rw [List.mem_singleton] at now
      subst now
      intro cleared
      rw [cleared.2, held] at first
      cases first
  · rw [gone] at held
    cases held
  · -- the pair begins here, and no write before it is still standing
    obtain ⟨act, written, m, trvTemp, writes, by'⟩ := wrote.spec step
    have baseline_eq := by'.baseline
    have owner_eq := by'.owner
    rw [unowned, Option.getD_none, held, Option.some.injEq] at baseline_eq
    rw [unowned, Option.isNone_none, if_pos rfl, owner, Option.some.injEq] at owner_eq
    subst owner_eq
    refine ⟨past, e, [], rfl, ⟨i, x, m, wrote, writes.discovered, writes.readable,
      baseline_eq.symm, ?_, ?_⟩, ?_, by simp⟩
    · rw [by'.call]
      rfl
    · rw [by'.call, baseline_eq]
      rfl
    · intro front g back j y split earlier
      by_contra uncleared
      have standing := since front g back j y split earlier
        fun c member cleared => uncleared ⟨c, member, cleared⟩
      simp [unowned] at standing

theorem ownershipHistory_step {past : List CalibrationMoment} {e : CalibrationMoment}
    (step : e = Step.of calibrationStep e.pre e.input) (history : OwnershipHistory past e.pre) :
    OwnershipHistory (past ++ [e]) e.post :=
  ⟨paired_step step history.paired, history.since.step step,
    history.provenance.step step history.since⟩

theorem ownershipHistory_run {rest : ZoneRuntime} {events : List CalibrationEvent}
    {past : List CalibrationMoment} {e : CalibrationMoment}
    (moment : past ++ [e] <+: calibrationRun rest events) : OwnershipHistory past e.pre := by
  refine history_of_moment calibrationStep OwnershipHistory ?_ (fun past t i history => ?_) moment
  · refine ⟨rfl, ?_, ?_⟩
    · intro front g back i x split
      simp at split
    · intro baseline entity held
      cases held
  · exact ownershipHistory_step (e := Step.of calibrationStep t i) rfl history

/-! ### The law of ownership -/

structure OwnershipLaw (run : List CalibrationMoment) : Prop where
  paired : ∀ e ∈ run, Paired e.post
  provenance : ∀ past e, past ++ [e] <+: run → FoundBefore (past ++ [e]) e.post
  -- A clear takes both, and there are three of its kind.
  cleared : ∀ e ∈ run, Cleared e → e.post.actuator.calEntity = none ∧ EndedBy e
  owned : ∀ e ∈ run, e.pre.actuator.calBaseline.isSome = true →
    ∀ x ∈ e.output.executions, x.effectId = .calWrite → x.entityId = e.pre.actuator.calEntity
  -- The first write tick after a restart writes nothing under ownership.
  quarantine : ∀ before r between e, before ++ r :: between ++ [e] <+: run → Restarted r →
    (∀ g ∈ between, ¬ WriteTick g) → e.pre.actuator.calBaseline.isSome = true →
    ∀ x ∈ e.output.executions, x.effectId ≠ .calWrite
  -- Two writes of one ownership in one process.
  spaced : ∀ before f between e i x j y, before ++ f :: between ++ [e] <+: run →
    Wrote f i x → Wrote e j y → (∀ g ∈ between, ¬ Cleared g ∧ ¬ Restarted g) →
    calibrationMinIntervalS ≤ j.now - i.now ∧
      ∃ entity value wall, x.entityId = some entity ∧ x.commandedValue = some value ∧
        x.dispatchWallTs = some wall ∧ ∃ g ∈ between ++ [e], ShowsOffset g entity value wall

theorem clear_ended {e : CalibrationMoment} (step : e = Step.of calibrationStep e.pre e.input)
    (cleared : Cleared e) : e.post.actuator.calEntity = none ∧ EndedBy e := by
  obtain ⟨held, gone⟩ := cleared
  rcases ownership_step step with ⟨first, _⟩ | ⟨_, owner, ended⟩ | ⟨unowned, _⟩
  · rw [first] at gone
    simp [gone] at held
  · exact ⟨owner, ended⟩
  · simp [unowned] at held

theorem write_owned {e : CalibrationMoment} (step : e = Step.of calibrationStep e.pre e.input)
    (paired : Paired e.pre) (held : e.pre.actuator.calBaseline.isSome = true)
    {x : EffectExecution} (member : x ∈ e.output.executions) (write : x.effectId = .calWrite) :
    x.entityId = e.pre.actuator.calEntity := by
  rw [step] at member
  obtain ⟨i, act, entity, m, trvTemp, _, writes, rfl, _⟩ := calWrite_writes member write
  rw [Paired, held] at paired
  obtain ⟨owned, pinned⟩ := Option.isSome_iff_exists.mp paired.symm
  rw [pinned, writes.unpinned owned pinned]
  rfl

/-- Ownership without evidence writes nothing. -/
theorem unanchored_silent {e : CalibrationMoment}
    (step : e = Step.of calibrationStep e.pre e.input)
    (held : e.pre.actuator.calBaseline.isSome = true)
    (unanchored : e.pre.actuator.lastCalValue = none) :
    ∀ x ∈ e.output.executions, x.effectId ≠ .calWrite := by
  intro x member write
  rw [step] at member
  obtain ⟨i, act, entity, m, trvTemp, _, writes, _⟩ := calWrite_writes member write
  have anchored := writes.anchored held
  simp [unanchored] at anchored

/-- In every run of ticks, port calls and restarts the ownership law holds. -/
theorem calibration_ownership (rest : ZoneRuntime) (events : List CalibrationEvent) :
    OwnershipLaw (calibrationRun rest events) where
  paired := by
    intro e member
    exact (paired_run member).2
  provenance := by
    intro past e moment
    have step := step_of_mem calibrationStep (mem_of_moment calibrationStep moment)
    exact (ownershipHistory_step step (ownershipHistory_run moment)).provenance
  cleared := by
    intro e member
    exact clear_ended (step_of_mem calibrationStep member)
  owned := by
    intro e member held x call write
    exact write_owned (step_of_mem calibrationStep member) (paired_run member).1 held call write
  quarantine := by
    intro before r between e moment restarted idle held
    obtain ⟨step, events', event, rfl, rfl⟩ := between_trace calibrationStep moment
    have unanchored : r.post.actuator.lastCalValue = none := by
      rw [step, restarted]
      rfl
    exact unanchored_silent rfl held (unanchored_between unanchored idle)
  spaced := by
    intro before f between e i x j y moment first second kept
    obtain ⟨step, events', event, rfl, rfl⟩ := between_trace calibrationStep moment
    have paired : Paired f.pre := (paired_run (moment.subset (by simp))).1
    obtain ⟨entity, value, wall, target, offset, instant, evidence⟩ := first.evidence step paired
    obtain ⟨spaced, shown⟩ := write_spaced (paired_step step paired) evidence kept second
    exact ⟨spaced, entity, value, wall, target, offset, instant, shown⟩

def freshValve : CalibrationMeta := ⟨0, -5, 5, 1 / 2, by norm_num, by norm_num⟩

def warmValve : CalibratedActuator :=
  { state := "heat", hvacModes := ["off", "heat"], currentTemperature := some 22, lastUpdated := 0 }

/-- A room at 20 degrees whose valve reads 22. -/
def offsetTick (now : ℚ) (entity : String) (read : String → CalibrationRead) : CalibrationTick where
  now := now
  wallNow := now
  roomDecide := 20
  actState := some warmValve
  extNum := false
  trvCalibration := true
  calibrationEntity := some entity
  read := read
  entryId := "zone"
  dispatch := { sent := true, wall := now }

def beforeRename : CalibrationTick := offsetTick 1000 "number.a" fun _ => .readable freshValve

def afterRename (now : ℚ) : CalibrationTick :=
  offsetTick now "number.b" fun entity =>
    if entity = "number.a" then .gone else .readable freshValve

/-- The owned entity is renamed; its release lets the successor be written at once. -/
theorem rename_unspaced :
    ¬ ∀ rest events before f between e i x j y,
      before ++ f :: between ++ [e] <+: calibrationRun rest events →
      Wrote f i x → Wrote e j y → (∀ g ∈ between, ¬ Restarted g) →
      calibrationMinIntervalS ≤ j.now - i.now := by
  intro law
  let owned := (calibrationStep (ZoneRuntime.unowned {}) (.tick beforeRename)).1
  let released := (calibrationStep owned (.tick (afterRename 1060))).1
  have spaced := law {} [.tick beforeRename, .tick (afterRename 1060), .tick (afterRename 1120)]
    [] (Step.of calibrationStep (ZoneRuntime.unowned {}) (.tick beforeRename))
    [Step.of calibrationStep owned (.tick (afterRename 1060))]
    (Step.of calibrationStep released (.tick (afterRename 1120)))
    beforeRename (beforeRename.runCalibration "number.a" (-2) 0 false)
    (afterRename 1120) ((afterRename 1120).runCalibration "number.b" (-2) 0 false)
    List.prefix_rfl
    ⟨rfl, by decide +kernel, rfl, rfl⟩ ⟨rfl, by decide +kernel, rfl, rfl⟩
    (by simp [Restarted])
  exact absurd spaced (by decide +kernel)

end Poise
