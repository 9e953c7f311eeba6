import Poise.Runtime.Commit
import Poise.Foundation.Trace

/-!
# Attempt and success

What one execution may change, and what the commit of a whole report adds up to:
failed executions leave attempt state only, the census counts the dispatched
calls, the episode anchor moves with the command, the calibration baseline stands
and every `EndHold` ends the hold with one event.
-/
namespace Poise

open Trace

/-! ### The context ring -/

def newest16 (ids : List String) : List String := ids.drop (ids.length - 16)

theorem newest16_append (ids : List String) (id : String) :
    newest16 (newest16 ids ++ [id]) = newest16 (ids ++ [id]) := by
  unfold newest16
  rw [← List.drop_append_of_le_length (Nat.sub_le _ _), List.drop_drop]
  congr 1
  simp only [List.length_drop, List.length_append, List.length_singleton]
  omega

theorem ContextRing.append_ids (ring : ContextRing) (id : String) :
    (ring.append id).ids = newest16 (ring.ids ++ [id]) := by
  simp [ContextRing.append, newest16]

theorem ContextRing.ids_eq_newest16 (ring : ContextRing) : ring.ids = newest16 ring.ids := by
  have bounded := ring.bounded
  simp [newest16, Nat.sub_eq_zero_of_le bounded]

/-- The id an execution registers: tagged calls of three kinds, success or not. -/
def EffectExecution.registers (x : EffectExecution) : Option String :=
  match x.effectId with
  | .modeNudge | .setpointWrite | .fanWrite => if x.attempted then x.contextId else none
  | _ => none

/-! ### One execution -/

def ActuatorRuntime.writes (actuator : ActuatorRuntime) : WriteChannel → ℕ
  | .setpoint => actuator.setpointWrites
  | .mode => actuator.modeWrites
  | .externalTemp => actuator.externalTempWrites
  | .calibration => actuator.calibrationWrites
  | .select => actuator.selectWrites

def EffectExecution.countsOn (x : EffectExecution) (channel : WriteChannel) : Bool :=
  x.success && decide (x.effectId.writeChannel = some channel)

/-- The attempt state of one execution, whatever became of its dispatch. -/
def ExternalOverrideRuntime.attempt (external : ExternalOverrideRuntime) (x : EffectExecution) :
    ExternalOverrideRuntime :=
  match x.effectId with
  | .modeNudge | .fanWrite => external.register x
  | .setpointWrite => attemptSetpoint external x
  | _ => external

/-- `after` is `before` but for the attempt state. -/
def OnlyAttemptState (before after : ZoneRuntime) : Prop :=
  after = { before with
    external := { before.external with
      preWriteSp := after.external.preWriteSp
      ownWriteCtxIds := after.external.ownWriteCtxIds } }

theorem register_only (external : ExternalOverrideRuntime) (x : EffectExecution) :
    external.register x =
      { external with ownWriteCtxIds := (external.register x).ownWriteCtxIds } := by
  unfold ExternalOverrideRuntime.register
  split <;> rfl

theorem attempt_only (external : ExternalOverrideRuntime) (x : EffectExecution) :
    external.attempt x = { external with
      preWriteSp := (external.attempt x).preWriteSp
      ownWriteCtxIds := (external.attempt x).ownWriteCtxIds } := by
  have registered := register_only external x
  unfold ExternalOverrideRuntime.attempt
  split
  · rw [registered]
  · rw [registered]
  · simp only [attemptSetpoint, ExternalOverrideRuntime.register]
    split <;> split <;> rfl
  · rfl

theorem attempt_ring (external : ExternalOverrideRuntime) (x : EffectExecution) :
    (external.attempt x).ownWriteCtxIds.ids =
      newest16 (external.ownWriteCtxIds.ids ++ x.registers.toList) := by
  cases effect : x.effectId <;> cases attempted : x.attempted <;> cases context : x.contextId <;>
    simp [ExternalOverrideRuntime.attempt, EffectExecution.registers, attemptSetpoint,
      ExternalOverrideRuntime.register, effect, attempted, context, ContextRing.append_ids,
      ← ContextRing.ids_eq_newest16]

-- A failed execution is its attempt and nothing else.
theorem commitEffect_failed (now : ℚ) (rt : ZoneRuntime) {x : EffectExecution}
    (failed : x.success = false) :
    commitEffect now rt x = { rt with external := rt.external.attempt x } := by
  cases effect : x.effectId <;>
    simp [commitEffect, ExternalOverrideRuntime.attempt, effect, failed, commitModeNudge,
      commitSetpointWrite, commitSetpointBaselines, commitExtFeed, commitFanWrite, commitCalWrite]

theorem commitEffect_onlyAttempt (now : ℚ) (rt : ZoneRuntime) {x : EffectExecution}
    (failed : x.success = false) : OnlyAttemptState rt (commitEffect now rt x) := by
  unfold OnlyAttemptState
  rw [commitEffect_failed now rt failed, ← attempt_only]

theorem commitEffect_ring (now : ℚ) (rt : ZoneRuntime) (x : EffectExecution) :
    (commitEffect now rt x).external.ownWriteCtxIds =
      (rt.external.attempt x).ownWriteCtxIds := by
  cases sent : x.success with
  | false => rw [commitEffect_failed now rt sent]
  | true =>
    cases effect : x.effectId with
    | modeNudge =>
      rw [commitEffect_modeNudge effect]
      cases changed : x.modeChanged <;>
        simp [commitModeNudge, ExternalOverrideRuntime.attempt, effect, sent, changed]
    | setpointWrite =>
      rw [commitEffect_setpointWrite effect]
      simp only [commitSetpointBaselines, beginEpisode, ExternalOverrideRuntime.attempt, effect,
        sent, not_true_eq_false, if_false]
      split <;> rfl
    | fanWrite =>
      cases changed : x.fanChanged <;>
        simp [commitEffect, commitFanWrite, ExternalOverrideRuntime.attempt, effect, sent, changed]
    | _ =>
      simp [commitEffect, ExternalOverrideRuntime.attempt, effect, sent, ZoneRuntime.markActuated,
        clearCommand, commitCalWrite] <;>
        (split <;> rfl)

theorem commitEffect_writes (now : ℚ) (rt : ZoneRuntime) (x : EffectExecution)
    (channel : WriteChannel) :
    (commitEffect now rt x).actuator.writes channel =
      rt.actuator.writes channel + if x.countsOn channel then 1 else 0 := by
  cases sent : x.success with
  | false =>
    rw [commitEffect_failed now rt sent]
    simp [EffectExecution.countsOn, sent]
  | true =>
    cases effect : x.effectId <;> cases channel <;>
      simp [commitEffect, effect, sent, EffectExecution.countsOn, EffectId.writeChannel,
        ActuatorRuntime.count, ActuatorRuntime.writes, commitSetpointWrite, commitExtFeed,
        commitCalWrite, ZoneRuntime.markActuated] <;>
      (split <;> rfl)

/-- A successful setpoint write of a new value, or one that finds no running episode. -/
def BeginsEpisode (rt : ZoneRuntime) (x : EffectExecution) : Prop :=
  x.effectId = .setpointWrite ∧ x.success = true ∧
    (rt.external.lastCmdSp ≠ x.commandedValue ∨ rt.external.cmdEpisodeTs = none)

instance (rt : ZoneRuntime) (x : EffectExecution) : Decidable (BeginsEpisode rt x) := by
  unfold BeginsEpisode
  infer_instance

theorem attempt_episode (external : ExternalOverrideRuntime) (x : EffectExecution) :
    (external.attempt x).cmdEpisodeTs = external.cmdEpisodeTs ∧
      (external.attempt x).lastCmdSp = external.lastCmdSp := by
  rw [attempt_only]
  exact ⟨rfl, rfl⟩

theorem commitEffect_episode (now : ℚ) (rt : ZoneRuntime) (x : EffectExecution) :
    (commitEffect now rt x).external.cmdEpisodeTs =
      if BeginsEpisode rt x then some now else rt.external.cmdEpisodeTs := by
  have kept := attempt_episode rt.external x
  cases sent : x.success with
  | false => simp [commitEffect_failed now rt sent, BeginsEpisode, sent, kept.1]
  | true =>
    cases effect : x.effectId with
    | setpointWrite =>
      simp only [ExternalOverrideRuntime.attempt, effect] at kept
      rw [commitEffect_setpointWrite effect]
      simp only [commitSetpointBaselines, beginEpisode, BeginsEpisode, sent, effect, kept,
        not_true_eq_false, if_false, true_and]
      split <;> simp_all
    | modeNudge =>
      have moved := register_only rt.external x
      rw [commitEffect_modeNudge effect]
      simp only [commitModeNudge, sent, not_true_eq_false, if_false, BeginsEpisode, effect]
      rw [moved]
      split <;> simp
    | fanWrite =>
      have moved := register_only rt.external x
      simp only [commitEffect, effect, commitFanWrite, sent, not_true_eq_false, if_false,
        BeginsEpisode, if_true]
      rw [moved]
      split <;> simp
    | _ =>
      simp [commitEffect, effect, sent, BeginsEpisode, ZoneRuntime.markActuated, clearCommand,
        commitCalWrite] <;>
        (split <;> rfl)

theorem commitEffect_baseline (now : ℚ) (rt : ZoneRuntime) (x : EffectExecution) {baseline : ℚ}
    (owned : rt.actuator.calBaseline = some baseline) :
    (commitEffect now rt x).actuator.calBaseline = some baseline := by
  have counted : ∀ channel, (rt.actuator.count channel).calBaseline = some baseline := by
    intro channel
    rw [← owned]
    cases channel with
    | none => rfl
    | some channel => cases channel <;> rfl
  cases sent : x.success with
  | false =>
    rw [commitEffect_failed now rt sent]
    exact owned
  | true =>
    cases effect : x.effectId <;>
      simp [commitEffect, effect, sent, counted, commitSetpointWrite, commitExtFeed,
        commitCalWrite, ZoneRuntime.markActuated]

theorem commitEffect_user (now : ℚ) (rt : ZoneRuntime) (x : EffectExecution) :
    (commitEffect now rt x).user = rt.user := by
  cases sent : x.success with
  | false => rw [commitEffect_failed now rt sent]
  | true =>
    cases effect : x.effectId with
    | calWrite =>
      simp [commitEffect, effect, sent, commitCalWrite]
      split <;> rfl
    | _ => simp [commitEffect, effect, sent, commitSetpointWrite, ZoneRuntime.markActuated]

/-! ### The report -/

abbrev CommitStep := Step ZoneRuntime EffectExecution Unit

-- One execution of a report committed at an instant; without one no effect that
-- reads the clock commits.
def commitStep (now : Option ℚ) (rt : ZoneRuntime) (x : EffectExecution) : ZoneRuntime × Unit :=
  (commitEffect (now.getD 0) rt x, ())

def commitSteps (now : Option ℚ) (rt : ZoneRuntime) (report : List EffectExecution) :
    List CommitStep :=
  trace (commitStep now) rt report

theorem commitEffects_ok {now : Option ℚ} {rt after : ZoneRuntime}
    {report : List EffectExecution} (committed : commitEffects now rt report = .ok after) :
    after = final (commitStep now) rt report ∧
      ∀ x ∈ report, x.needsNow = true → now.isSome = true := by
  induction report generalizing rt with
  | nil => simp_all [commitEffects, final]
  | cons x rest ih =>
    rw [commitEffects] at committed
    split at committed
    · cases committed
    · next timed =>
      obtain ⟨same, later⟩ := ih committed
      refine ⟨same, fun y member needs => ?_⟩
      simp only [List.mem_cons] at member
      cases member with
      | inl here =>
        subst here
        simpa [needs, Option.isSome_iff_ne_none] using timed
      | inr there => exact later y there needs

theorem commitEffects_error {now : Option ℚ} {rt : ZoneRuntime} {report : List EffectExecution}
    {error : CommitError} (failed : commitEffects now rt report = .error error) :
    now = none ∧ ∃ x ∈ report, x.needsNow = true := by
  induction report generalizing rt with
  | nil => cases failed
  | cons x rest ih =>
    rw [commitEffects] at failed
    split at failed
    · next untimed =>
      simp only [Bool.and_eq_true, Option.isNone_iff_eq_none] at untimed
      exact ⟨untimed.2, x, by simp, untimed.1⟩
    · obtain ⟨none, y, member, needs⟩ := ih failed
      exact ⟨none, y, by simp [member], needs⟩

theorem ring_run (now : Option ℚ) (rt : ZoneRuntime) (report : List EffectExecution) :
    (final (commitStep now) rt report).external.ownWriteCtxIds.ids =
      newest16 (rt.external.ownWriteCtxIds.ids ++ report.filterMap EffectExecution.registers) := by
  induction report using List.reverseRecOn with
  | nil => simpa [final] using rt.external.ownWriteCtxIds.ids_eq_newest16
  | append_singleton report x ih =>
    have last : (final (commitStep now) rt (report ++ [x])).external.ownWriteCtxIds =
        ((final (commitStep now) rt report).external.attempt x).ownWriteCtxIds := by
      rw [final_append]
      exact commitEffect_ring _ _ _
    rw [last, attempt_ring, ih, List.filterMap_append, ← List.append_assoc]
    cases registered : x.registers with
    | none => simp [registered, ← ih, ← ContextRing.ids_eq_newest16]
    | some id =>
      have kept := newest16_append
        (rt.external.ownWriteCtxIds.ids ++ report.filterMap EffectExecution.registers) id
      simpa [registered] using kept

theorem census_run (now : Option ℚ) (rt : ZoneRuntime) (report : List EffectExecution)
    (channel : WriteChannel) :
    (final (commitStep now) rt report).actuator.writes channel =
      rt.actuator.writes channel + report.countP (·.countsOn channel) := by
  induction report using List.reverseRecOn with
  | nil => simp [final]
  | append_singleton report x ih =>
    rw [final_append, List.countP_append, ← Nat.add_assoc, ← ih]
    simpa [final, commitStep, List.countP_cons] using commitEffect_writes _ _ x channel

theorem user_run (now : Option ℚ) (rt : ZoneRuntime) (report : List EffectExecution) :
    (final (commitStep now) rt report).user = rt.user := by
  induction report generalizing rt with
  | nil => rfl
  | cons x rest ih => exact (ih _).trans (commitEffect_user _ rt x)

/-! ### Post-actions -/

/-- Nothing is left of a hold. -/
def HoldCleared (user : UserControlState) : Prop :=
  user.override = none ∧ user.modeOverride = none ∧ user.overrideSetWall = none ∧
    user.overrideExpiresAt = none ∧ user.overrideRequested = none ∧
    user.overrideReason = none ∧ user.overrideExpiryIsSwitchpoint = false

theorem applyPostActions_ok {rt after : ZoneRuntime} {actions : List EndHold}
    {events : List OverrideEnded} (applied : applyPostActions rt actions = .ok (after, events)) :
    events = actions.map (fun action => ⟨action.reason⟩) ∧
      after.external = rt.external ∧ after.actuator = rt.actuator ∧
      (actions = [] → after = rt) ∧
      (HoldCleared rt.user ∨ actions ≠ [] → HoldCleared after.user) := by
  induction actions generalizing rt events with
  | nil =>
    cases applied
    simp
  | cons action rest ih =>
    rw [applyPostActions] at applied
    split at applied
    · cases applied
    · cases later : applyPostActions (teardownHold rt action.reason).1 rest with
      | error error => simp [later, bind, Except.bind] at applied
      | ok result =>
        obtain ⟨ended, reports⟩ := result
        simp only [later, bind, Except.bind, pure, Except.pure, Except.ok.injEq,
          Prod.mk.injEq] at applied
        obtain ⟨rfl, rfl⟩ := applied
        obtain ⟨fired, external, actuator, _, cleared⟩ := ih later
        refine ⟨by simp [fired, teardownHold, endHold], external, actuator, by simp, fun _ => ?_⟩
        exact cleared (.inl (by simp [HoldCleared, teardownHold, endHold]))

theorem applyPostActions_error {rt : ZoneRuntime} {actions : List EndHold} {error : CommitError}
    (failed : applyPostActions rt actions = .error error) :
    ∃ action ∈ actions, action.requireSuccess = true := by
  induction actions generalizing rt error with
  | nil => cases failed
  | cons action rest ih =>
    rw [applyPostActions] at failed
    split at failed
    · next strict => exact ⟨action, by simp, strict⟩
    · cases later : applyPostActions (teardownHold rt action.reason).1 rest with
      | ok result => simp [later, bind, Except.bind, pure, Except.pure] at failed
      | error inner =>
        obtain ⟨other, member, strict⟩ := ih later
        exact ⟨other, by simp [member], strict⟩

/-! ### The whole commit -/

/-- What a commit that returns guarantees about the zone it leaves (`after`). -/
structure CommitLawful (now : Option ℚ) (rt : ZoneRuntime) (report : List EffectExecution)
    (actions : List EndHold) (after : ZoneRuntime) (events : List OverrideEnded) : Prop where
  external : after.external = (final (commitStep now) rt report).external
  actuator : after.actuator = (final (commitStep now) rt report).actuator
  untouched : actions = [] → after = final (commitStep now) rt report
  attempt : ∀ e ∈ commitSteps now rt report, e.input.success = false →
    OnlyAttemptState e.pre e.post
  ring : after.external.ownWriteCtxIds.ids =
    newest16 (rt.external.ownWriteCtxIds.ids ++ report.filterMap EffectExecution.registers)
  census : ∀ channel, after.actuator.writes channel =
    rt.actuator.writes channel + report.countP (·.countsOn channel)
  episode : ∀ e ∈ commitSteps now rt report,
    e.post.external.cmdEpisodeTs =
      if BeginsEpisode e.pre e.input then now else e.pre.external.cmdEpisodeTs
  baseline : ∀ e ∈ commitSteps now rt report, ∀ baseline,
    e.pre.actuator.calBaseline = some baseline → e.post.actuator.calBaseline = some baseline
  user : actions = [] → after.user = rt.user
  cleared : actions ≠ [] → HoldCleared after.user
  events : events = actions.map fun action => ⟨action.reason⟩

theorem commitSteps_post {now : Option ℚ} {rt : ZoneRuntime} {report : List EffectExecution}
    {e : CommitStep} (member : e ∈ commitSteps now rt report) :
    e.post = commitEffect (now.getD 0) e.pre e.input ∧ e.input ∈ report := by
  constructor
  · rw [step_of_mem _ member]
    rfl
  · rw [← trace_map_input (commitStep now) rt report]
    exact List.mem_map_of_mem member

/-- For every zone and every report the commit keeps attempt and success apart. It
fails to return only where an effect that stamps the clock comes without an
instant, or a post-action asks for the semantics it does not have. -/
theorem commit_execution_lawful (rt : ZoneRuntime) (report : List EffectExecution)
    (actions : List EndHold) (now : Option ℚ) :
    match commitExecution rt report actions now with
    | .ok (after, events) => CommitLawful now rt report actions after events
    | .error _ =>
      (now = none ∧ ∃ x ∈ report, x.needsNow = true) ∨
        ∃ action ∈ actions, action.requireSuccess = true := by
  unfold commitExecution
  cases folded : commitEffects now rt report with
  | error error => exact .inl (commitEffects_error folded)
  | ok mid =>
    simp only [bind, Except.bind]
    obtain ⟨rfl, timed⟩ := commitEffects_ok folded
    cases applied : applyPostActions (final (commitStep now) rt report) actions with
    | error error => exact .inr (applyPostActions_error applied)
    | ok result =>
      obtain ⟨after, events⟩ := result
      obtain ⟨fired, external, actuator, untouched, cleared⟩ := applyPostActions_ok applied
      exact {
        external := external
        actuator := actuator
        untouched := untouched
        attempt := fun e member failed => by
          rw [(commitSteps_post member).1]
          exact commitEffect_onlyAttempt _ _ failed
        ring := by rw [external, ring_run]
        census := fun channel => by rw [actuator, census_run]
        episode := fun e member => by
          obtain ⟨post, reported⟩ := commitSteps_post member
          rw [post, commitEffect_episode]
          split
          · next begins =>
            -- a successful setpoint write does not commit without an instant
            have instant : now.isSome = true := by
              apply timed e.input reported
              simp [EffectExecution.needsNow, begins.1, begins.2.1]
            obtain ⟨t, rfl⟩ := Option.isSome_iff_exists.mp instant
            rfl
          · rfl
        baseline := fun e member baseline owned => by
          rw [(commitSteps_post member).1]
          exact commitEffect_baseline _ _ _ owned
        user := fun none => by rw [untouched none, user_run]
        cleared := fun some => cleared (.inr some)
        events := fired }

end Poise
