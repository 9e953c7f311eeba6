import Poise.Control.TickSetpoint
import Poise.Foundation.Trace

/-!
# The write economy over runs

A device that does not follow is told again, neither too often nor too rarely: a
command in force is dispatched again within an hour, never twice within ten
minutes, and a new command never waits for either gate.
-/
namespace Poise

open Trace

abbrev TickMoment := Step ZoneRuntime TickInput TickOutcome

def dispatched (e : TickMoment) : Bool :=
  e.input.setpointDispatch.sent && e.output.regulation.any fun r => r.plan.writeSetpoint

/-- Nothing but the two re-assert gates can keep `target` back on this tick: the
zone regulates an online device that reads something else, a dispatch succeeds,
and no adoption, guard block, off hold or regulation period is in the way. -/
def insists (target : ℚ) (e : TickMoment) : Bool :=
  e.input.actuatorOnline && e.input.setpointDispatch.sent &&
    e.post.user.modeOverride ≠ some "off" &&
    snapToStep e.input.target e.input.step = .finite target &&
    (e.input.actualSp.any fun actual => writeDeadbandC ≤ distance target actual) &&
    e.output.regulation.any fun r =>
      r.observation.adoptedSp.isNone && r.nudge.modeNudgeBlocked.isNone &&
        ! r.observation.regThrottled

def changesMode (e : TickMoment) : Bool :=
  -- The tick commands another device mode than the last one written.
  e.output.regulation.any fun r => r.observation.modeChanged

def delayed (e : TickMoment) : Bool :=
  e.output.regulation.any fun r =>
    r.observation.reassertIdempotent || r.observation.reassertThrottled

/-! ### A command in force -/

structure Insisting (target : ℚ) (rt : ZoneRuntime) (i : TickInput) (r : Regulation)
    (raw : ℚ) : Prop where
  decides : GatesDecide rt i r raw
  sent : i.setpointDispatch.sent = true
  snapped : snapValue raw i.step = target

theorem insisting_of_insists {target : ℚ} {rt : ZoneRuntime} {i : TickInput}
    (insistent : insists target (Step.of actuationTick rt i)) :
    ∃ r raw, Insisting target rt i r raw := by
  simp only [insists, Step.of_input, Step.of_output, Step.of_post, Bool.and_eq_true,
    decide_eq_true_eq, Option.any_eq_true, Bool.not_eq_true', Option.isNone_iff_eq_none] at insistent
  obtain ⟨⟨⟨⟨⟨online, sent⟩, notOff⟩, settled⟩, apart⟩, r, regulated, ⟨idle, unblocked⟩,
    unthrottled⟩ := insistent
  have snapped := of_decide_eq_true settled
  cases asked : i.target with
  | finite raw =>
    rw [asked] at snapped
    obtain rfl : snapValue raw i.step = target := PyFloat.finite.inj snapped
    exact ⟨r, raw, ⟨regulated, online, of_decide_eq_true notOff, asked, apart, idle, unblocked,
      unthrottled⟩, sent, rfl⟩
  | _ => simp [asked, snapToStep] at snapped

namespace Insisting

variable {target raw : ℚ} {rt : ZoneRuntime} {i : TickInput} {r : Regulation}

theorem dispatched_iff_writes (insisting : Insisting target rt i r raw) :
    dispatched (Step.of actuationTick rt i) = true ↔ r.plan.writeSetpoint = true := by
  simp [dispatched, insisting.sent, insisting.decides.regulated]

theorem dispatched_iff (insisting : Insisting target rt i r raw) :
    dispatched (Step.of actuationTick rt i) = true ↔
      r.observation.reassertIdempotent = false ∧ r.observation.reassertThrottled = false := by
  -- everything else that could hold the write back is excluded by `insists`
  rw [insisting.dispatched_iff_writes, insisting.decides.writes_iff]

theorem after_dispatch (insisting : Insisting target rt i r raw)
    (sent : dispatched (Step.of actuationTick rt i) = true) :
    let after := (actuationTick rt i).1.setpoint
    after.lastSpWriteTs = some i.now ∧ after.lastCmdSp = some target ∧
      after.cmdEpisodeTs.isSome := by
  have writes := insisting.dispatched_iff_writes.mp sent
  obtain ⟨stamp, episode, wanted, finite, command⟩ :=
    regulated_dispatched insisting.decides.regulated writes insisting.sent
  obtain rfl : raw = wanted := PyFloat.finite.inj (insisting.decides.finite.symm.trans finite)
  rw [insisting.snapped] at command
  exact ⟨stamp, command, episode⟩

theorem after_silence (insisting : Insisting target rt i r raw)
    (silent : dispatched (Step.of actuationTick rt i) = false) :
    let after := (actuationTick rt i).1.setpoint
    after.lastSpWriteTs = rt.setpoint.lastSpWriteTs ∧ after.lastCmdSp = rt.setpoint.lastCmdSp ∧
      after.cmdEpisodeTs = rt.setpoint.cmdEpisodeTs := by
  have quiet : r.plan.writeSetpoint = false := by
    rw [Bool.eq_false_iff, ne_eq, ← insisting.dispatched_iff_writes, silent]
    decide
  -- an online actuator does not end the episode
  simpa [SetpointBaselines.episode, insisting.decides.online] using
    regulated_silent insisting.decides.regulated insisting.decides.idle quiet

end Insisting

/-! ### The pace of the dispatches -/

/-- The stamp is the latest dispatch of the run, and its command is still in force. -/
structure Paced (target : ℚ) (past : List TickMoment) (rt : ZoneRuntime) : Prop where
  latest : (∃ p ∈ past, dispatched p) → ∃ q ∈ past, dispatched q ∧
    rt.setpoint.lastSpWriteTs = some q.input.now ∧
    ∀ p ∈ past, dispatched p → p.input.now ≤ q.input.now
  inForce : (∃ p ∈ past, dispatched p) →
    rt.setpoint.lastCmdSp = some target ∧ rt.setpoint.cmdEpisodeTs.isSome

def InsistsInOrder (target : ℚ) (past : List TickMoment) (e : TickMoment) : Prop :=
  insists target e ∧ ∀ p ∈ past, p.input.now ≤ e.input.now

theorem Paced.step {target : ℚ} {past : List TickMoment} {rt : ZoneRuntime} {i : TickInput}
    (paced : Paced target past rt)
    (inOrder : InsistsInOrder target past (Step.of actuationTick rt i)) :
    Paced target (past ++ [Step.of actuationTick rt i]) (actuationTick rt i).1 := by
  obtain ⟨r, raw, insisting⟩ := insisting_of_insists inOrder.1
  cases sent : dispatched (Step.of actuationTick rt i) with
  | true =>
    obtain ⟨stamp, command, episode⟩ := insisting.after_dispatch sent
    constructor
    · intro _
      refine ⟨Step.of actuationTick rt i, by simp, sent, stamp, ?_⟩
      intro p member _
      rw [List.mem_append, List.mem_singleton] at member
      cases member with
      | inl earlier => exact inOrder.2 p earlier
      | inr same => rw [same]
    · intro _
      exact ⟨command, episode⟩
  | false =>
    obtain ⟨stamp, command, episode⟩ := insisting.after_silence sent
    -- the new tick adds no dispatch to the past
    have same : ∀ p ∈ past ++ [Step.of actuationTick rt i], dispatched p → p ∈ past := by
      intro p member went
      rw [List.mem_append, List.mem_singleton] at member
      cases member with
      | inl earlier => exact earlier
      | inr last => simp [last, sent] at went
    constructor
    · intro ⟨p, member, went⟩
      obtain ⟨q, known, sentQ, stamped, newest⟩ := paced.latest ⟨p, same p member went, went⟩
      rw [stamp]
      exact ⟨q, by simp [known], sentQ, stamped,
        fun f later wentF => newest f (same f later wentF) wentF⟩
    · intro ⟨p, member, went⟩
      rw [command, episode]
      exact paced.inForce ⟨p, same p member went, went⟩

theorem Paced.dispatches {target : ℚ} {past : List TickMoment} {rt : ZoneRuntime} {i : TickInput}
    (paced : Paced target past rt) (insistent : insists target (Step.of actuationTick rt i))
    (before : ∃ p ∈ past, dispatched p)
    (due : ∀ p ∈ past, dispatched p → reassertLivenessS ≤ i.now - p.input.now) :
    dispatched (Step.of actuationTick rt i) := by
  -- both gates measure from the latest dispatch, and that was an hour ago
  obtain ⟨r, raw, insisting⟩ := insisting_of_insists insistent
  obtain ⟨q, member, sent, stamp, _⟩ := paced.latest before
  have hour : reassertLivenessS ≤ i.now - q.input.now := due q member sent
  rw [insisting.dispatched_iff]
  constructor
  · rw [Bool.eq_false_iff]
    intro held
    obtain ⟨_, _, _, _, _, recent⟩ := (regulated_idempotent insisting.decides.regulated).mp held
    exact absurd hour (not_le.mpr (recent _ stamp).2)
  · rw [Bool.eq_false_iff]
    intro held
    obtain ⟨_, _, _, written, stamped, _, recent⟩ :=
      (regulated_throttled insisting.decides.regulated).mp held
    rw [stamp, Option.some.injEq] at stamped
    rw [← stamped] at recent
    have shorter : minSetpointReassertIntervalS < reassertLivenessS := by
      norm_num [minSetpointReassertIntervalS, reassertLivenessS]
    exact absurd hour (not_le.mpr (recent.trans shorter))

theorem Paced.spaces {target : ℚ} {past : List TickMoment} {rt : ZoneRuntime} {i : TickInput}
    (paced : Paced target past rt)
    (inOrder : InsistsInOrder target past (Step.of actuationTick rt i))
    (sameMode : changesMode (Step.of actuationTick rt i) = false)
    (sent : dispatched (Step.of actuationTick rt i)) :
    ∀ p ∈ past, dispatched p → minSetpointReassertIntervalS ≤ i.now - p.input.now := by
  intro p member went
  obtain ⟨r, raw, insisting⟩ := insisting_of_insists inOrder.1
  obtain ⟨q, known, _, stamp, newest⟩ := paced.latest ⟨p, member, went⟩
  obtain ⟨command, episode⟩ := paced.inForce ⟨p, member, went⟩
  have opened := (insisting.dispatched_iff.mp sent).2
  rw [Bool.eq_false_iff, ne_eq, regulated_throttled insisting.decides.regulated] at opened
  have mode : rt.setpoint.lastWrittenMode = some i.finalMode := by
    simpa [changesMode, insisting.decides.regulated,
      regulated_modeChanged insisting.decides.regulated] using sameMode
  have running : (rt.setpoint.episode i).isSome := by
    simpa [SetpointBaselines.episode, insisting.decides.online] using episode
  -- the gap to the newest dispatch bounds the gap to every earlier one
  have gap : minSetpointReassertIntervalS ≤ i.now - q.input.now := by
    by_contra recent
    apply opened
    rw [insisting.decides.finite, snapToStep, insisting.snapped, command]
    exact ⟨mode, sameTarget_self target, running, _, stamp, inOrder.2 q known, not_le.mp recent⟩
  have earlier : p.input.now ≤ q.input.now := newest p member went
  linarith

/-! ### Never delayed -/

/-- The command differs from the last one by more than the value tolerance, or
there is none to compare it with. -/
def commandsAnew (e : TickMoment) : Prop :=
  ∃ target, snapToStep e.input.target e.input.step = .finite target ∧
    ∀ command, e.pre.external.lastCmdSp = some command → 0.05 < |target - command|

/-- The last regulating tick before this one found the actuator gone. -/
def droppedOut (past : List TickMoment) : Bool :=
  (past.filter fun f => f.output.regulation.isSome).getLast?.any fun g => ! g.input.actuatorOnline

theorem delayed_only {rt : ZoneRuntime} {i : TickInput}
    (held : delayed (Step.of actuationTick rt i)) :
    rt.setpoint.lastWrittenMode = some i.finalMode ∧
      sameTarget (snapToStep i.target i.step) rt.setpoint.lastCmdSp ∧
      (rt.setpoint.episode i).isSome := by
  simp only [delayed, Step.of_output, Option.any_eq_true, Bool.or_eq_true] at held
  obtain ⟨r, regulated, verdict⟩ := held
  cases verdict with
  | inl idempotent =>
    obtain ⟨mode, same, ⟨episode, running, _⟩, _⟩ := (regulated_idempotent regulated).mp idempotent
    exact ⟨mode, same, by simp [running]⟩
  | inr throttled =>
    obtain ⟨mode, same, running, _⟩ := (regulated_throttled regulated).mp throttled
    exact ⟨mode, same, running⟩

theorem undelayed {rt : ZoneRuntime} {i : TickInput}
    (urgent : changesMode (Step.of actuationTick rt i) ∨ rt.external.cmdEpisodeTs = none ∨
      commandsAnew (Step.of actuationTick rt i)) :
    delayed (Step.of actuationTick rt i) = false := by
  rw [Bool.eq_false_iff]
  intro held
  obtain ⟨mode, same, running⟩ := delayed_only held
  rcases urgent with changes | ended | anew
  · simp only [changesMode, Step.of_output, Option.any_eq_true] at changes
    obtain ⟨r, regulated, changed⟩ := changes
    simp [regulated_modeChanged regulated, mode] at changed
  · simp [SetpointBaselines.episode, ZoneRuntime.setpoint, ended] at running
  · obtain ⟨target, snapped, apart⟩ := anew
    rw [Step.of_input] at snapped
    rw [snapped] at same
    cases command : rt.external.lastCmdSp with
    | none => simp [sameTarget, sameValue, ZoneRuntime.setpoint, command] at same
    | some command' =>
      have near : |target - command'| ≤ sameValueEps := by
        simpa [sameTarget, sameValue, ZoneRuntime.setpoint, command] using same
      have far := apart command' command
      norm_num [sameValueEps] at near far
      linarith

theorem episode_after_offline {rt : ZoneRuntime} {i : TickInput} {r : Regulation}
    (regulated : (actuationTick rt i).2.regulation = some r) (gone : i.actuatorOnline = false) :
    (actuationTick rt i).1.setpoint.cmdEpisodeTs = none := by
  -- a missing actuator reports no setpoint, so the tick neither adopts nor writes
  have unread : i.actualSp = none := by
    simp only [TickInput.actuatorOnline, TickInput.actualSp, attrNumber] at gone ⊢
    cases known : i.actState <;> simp_all
  have idle : r.observation.adoptedSp = none := by
    cases adopting : r.observation.adoptedSp with
    | none => rfl
    | some d =>
      have reads := regulated_reading regulated adopting
      rw [unread] at reads
      cases reads
  have silent : r.plan.writeSetpoint = false := by
    rw [Bool.eq_false_iff]
    intro writes
    obtain ⟨_, _, online, _⟩ := (regulated_writes regulated).mp writes
    simp [gone] at online
  rw [(regulated_silent regulated idle silent).2.2]
  simp [SetpointBaselines.episode, gone]

theorem droppedOut_step {past : List TickMoment} {rt : ZoneRuntime} {i : TickInput}
    (known : droppedOut past → rt.setpoint.cmdEpisodeTs = none)
    (dropped : droppedOut (past ++ [Step.of actuationTick rt i])) :
    (actuationTick rt i).1.setpoint.cmdEpisodeTs = none := by
  -- a resting tick keeps the episode as it is, a regulating one is the dropout itself
  cases regulated : (actuationTick rt i).2.regulation with
  | none =>
    have rested : SafetyOnly rt.setpoint (zoneStep rt (.tick i)).1.setpoint := by
      apply zoneStep_resting
      intro outcome tick
      rw [← Option.some.inj tick]
      exact regulated
    refine rested.episode.trans (known ?_)
    simpa [droppedOut, List.filter_append, regulated] using dropped
  | some r =>
    apply episode_after_offline regulated
    simpa [droppedOut, List.filter_append, regulated] using dropped

/-! ### The law -/

/-- While a zone insists on one target, the target goes out again on the first tick
an hour after its last dispatch, and without a mode change never twice within ten
minutes. A new command, a mode change, and the return of a lost actuator pass
both gates. -/
theorem setpoint_reassert_law (rt : ZoneRuntime) (ticks : List TickInput)
    (ordered : ticks.Pairwise fun i j => i.now ≤ j.now) :
    (∀ target, (∀ e ∈ trace actuationTick rt ticks, insists target e) →
      ∀ past e, past ++ [e] <+: trace actuationTick rt ticks →
        ((∃ p ∈ past, dispatched p) →
          (∀ p ∈ past, dispatched p → reassertLivenessS ≤ e.input.now - p.input.now) →
          dispatched e) ∧
        (dispatched e → changesMode e = false →
          ∀ p ∈ past, dispatched p →
            minSetpointReassertIntervalS ≤ e.input.now - p.input.now)) ∧
    (∀ e ∈ trace actuationTick rt ticks,
      changesMode e ∨ e.pre.external.cmdEpisodeTs = none ∨ commandsAnew e → delayed e = false) ∧
    ∀ past e, past ++ [e] <+: trace actuationTick rt ticks →
      droppedOut past → delayed e = false := by
  have itself : ∀ past e, past ++ [e] <+: trace actuationTick rt ticks →
      e = Step.of actuationTick e.pre e.input :=
    fun past e moment => step_of_mem actuationTick (mem_of_moment actuationTick moment)
  refine ⟨?_, ?_, ?_⟩
  · intro target insistent
    have inOrder : ∀ past e, past ++ [e] <+: trace actuationTick rt ticks →
        InsistsInOrder target past e := by
      intro past e moment
      exact ⟨insistent e (mem_of_moment actuationTick moment),
        pairwise_past actuationTick ordered moment⟩
    intro past e moment
    have paced : Paced target past e.pre := by
      apply history_at actuationTick (Paced target) (InsistsInOrder target) _ _ inOrder moment
      · exact ⟨by simp, by simp⟩
      · exact fun past t i paced next => paced.step next
    have now := inOrder past e moment
    have self := itself past e moment
    rw [self] at now ⊢
    constructor
    · exact fun before due => paced.dispatches now.1 before due
    · exact fun sent sameMode => paced.spaces now sameMode sent
  · intro e member urgent
    rw [step_of_mem actuationTick member] at urgent ⊢
    exact undelayed urgent
  · intro past e moment dropped
    have ended : droppedOut past → e.pre.setpoint.cmdEpisodeTs = none := by
      apply history_of_moment actuationTick
        (fun past t => droppedOut past → t.setpoint.cmdEpisodeTs = none) _ _ moment
      · simp [droppedOut]
      · exact fun past t i known => droppedOut_step known
    rw [itself past e moment]
    exact undelayed (.inr (.inl (ended dropped)))

/-- A valve that stays at 20 °C, whatever it is told. -/
def stuckValve : List TickInput :=
  [valveTick 0 (some 20), valveTick 60 (some 20), valveTick 600 (some 20),
    valveTick 3540 (some 20), valveTick 3600 (some 20)]

theorem setpoint_reassert_law_stuck :
    (trace actuationTick {} stuckValve).map dispatched = [true, false, false, false, true] ∧
    ∀ past e, past ++ [e] <+: trace actuationTick {} stuckValve →
      ((∃ p ∈ past, dispatched p) →
        (∀ p ∈ past, dispatched p → reassertLivenessS ≤ e.input.now - p.input.now) →
        dispatched e) ∧
      (dispatched e → changesMode e = false →
        ∀ p ∈ past, dispatched p → minSetpointReassertIntervalS ≤ e.input.now - p.input.now) :=
  ⟨by decide +kernel,
    (setpoint_reassert_law {} stuckValve (by decide +kernel)).1 24 (by decide +kernel)⟩

end Poise
