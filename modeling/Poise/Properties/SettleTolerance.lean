import Poise.Control.TickSetpoint
import Poise.Foundation.Trace

/-!
# How far from the command a settle may be

Neither gate compares the reading with the command: a reading at rest that is a fresh own
echo, or that the detector judged, releases at any distance. The distance that is reported
in the end stays within the tolerance while the readings do, from the fourth
suppressed re-assert on.
-/
namespace Poise

open Trace

/-! ### One re-assert -/

/-- What one tick shows the classification and the idempotence gate. -/
structure ReassertCall where
  ownChange : Bool
  staleOwnEcho : Bool
  actualSp : Option ℚ
  lastCmdSp : Option ℚ
  prevDeviceSp : Option ℚ
  step : ℚ
  adoptReason : AdoptReason
  targetSnapped : PyFloat
  cmdEpisodeTs : Option ℚ
  lastSpWriteTs : Option ℚ
  now : ℚ
  modeChanged : Bool
  deriving DecidableEq, Repr

namespace ReassertCall

variable (c : ReassertCall)

def provenance : Provenance :=
  classifySettle c.ownChange c.staleOwnEcho c.actualSp c.lastCmdSp c.prevDeviceSp
    (convergenceTolerance c.step) c.adoptReason

def suppressed : Bool :=
  reassertIdempotent c.targetSnapped c.lastCmdSp c.actualSp c.prevDeviceSp c.provenance
    c.cmdEpisodeTs c.lastSpWriteTs c.now c.modeChanged

def Close : Prop :=
  ∀ actual command, c.actualSp = some actual → c.lastCmdSp = some command →
    |actual - command| ≤ convergenceTolerance c.step

/-- A reading at rest away from the command in force, under a context that is not that of a
superseded command, and under a foreign one only when the detector ran and declined. -/
structure ReleasedAfar : Prop where
  steady : c.modeChanged = false
  inForce : sameTarget c.targetSnapped c.lastCmdSp = true
  reacted : ∃ episode, c.cmdEpisodeTs = some episode ∧ episodeSettleMinS ≤ c.now - episode
  atRest : sameValue c.actualSp c.prevDeviceSp = true
  vouched : if c.ownChange then c.staleOwnEcho = false else c.adoptReason.detectorRan = true
  live : ∀ written, c.lastSpWriteTs = some written →
    written ≤ c.now ∧ c.now - written < reassertLivenessS
  afar : ∃ actual command, c.actualSp = some actual ∧ c.lastCmdSp = some command ∧
    convergenceTolerance c.step < |actual - command|

/-- At rest, the distance plays no part in the release. -/
theorem releasing_iff (atRest : sameValue c.actualSp c.prevDeviceSp = true) :
    c.provenance.releasing ↔
      if c.ownChange then c.staleOwnEcho = false else c.adoptReason.detectorRan = true := by
  rw [provenance, classifySettle_releasing]
  cases c.ownChange <;> simp [atRest]

/-- A suppressed re-assert is close to the command unless it was released from afar. -/
theorem close_iff : (c.suppressed = true → c.Close) ↔ ¬ c.ReleasedAfar := by
  have gate : c.suppressed = true ↔ _ := reassertIdempotent_iff
  constructor
  · intro close afar
    obtain ⟨actual, command, read, commanded, far⟩ := afar.afar
    have released := (c.releasing_iff afar.atRest).mpr afar.vouched
    have shut :=
      gate.mpr ⟨afar.steady, afar.inForce, afar.reacted, afar.atRest, released, afar.live⟩
    exact (close shut actual command read commanded).not_gt far
  · intro tame shut actual command read commanded
    obtain ⟨steady, inForce, reacted, atRest, released, live⟩ := gate.mp shut
    by_contra far
    exact tame ⟨steady, inForce, reacted, atRest, (c.releasing_iff atRest).mp released, live,
      actual, command, read, commanded, not_le.mp far⟩

end ReassertCall

/-! ### The count of an episode -/

theorem observeAndAdopt_count (rt : ZoneRuntime) (i : TickInput) (ownChange modeNudge : Bool)
    (modeReason : AdoptReason) :
    let after := (observeAndAdopt rt i ownChange modeNudge modeReason).1.external
    after.reassertsSuppressed ≤ rt.external.reassertsSuppressed ∧
      after.lastCmdSp = rt.external.lastCmdSp ∧
      (i.actuatorOnline = false → after.reassertsSuppressed = 0) := by
  have observed : ((stageSetpointObserve rt i ownChange modeNudge).1.external.reassertsSuppressed ≤
      rt.external.reassertsSuppressed) ∧
      (stageSetpointObserve rt i ownChange modeNudge).1.external.lastCmdSp =
        rt.external.lastCmdSp ∧
      (i.actuatorOnline = false →
        (stageSetpointObserve rt i ownChange modeNudge).1.external.reassertsSuppressed = 0) := by
    simp only [stageSetpointObserve, endEpisodeOffline, rebaselined, rebaselineOwnEcho]
    split <;> split <;> simp_all
  simp only [observeAndAdopt, stageSetpointAdopt]
  split <;> exact observed

/-- The call, if any, repeats the command in force. -/
def KeepsCommand (lastCmdSp : Option ℚ) (i : TickInput) (plan : ActuatorPlan) : Prop :=
  i.setpointDispatch.sent = true → ∀ snapped, plan.snappedSetpoint = some snapped →
    lastCmdSp = some snapped

/-- A tick counts at most one more suppressed re-assert, and another command starts anew. -/
theorem stageSetpointWrite_count (rt : ZoneRuntime) (i : TickInput)
    (adoption : ModeAdoptionResult) (nudge : ModeNudgeResult) (spo : SetpointObservation) :
    let after := stageSetpointWrite rt i adoption nudge spo
    after.1.external.reassertsSuppressed = 0 ∨
      after.1.external.lastCmdSp = rt.external.lastCmdSp ∧
        KeepsCommand rt.external.lastCmdSp i after.2 ∧
        (after.1.external.reassertsSuppressed = rt.external.reassertsSuppressed ∨
          after.1.external.reassertsSuppressed = rt.external.reassertsSuppressed + 1 ∧
            (spo.reassertIdempotent || spo.reassertThrottled) = true) := by
  simp only [stageSetpointWrite]
  split
  next snapped planned =>
    simp only [commitReport, List.foldl, commitEffect_setpointWrite (x := i.runSetpointWrite _) rfl]
    simp only [commitSetpointBaselines, beginEpisode, attemptSetpoint,
      ExternalOverrideRuntime.register, TickInput.runSetpointWrite]
    cases sent : i.setpointDispatch.sent with
    | false =>
      exact .inr ⟨rfl, fun out => absurd (sent.symm.trans out) Bool.false_ne_true, .inl rfl⟩
    | true =>
      simp only [not_true_eq_false, if_false, if_true]
      split
      next anew => exact .inl rfl
      next same =>
        simp only [not_or, not_not] at same
        refine .inr ⟨same.1.symm, fun _ other known => ?_, .inl rfl⟩
        rw [same.1, ← planned, known]
  next silent =>
    have keeps :
        KeepsCommand rt.external.lastCmdSp i (planSetpointWrite rt i adoption nudge spo) := by
      intro _ snapped planned
      rw [silent] at planned
      cases planned
    split
    next counted => exact .inr ⟨rfl, keeps, .inr ⟨rfl, counted⟩⟩
    next quiet => exact .inr ⟨rfl, keeps, .inl rfl⟩

/-- What a tick begins with, if it can end with enough re-asserts suppressed to report a settle:
it regulates an actuator that is online and declares a step, it sends no other command than the one
in force, and the re-asserts are counted already, or but for this one. -/
structure CanReport (rt : ZoneRuntime) (i : TickInput) : Prop where
  enabled : rt.user.enabled = true
  regulates : (stageHoldRouting rt i).2.offHeld = false
  online : i.actuatorOnline = true
  declares : ∃ declared, attrNumber i.actState ActuatorState.targetTempStep = some declared ∧
    0 < declared
  keeps : ∀ r, (actuationTick rt i).2.regulation = some r →
    KeepsCommand rt.external.lastCmdSp i r.plan
  counted : quantMinSuppressed ≤ rt.external.reassertsSuppressed ∨
    quantMinSuppressed ≤ rt.external.reassertsSuppressed + 1 ∧
      sameTarget (snapToStep i.target i.step) rt.external.lastCmdSp = true

theorem actuationTick_enabled {rt : ZoneRuntime} {i : TickInput} {r : Regulation}
    (regulated : (actuationTick rt i).2.regulation = some r) :
    rt.user.enabled = true ∧ (stageHoldRouting rt i).2.offHeld = false := by
  have user : (stageHoldRouting rt i).1.user.enabled = rt.user.enabled := by
    simp only [stageHoldRouting]
    split <;> rfl
  simp only [actuationTick] at regulated
  split at regulated
  next runs => exact ⟨user ▸ runs.1, Bool.not_eq_true _ ▸ runs.2⟩
  next resting => cases regulated

/-- A tick that reports could do so from the start, with its own reading and the command in
force. -/
theorem actuationTick_count {rt : ZoneRuntime} {i : TickInput} {r : Regulation}
    (regulated : (actuationTick rt i).2.regulation = some r)
    (declares : ∃ declared, attrNumber i.actState ActuatorState.targetTempStep = some declared ∧
      0 < declared)
    (enough : quantMinSuppressed ≤ (actuationTick rt i).1.external.reassertsSuppressed) :
    CanReport rt i ∧ r.observation.actualSp = i.actualSp ∧
      (actuationTick rt i).1.external.lastCmdSp = rt.external.lastCmdSp := by
  obtain ⟨enabled, regulates⟩ := actuationTick_enabled regulated
  obtain ⟨mid, before, run⟩ := actuationTick_regulated regulated
  have reading := congrArg (fun pair => pair.2.observation.actualSp) run
  have observed := congrArg (fun pair => pair.2.observation) run
  have command : mid.external.lastCmdSp = rt.external.lastCmdSp :=
    congrArg SetpointBaselines.lastCmdSp before.baselines
  obtain ⟨kept, same, offline⟩ := observeAndAdopt_count mid i (stageHoldRouting rt i).2.ownChange
    r.nudge.modeNudge r.adoption.modeAdoptReason
  obtain ⟨adopted, folded⟩ : ∃ adopted, adopted = (observeAndAdopt mid i
    (stageHoldRouting rt i).2.ownChange r.nudge.modeNudge r.adoption.modeAdoptReason).1 := ⟨_, rfl⟩
  have written : ((actuationTick rt i).1, r.plan) =
      stageSetpointWrite adopted i r.adoption r.nudge r.observation := by
    have post := congrArg Prod.fst run
    have plan := congrArg (fun pair => pair.2.plan) run
    rw [folded, observed]
    exact Prod.ext post plan
  have gate := stageSetpointWrite_count adopted i r.adoption r.nudge r.observation
  rw [← folded] at kept same offline
  rw [← written] at gate
  have positive : ¬ quantMinSuppressed ≤ 0 := by decide
  have limit : ¬ quantMinSuppressed ≤ 0 + 1 := by decide
  rcases gate with anew | ⟨unchanged, keeps, counted⟩
  · exact absurd (anew ▸ enough) positive
  · have online : i.actuatorOnline = true := by
      by_contra dropped
      have none := offline (Bool.not_eq_true _ ▸ dropped)
      rcases counted with stays | ⟨more, -⟩
      · rw [stays, none] at enough
        exact positive enough
      · rw [more, none] at enough
        exact limit enough
    refine ⟨⟨enabled, regulates, online, declares, fun other known => ?_, ?_⟩, reading,
      unchanged.trans (same.trans command)⟩
    · obtain rfl : r = other := Option.some.inj (regulated.symm.trans known)
      rw [← command, ← same]
      exact keeps
    · rw [← before.count]
      rcases counted with stays | ⟨more, silenced⟩
      · rw [stays] at enough
        exact .inl (enough.trans kept)
      · rw [more] at enough
        refine .inr ⟨enough.trans (Nat.succ_le_succ kept), ?_⟩
        rcases (Bool.or_eq_true _ _).mp silenced with idempotent | throttled
        · exact ((regulated_idempotent regulated).mp idempotent).2.1
        · exact ((regulated_throttled regulated).mp throttled).2.1

/-! ### The reported distance -/

abbrev ZoneMoment := Step ZoneRuntime ZoneEvent (Option TickOutcome)

/-- The distance that the tick reports as a settle, after its setpoint segment. -/
def settleReport (e : ZoneMoment) : Option ℚ :=
  match e.input, e.output with
  | .tick i, some outcome => outcome.regulation.bind fun r =>
    quantizationSettleDelta (attrNumber i.actState ActuatorState.targetTempStep)
      e.post.external.lastCmdSp r.observation.actualSp e.post.external.reassertsSuppressed
  | _, _ => none

def tickTolerance (e : ZoneMoment) : ℚ :=
  -- Only a tick reports a settle.
  match e.input with
  | .tick i => convergenceTolerance i.step
  | _ => 0

def ReportedClose (e : ZoneMoment) : Prop := ∀ delta ∈ settleReport e, delta ≤ tickTolerance e

instance (e : ZoneMoment) : Decidable (ReportedClose e) :=
  inferInstanceAs (Decidable (∀ delta ∈ settleReport e, _))

/-- At a tick that can report, the reading lies within the tolerance of the command in force. -/
def CloseWhileCounting (e : ZoneMoment) : Prop :=
  ∀ i, e.input = .tick i → CanReport e.pre i →
    ∀ actual command, i.actualSp = some actual → e.pre.external.lastCmdSp = some command →
      distance actual command ≤ convergenceTolerance i.step

theorem reportedClose_step (rt : ZoneRuntime) (event : ZoneEvent)
    (close : CloseWhileCounting (Step.of zoneStep rt event)) :
    ReportedClose (Step.of zoneStep rt event) := by
  intro delta reported
  cases event with
  | tick i =>
    have asked : ((actuationTick rt i).2.regulation.bind fun r =>
        quantizationSettleDelta (attrNumber i.actState ActuatorState.targetTempStep)
          (actuationTick rt i).1.external.lastCmdSp r.observation.actualSp
          (actuationTick rt i).1.external.reassertsSuppressed) = some delta := reported
    obtain ⟨r, regulated, judged⟩ := Option.bind_eq_some_iff.mp asked
    obtain ⟨enough, declared, command, actual, steps, commanded, read, positive, -, rfl⟩ :=
      quantizationSettleDelta_eq_some.mp judged
    obtain ⟨able, reading, unchanged⟩ :=
      actuationTick_count regulated ⟨declared, steps, positive⟩ enough
    exact close i rfl able actual command (reading.symm.trans read)
      (unchanged.symm.trans commanded)
  | safeState plan modeSent setpointSent => cases reported
  | command c => cases reported

/-- A suppressed re-assert is close to the command exactly when it was not released from
afar; and over every run the reported settle is within the tolerance as long as the readings
are, from the fourth suppressed re-assert on. -/
theorem settle_within_tolerance (c : ReassertCall) (start : ZoneRuntime)
    (events : List ZoneEvent) :
    ((c.suppressed = true → c.Close) ↔ ¬ c.ReleasedAfar) ∧
      ((∀ e ∈ trace zoneStep start events, CloseWhileCounting e) →
        ∀ e ∈ trace zoneStep start events, ReportedClose e) := by
  refine ⟨c.close_iff, fun close e member => ?_⟩
  have within := close e member
  rw [step_of_mem _ member] at within ⊢
  exact reportedClose_step _ _ within

private def jammed : List ZoneEvent :=
  [0, 100, 200, 300, 400, 500].map fun now => .tick (valveTick now (some 16))

private def jammedCall : ReassertCall where
  ownChange := false
  staleOwnEcho := false
  actualSp := some 16
  lastCmdSp := some 24
  prevDeviceSp := some 16
  step := 0.5
  adoptReason := .stableOffset
  targetSnapped := .finite 24
  cmdEpisodeTs := some 0
  lastSpWriteTs := some 0
  now := 200
  modeChanged := false

/-- A valve jammed at 16 °C under a command of 24 °C: the re-assert is suppressed as an
accepted settle, and the sixth tick reports a settle of eight kelvin. -/
theorem jammed_valve_reported :
    (jammedCall.suppressed = true ∧ ¬ jammedCall.Close) ∧
      (trace zoneStep {} jammed).map settleReport = [none, none, none, none, none, some 8] ∧
      ¬ ∀ e ∈ trace zoneStep {} jammed, ReportedClose e := by
  refine ⟨⟨by decide +kernel, fun close => ?_⟩, by decide +kernel, by decide +kernel⟩
  have near := close 16 24 rfl rfl
  norm_num [jammedCall, convergenceTolerance] at near

end Poise
