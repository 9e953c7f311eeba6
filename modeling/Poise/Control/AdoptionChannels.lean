import Poise.Control.PipelineActuate

/-!
# The adoption channels as machines

What a zone does to one adoption channel, one event at a time and in any order.
The setpoint channel is observed by a tick and written with any value; the mode
channel is observed and nudged into any mode. The steps are the stages and the
commit of the tick itself, so every tick is a short run of these machines.
-/
namespace Poise

open Rounding

/-! ### Setpoint channel -/

/-- A setpoint call of any value; `reading` is the device setpoint right before. -/
structure SetpointDispatch where
  now : ℚ
  value : ℚ
  reading : Option ℚ
  contextId : String
  sent : Bool
  finalMode : String := "heat"
  deriving DecidableEq, Repr

def SetpointDispatch.execution (w : SetpointDispatch) : EffectExecution where
  effectId := .setpointWrite
  attempted := true
  success := w.sent
  contextId := some w.contextId
  preWriteValue := w.reading
  commandedValue := some w.value
  commandedMode := some w.finalMode

inductive SetpointEvent where
  | observe (i : TickInput)
  | write (w : SetpointDispatch)
  deriving DecidableEq, Repr

def SetpointEvent.now : SetpointEvent → ℚ
  | .observe i => i.now
  | .write w => w.now

/-- One event of the setpoint channel; the output is the value it adopts. -/
def setpointStep (rt : ZoneRuntime) : SetpointEvent → ZoneRuntime × Option ℚ
  | .observe i =>
    let (rt, spo) := observeAndAdopt rt i (rt.external.isOwnWrite i.contextId) false .noneYet
    (rt, spo.adoptedSp)
  | .write w => (commitReport w.now rt [w.execution], none)

theorem rebaselined_open {external : ExternalOverrideRuntime} {i : TickInput} {ownChange : Bool}
    (letThrough : (i.setpointGates ownChange).letSetpoint) :
    rebaselined external i ownChange = external := by
  cases ownChange with
  | true => simp [TickInput.setpointGates, AdoptGates.letSetpoint] at letThrough
  | false => rfl

theorem observe_adopts {rt : ZoneRuntime} {i : TickInput} {ownChange modeNudge : Bool} {a : ℚ} :
    (stageSetpointObserve rt i ownChange modeNudge).2.adoptedSp = some a ↔
      i.actualSp = some a ∧ (i.setpointGates ownChange).letSetpoint ∧
      ∃ written writtenAt, rt.external.lastWrittenSp = some written ∧
        rt.external.lastSpWriteTs = some writtenAt ∧ i.adoptDeadband ≤ distance a written ∧
        0 < roundTo (a - frostFloorC) 3 ∧
        (i.now - writtenAt < setpointAdoptEchoWindowS →
          ∃ pre, rt.external.preWriteSp = some pre ∧ i.adoptDeadband ≤ distance a pre) ∧
        (setpointAdoptEchoWindowS ≤ i.now - writtenAt →
          ∀ prev, rt.external.prevDeviceSp = some prev → i.adoptDeadband ≤ distance a prev) := by
  simp only [stageSetpointObserve, AdoptReason.adopted]
  by_cases letThrough : (i.setpointGates ownChange).letSetpoint
  · rw [observeSetpoint_open letThrough, rebaselined_open letThrough]
    simp only [letThrough, true_and, Option.ite_none_right_eq_some, setpointAdoptReason_adopt]
    constructor
    · rintro ⟨⟨device, written, writtenAt, reads, facts⟩, same⟩
      obtain rfl : device = a := Option.some.inj (reads.symm.trans same)
      exact ⟨same, written, writtenAt, facts⟩
    · rintro ⟨same, written, writtenAt, facts⟩
      exact ⟨⟨a, written, writtenAt, same, facts⟩, same⟩
  · simp [letThrough, (observeSetpoint_closed letThrough).1]

/-- An observation that adopts nothing only moves the remembered reading, the own
echo baseline and the episode. -/
theorem observe_idle (rt : ZoneRuntime) (i : TickInput) (ownChange modeNudge : Bool)
    (modeReason : AdoptReason)
    (idle : (stageSetpointObserve rt i ownChange modeNudge).2.adoptedSp = none) :
    (observeAndAdopt rt i ownChange modeNudge modeReason).1.external =
      noteDeviceSetpoint (endEpisodeOffline (rebaselined rt.external i ownChange) i) i.actualSp := by
  simp only [observeAndAdopt, stageSetpointAdopt, idle]
  rfl

theorem observe_adopting (rt : ZoneRuntime) (i : TickInput) (ownChange modeNudge : Bool)
    (modeReason : AdoptReason) {a : ℚ}
    (adopting : (stageSetpointObserve rt i ownChange modeNudge).2.adoptedSp = some a) :
    (observeAndAdopt rt i ownChange modeNudge modeReason).1.external =
      adoptSetpointBaselines
        (noteDeviceSetpoint (endEpisodeOffline rt.external i) i.actualSp) a i.step i.now := by
  have opened := (observe_adopts.mp adopting).2.1
  simp only [observeAndAdopt, stageSetpointAdopt, adopting]
  simp only [stageSetpointObserve, rebaselined_open opened]

theorem observe_idle_baselines {rt : ZoneRuntime} {i : TickInput}
    (silent : (setpointStep rt (.observe i)).2 = none) :
    let external := (setpointStep rt (.observe i)).1.external
    external.preWriteSp = rt.external.preWriteSp ∧ external.prevDeviceSp = i.actualSp ∧
      external.lastSpWriteTs = rt.external.lastSpWriteTs ∧
      (rt.external.isOwnWrite i.contextId = false →
        external.lastWrittenSp = rt.external.lastWrittenSp) := by
  have after : (setpointStep rt (.observe i)).1.external = _ :=
    observe_idle rt i (rt.external.isOwnWrite i.contextId) false .noneYet silent
  rw [after]
  simp only [noteDeviceSetpoint, endEpisodeOffline, rebaselined, rebaselineOwnEcho]
  cases rt.external.isOwnWrite i.contextId <;> cases i.actualSp <;> cases i.actuatorOnline <;> simp

theorem observe_adopting_baselines {rt : ZoneRuntime} {i : TickInput} {a : ℚ}
    (adopting : (setpointStep rt (.observe i)).2 = some a) :
    let external := (setpointStep rt (.observe i)).1.external
    external.preWriteSp = rt.external.lastWrittenSp ∧ external.prevDeviceSp = i.actualSp ∧
      external.lastSpWriteTs = some i.now ∧
      external.lastWrittenSp = some (snapValue a i.step) := by
  -- the command moves to the pre-write baseline, and the window starts again
  have after : (setpointStep rt (.observe i)).1.external = _ :=
    observe_adopting rt i (rt.external.isOwnWrite i.contextId) false .noneYet adopting
  rw [after]
  simp only [adoptSetpointBaselines, noteDeviceSetpoint, endEpisodeOffline]
  cases i.actuatorOnline <;> simp

theorem write_external (rt : ZoneRuntime) (w : SetpointDispatch) :
    (setpointStep rt (.write w)).1.external =
      commitSetpointBaselines rt.external w.execution w.now := by
  simp only [setpointStep, commitReport, List.foldl]
  rw [commitEffect_setpointWrite rfl]

theorem write_baselines (rt : ZoneRuntime) (w : SetpointDispatch) :
    let external := (setpointStep rt (.write w)).1.external
    external.preWriteSp = w.reading ∧ external.prevDeviceSp = rt.external.prevDeviceSp ∧
      external.lastWrittenSp = (if w.sent then some w.value else rt.external.lastWrittenSp) ∧
      external.lastSpWriteTs = (if w.sent then some w.now else rt.external.lastSpWriteTs) := by
  -- the attempt leaves the reading before it, whether or not the call went out
  rw [write_external]
  obtain ⟨pre, prev, written, stamp⟩ :=
    attemptSetpoint_attempted rt.external (x := w.execution) rfl
  cases sent : w.sent with
  | false =>
    have failed : w.execution.success = false := sent
    simp only [commitSetpointBaselines, failed]
    exact ⟨pre, prev, written, stamp⟩
  | true =>
    have success : w.execution.success = true := sent
    obtain ⟨samePre, samePrev⟩ := beginEpisode_readings
      (attemptSetpoint rt.external w.execution) w.execution.commandedValue w.now
    simp only [commitSetpointBaselines, success]
    exact ⟨samePre.trans pre, samePrev.trans prev, rfl, rfl⟩

/-! ### Mode channel -/

structure ModeReading where
  now : ℚ
  deviceMode : Option String
  desiredMode : String
  supportedModes : List String
  gates : AdoptGates
  deriving DecidableEq, Repr

/-- A mode call; whether it is a change is judged at dispatch. -/
structure ModeDispatch where
  now : ℚ
  mode : String
  contextId : String
  sent : Bool
  deriving DecidableEq, Repr

def ModeDispatch.execution (w : ModeDispatch) (external : ExternalOverrideRuntime) :
    EffectExecution where
  effectId := .modeNudge
  attempted := true
  success := w.sent
  contextId := some w.contextId
  commandedMode := some w.mode
  modeChanged := some w.mode ≠ external.lastCommandedHvac

inductive ModeEvent where
  | observe (o : ModeReading)
  | nudge (w : ModeDispatch)
  deriving DecidableEq, Repr

/-- One event of the mode channel; the output is the mode it adopts. -/
def modeStep (rt : ZoneRuntime) : ModeEvent → ZoneRuntime × Option String
  | .observe o =>
    let reason := observeMode rt.external o.gates o.deviceMode o.desiredMode o.now
      setpointAdoptEchoWindowS o.supportedModes
    ({ rt with
        external := freezeModeReference rt.external o.deviceMode o.now setpointAdoptEchoWindowS },
      reason.adopted o.deviceMode)
  | .nudge w => (commitReport w.now rt [w.execution rt.external], none)

theorem mode_adopts {rt : ZoneRuntime} {o : ModeReading} {mode : String} :
    (modeStep rt (.observe o)).2 = some mode ↔
      o.deviceMode = some mode ∧ o.gates.letMode ∧ usableMode (some mode) ∧
      mode ≠ o.desiredMode ∧ mode ∈ o.supportedModes ∧ mode ≠ "heat_cool" ∧
      (∃ commanded commandedAt, rt.external.lastCommandedHvac = some commanded ∧
        mode ≠ commanded ∧ rt.external.lastHvacCmdTs = some commandedAt ∧
        setpointAdoptEchoWindowS ≤ o.now - commandedAt) ∧
      rt.external.prevDeviceMode ≠ some mode := by
  simp only [modeStep, AdoptReason.adopted, Option.ite_none_right_eq_some, observeMode_open]
  constructor
  · intro ⟨⟨opened, adopts⟩, reads⟩
    rw [reads, modeAdoptReason_adopt] at adopts
    exact ⟨reads, opened, adopts⟩
  · intro ⟨reads, opened, adopts⟩
    rw [reads, modeAdoptReason_adopt]
    exact ⟨⟨opened, adopts⟩, rfl⟩

theorem mode_observe_reference (rt : ZoneRuntime) (o : ModeReading) :
    let external := (modeStep rt (.observe o)).1.external
    external.prevDeviceMode = o.deviceMode ∨
      external.prevDeviceMode = rt.external.prevDeviceMode := by
  -- the reference stands still inside the echo window
  simp only [modeStep, freezeModeReference]
  split
  next elapsed => exact .inl rfl
  next inside => exact .inr rfl

theorem mode_nudge_reference (rt : ZoneRuntime) (w : ModeDispatch) :
    (modeStep rt (.nudge w)).1.external.prevDeviceMode = rt.external.prevDeviceMode := by
  simp only [modeStep, commitReport, List.foldl]
  rw [commitEffect_modeNudge rfl, commitModeNudge_prevDeviceMode]

end Poise
