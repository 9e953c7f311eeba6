import Poise.Control.CalibrationStages

/-!
# What a calibration tick does

The two segments never act in one tick: one runs on the displaced path and the
other on the live one. A tick is idle or does exactly one of five things, each
with all the gates it passed.
-/
namespace Poise

/-! ### Gates -/

/-- Segment H stands before the readable entity it owns, on a displaced path. -/
structure HandsOff (rt : ZoneRuntime) (i : CalibrationTick) (owned : String) (m : CalibrationMeta)
    (baseline : ℚ) : Prop where
  displaced : i.calibrationLivePath ≠ .calibration
  held : rt.actuator.calBaseline = some baseline
  pinned : rt.actuator.calEntity = some owned
  readable : i.calibrationMeta (some owned) = .readable m

/-- The device already shows what the restore would write. -/
structure Confirms (rt : ZoneRuntime) (i : CalibrationTick) (owned : String) (m : CalibrationMeta)
    (baseline : ℚ) : Prop extends HandsOff rt i owned m baseline where
  shown : shows m.reported (m.snap baseline) m.step = true

structure Restores (rt : ZoneRuntime) (i : CalibrationTick) (owned : String) (m : CalibrationMeta)
    (baseline : ℚ) : Prop extends HandsOff rt i owned m baseline where
  unshown : shows m.reported (m.snap baseline) m.step = false
  due : restoreDue rt.actuator.lastCalRestoreTs i.now = true

/-- The ownership pins an entity that is structurally gone. -/
structure Orphans (rt : ZoneRuntime) (i : CalibrationTick) (owned : String) : Prop where
  live : i.calibrationLivePath = .calibration
  held : rt.actuator.calBaseline.isSome = true
  pinned : rt.actuator.calEntity = some owned
  other : i.calibrationEntity ≠ some owned
  gone : i.calibrationMeta (some owned) = .gone

/-- Segment W has passed every gate before the quarantine. -/
structure Regulates (rt : ZoneRuntime) (i : CalibrationTick) (act : CalibratedActuator)
    (entity : String) (m : CalibrationMeta) (trvTemp : ℚ) : Prop where
  live : i.calibrationLivePath = .calibration
  online : i.onlineActuator = some act
  discovered : i.calibrationEntity = some entity
  readable : i.calibrationMeta none = .readable m
  unpinned : ∀ owned, rt.actuator.calEntity = some owned → owned = entity
  measured : act.currentTemperature = some trvTemp

/-- Ownership came back without the evidence of its last command. -/
structure Resumes (rt : ZoneRuntime) (i : CalibrationTick) (act : CalibratedActuator)
    (entity : String) (m : CalibrationMeta) (trvTemp : ℚ) : Prop
    extends Regulates rt i act entity m trvTemp where
  held : rt.actuator.calBaseline.isSome = true
  unanchored : rt.actuator.lastCalValue = none

/-- The evidence gate is asked. -/
structure Judges (rt : ZoneRuntime) (i : CalibrationTick) (act : CalibratedActuator)
    (entity : String) (m : CalibrationMeta) (trvTemp : ℚ) : Prop
    extends Regulates rt i act entity m trvTemp where
  anchored : rt.actuator.calBaseline.isSome = true → rt.actuator.lastCalValue.isSome = true

structure Writes (rt : ZoneRuntime) (i : CalibrationTick) (act : CalibratedActuator)
    (entity : String) (m : CalibrationMeta) (trvTemp : ℚ) : Prop
    extends Judges rt i act entity m trvTemp where
  allowed : calibrationAccumulationAllowed m.reported rt.actuator.lastCalValue m.step
    (updatedAfter act rt.actuator.lastCalDispatchWallTs) = true
  due : calibrationWriteDue (i.newOffset m trvTemp) m.reported rt.actuator.lastCalWriteTs i.now = true

def ZoneRuntime.resumed (rt : ZoneRuntime) (reported wallNow : ℚ) : ZoneRuntime :=
  { rt with actuator := { rt.actuator with
    lastCalValue := some reported
    lastCalDispatchWallTs := some wallNow } }

/-- Everything one tick can do: nothing, or exactly one of five things. -/
inductive CalibrationMove (rt : ZoneRuntime) (i : CalibrationTick) :
    ZoneRuntime → List EffectExecution → Prop where
  | idle : CalibrationMove rt i rt []
  | confirm (owned : String) (m : CalibrationMeta) (baseline : ℚ)
      (confirms : Confirms rt i owned m baseline) :
      CalibrationMove rt i rt.clearCalibrationOwnership []
  | restore (owned : String) (m : CalibrationMeta) (baseline : ℚ)
      (restores : Restores rt i owned m baseline) :
      CalibrationMove rt i
        (commitReport i.now rt [i.runCalibration owned (m.snap baseline) m.reported true])
        [i.runCalibration owned (m.snap baseline) m.reported true]
  | orphan (owned : String) (orphans : Orphans rt i owned) :
      CalibrationMove rt i rt.clearCalibrationOwnership []
  | resume (act : CalibratedActuator) (entity : String) (m : CalibrationMeta) (trvTemp : ℚ)
      (resumes : Resumes rt i act entity m trvTemp) :
      CalibrationMove rt i (rt.resumed m.reported i.wallNow) []
  | write (act : CalibratedActuator) (entity : String) (m : CalibrationMeta) (trvTemp : ℚ)
      (writes : Writes rt i act entity m trvTemp) :
      CalibrationMove rt i
        (commitReport i.now rt [i.runCalibration entity (i.newOffset m trvTemp) m.reported false])
        [i.runCalibration entity (i.newOffset m trvTemp) m.reported false]

theorem stageCalibrationHandoff_live {rt : ZoneRuntime} {i : CalibrationTick}
    (live : i.calibrationLivePath = .calibration) :
    (stageCalibrationHandoff rt i).1 = rt ∧ (stageCalibrationHandoff rt i).2.2 = [] := by
  unfold stageCalibrationHandoff
  cases rt.actuator.calBaseline with
  | none => exact ⟨rfl, rfl⟩
  | some baseline => simp [live]

theorem stageCalibrationWrite_displaced {rt : ZoneRuntime} {i : CalibrationTick}
    (displaced : i.calibrationLivePath ≠ .calibration) :
    (stageCalibrationWrite rt i).1 = rt ∧ (stageCalibrationWrite rt i).2.2 = [] := by
  simp [stageCalibrationWrite, displaced]

theorem stageCalibrationHandoff_moves {rt : ZoneRuntime} {i : CalibrationTick}
    (displaced : i.calibrationLivePath ≠ .calibration) :
    CalibrationMove rt i (stageCalibrationHandoff rt i).1 (stageCalibrationHandoff rt i).2.2 := by
  unfold stageCalibrationHandoff
  cases held : rt.actuator.calBaseline with
  | none => exact .idle
  | some baseline =>
    simp only [displaced, if_false]
    cases pinned : rt.actuator.calEntity with
    | none => exact .idle
    | some owned =>
      cases read : i.calibrationMeta (some owned) with
      | gone =>
        simp only [read]
        exact .idle
      | unreadable =>
        simp only [read]
        exact .idle
      | readable m =>
        have handsOff : HandsOff rt i owned m baseline := ⟨displaced, held, pinned, read⟩
        simp only [read, ZoneRuntime.observeCalibrationRestore, held, Option.isNone_some,
          Bool.false_eq_true, if_false]
        cases shown : shows m.reported (m.snap baseline) m.step with
        | true => exact .confirm owned m baseline ⟨handsOff, shown⟩
        | false =>
          simp only [Bool.false_eq_true, if_false]
          cases due : restoreDue rt.actuator.lastCalRestoreTs i.now with
          | true => exact .restore owned m baseline ⟨handsOff, shown, due⟩
          | false => exact .idle

/-- Behind the quarantine: the write, with both of its gates, or nothing. -/
theorem regulate_moves {rt : ZoneRuntime} {i : CalibrationTick} {act : CalibratedActuator}
    {entity : String} {m : CalibrationMeta} {trvTemp : ℚ} (pending : List CalibrationHealthUpdate)
    (judges : Judges rt i act entity m trvTemp) :
    CalibrationMove rt i (i.regulate rt act entity m trvTemp pending).1
      (i.regulate rt act entity m trvTemp pending).2.2 := by
  simp only [CalibrationTick.regulate]
  split
  next => exact .idle
  next allowed =>
    split
    next due =>
      rw [Bool.not_eq_true, Bool.not_eq_false'] at allowed
      exact .write act entity m trvTemp ⟨judges, allowed, due⟩
    next => exact .idle

theorem stageCalibrationWrite_moves {rt : ZoneRuntime} {i : CalibrationTick}
    (live : i.calibrationLivePath = .calibration) :
    CalibrationMove rt i (stageCalibrationWrite rt i).1 (stageCalibrationWrite rt i).2.2 := by
  simp only [stageCalibrationWrite, live, ne_eq, not_true_eq_false, if_false]
  cases online : i.onlineActuator with
  | none => exact .idle
  | some act =>
    simp only
    split
    next entity m discovered readable =>
      split
      next mismatch =>
        cases pinned : rt.actuator.calEntity with
        | none => simp [pinned] at mismatch
        | some owned =>
          simp only [pinned, Option.any_some, decide_eq_true_eq] at mismatch
          simp only [ZoneRuntime.observeCalibrationOrphaned]
          split
          next => exact .idle
          next gone =>
            simp only [Bool.or_eq_true, Bool.not_eq_true', decide_eq_false_iff_not, not_or,
              not_not, Option.isNone_iff_eq_none] at gone
            have other : i.calibrationEntity ≠ some owned := by
              rw [discovered]
              exact fun same => mismatch (Option.some.inj same).symm
            exact .orphan owned ⟨live, Option.isSome_iff_ne_none.mpr gone.1, pinned, other, gone.2⟩
      next unpinned =>
        have unpinned : ∀ owned, rt.actuator.calEntity = some owned → owned = entity := by
          intro owned pinned
          simpa [pinned] using unpinned
        cases measured : act.currentTemperature with
        | none => exact .idle
        | some trvTemp =>
          have regulates : Regulates rt i act entity m trvTemp :=
            ⟨live, online, discovered, readable, unpinned, measured⟩
          simp only [ZoneRuntime.observeCalibrationResume]
          cases resuming : rt.actuator.calBaseline.isNone || rt.actuator.lastCalValue.isSome with
          | false =>
            simp only [Bool.or_eq_false_iff, Option.isNone_eq_false_iff, Option.isSome_eq_false_iff,
              Option.isNone_iff_eq_none] at resuming
            exact .resume act entity m trvTemp ⟨regulates, resuming.1, resuming.2⟩
          | true =>
            apply regulate_moves
            refine ⟨regulates, fun held => ?_⟩
            simpa [Option.isSome_iff_ne_none.mp held] using resuming
    next => exact .idle
    next => exact .idle

/-- One tick is one move. -/
theorem calibrationStep_moves (rt : ZoneRuntime) (i : CalibrationTick) :
    CalibrationMove rt i (calibrationStep rt (.tick i)).1
      (calibrationStep rt (.tick i)).2.executions := by
  simp only [calibrationStep, CalibrationOutput.executions]
  by_cases live : i.calibrationLivePath = .calibration
  · obtain ⟨same, silent⟩ := @stageCalibrationHandoff_live rt i live
    rw [same, silent, List.nil_append]
    exact stageCalibrationWrite_moves live
  · obtain ⟨same, silent⟩ := @stageCalibrationWrite_displaced (stageCalibrationHandoff rt i).1 i live
    rw [same, silent, List.append_nil]
    exact stageCalibrationHandoff_moves live

/-- With the gates of the restore passed, the tick is the restore. -/
theorem calibrationStep_restores {rt : ZoneRuntime} {i : CalibrationTick} {owned : String}
    {m : CalibrationMeta} {baseline : ℚ} (restores : Restores rt i owned m baseline) :
    let report := [i.runCalibration owned (m.snap baseline) m.reported true]
    (calibrationStep rt (.tick i)).1 = commitReport i.now rt report ∧
      (calibrationStep rt (.tick i)).2.executions = report := by
  obtain ⟨same, silent⟩ :=
    @stageCalibrationWrite_displaced (stageCalibrationHandoff rt i).1 i restores.displaced
  have handoff : (stageCalibrationHandoff rt i).1 =
      commitReport i.now rt [i.runCalibration owned (m.snap baseline) m.reported true] ∧
      (stageCalibrationHandoff rt i).2.2 =
        [i.runCalibration owned (m.snap baseline) m.reported true] := by
    simp [stageCalibrationHandoff, restores.held, restores.displaced, restores.pinned,
      restores.readable, ZoneRuntime.observeCalibrationRestore, restores.unshown, restores.due]
  simp only [calibrationStep, CalibrationOutput.executions, same, silent, List.append_nil]
  exact handoff

end Poise
