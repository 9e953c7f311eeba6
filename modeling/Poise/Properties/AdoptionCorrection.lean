import Poise.Control.TickSetpoint
import Poise.Foundation.Trace

/-!
# Correcting an adopted setpoint

An adoption leaves the device on the adopted value and counts as a write: its
instant is the stamp both re-assert gates measure from. The write that should
bring the device back to the zone's own target therefore waits behind them
whenever that target is the command already in force.
-/
namespace Poise

open Rounding Trace

def rests (e : Step ZoneRuntime ZoneEvent (Option TickOutcome)) : Bool :=
  e.output.all fun outcome => outcome.regulation.isNone

theorem final_resting {rt : ZoneRuntime} {between : List ZoneEvent}
    (resting : ∀ e ∈ trace zoneStep rt between, rests e) :
    SafetyOnly rt.setpoint (final zoneStep rt between).setpoint := by
  induction between generalizing rt with
  | nil => exact SafetyOnly.refl _
  | cons event between ih =>
    simp only [trace, List.mem_cons, forall_eq_or_imp] at resting
    have first : SafetyOnly rt.setpoint (zoneStep rt event).1.setpoint := by
      apply zoneStep_resting
      intro outcome reported
      simpa [rests, reported] using resting.1
    exact first.trans (ih resting.2)

/-- The reading is one the settle classification vouches for: the fresh echo of the
command in force, or a foreign report behind open gates. -/
def vouched (s : ZoneRuntime) (j : TickInput) : Bool :=
  if s.external.isOwnWrite j.contextId then j.contextId = s.external.lastSpCtxId
  else (j.setpointGates false).letSetpoint

/-- The correction waits: the target is the command in force, under the mode last
written, and the adoption is younger than ten minutes, or younger than an hour while
the command is ninety seconds old and the reading vouched for. -/
def correctionWaits (s : ZoneRuntime) (j : TickInput) : Bool :=
  s.actuator.lastWrittenMode = some j.finalMode &&
    sameTarget (snapToStep j.target j.step) s.external.lastCmdSp &&
    s.external.cmdEpisodeTs.any fun episode => s.external.lastSpWriteTs.any fun adopted =>
      adopted ≤ j.now &&
        (j.now - adopted < minSetpointReassertIntervalS ||
          (j.now - adopted < reassertLivenessS && episodeSettleMinS ≤ j.now - episode &&
            vouched s j))

/-- What an adoption of `d` leaves behind, also across events that do not regulate. -/
structure Adopted (d since : ℚ) (s : SetpointBaselines) : Prop where
  prev : s.prevDeviceSp = some d
  stamp : s.lastSpWriteTs = some since
  baseline : s.lastCmdSp.isSome → s.lastWrittenSp.isSome
  above : 0 < roundTo (d - frostFloorC) 3

theorem adopted_after {rt : ZoneRuntime} {i : TickInput} {r : Regulation} {d : ℚ}
    {between : List ZoneEvent} (regulated : (actuationTick rt i).2.regulation = some r)
    (adopting : r.observation.adoptedSp = some d)
    (resting : ∀ e ∈ trace zoneStep (actuationTick rt i).1 between, rests e) :
    Adopted d i.now (final zoneStep (actuationTick rt i).1 between).setpoint := by
  obtain ⟨prev, stamp, written, above⟩ := regulated_adopting regulated adopting
  have rested := final_resting resting
  constructor
  · exact rested.prev.trans prev
  · exact rested.stamp.trans stamp
  · intro commanded
    cases rested.command with
    | inl kept => simp [kept.1, written]
    | inr cleared => simp [cleared.2] at commanded
  · exact above

/-- The adopted value on the device reads as a device at rest. -/
theorem Adopted.still {d since : ℚ} {s : SetpointBaselines} {j : TickInput}
    (adopted : Adopted d since s) (reads : j.actualSp = some d) :
    sameValue j.actualSp s.prevDeviceSp := by
  rw [reads, adopted.prev]
  exact sameValue_self d

theorem Adopted.releasing_iff {d since command : ℚ} {s : ZoneRuntime} {j : TickInput}
    {r : Regulation} (adopted : Adopted d since s.setpoint)
    (regulated : (actuationTick s j).2.regulation = some r) (reads : j.actualSp = some d)
    (idle : r.observation.adoptedSp = none) (inForce : s.setpoint.lastCmdSp = some command) :
    r.observation.settleProvenance.releasing ↔ vouched s j := by
  rw [regulated_releasing regulated]
  cases own : s.external.isOwnWrite j.contextId with
  | true => simp [vouched, own, ZoneRuntime.setpoint]
  | false =>
    obtain ⟨written, baseline⟩ := Option.isSome_iff_exists.mp (adopted.baseline (by simp [inForce]))
    -- the device still shows the remembered value, so only the detector's silence is open
    have ran := regulated_detectorRan regulated own reads baseline adopted.stamp adopted.above idle
    simp [vouched, own, ran, adopted.still reads]

theorem Adopted.gates_iff {d since target : ℚ} {s : ZoneRuntime} {j : TickInput} {r : Regulation}
    (adopted : Adopted d since s.setpoint) (decides : GatesDecide s j r target)
    (reads : j.actualSp = some d) :
    (r.observation.reassertIdempotent = true ∨ r.observation.reassertThrottled = true) ↔
      correctionWaits s j = true := by
  have still := adopted.still reads
  have stamp := adopted.stamp
  rw [regulated_idempotent decides.regulated, regulated_throttled decides.regulated, stamp]
  have running : s.setpoint.episode j = s.external.cmdEpisodeTs := by
    simp [SetpointBaselines.episode, decides.online, ZoneRuntime.setpoint]
  have stamped : s.external.lastSpWriteTs = some since := stamp
  simp only [running, still, true_and, Option.some.injEq, forall_eq', exists_eq_left',
    correctionWaits, stamped, Option.any_some]
  cases inForce : s.setpoint.lastCmdSp with
  | none =>
    have gone : s.external.lastCmdSp = none := inForce
    cases snapToStep j.target j.step <;> simp [sameTarget, sameValue, gone]
  | some command =>
    rw [adopted.releasing_iff decides.regulated reads decides.idle inForce]
    have commanded : s.external.lastCmdSp = some command := inForce
    have mode : s.setpoint.lastWrittenMode = s.actuator.lastWrittenMode := rfl
    rw [commanded, mode]
    cases s.external.cmdEpisodeTs with
    | none => simp
    | some episode => grind

/-- The first regulating tick after an adoption, the adopted value still on the
device, plans the write of its target exactly when the correction does not wait. -/
theorem adoption_corrected_iff (rt : ZoneRuntime) (i : TickInput) (between : List ZoneEvent)
    (j : TickInput) (d target : ℚ) (r next : Regulation)
    (regulated : (actuationTick rt i).2.regulation = some r)
    (adopting : r.observation.adoptedSp = some d)
    (resting : ∀ e ∈ trace zoneStep (actuationTick rt i).1 between, rests e)
    (decides : GatesDecide (final zoneStep (actuationTick rt i).1 between) j next target)
    (reads : j.actualSp = some d) :
    (next.plan.writeSetpoint = true ∧ next.plan.rawSetpoint = some target) ↔
      correctionWaits (final zoneStep (actuationTick rt i).1 between) j = false := by
  have adopted := adopted_after regulated adopting resting
  have held := adopted.gates_iff decides reads
  rw [← Bool.not_eq_true, ← held, not_or, Bool.not_eq_true, Bool.not_eq_true, ← decides.writes_iff]
  constructor
  · exact fun planned => planned.1
  · intro writes
    exact ⟨writes, regulated_value decides.regulated decides.finite writes⟩

/-! ### A valve turned below the band -/

def valveTickTo (target now reading : ℚ) : TickInput :=
  { valveTick now (some reading) with target := .finite target }

/-- A write of 21 °C that the valve takes over. -/
def followed : List ZoneEvent := [.tick (valveTickTo 21 0 20), .tick (valveTickTo 21 60 21)]

def turn : TickInput := valveTickTo 21 300 18

def afterTurn : ZoneRuntime := (actuationTick (final zoneStep {} followed) turn).1

theorem turn_adopted :
    ∃ r, (actuationTick (final zoneStep {} followed) turn).2.regulation = some r ∧
      r.observation.adoptedSp = some 18 := by
  have adopted : ((actuationTick (final zoneStep {} followed) turn).2.regulation.any fun r =>
      r.observation.adoptedSp = some 18) = true := by
    decide +kernel
  simpa only [Option.any_eq_true, decide_eq_true_eq] using adopted

theorem afterTurn_decides (j : TickInput) (target : ℚ) (reads : j.actualSp = some 18)
    (finite : j.target = .finite target)
    (regulates : ((actuationTick afterTurn j).2.regulation.any fun r =>
      r.observation.adoptedSp.isNone && r.nudge.modeNudgeBlocked.isNone &&
        ! r.observation.regThrottled) = true)
    (clear : j.actuatorOnline = true ∧
      (actuationTick afterTurn j).1.user.modeOverride ≠ some "off" ∧
      writeDeadbandC ≤ distance (snapValue target j.step) 18) :
    ∃ next, GatesDecide afterTurn j next target := by
  simp only [Option.any_eq_true, Bool.and_eq_true, Option.isNone_iff_eq_none,
    Bool.not_eq_true'] at regulates
  obtain ⟨next, regulated, ⟨idle, unblocked⟩, unthrottled⟩ := regulates
  obtain ⟨online, notOff, apart⟩ := clear
  exact ⟨next, regulated, online, notOff, finite, ⟨18, reads, apart⟩, idle, unblocked, unthrottled⟩

/-- A new target reaches the valve on the next tick. -/
theorem adoption_corrected_to_new_target :
    ∃ next, (actuationTick afterTurn (valveTickTo 22 360 18)).2.regulation = some next ∧
      next.plan.writeSetpoint = true ∧ next.plan.rawSetpoint = some 22 := by
  obtain ⟨r, regulated, adopting⟩ := turn_adopted
  obtain ⟨next, decides⟩ := afterTurn_decides (valveTickTo 22 360 18) 22 rfl rfl
    (by decide +kernel) (by decide +kernel)
  exact ⟨next, decides.regulated,
    (adoption_corrected_iff (final zoneStep {} followed) turn [] (valveTickTo 22 360 18) 18 22 r
      next regulated adopting (by simp [trace]) decides rfl).mpr (by decide +kernel)⟩

/-- The target that was already in force does not: the valve stays below the band. -/
theorem adoption_left_standing :
    ¬ ∀ (before between : List ZoneEvent) (i j : TickInput) (d target : ℚ) (r next : Regulation),
      (actuationTick (final zoneStep {} before) i).2.regulation = some r →
      r.observation.adoptedSp = some d →
      (∀ e ∈ trace zoneStep (actuationTick (final zoneStep {} before) i).1 between, rests e) →
      GatesDecide (final zoneStep (actuationTick (final zoneStep {} before) i).1 between) j next
        target →
      j.actualSp = some d →
        next.plan.writeSetpoint = true ∧ next.plan.rawSetpoint = some target := by
  intro claim
  obtain ⟨r, regulated, adopting⟩ := turn_adopted
  obtain ⟨next, decides⟩ := afterTurn_decides (valveTickTo 21 360 18) 21 rfl rfl
    (by decide +kernel) (by decide +kernel)
  have planned := (claim followed [] turn (valveTickTo 21 360 18) 18 21 r next regulated adopting
    (by simp [trace]) decides rfl).1
  have silent : ((actuationTick afterTurn (valveTickTo 21 360 18)).2.regulation.any fun next =>
      next.plan.writeSetpoint) = false := by
    decide +kernel
  simp [decides.regulated, planned] at silent

end Poise
