import Poise.Control.ModeResolution
import Poise.Foundation.Hysteresis
import Poise.Properties.ComfortDecisionLaws

/-!
# Heating and cooling in turn

What a tick commands to a reversible device without a fan is a switch with two thresholds. A device
that cools leaves cooling below the lower edge alone, and one that does not cool enters it above the
upper edge alone: without a hold the heating edge and the cooling edge, or the middle of the band
where it parks; under a hold half a kelvin on each side of it, or the same middle.
-/
namespace Poise

open Trace Hysteresis Deadband

abbrev CommandMoment := Step ModeState ModeTick ModeOutcome

/-- The middle of the band in which an idle device parks. -/
def parkMid (e : CommandMoment) : ℚ :=
  (e.input.decision.heatSp + e.output.writeTarget.effCool) / 2

/-- A cooling device is commanded otherwise only below. -/
def leavesCoolBelow (e : CommandMoment) : ℚ :=
  match e.pre.zone.user.override with
  | none => e.input.decision.heatSp
  | some _ => e.output.writeTarget.target - 0.5

/-- A device that does not cool is commanded to only above. -/
def entersCoolAbove (e : CommandMoment) : ℚ :=
  match e.pre.zone.user.override with
  | none => min e.input.decision.coolSp (parkMid e + 0.5)
  | some _ => min (e.output.writeTarget.target + 0.5) (parkMid e + 0.5)

def cools (e : CommandMoment) : Bool := e.input.rest.deviceMode = some "cool"

/-- A reversible zone regulates by temperature: no pinned mode, no window, no dead sensor, and
neither the fan nor the drier in the place of a direction. -/
structure Thermostatic (e : CommandMoment) : Prop where
  enabled : e.pre.zone.user.enabled = true
  unpinned : e.pre.zone.user.modeOverride = none
  closed : e.input.rest.windowOpen = false
  trusted : e.input.rest.frozen = false
  canHeat : e.input.comfort.canHeat = true
  canCool : e.input.comfort.canCool = true
  noFan : "fan_only" ∉ e.input.rest.actModes
  noFanFirst : e.input.fanFirstRequested = false
  noDry : e.input.humAction ≠ .dry

instance : DecidablePred Thermostatic := fun _ =>
  decidable_of_iff (_ ∧ _ ∧ _ ∧ _ ∧ _ ∧ _ ∧ _ ∧ _ ∧ _)
    ⟨fun ⟨enabled, unpinned, closed, trusted, canHeat, canCool, noFan, noFanFirst, noDry⟩ =>
      ⟨enabled, unpinned, closed, trusted, canHeat, canCool, noFan, noFanFirst, noDry⟩,
    fun h => ⟨h.enabled, h.unpinned, h.closed, h.trusted, h.canHeat, h.canCool, h.noFan,
      h.noFanFirst, h.noDry⟩⟩

/-! ### The commanded mode -/

theorem actuationTick_adoption {rt : ZoneRuntime} {i : TickInput} {r : Regulation}
    (regulated : (actuationTick rt i).2.regulation = some r) :
    r.adoption = (stageModeAdoption (stageHoldRouting rt i).1 i (stageHoldRouting rt i).2).2 := by
  simp only [actuationTick] at regulated
  split at regulated
  next runs =>
    obtain rfl := Option.some.inj regulated
    rfl
  next resting => cases regulated

theorem setModeOverride_mode (user : UserControlState) (mode : String) (ctx : HoldContext) :
    (setModeOverride user (some mode) ctx).modeOverride = some mode := by
  simp only [setModeOverride, announceHoldExpiry]
  split <;> rfl

/-- Without a pinned mode the command is the resolved one, or the mode the device was set to. -/
theorem unpinned_desired {rt : ZoneRuntime} {i : TickInput} {r : Regulation}
    (regulated : (actuationTick rt i).2.regulation = some r)
    (unpinned : rt.user.modeOverride = none) (closed : i.windowOpen = false)
    (trusted : i.frozen = false) :
    i.deviceMode = some r.adoption.desiredHvac ∨ r.adoption.desiredHvac =
      resolveDesiredMode i.finalMode i.deviceMode i.canCool i.canHeat i.idleParkMode := by
  have routed : (stageHoldRouting rt i).1 = rt := by simp [stageHoldRouting, unpinned]
  rw [actuationTick_adoption regulated, routed]
  simp only [stageModeAdoption, AdoptReason.adopted]
  generalize observeMode _ _ _ _ _ _ _ = reason
  by_cases adopts : reason = .adopt
  · cases device : i.deviceMode with
    | none =>
      right
      simp [adopts, unpinned]
    | some mode =>
      -- the user set the device, and the new pin is what it was set to
      left
      simp [adopts, setModeOverride_mode, closed, trusted]
  · right
    simp [adopts, unpinned]

/-- The direction that the comfort decision or the hold asks for. -/
def askedMode (e : CommandMoment) : ConditioningMode :=
  match e.pre.zone.user.override with
  | none => e.input.decision.mode
  | some _ => overrideMode e.input.comfort.room e.output.writeTarget.target 0.5
    e.input.comfort.gates

section Tick

variable {s : ModeState} {t : ModeTick}

theorem stageWriteTarget_zone (trusted : t.rest.frozen = false) :
    (stageWriteTarget s t).1.zone = s.zone := by
  simp [stageWriteTarget, trusted]

theorem stageWriteTarget_park (trusted : t.rest.frozen = false) :
    (stageWriteTarget s t).2.idleParkMode = (t.parked (stageWriteTarget s t).2.effCool).1 := by
  simp [stageWriteTarget, trusted]

theorem stageWriteTarget_mode (trusted : t.rest.frozen = false)
    (closed : t.rest.windowOpen = false) (free : s.zone.user.override = none) :
    (stageWriteTarget s t).2.mode = t.decision.mode.name := by
  simp [stageWriteTarget, resolveWriteTarget, WriteTargetInput.chosen, trusted, closed, free]

/-- The direction asked for goes through the seam as it is. -/
theorem finalMode_asked (thermo : Thermostatic (Step.of modeTick s t)) :
    (modeTick s t).2.resolution.finalMode = (askedMode (Step.of modeTick s t)).name := by
  have zone := @stageWriteTarget_zone s t thermo.trusted
  have enabled : s.zone.user.enabled = true := thermo.enabled
  have closed : t.rest.windowOpen = false := thermo.closed
  have trusted : t.rest.frozen = false := thermo.trusted
  have noFanFirst : t.fanFirstRequested = false := thermo.noFanFirst
  have noDry : t.humAction ≠ .dry := thermo.noDry
  have base : t.baseMode s.zone.user (stageWriteTarget s t).2 =
      (askedMode (Step.of modeTick s t)).name := by
    unfold askedMode
    rw [Step.of_pre, Step.of_input, ModeTick.baseMode]
    cases held : s.zone.user.override with
    | none =>
      rw [if_neg (by simp)]
      exact stageWriteTarget_mode trusted closed held
    | some value =>
      rw [if_pos (by simp [enabled, closed, trusted])]
      rfl
  have final : (modeTick s t).2.resolution.finalMode =
      modeArbitration (t.baseMode (stageWriteTarget s t).1.zone.user (stageWriteTarget s t).2)
        t.humAction ("dry" ∈ t.rest.actModes) (t.fanFirstRequested &&
          decide (t.intentOrigin (stageWriteTarget s t).1.zone.user = .normal)) := rfl
  rw [final, zone, base, noFanFirst]
  simp [modeArbitration, noDry]

/-- What the tick commands: the direction asked for, or where the device parks. -/
theorem modeTick_desired (thermo : Thermostatic (Step.of modeTick s t)) {r : Regulation}
    (regulated : (modeTick s t).2.actuation.regulation = some r) :
    t.rest.deviceMode = some r.adoption.desiredHvac ∨ r.adoption.desiredHvac =
      resolveDesiredMode (askedMode (Step.of modeTick s t)).name t.rest.deviceMode true true
        (t.parked (modeTick s t).2.writeTarget.effCool).1 := by
  have zone := @stageWriteTarget_zone s t thermo.trusted
  have unpinned : (stageWriteTarget s t).1.zone.user.modeOverride = none := by
    rw [zone]
    exact thermo.unpinned
  have canHeat : t.comfort.canHeat = true := thermo.canHeat
  have canCool : t.comfort.canCool = true := thermo.canCool
  have park : (modeTick s t).2.writeTarget.idleParkMode =
      (t.parked (modeTick s t).2.writeTarget.effCool).1 := stageWriteTarget_park thermo.trusted
  rw [← finalMode_asked thermo, ← park]
  have desired : t.rest.deviceMode = some r.adoption.desiredHvac ∨ r.adoption.desiredHvac =
      resolveDesiredMode (modeTick s t).2.resolution.finalMode t.rest.deviceMode t.comfort.canCool
        t.comfort.canHeat (modeTick s t).2.writeTarget.idleParkMode :=
    unpinned_desired regulated unpinned thermo.closed thermo.trusted
  rwa [canCool, canHeat] at desired

end Tick

/-! ### The two thresholds -/

theorem askedMode_heat {e : CommandMoment} (heats : askedMode e = .heat) :
    e.input.comfort.room < leavesCoolBelow e := by
  unfold askedMode at heats
  unfold leavesCoolBelow
  split at heats
  · exact (decideMode_heat heats).2
  · exact (decideMode_heat heats).2

theorem askedMode_cool {e : CommandMoment} (cooling : askedMode e = .cool) :
    entersCoolAbove e < e.input.comfort.room := by
  unfold askedMode at cooling
  unfold entersCoolAbove
  split at cooling
  · exact (min_le_left _ _).trans_lt (decideMode_cool cooling).2
  · exact (min_le_left _ _).trans_lt (decideMode_cool cooling).2

theorem entersCoolAbove_le_mid (e : CommandMoment) : entersCoolAbove e ≤ parkMid e + 0.5 := by
  unfold entersCoolAbove
  split <;> exact min_le_right _ _

/-- Where a device without a fan parks: it stays in cooling, and enters it above the middle. -/
theorem idlePark_direction (room heatSp coolSp : ℚ) (device : Option String) :
    ((idlePark room heatSp coolSp true true false device 0.5).1 = "cool" ∧
        (device = some "cool" ∨ (heatSp + coolSp) / 2 + 0.5 < room)) ∨
      (idlePark room heatSp coolSp true true false device 0.5).1 = "heat" ∧
        device ≠ some "cool" := by
  simp only [idlePark]
  by_cases cooling : device = some "cool"
  · simp [cooling]
  · by_cases warm : (heatSp + coolSp) / 2 + 0.5 < room <;> simp [cooling, warm]

/-- One tick is a switch: out of cooling below, into it above. -/
theorem commanded_switch {s : ModeState} {t : ModeTick}
    (thermo : Thermostatic (Step.of modeTick s t)) {r : Regulation}
    (regulated : (modeTick s t).2.actuation.regulation = some r) :
    (t.rest.deviceMode = some "cool" → r.adoption.desiredHvac ≠ "cool" →
        t.comfort.room < leavesCoolBelow (Step.of modeTick s t)) ∧
      (t.rest.deviceMode ≠ some "cool" → r.adoption.desiredHvac = "cool" →
        entersCoolAbove (Step.of modeTick s t) < t.comfort.room) := by
  obtain kept | resolved := modeTick_desired thermo regulated
  · rw [kept]
    exact ⟨fun cooling other => absurd (Option.some.inj cooling) other,
      fun other cooling => absurd (congrArg some cooling) other⟩
  · cases direction : askedMode (Step.of modeTick s t) with
    | heat =>
      rw [direction] at resolved
      have heats : r.adoption.desiredHvac = "heat" := resolved.trans (by simp [resolveDesiredMode,
        ConditioningMode.name])
      exact ⟨fun _ _ => askedMode_heat direction, fun _ cooling => by simp [heats] at cooling⟩
    | cool =>
      rw [direction] at resolved
      have cooling : r.adoption.desiredHvac = "cool" := resolved.trans (by
        simp [resolveDesiredMode, ConditioningMode.name])
      exact ⟨fun _ other => absurd cooling other, fun _ _ => askedMode_cool direction⟩
    | idle =>
      rw [direction] at resolved
      cases decided : t.decision.mode with
      | idle =>
        have noFan : decide ("fan_only" ∈ t.rest.actModes) = false := decide_eq_false thermo.noFan
        have canHeat : t.comfort.canHeat = true := thermo.canHeat
        have canCool : t.comfort.canCool = true := thermo.canCool
        simp only [ModeTick.parked, decided, noFan, canHeat, canCool] at resolved
        obtain ⟨park, why⟩ | ⟨park, other⟩ := idlePark_direction t.comfort.room t.decision.heatSp
          (modeTick s t).2.writeTarget.effCool t.rest.deviceMode
        · have cooling : r.adoption.desiredHvac = "cool" := by
            rw [resolved, park]
            simp [resolveDesiredMode, ConditioningMode.name]
          refine ⟨fun _ others => absurd cooling others, fun device _ => ?_⟩
          exact (entersCoolAbove_le_mid _).trans_lt (why.resolve_left device)
        · have heats : r.adoption.desiredHvac = "heat" := by
            rw [resolved, park]
            simp [resolveDesiredMode, ConditioningMode.name]
          exact ⟨fun device _ => absurd device other, fun _ cooling => by simp [heats] at cooling⟩
      | heat | cool =>
        -- the hold is content where the comfort decision is not: the device keeps its direction
        simp only [ModeTick.parked, decided] at resolved
        refine ⟨fun device others => absurd ?_ others, fun device cooling => ?_⟩
        · rw [resolved, device]
          simp [resolveDesiredMode, ConditioningMode.name]
        · rw [resolved] at cooling
          by_cases heating : t.rest.deviceMode = some "heat"
          · simp [resolveDesiredMode, ConditioningMode.name, heating] at cooling
          · simp [resolveDesiredMode, ConditioningMode.name, heating, device] at cooling

/-- A hold keeps a band of a kelvin up to the middle, and none from a kelvin above it on. -/
theorem hold_band {e : CommandMoment} {held : ℚ} (hold : e.pre.zone.user.override = some held) :
    entersCoolAbove e - leavesCoolBelow e =
      min 1 (parkMid e + 1 - e.output.writeTarget.target) := by
  simp only [entersCoolAbove, leavesCoolBelow, hold]
  rw [← min_sub_sub_right]
  congr 1 <;> norm_num
  ring

def reversibleTick (now room : ℚ) (state : String) : ModeTick where
  cool := { comfort :=
    { tRm := 15, room, canCool := true, tOut := 18, coolMinOutdoor := some 10 } }
  rest := { valveTick now none with
    actState := some { state, hvacModes := ["off", "heat", "cool"], temperature := none,
                       targetTempStep := some 0.5 } }

-- Held at 24.5 in a band from 21 to 25, a room between 23.9 and 24.1 turns at every tick.
example : (trace modeTick { zone := { user := { override := some 24.5 } } }
    [reversibleTick 0 24.1 "heat", reversibleTick 700 23.9 "cool",
      reversibleTick 1400 24.1 "heat"]).map
        (fun e => e.output.actuation.regulation.map (·.adoption.desiredHvac)) =
      [some "cool", some "heat", some "cool"] := by decide +kernel

/-! ### A stretch -/

/-- The device changes its mode only to what a tick commanded. -/
def Takes (e e' : CommandMoment) : Prop :=
  e'.input.rest.deviceMode = e.input.rest.deviceMode ∨
    ∃ r, e.output.actuation.regulation = some r ∧
      e'.input.rest.deviceMode = some r.adoption.desiredHvac

/-- The position of the switch, and how far the room is above its lower threshold. -/
def switchReading (e : CommandMoment) : Bool × ℚ :=
  (cools e, e.input.comfort.room - leavesCoolBelow e)

theorem takes_turn {gap : ℚ} {e e' : CommandMoment} (stepped : e = Step.of modeTick e.pre e.input)
    (thermo : Thermostatic e) (band : leavesCoolBelow e + gap ≤ entersCoolAbove e)
    (takes : Takes e e') : Turn gap (switchReading e) (switchReading e') := by
  obtain ⟨s, t, rfl⟩ : ∃ s t, e = Step.of modeTick s t := ⟨_, _, stepped⟩
  constructor
  · intro rests cooling
    have device : t.rest.deviceMode ≠ some "cool" := of_decide_eq_false rests
    have next : e'.input.rest.deviceMode = some "cool" := of_decide_eq_true cooling
    obtain same | ⟨r, regulated, taken⟩ := takes
    · exact absurd (same.symm.trans next) device
    · have above := (commanded_switch thermo regulated).2 device
        (Option.some.inj (taken.symm.trans next))
      show gap ≤ t.comfort.room - leavesCoolBelow (Step.of modeTick s t)
      linarith
  · intro cooling rests
    have device : t.rest.deviceMode = some "cool" := of_decide_eq_true cooling
    have next : e'.input.rest.deviceMode ≠ some "cool" := of_decide_eq_false rests
    obtain same | ⟨r, regulated, taken⟩ := takes
    · exact absurd (same.trans device) next
    · have below := (commanded_switch thermo regulated).1 device fun desired =>
        next (taken.trans (congrArg some desired))
      show t.comfort.room - leavesCoolBelow (Step.of modeTick s t) ≤ 0
      linarith

/-- Cooling and other modes do not take turns for nothing: over a stretch in which the zone
regulates by temperature and the thresholds keep a gap, the turns of a device that does what it is
told, but for the first, are paid for by the way of the room against the lower threshold. -/
theorem mode_does_not_thrash {s : ModeState} {first : ModeTick} {ticks : List ModeTick} {gap : ℚ}
    (pos : 0 ≤ gap) (thermo : ∀ e ∈ trace modeTick s (first :: ticks), Thermostatic e)
    (band : ∀ e ∈ trace modeTick s (first :: ticks), leavesCoolBelow e + gap ≤ entersCoolAbove e)
    (takes : (trace modeTick s (first :: ticks)).IsChain Takes) :
    let readings := (trace modeTick s (first :: ticks)).map switchReading
    (turns readings : ℚ) * gap ≤ gap + variation (first.comfort.room -
      leavesCoolBelow (Step.of modeTick s first)) (readings.tail.map Prod.snd) := by
  have obeys : ((trace modeTick s (first :: ticks)).map switchReading).IsChain (Turn gap) := by
    refine (List.isChain_map _).mpr (takes.imp_of_mem_imp fun e e' member _ follows => ?_)
    exact takes_turn (step_of_mem _ member) (thermo e member) (band e member) follows
  exact turns_mul_gap_le pos (switchReading (Step.of modeTick s first)) _ obeys

theorem takes_commanded {e e' : CommandMoment} {mode : String}
    (commanded : e.output.actuation.regulation.map (·.adoption.desiredHvac) = some mode)
    (taken : e'.input.rest.deviceMode = some mode) : Takes e e' := by
  obtain ⟨r, regulated, rfl⟩ := Option.map_eq_some_iff.mp commanded
  exact .inr ⟨r, regulated, taken⟩

def swing : List ModeTick := [reversibleTick 700 20 "cool", reversibleTick 1400 20 "heat"]

/-- A room at 26 and then at 20 turns the device twice over a gap of two and a half kelvin. -/
theorem swing_is_paid_for :
    let readings :=
      (trace modeTick { zone := {} } (reversibleTick 0 26 "heat" :: swing)).map switchReading
    turns readings = 2 ∧ (turns readings : ℚ) * 2.5 ≤ 2.5 + 6 := by
  intro readings
  refine ⟨by decide +kernel, ?_⟩
  have law := @mode_does_not_thrash { zone := {} } (reversibleTick 0 26 "heat") swing 2.5
    (by norm_num) (by decide +kernel) (by decide +kernel) ?_
  · refine law.trans_eq ?_
    congr 1
    decide +kernel
  · refine .cons_cons ?_ (.cons_cons ?_ (.singleton _))
    · exact @takes_commanded _ _ "cool" (by decide +kernel) rfl
    · exact @takes_commanded _ _ "heat" (by decide +kernel) rfl

end Poise
