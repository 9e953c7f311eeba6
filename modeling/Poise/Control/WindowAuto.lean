import Poise.Foundation.Rounding
import Poise.Foundation.Trace

/-!
# The sensorless window detector

`control/window_auto.py` and the window part of `control/pipeline_prepare.py`: the slope since the
room last moved a sensor quantum is folded into a smoothed slope, whose sign of an open window
opens the detector. Slopes are °C per hour and negative while the room cools. One tick is one
instant of the monotonic clock; a tick whose room sensor is unavailable only drops the anchors.
-/
namespace Poise

open Rounding

structure WindowAutoConfig where
  openThreshold : ℚ := 3
  closeFraction : ℚ := 0.2
  maxDurationMin : ℚ := 30
  minPoints : ℕ := 3
  emaOldWeight : ℚ := 0.2
  maxSlope : ℚ := 120
  openFactor : ℚ := 1.8
  openThresholdMin : ℚ := 2
  openThresholdMax : ℚ := 12
  minStep : ℚ := 0.05
  deriving DecidableEq, Repr

/-- Detector state; `detected` is the code's `open`. -/
structure WindowAutoState where
  emaSlope : ℚ := 0
  nPoints : ℕ := 0
  detected : Bool := false
  minutesOpen : ℚ := 0
  deriving DecidableEq, Repr

def adaptiveOpenThreshold (cfg : WindowAutoConfig) (tauHours tRoom tOut : ℚ) : ℚ :=
  if tauHours ≤ 0 then cfg.openThreshold
  else
    let natural := max 0 (tRoom - tOut) / tauHours
    min cfg.openThresholdMax (max cfg.openThresholdMin (cfg.openFactor * natural))

/-- The slope since the reference, and the reference to keep: its room and its instant. -/
def quantizedSlope (room : ℚ) (refRoom refS : Option ℚ) (nowS minStep : ℚ) :
    Option ℚ × ℚ × ℚ :=
  match refRoom, refS with
  | some refRoom, some refS =>
    let dtS := nowS - refS
    if dtS ≤ 0 then (none, refRoom, refS)
    else
      let slope := (room - refRoom) / (dtS / 3600)
      if minStep ≤ |room - refRoom| then (some slope, room, nowS) else (some slope, refRoom, refS)
  | _, _ => (none, room, nowS)

/-- The smoothed slope before it is stored to three places. -/
def WindowAutoState.ema (cfg : WindowAutoConfig) (state : WindowAutoState) (slope : ℚ) : ℚ :=
  if state.nPoints = 0 then slope
  else cfg.emaOldWeight * state.emaSlope + (1 - cfg.emaOldWeight) * slope

/-- A missing or aberrant slope does not count. -/
def usableSlope (cfg : WindowAutoConfig) (slope : Option ℚ) : Option ℚ :=
  slope.filter fun slope => |slope| ≤ cfg.maxSlope

/-- The detector and its minutes after enough samples. -/
def WindowAutoState.verdict (cfg : WindowAutoConfig) (state : WindowAutoState)
    (ema minutesOpen : ℚ) : Bool × ℚ :=
  if state.detected = false then
    if ema < -cfg.openThreshold then (true, 0) else (false, minutesOpen)
  else if -cfg.closeFraction * cfg.openThreshold ≤ ema ∨ cfg.maxDurationMin ≤ minutesOpen then
    (false, 0)
  else (true, minutesOpen)

def stepWindowAuto (cfg : WindowAutoConfig) (state : WindowAutoState) (slope : Option ℚ)
    (dtMin : ℚ) : WindowAutoState :=
  let minutesOpen := if state.detected then state.minutesOpen + dtMin else 0
  match usableSlope cfg slope with
  | none =>
    if state.detected = true ∧ cfg.maxDurationMin ≤ minutesOpen then
      { state with detected := false, minutesOpen := 0 }
    else { state with minutesOpen }
  | some slope =>
    let ema := state.ema cfg slope
    let nPoints := state.nPoints + 1
    let (detected, minutesOpen) :=
      if cfg.minPoints ≤ nPoints then state.verdict cfg ema minutesOpen
      else (state.detected, minutesOpen)
    { emaSlope := roundTo ema 3, nPoints, detected, minutesOpen }

def effectiveWindowOpen (sensorOpen autoOpen bypass : Bool) : Bool :=
  if bypass then false else sensorOpen || autoOpen

/-! ### The detector in the tick -/

/-- The window slice of the runtime. -/
structure WindowRuntime where
  windowAuto : WindowAutoState := {}
  waRefRoom : Option ℚ := none
  waRefMono : Option ℚ := none
  waPrevMono : Option ℚ := none
  waOpenThreshold : ℚ := 3
  -- The runtime's flag that the store is behind.
  dirty : Bool := false
  deriving DecidableEq, Repr

/-- What one tick reads. -/
structure WindowTick where
  now : ℚ
  -- `none` is an unavailable room sensor.
  room : Option ℚ
  tOut : ℚ
  -- The configured contacts; `none` is one that dropped off.
  contacts : List (Option Bool) := []
  -- The last tick cooled.
  cooling : Bool := false
  -- The filter's verdict and its time constant.
  identified : Bool := false
  tauHours : ℚ := 0
  bypass : Bool := false
  deriving Repr

namespace WindowTick

def sensorUnavailable (t : WindowTick) : Bool := t.contacts.any (· == none)

def sensorOpen (t : WindowTick) : Bool := t.contacts.any (· == some true)

/-- Configured contacts that all report. -/
def sensorHealthy (t : WindowTick) : Bool := !t.contacts.isEmpty && !t.sensorUnavailable

/-- The threshold this tick applies. -/
def openThreshold (cfg : WindowAutoConfig) (t : WindowTick) (room : ℚ) : ℚ :=
  if t.identified then adaptiveOpenThreshold cfg t.tauHours room t.tOut else cfg.openThreshold

end WindowTick

/-- A healthy sensor is authoritative: the detector starts over. -/
def WindowRuntime.deferToSensor (rt : WindowRuntime) : WindowRuntime :=
  { rt with
    windowAuto := {}
    waRefRoom := none
    waRefMono := none
    waPrevMono := none
    dirty := rt.dirty || decide (rt.windowAuto ≠ {}) }

/-- `observe_window_auto` -/
def observeWindowAuto (cfg : WindowAutoConfig) (rt : WindowRuntime) (t : WindowTick) (room : ℚ) :
    WindowRuntime :=
  if t.sensorHealthy then rt
  else
    let threshold := t.openThreshold cfg room
    let cfg := { cfg with openThreshold := threshold }
    let (slope, refRoom, refMono) :=
      quantizedSlope room rt.waRefRoom rt.waRefMono t.now cfg.minStep
    let windowAuto := match rt.waPrevMono with
      | none => rt.windowAuto
      | some prev =>
        let dtMin := (t.now - prev) / 60
        -- A gap of an hour was not observed.
        if 0 < dtMin ∧ dtMin < 60 then
          stepWindowAuto cfg rt.windowAuto (if t.cooling then some 0 else slope) dtMin
        else rt.windowAuto
    { rt with
      windowAuto
      waOpenThreshold := threshold
      waRefRoom := some refRoom
      waRefMono := some refMono
      waPrevMono := some t.now }

/-- One tick of the window observation; the output is the effective window, which is read before
the detector takes this tick's sample, or `none` on an unavailable room sensor. -/
def WindowRuntime.step (cfg : WindowAutoConfig) (rt : WindowRuntime) (t : WindowTick) :
    WindowRuntime × Option Bool :=
  match t.room with
  | none => ({ rt with waRefRoom := none, waRefMono := none, waPrevMono := none }, none)
  | some room =>
    let rt := if t.sensorHealthy then rt.deferToSensor else rt
    (observeWindowAuto cfg rt t room,
      some (effectiveWindowOpen t.sensorOpen rt.windowAuto.detected t.bypass))

/-! ### One step -/

theorem quantizedSlope_ref (room : ℚ) (refRoom refS : Option ℚ) (nowS minStep : ℚ) :
    (quantizedSlope room refRoom refS nowS minStep).2 = (room, nowS) ∨
      ∃ r s, refRoom = some r ∧ refS = some s ∧
        (quantizedSlope room refRoom refS nowS minStep).2 = (r, s) := by
  rcases refRoom with _ | r
  · exact Or.inl rfl
  rcases refS with _ | s
  · exact Or.inl rfl
  simp only [quantizedSlope]
  split_ifs with stale moved
  · exact Or.inr ⟨r, s, rfl, rfl, rfl⟩
  · exact Or.inl rfl
  · exact Or.inr ⟨r, s, rfl, rfl, rfl⟩

/-- A slope is measured from the reference to this reading. -/
theorem quantizedSlope_slope {room nowS minStep v : ℚ} {refRoom refS : Option ℚ}
    (measured : (quantizedSlope room refRoom refS nowS minStep).1 = some v) :
    ∃ r s, refRoom = some r ∧ refS = some s ∧ s < nowS ∧
      v = (room - r) / ((nowS - s) / 3600) := by
  rcases refRoom with _ | r
  · simp [quantizedSlope] at measured
  rcases refS with _ | s
  · simp [quantizedSlope] at measured
  simp only [quantizedSlope] at measured
  split_ifs at measured with stale moved <;>
    exact ⟨r, s, rfl, rfl, sub_pos.mp (not_le.mp stale), (Option.some.inj measured).symm⟩

namespace WindowAutoState

variable {cfg : WindowAutoConfig} {state : WindowAutoState} {slope : Option ℚ} {v dtMin : ℚ}

theorem step_shut_unusable (unusable : usableSlope cfg slope = none)
    (before : state.detected = false) :
    stepWindowAuto cfg state slope dtMin = { state with minutesOpen := 0 } := by
  simp [stepWindowAuto, unusable, before]

theorem step_open_unusable (unusable : usableSlope cfg slope = none)
    (before : state.detected = true) :
    stepWindowAuto cfg state slope dtMin =
      if cfg.maxDurationMin ≤ state.minutesOpen + dtMin then
        { state with detected := false, minutesOpen := 0 }
      else { state with minutesOpen := state.minutesOpen + dtMin } := by
  simp [stepWindowAuto, unusable, before]

theorem step_shut_usable (usable : usableSlope cfg slope = some v)
    (before : state.detected = false) :
    stepWindowAuto cfg state slope dtMin =
      { emaSlope := roundTo (state.ema cfg v) 3
        nPoints := state.nPoints + 1
        detected :=
          decide (cfg.minPoints ≤ state.nPoints + 1 ∧ state.ema cfg v < -cfg.openThreshold)
        minutesOpen := 0 } := by
  simp only [stepWindowAuto, usable, before, verdict, if_true, Bool.false_eq_true, if_false]
  split_ifs <;> simp_all

theorem step_open_usable (usable : usableSlope cfg slope = some v)
    (before : state.detected = true) (enough : cfg.minPoints ≤ state.nPoints) :
    stepWindowAuto cfg state slope dtMin =
      if -cfg.closeFraction * cfg.openThreshold ≤ state.ema cfg v ∨
          cfg.maxDurationMin ≤ state.minutesOpen + dtMin then
        ⟨roundTo (state.ema cfg v) 3, state.nPoints + 1, false, 0⟩
      else ⟨roundTo (state.ema cfg v) 3, state.nPoints + 1, true, state.minutesOpen + dtMin⟩ := by
  have ready : cfg.minPoints ≤ state.nPoints + 1 := Nat.le_succ_of_le enough
  simp only [stepWindowAuto, usable, before, verdict, ready, if_true, Bool.true_eq_false, if_false]
  split_ifs <;> rfl

/-- What every tick leaves behind: a detection rests on enough samples and is younger than the
maximal duration. -/
structure Settled (cfg : WindowAutoConfig) (state : WindowAutoState) : Prop where
  minutes : 0 ≤ state.minutesOpen
  samples : state.detected = true → cfg.minPoints ≤ state.nPoints
  young : state.detected = true → state.minutesOpen < cfg.maxDurationMin

theorem settled_fresh : Settled cfg {} where
  minutes := le_refl (0 : ℚ)
  samples h := by simp at h
  young h := by simp at h

theorem settled_shut (before : state.detected = false) (minutes : 0 ≤ state.minutesOpen) :
    Settled cfg state :=
  ⟨minutes, fun h => absurd (before.symm.trans h) nofun,
    fun h => absurd (before.symm.trans h) nofun⟩

theorem Settled.step (duration : 0 < cfg.maxDurationMin) (elapsed : 0 ≤ dtMin)
    (settled : Settled cfg state) : Settled cfg (stepWindowAuto cfg state slope dtMin) := by
  have later : 0 ≤ state.minutesOpen + dtMin := add_nonneg settled.minutes elapsed
  cases usable : usableSlope cfg slope with
  | none =>
    cases before : state.detected with
    | false =>
      rw [step_shut_unusable usable before]
      exact settled_shut before (le_refl 0)
    | true =>
      rw [step_open_unusable usable before]
      split_ifs with expired
      · exact settled_shut rfl (le_refl 0)
      · exact ⟨later, settled.samples, fun _ => not_le.mp expired⟩
  | some v =>
    cases before : state.detected with
    | false =>
      rw [step_shut_usable usable before]
      refine ⟨le_refl 0, fun h => ?_, fun _ => duration⟩
      exact (of_decide_eq_true h).1
    | true =>
      have enough := settled.samples before
      rw [step_open_usable usable before enough]
      split_ifs with shut
      · exact settled_shut rfl (le_refl 0)
      · exact ⟨later, fun _ => Nat.le_succ_of_le enough, fun _ => not_le.mp (not_or.mp shut).2⟩

/-- While a detection lasts, its minutes run. -/
theorem Settled.minutesOpen_step (settled : Settled cfg state) (before : state.detected = true)
    (after : (stepWindowAuto cfg state slope dtMin).detected = true) :
    (stepWindowAuto cfg state slope dtMin).minutesOpen = state.minutesOpen + dtMin := by
  cases usable : usableSlope cfg slope with
  | none =>
    rw [step_open_unusable usable before] at after ⊢
    split_ifs at after ⊢
    rfl
  | some v =>
    rw [step_open_usable usable before (settled.samples before)] at after ⊢
    split_ifs at after ⊢
    rfl

/-- A detection starts only on a smoothed slope below the threshold. -/
theorem steep_of_detected (before : state.detected = false)
    (after : (stepWindowAuto cfg state slope dtMin).detected = true) :
    ∃ v, usableSlope cfg slope = some v ∧ state.ema cfg v < -cfg.openThreshold := by
  cases usable : usableSlope cfg slope with
  | none =>
    rw [step_shut_unusable usable before] at after
    exact absurd (before.symm.trans after) nofun
  | some v =>
    rw [step_shut_usable usable before] at after
    exact ⟨v, rfl, (of_decide_eq_true after).2⟩

theorem fold_of_usable (usable : usableSlope cfg slope = some v) :
    (stepWindowAuto cfg state slope dtMin).emaSlope = roundTo (state.ema cfg v) 3 ∧
      (stepWindowAuto cfg state slope dtMin).nPoints = state.nPoints + 1 := by
  simp [stepWindowAuto, usable]

/-- Either the smoothed slope stays, or a usable slope was folded in. -/
theorem emaSlope_step :
    (stepWindowAuto cfg state slope dtMin).emaSlope = state.emaSlope ∧
        (stepWindowAuto cfg state slope dtMin).nPoints = state.nPoints ∨
      ∃ v, usableSlope cfg slope = some v ∧
        (stepWindowAuto cfg state slope dtMin).emaSlope = roundTo (state.ema cfg v) 3 ∧
        (stepWindowAuto cfg state slope dtMin).nPoints = state.nPoints + 1 := by
  cases usable : usableSlope cfg slope with
  | none =>
    left
    simp only [stepWindowAuto, usable]
    split_ifs <;> exact ⟨rfl, rfl⟩
  | some v => exact Or.inr ⟨v, rfl, fold_of_usable usable⟩

end WindowAutoState

namespace WindowRuntime

variable {cfg : WindowAutoConfig} {rt : WindowRuntime} {t : WindowTick} {room prev : ℚ}

theorem step_blind (blind : t.room = none) :
    rt.step cfg t =
      ({ rt with waRefRoom := none, waRefMono := none, waPrevMono := none }, none) := by
  simp [step, blind]

theorem step_healthy (measured : t.room = some room) (healthy : t.sensorHealthy = true) :
    rt.step cfg t = (rt.deferToSensor, some (!t.bypass && t.sensorOpen)) := by
  cases bypassed : t.bypass <;>
    simp [step, measured, healthy, observeWindowAuto, effectiveWindowOpen, deferToSensor, bypassed]

/-- The slope a tick feeds to the detector. -/
def sample (cfg : WindowAutoConfig) (rt : WindowRuntime) (t : WindowTick) (room : ℚ) :
    Option ℚ :=
  if t.cooling then some 0
  else (quantizedSlope room rt.waRefRoom rt.waRefMono t.now cfg.minStep).1

/-- The detector after a tick that no sensor decides. -/
def observed (cfg : WindowAutoConfig) (rt : WindowRuntime) (t : WindowTick) (room : ℚ) :
    WindowAutoState :=
  match rt.waPrevMono with
  | none => rt.windowAuto
  | some prev =>
    if 0 < (t.now - prev) / 60 ∧ (t.now - prev) / 60 < 60 then
      stepWindowAuto { cfg with openThreshold := t.openThreshold cfg room } rt.windowAuto
        (rt.sample cfg t room) ((t.now - prev) / 60)
    else rt.windowAuto

theorem step_unsensed (measured : t.room = some room) (unsensed : t.sensorHealthy = false) :
    rt.step cfg t =
      ({ rt with
          windowAuto := rt.observed cfg t room
          waOpenThreshold := t.openThreshold cfg room
          waRefRoom := some (quantizedSlope room rt.waRefRoom rt.waRefMono t.now cfg.minStep).2.1
          waRefMono := some (quantizedSlope room rt.waRefRoom rt.waRefMono t.now cfg.minStep).2.2
          waPrevMono := some t.now },
        some (effectiveWindowOpen t.sensorOpen rt.windowAuto.detected t.bypass)) := by
  simp only [step, measured, unsensed, Bool.false_eq_true, if_false, observeWindowAuto, observed,
    sample]

/-- A tick starts the detector over, leaves it, or steps it by an observed interval. -/
theorem windowAuto_step :
    (rt.step cfg t).1.windowAuto = {} ∨ (rt.step cfg t).1.windowAuto = rt.windowAuto ∨
      ∃ room prev, t.room = some room ∧ t.sensorHealthy = false ∧ rt.waPrevMono = some prev ∧
        0 < (t.now - prev) / 60 ∧
        (rt.step cfg t).1.windowAuto =
          stepWindowAuto { cfg with openThreshold := t.openThreshold cfg room } rt.windowAuto
            (rt.sample cfg t room) ((t.now - prev) / 60) := by
  cases measured : t.room with
  | none =>
    rw [step_blind measured]
    exact Or.inr (Or.inl rfl)
  | some room =>
    cases healthy : t.sensorHealthy with
    | true =>
      rw [step_healthy measured healthy]
      exact Or.inl rfl
    | false =>
      right
      rw [step_unsensed measured healthy]
      cases known : rt.waPrevMono with
      | none => exact Or.inl (by simp only [observed, known])
      | some prev =>
        by_cases interval : 0 < (t.now - prev) / 60 ∧ (t.now - prev) / 60 < 60
        · refine Or.inr ⟨room, prev, rfl, rfl, rfl, interval.1, ?_⟩
          simp only [observed, known, if_pos interval]
        · exact Or.inl (by simp only [observed, known, if_neg interval])

end WindowRuntime

end Poise
