import Poise.Comfort.Humidity
import Poise.Foundation.PastTime
import Mathlib.Tactic.Linarith

/-!
# When the room dries

The dry latch is exactly a past-time formula of the ticks: a tick that could dry went over a
ceiling, and every tick since could dry and stayed above an exit. Drying is what a decided tick of
the latch does, and nothing else dries.
-/
namespace Poise

open Trace PastTime

variable {cfg : HumidityConfig}

/-- Drying is allowed: a reading above the guard, inside the dead band, on a device that dries. -/
structure MayDry (cfg : HumidityConfig) (t : HumidityTick) (rh : ℚ) : Prop where
  reading : t.rh = some rh
  guarded : cfg.rhLow ≤ rh
  deadband : t.heatSp ≤ t.roomDecide ∧ t.roomDecide ≤ t.effCool
  device : t.canDry = true

/-- The humidity is at a ceiling lowered by `rhSlack` and `absSlack`; the relative one counts
while occupied. -/
def Humid (cfg : HumidityConfig) (t : HumidityTick) (rh rhSlack absSlack : ℚ) : Prop :=
  t.occupied = true ∧ rhHighForCategory cfg t.category - rhSlack ≤ rh ∨
    ∃ w, t.absHumidityGkg = some w ∧ cfg.absHigh - absSlack ≤ w

/-- A tick that starts the drying. -/
def Starts (cfg : HumidityConfig) (ev : HumidityEvent) : Prop :=
  ∃ t rh, ev = .decided t ∧ MayDry cfg t rh ∧ Humid cfg t rh 0 0

/-- A tick that lets it go on; a failed stage does. -/
def Continues (cfg : HumidityConfig) (ev : HumidityEvent) : Prop :=
  ev = .failed ∨
    ∃ t rh, ev = .decided t ∧ MayDry cfg t rh ∧ Humid cfg t rh cfg.hysteresis cfg.absHysteresis

theorem humid_iff (t : HumidityTick) (rh rhSlack absSlack : ℚ) :
    (t.rhAtLeast rh (rhHighForCategory cfg t.category - rhSlack) ||
        t.absAtLeast (cfg.absHigh - absSlack)) = true ↔ Humid cfg t rh rhSlack absSlack := by
  simp [HumidityTick.rhAtLeast, HumidityTick.absAtLeast, Humid, Option.any_eq_true]

theorem humid_iff_ceiling (t : HumidityTick) (rh : ℚ) :
    (t.rhAtLeast rh (rhHighForCategory cfg t.category) || t.absAtLeast cfg.absHigh) = true ↔
      Humid cfg t rh 0 0 := by
  rw [← humid_iff, sub_zero, sub_zero]

/-- The latch of a reading, as the conjunction of what the branches ask. -/
theorem dryActive_eq {prev : Bool} {t : HumidityTick} {rh : ℚ} (reading : t.rh = some rh)
    (guarded : ¬ rh < cfg.rhLow) (cool : t.tooWarm = false) :
    (humidityDecide cfg prev t).dryActive =
      (t.inDeadband && (t.rhAtLeast rh (rhHighForCategory cfg t.category)
        || t.absAtLeast cfg.absHigh
        || (prev && (t.rhAtLeast rh (rhHighForCategory cfg t.category - cfg.hysteresis)
          || t.absAtLeast (cfg.absHigh - cfg.absHysteresis)))) && t.canDry) := by
  simp only [humidityDecide, reading, guarded, cool, if_false, Bool.false_eq_true]
  split_ifs with humid device
  · rw [humid, device]
    split <;> rfl
  · simp [device]
  · simp [device]
  · rw [Bool.not_eq_true] at humid
    rw [humid, Bool.false_and]
  · rw [Bool.not_eq_true] at humid
    rw [humid, Bool.false_and]

theorem not_dryActive_of_guard {prev : Bool} {t : HumidityTick} {rh : ℚ} (reading : t.rh = some rh)
    (stopped : rh < cfg.rhLow ∨ t.tooWarm = true) :
    (humidityDecide cfg prev t).dryActive = false := by
  simp only [humidityDecide, reading]
  rcases stopped with dry | warm
  · rw [if_pos dry]
  · split_ifs <;> rfl

/-- One decision, as a latch. -/
theorem dryActive_iff (prev : Bool) (t : HumidityTick) :
    (humidityDecide cfg prev t).dryActive = true ↔
      ∃ rh, MayDry cfg t rh ∧ (Humid cfg t rh 0 0 ∨
        prev = true ∧ Humid cfg t rh cfg.hysteresis cfg.absHysteresis) := by
  constructor
  · intro active
    cases reading : t.rh with
    | none => simp [humidityDecide, reading] at active
    | some rh =>
      by_cases stopped : rh < cfg.rhLow ∨ t.tooWarm = true
      · rw [not_dryActive_of_guard reading stopped] at active
        exact absurd active nofun
      · obtain ⟨guarded, cool⟩ := not_or.mp stopped
        rw [dryActive_eq reading guarded (Bool.not_eq_true _ ▸ cool)] at active
        rw [Bool.and_eq_true, Bool.and_eq_true, Bool.or_eq_true, Bool.and_eq_true, humid_iff,
          humid_iff_ceiling] at active
        obtain ⟨⟨band, humid⟩, device⟩ := active
        exact ⟨rh, ⟨reading, not_lt.mp guarded, of_decide_eq_true band, device⟩, humid⟩
  · rintro ⟨rh, may, humid⟩
    have cool : t.tooWarm = false := decide_eq_false (not_lt.mpr may.deadband.2)
    rw [dryActive_eq may.reading (not_lt.mpr may.guarded) cool]
    rw [Bool.and_eq_true, Bool.and_eq_true, Bool.or_eq_true, Bool.and_eq_true, humid_iff,
      humid_iff_ceiling]
    exact ⟨⟨decide_eq_true may.deadband, humid⟩, may.device⟩

theorem climateHumidity_latch (dryActive : Bool) (ev : HumidityEvent) :
    (climateHumidity cfg dryActive ev).1 = true ↔
      Starts cfg ev ∨ Continues cfg ev ∧ dryActive = true := by
  cases ev with
  | failed => simp [climateHumidity, Starts, Continues]
  | decided t =>
    have decision : (climateHumidity cfg dryActive (.decided t)).1 =
        (humidityDecide cfg dryActive t).dryActive := rfl
    rw [decision, dryActive_iff]
    constructor
    · rintro ⟨rh, may, humid | ⟨latched, hold⟩⟩
      · exact Or.inl ⟨t, rh, rfl, may, humid⟩
      · exact Or.inr ⟨Or.inr ⟨t, rh, rfl, may, hold⟩, latched⟩
    · rintro (⟨u, rh, same, may, humid⟩ | ⟨failed | ⟨u, rh, same, may, hold⟩, latched⟩)
      · obtain rfl := HumidityEvent.decided.inj same
        exact ⟨rh, may, Or.inl humid⟩
      · exact absurd failed nofun
      · obtain rfl := HumidityEvent.decided.inj same
        exact ⟨rh, may, Or.inr ⟨latched, hold⟩⟩

/-- Drying is the action of exactly the decided ticks whose latch is on. -/
theorem action_eq_dry_iff (dryActive : Bool) (ev : HumidityEvent) :
    (climateHumidity cfg dryActive ev).2.action = .dry ↔
      ev ≠ .failed ∧ (climateHumidity cfg dryActive ev).1 = true := by
  cases ev with
  | failed => simp [climateHumidity]
  | decided t =>
    have agree : (humidityDecide cfg dryActive t).action = .dry ↔
        (humidityDecide cfg dryActive t).dryActive = true := by
      unfold humidityDecide
      split
      · simp
      · dsimp only
        split_ifs
        all_goals first | simp | (split <;> simp)
    simpa [climateHumidity] using agree

/-- The latch over a whole run, and what it makes the device do. -/
theorem dries_since (events : List HumidityEvent) (ev : HumidityEvent) :
    let latch := final (climateHumidity cfg) false events
    (latch = true ↔ Since (Starts cfg) (Continues cfg) events) ∧
      ((climateHumidity cfg latch ev).2.action = .dry ↔
        ev ≠ .failed ∧ Since (Starts cfg) (Continues cfg) (events ++ [ev])) := by
  have run : ∀ is, final (climateHumidity cfg) false is = true ↔
      Since (Starts cfg) (Continues cfg) is := fun is =>
    @latch_iff HumidityEvent Bool HumidityDecision _ _ (climateHumidity cfg) (fun s => s = true)
      false Bool.false_ne_true (fun s i => climateHumidity_latch s i) is
  refine ⟨run events, ?_⟩
  rw [action_eq_dry_iff, ← run, final_append]
  rfl

end Poise
