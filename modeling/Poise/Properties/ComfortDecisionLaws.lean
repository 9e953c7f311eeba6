import Poise.Comfort.DualSetpoint
import Mathlib.Tactic.Linarith
import Mathlib.Tactic.NormNum

/-!
# What a comfort decision promises

Whatever the operative-to-air transform answers, the floors and the dew point come after it
and the two edges are ordered last. The rounding keeps the order and moves each edge by at
most half a tenth.
-/
namespace Poise

open Rounding

/-! ### The mode -/

theorem decideMode_heat {room : ℚ} {setpoint : DualSetpoint} {gates : ModeGates}
    (heating : decideMode room setpoint gates = .heat) :
    gates.heatOk = true ∧ room < setpoint.heat := by
  simp only [decideMode] at heating
  grind

theorem decideMode_cool {room : ℚ} {setpoint : DualSetpoint} {gates : ModeGates}
    (cooling : decideMode room setpoint gates = .cool) :
    gates.coolOk = true ∧ setpoint.cool < room := by
  simp only [decideMode] at cooling
  grind

theorem ModeGates.heatOk_iff (g : ModeGates) :
    g.heatOk = true ↔ g.canHeat = true ∧ (g.climateMode = .auto ∨ g.climateMode = .heatOnly) ∧
      ∀ limit ∈ g.heatMaxOutdoor, g.outdoor ≤ limit := by
  cases h : g.heatMaxOutdoor <;> simp [heatOk, h, and_assoc]

theorem ModeGates.coolOk_iff (g : ModeGates) :
    g.coolOk = true ↔ g.canCool = true ∧ (g.climateMode = .auto ∨ g.climateMode = .coolOnly) ∧
      ∀ limit ∈ g.coolMinOutdoor, limit ≤ g.outdoor := by
  cases h : g.coolMinOutdoor <;> simp [coolOk, h, and_assoc]

/-! ### The edges -/

theorem sub_le_roundTo {bound x : ℚ} (below : bound ≤ x) : bound - 0.05 ≤ roundTo x 1 := by
  have near := (abs_le.mp (abs_roundTo_sub_le x 1)).1
  norm_num at near ⊢
  linarith

namespace DecideInput

variable (i : DecideInput) (toAir : ℚ → ℚ)

theorem le_raiseTo (floor : ℚ) (cause : LowerCause) (edge : ℚ × LowerCause) :
    floor ≤ (raiseTo floor cause edge).1 ∧ edge.1 ≤ (raiseTo floor cause edge).1 := by
  rw [raiseTo]
  split
  next below => exact ⟨le_rfl, below⟩
  next above => exact ⟨(not_le.mp above).le, le_rfl⟩

theorem raiseTo_cause {floor : ℚ} {cause : LowerCause} {edge : ℚ × LowerCause}
    (other : edge.2 ≠ cause) :
    (raiseTo floor cause edge).2 = cause ↔ (raiseTo floor cause edge).1 = floor := by
  rw [raiseTo]
  split
  next => simp
  next above => simp [other, (not_le.mp above).ne']

theorem frostFloor_le_heatEdgeVia : i.frostFloor ≤ (i.heatEdgeVia toAir).1 := by
  have frost := (le_raiseTo i.frostFloor .frost (toAir i.heatOp, i.operativeCause)).1
  simp only [heatEdgeVia]
  cases i.moldMin with
  | none => exact frost
  | some floor => exact frost.trans (le_raiseTo floor .mould _).2

theorem moldMin_le_heatEdgeVia {floor : ℚ} (known : i.moldMin = some floor) :
    floor ≤ (i.heatEdgeVia toAir).1 := by
  simp only [heatEdgeVia, known]
  exact (le_raiseTo floor .mould _).1

/-- Before the mould floor no cause is mould. -/
theorem frost_cause_ne :
    (raiseTo i.frostFloor .frost (toAir i.heatOp, i.operativeCause)).2 ≠ .mould := by
  have operative : i.operativeCause ≠ .mould := by
    rw [operativeCause]
    split
    next => split <;> decide
    next => split <;> decide
  rw [raiseTo]
  split
  next => simp
  next => exact operative

theorem heatEdgeVia_mould_iff :
    (i.heatEdgeVia toAir).2 = .mould ↔
      ∃ floor, i.moldMin = some floor ∧ (i.heatEdgeVia toAir).1 = floor := by
  have other := i.frost_cause_ne toAir
  cases known : i.moldMin with
  | none => simp [heatEdgeVia, known, other]
  | some floor => simp [heatEdgeVia, known, raiseTo_cause other, eq_comm]

theorem dewpoint_le_coolEdgeVia {dewpoint : ℚ} (known : i.dewpoint = some dewpoint) :
    dewpoint + 2 ≤ i.coolEdgeVia toAir := by
  simp only [coolEdgeVia, known]
  exact le_max_of_le_left (le_max_right _ _)

end DecideInput

/-- The edge that a decision writes in each mode. -/
def writtenEdge (i : DecideInput) (heatSp coolSp : ℚ) : ConditioningMode → ℚ
  | .heat => heatSp
  | .cool => coolSp
  | .idle => if i.canHeat then heatSp else coolSp

theorem comfortDecideVia_write (toAir : ℚ → ℚ) (i : DecideInput) :
    let d := comfortDecideVia toAir i
    d.writeSetpoint = writtenEdge i d.heatSp d.coolSp d.mode := by
  simp only [comfortDecideVia]
  generalize decideMode i.room _ i.gates = mode
  cases mode <;> rfl

/-- Order, floors, cause, written edge and mode of every decision. -/
theorem comfortDecide_laws (toAir : ℚ → ℚ) (i : DecideInput) :
    let d := comfortDecideVia toAir i
    d.heatSp ≤ d.coolSp ∧
      (i.frostFloor - 0.05 ≤ d.heatSp ∧ (∀ floor ∈ i.moldMin, floor - 0.05 ≤ d.heatSp) ∧
        ∀ dewpoint ∈ i.dewpoint, dewpoint + 2 - 0.05 ≤ d.coolSp) ∧
      (d.lowerCause = .mould ↔
        ∃ floor, i.moldMin = some floor ∧ (i.heatEdgeVia toAir).1 = floor) ∧
      d.writeSetpoint = writtenEdge i d.heatSp d.coolSp d.mode ∧
      (d.mode = .heat → i.canHeat = true ∧
        (i.climateMode = .auto ∨ i.climateMode = .heatOnly) ∧
        (∀ limit ∈ i.heatMaxOutdoor, i.tOut ≤ limit) ∧ i.room < d.heatSp) ∧
      (d.mode = .cool → i.canCool = true ∧
        (i.climateMode = .auto ∨ i.climateMode = .coolOnly) ∧
        (∀ limit ∈ i.coolMinOutdoor, limit ≤ i.tOut) ∧ d.coolSp < i.room) := by
  intro d
  refine ⟨roundTo_mono 1 (le_max_right _ _), ⟨?_, ?_, ?_⟩, i.heatEdgeVia_mould_iff toAir,
    comfortDecideVia_write toAir i, fun heating => ?_, fun cooling => ?_⟩
  · exact sub_le_roundTo (i.frostFloor_le_heatEdgeVia toAir)
  · exact fun floor known => sub_le_roundTo (i.moldMin_le_heatEdgeVia toAir known)
  · exact fun dewpoint known => sub_le_roundTo (i.dewpoint_le_coolEdgeVia toAir known)
  · obtain ⟨open', beyond⟩ := decideMode_heat heating
    obtain ⟨can, mode, gate⟩ := i.gates.heatOk_iff.mp open'
    exact ⟨can, mode, gate, beyond⟩
  · obtain ⟨open', beyond⟩ := decideMode_cool cooling
    obtain ⟨can, mode, gate⟩ := i.gates.coolOk_iff.mp open'
    exact ⟨can, mode, gate, beyond⟩

private def dampRoom : DecideInput :=
  { tRm := 10, room := 18, tOut := 4, comfortBase := 17, moldMin := some 20.34 }

/-- A mould floor above the comfort base takes the edge and its cause. -/
theorem dampRoom_laws :
    (comfortDecideVia dampRoom.toAir dampRoom).lowerCause = .mould ∧
      dampRoom.room < (comfortDecideVia dampRoom.toAir dampRoom).heatSp := by
  obtain ⟨-, -, cause, -, heating, -⟩ := comfortDecide_laws dampRoom.toAir dampRoom
  exact ⟨cause.mpr ⟨20.34, rfl, by decide +kernel⟩, (heating (by decide +kernel)).2.2.2⟩

end Poise
