import Poise.Control.WriteTarget
import Poise.Properties.ConstraintPrecedence

/-!
# The envelope of the written target

On the constraints of a zone the solver is the nested clamp: wherever a floor and a cap
invert, the floor ranks at least as high. The device cap is the one that would outrank the
norm floor, and it is raised to it.
-/
namespace Poise

open Rounding

theorem bindingFloor_value {K : Type*} [LinearOrder K] {cs : List (Constraint K)} {m : K}
    (attained : ∃ c ∈ cs, c.kind = .floor ∧ c.value = m)
    (bounded : ∀ c ∈ cs, c.kind = .floor → c.value ≤ m) :
    ∃ f, bindingFloor cs = some f ∧ f.value = m := by
  obtain ⟨c, member, kind, value⟩ := attained
  cases found : bindingFloor cs with
  | none => exact absurd kind (bindingFloor_none found member)
  | some f =>
    have top := bindingFloor_topmost found
    refine ⟨f, rfl, le_antisymm (bounded f top.1 top.2.1) ?_⟩
    rw [← value]
    exact top.value_le member kind

theorem bindingCap_value {K : Type*} [LinearOrder K] {cs : List (Constraint K)} {m : K}
    (attained : ∃ c ∈ cs, c.kind = .cap ∧ c.value = m)
    (bounded : ∀ c ∈ cs, c.kind = .cap → m ≤ c.value) :
    ∃ k, bindingCap cs = some k ∧ k.value = m := by
  obtain ⟨c, member, kind, value⟩ := attained
  cases found : bindingCap cs with
  | none => exact absurd kind (bindingCap_none found member)
  | some k =>
    have low := bindingCap_lowest found
    refine ⟨k, rfl, le_antisymm ?_ (bounded k low.1 low.2.1)⟩
    rw [← value]
    exact low.le_value member kind

/-- Where every inversion favours the floor, the solver is the clamp that applies the
floor last. -/
theorem resolveConstraints_value {K : Type*} [LinearOrder K] (desired : K)
    {cs : List (Constraint K)} {k : Constraint K} (cap : bindingCap cs = some k)
    (favoured : ∀ f, bindingFloor cs = some f → k.value < f.value →
      f.precedence.rank ≤ k.precedence.rank) :
    (resolveConstraints desired cs).value =
      ((bindingFloor cs).map (·.value)).elim id max (min k.value desired) := by
  rcases resolveConstraints_cases desired cs with ⟨f, k', floor, cap', above, value⟩ |
    ⟨ordered, value⟩
  · cases cap.symm.trans cap'
    have low : min k.value desired ≤ f.value := (min_le_left _ _).trans above.le
    simp [value, if_pos (favoured f floor above), floor, max_eq_left low]
  · rw [value, cap]
    cases floor : bindingFloor cs with
    | none => rfl
    | some f =>
      show min k.value (max f.value desired) = max f.value (min k.value desired)
      rw [max_min_distrib_left, max_eq_right (ordered f k floor cap)]

namespace WriteTargetInput

variable (i : WriteTargetInput)

/-- The largest lower bound in force. -/
def envelopeLow : Option ℚ :=
  if i.mode = "cool" then i.deviceMin
  else some (i.deviceMin.elim i.floor fun least => max least i.floor)

/-- The smallest upper bound in force. -/
def envelopeHigh : ℚ :=
  if i.mode = "cool" then i.deviceMax else min i.deviceMax asrMaxRoomC

/-- What is asked for, before the envelope. -/
def desired : ℚ :=
  if i.windowOpen then i.floor
  else i.override.elim i.writeSetpoint i.clampOverride

theorem chosen_target : i.chosen.1 = roundTo i.desired 1 := by
  rw [chosen, desired]
  split
  next => rfl
  next => cases i.override <;> rfl

def constraints : List (Constraint ℚ) := i.floors ++ i.caps

theorem mem_floors {c : Constraint ℚ} :
    c ∈ i.constraints ∧ c.kind = .floor ↔
      (i.mode ≠ "cool" ∧ c = ⟨i.floor, "norm_floor", .floor, .health⟩) ∨
      ∃ least, i.deviceMin = some least ∧ c = ⟨least, "device_min", .floor, .safety⟩ := by
  cases h : i.deviceMin <;> by_cases cool : i.mode = "cool" <;>
    simp [constraints, floors, caps, h, cool] <;> grind

theorem mem_caps {c : Constraint ℚ} :
    c ∈ i.constraints ∧ c.kind = .cap ↔
      c = ⟨i.deviceCap, "device_max", .cap, .safety⟩ ∨
      (i.mode ≠ "cool" ∧ c = ⟨asrMaxRoomC, "norm_cap", .cap, .comfort⟩) := by
  cases h : i.deviceMin <;> by_cases cool : i.mode = "cool" <;>
    simp [constraints, floors, caps, h, cool] <;> grind

theorem bindingFloor_low :
    (bindingFloor i.constraints).map (·.value) = i.envelopeLow := by
  cases low : i.envelopeLow with
  | none =>
    -- cooling on a device of unknown minimum: nothing bounds from below
    have cool : i.mode = "cool" ∧ i.deviceMin = none := by grind [envelopeLow]
    cases found : bindingFloor i.constraints with
    | none => rfl
    | some f =>
      have top := bindingFloor_topmost found
      rcases i.mem_floors.mp ⟨top.1, top.2.1⟩ with ⟨warm, -⟩ | ⟨least, known, -⟩
      · exact absurd cool.1 warm
      · rw [cool.2] at known
        cases known
  | some m =>
    have extreme : ((i.mode ≠ "cool" ∧ i.floor = m) ∨ i.deviceMin = some m) ∧
        (i.mode ≠ "cool" → i.floor ≤ m) ∧ ∀ least, i.deviceMin = some least → least ≤ m := by
      cases h : i.deviceMin <;> grind [envelopeLow]
    obtain ⟨attained, aboveNorm, aboveDevice⟩ := extreme
    have found := @bindingFloor_value _ _ i.constraints m
      (by simp only [← and_assoc, mem_floors]; grind) fun c member kind => by
        rcases i.mem_floors.mp ⟨member, kind⟩ with ⟨warm, rfl⟩ | ⟨least, known, rfl⟩
        · exact aboveNorm warm
        · exact aboveDevice least known
    obtain ⟨f, found, value⟩ := found
    rw [found, Option.map_some, value]

theorem bindingCap_high :
    ∃ k, bindingCap i.constraints = some k ∧
      k.value = if i.mode = "cool" then i.deviceCap else min i.deviceCap asrMaxRoomC := by
  apply bindingCap_value
  · simp only [← and_assoc, mem_caps]
    grind
  · intro c member kind
    rcases i.mem_caps.mp ⟨member, kind⟩ with rfl | ⟨warm, rfl⟩ <;> grind

/-- A floor of a zone ranks at least as high as each cap it conflicts with: the device cap,
which alone outranks the norm floor, is never below that floor. -/
theorem floor_rank_le {f k : Constraint ℚ} (floor : f ∈ i.constraints ∧ f.kind = .floor)
    (cap : k ∈ i.constraints ∧ k.kind = .cap) (above : k.value < f.value) :
    f.precedence.rank ≤ k.precedence.rank := by
  rcases i.mem_floors.mp floor with ⟨warm, rfl⟩ | ⟨least, known, rfl⟩
  · rcases i.mem_caps.mp cap with rfl | ⟨-, rfl⟩
    · have raised : i.floor ≤ i.deviceCap := by
        rw [deviceCap, if_pos warm]
        exact le_max_right _ _
      exact absurd above raised.not_gt
    · simp [Precedence.rank]
  · rcases i.mem_caps.mp cap with rfl | ⟨-, rfl⟩ <;> simp [Precedence.rank]

/-- The constraints of a zone respect the order of precedence. -/
theorem constraints_settled : Settled i.constraints := by
  intro f k top low above c member outranking
  have favoured := i.floor_rank_le ⟨top.1, top.2.1⟩ ⟨low.1, low.2.1⟩ above
  obtain ⟨⟨c', inside, apart⟩, outranks⟩ := outranking
  simp only [favoured, iff_true]
  rcases Constraint.incompatible_iff.mp apart with ⟨isFloor, -⟩ | ⟨isCap, isFloor, below⟩
  · exact isFloor
  · exact absurd (outranks c' inside apart)
      (i.floor_rank_le ⟨inside, isFloor⟩ ⟨member, isCap⟩ below).not_gt

/-- The solver on a zone's constraints is the nested clamp. -/
theorem resolve_value (desired : ℚ) :
    (resolveConstraints desired i.constraints).value =
      i.envelopeLow.elim id max (min i.envelopeHigh desired) := by
  obtain ⟨k, cap, value⟩ := i.bindingCap_high
  have low := bindingCap_lowest cap
  rw [resolveConstraints_value desired cap fun f floor =>
      i.floor_rank_le ⟨(bindingFloor_topmost floor).1, (bindingFloor_topmost floor).2.1⟩
        ⟨low.1, low.2.1⟩,
    bindingFloor_low, value]
  by_cases cool : i.mode = "cool"
  · simp [envelopeHigh, deviceCap, cool]
  · -- raising the device cap to the floor changes nothing below the floor
    obtain ⟨low, known, above⟩ : ∃ low, i.envelopeLow = some low ∧ i.floor ≤ low := by
      cases h : i.deviceMin <;> simp [envelopeLow, cool, h]
    simp only [known, Option.elim_some, envelopeHigh, deviceCap, ne_eq, cool,
      not_false_eq_true, if_true]
    rcases le_total i.floor i.deviceMax with reach | short
    · rw [max_eq_left reach]
    · rw [max_eq_right short, max_eq_left, max_eq_left]
      · exact (min_le_left _ _).trans ((min_le_left _ _).trans (short.trans above))
      · exact (min_le_left _ _).trans ((min_le_left _ _).trans above)

end WriteTargetInput

theorem roundTo_clamp (low : Option ℚ) (high desired : ℚ) :
    roundTo (low.elim id max (min high (roundTo desired 1))) 1 =
      roundTo (low.elim id max (min high desired)) 1 := by
  have mono : Monotone fun x => roundTo x 1 := fun _ _ le => roundTo_mono 1 le
  cases low with
  | none => exact (mono.map_min).trans (by rw [roundTo_roundTo]; exact mono.map_min.symm)
  | some low =>
    simp only [Option.elim_some]
    rw [mono.map_max, mono.map_min, mono.map_max, mono.map_min]
    simp

theorem resolveWriteTarget_target (i : WriteTargetInput) :
    (resolveWriteTarget i).target =
      roundTo (i.envelopeLow.elim id max (min i.envelopeHigh i.desired)) 1 := by
  calc (resolveWriteTarget i).target
      = roundTo (resolveConstraints i.chosen.1 i.constraints).value 1 := rfl
    _ = roundTo (i.envelopeLow.elim id max (min i.envelopeHigh (roundTo i.desired 1))) 1 := by
      rw [i.chosen_target, i.resolve_value]
    _ = _ := roundTo_clamp _ _ _

theorem floor_le_target (i : WriteTargetInput) (warm : (resolveWriteTarget i).mode ≠ "cool") :
    roundTo i.floor 1 ≤ (resolveWriteTarget i).target := by
  have warm' : i.mode ≠ "cool" := warm
  rw [resolveWriteTarget_target]
  apply roundTo_mono
  rw [WriteTargetInput.envelopeLow, if_neg warm', Option.elim_some]
  refine le_max_of_le_left ?_
  cases i.deviceMin with
  | none => exact le_rfl
  | some least => exact le_max_right _ _

theorem overrideClamped_iff (i : WriteTargetInput) (ordered : i.heatSp ≤ i.coolSp)
    (closed : i.windowOpen = false) :
    (resolveWriteTarget i).overrideClamped ↔
      ∃ override, i.override = some override ∧
        (override < i.heatSp ∨ i.canCool ∧ i.coolSp < override) := by
  have reported : (resolveWriteTarget i).overrideClamped = i.chosen.2.2 := rfl
  rw [reported, WriteTargetInput.chosen, closed]
  cases i.override with
  | none => simp
  | some override =>
    simp only [Bool.false_eq_true, if_false, WriteTargetInput.clampOverride]
    by_cases can : i.canCool = true <;> simp only [can] <;> grind

/-- The written target is the nested clamp of what is asked for, rounded. Neither the device's
maximum nor the legal cap undercuts the protection floor, and the override is reported as
limited exactly when it lies outside the band. -/
theorem writeTarget_envelope (i : WriteTargetInput) :
    (resolveWriteTarget i).target =
        roundTo (i.envelopeLow.elim id max (min i.envelopeHigh i.desired)) 1 ∧
      ((resolveWriteTarget i).mode ≠ "cool" →
        roundTo (max i.frostFloor (i.moldMin.getD i.frostFloor)) 1 ≤
          (resolveWriteTarget i).target) ∧
      (i.heatSp ≤ i.coolSp → i.windowOpen = false →
        ((resolveWriteTarget i).overrideClamped ↔
          ∃ override, i.override = some override ∧
            (override < i.heatSp ∨ i.canCool ∧ i.coolSp < override))) :=
  ⟨resolveWriteTarget_target i, floor_le_target i, overrideClamped_iff i⟩

private def coldStore : WriteTargetInput :=
  { windowOpen := false, override := some 5, heatSp := 18, coolSp := 26, writeSetpoint := 21
    comfortMode := "heat", frostFloor := 7, moldMin := some 16.5, deviceMax := 15 }

/-- A valve that reports a maximum of 15 °C still gets the mould floor. -/
theorem coldStore_envelope :
    roundTo (max 7 16.5) 1 ≤ (resolveWriteTarget coldStore).target ∧
      (resolveWriteTarget coldStore).overrideClamped = true := by
  have law := writeTarget_envelope coldStore
  refine ⟨law.2.1 (by decide +kernel), (law.2.2 (by decide +kernel) rfl).mpr ?_⟩
  exact ⟨5, rfl, .inl (by decide +kernel)⟩

end Poise
