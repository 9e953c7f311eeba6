import Poise.Hub.LoadShedding

/-!
# What load shedding sheds

The loop takes the shortest covering prefix of its candidates, and the candidates are the
eligible zones, ranked by their gap.
-/
namespace Poise

open Greedy Rounding

variable {requests candidates : List ZoneRequest} {deficit available : ℚ}

/-- What is still to be freed is covered by the shortest prefix of what is still to come. -/
theorem shedLoop_covers (deficit : ℚ) (candidates : List ZoneRequest) (shed : List String)
    (freed : ℚ) :
    ∃ n, Covers ZoneRequest.power (deficit - freed) candidates n ∧
      shedLoop deficit candidates shed freed =
        (shed ++ (candidates.take n).map ZoneRequest.zoneId,
          freed + total ZoneRequest.power (candidates.take n)) := by
  induction candidates generalizing shed freed with
  | nil => exact ⟨0, covers_nil, by simp [shedLoop, total]⟩
  | cons r rest ih =>
    rw [shedLoop]
    split
    next met => exact ⟨0, Covers.none (sub_nonpos.mpr met), by simp [total]⟩
    next unmet =>
      obtain ⟨n, covers, result⟩ := ih (shed ++ [r.zoneId]) (freed + r.power)
      rw [← sub_sub] at covers
      refine ⟨n + 1, covers.cons (sub_pos.mpr (not_le.mp unmet)), ?_⟩
      rw [result]
      simp [total, add_assoc]

/-- An overload sheds a covering prefix of the ranking. -/
theorem resolveLoadShedding_overload (requests : List ZoneRequest) (overload : available < 0) :
    ∃ order n,
      Ranked ZoneRequest.comfortGap (requests.filter ZoneRequest.eligible) order ∧
      Covers ZoneRequest.power (-available) order n ∧
      resolveLoadShedding requests (.finite available) =
        ⟨(order.take n).map ZoneRequest.zoneId,
          roundTo (total ZoneRequest.power (order.take n)) 3, roundTo (-available) 3⟩ := by
  obtain ⟨n, covers, result⟩ := shedLoop_covers (-available)
    (rank ZoneRequest.comfortGap (requests.filter ZoneRequest.eligible)) [] 0
  rw [sub_zero] at covers
  refine ⟨_, n, ranked_rank _ _, covers, ?_⟩
  simp only [resolveLoadShedding, overload.not_ge, if_false, result, List.nil_append, zero_add]

theorem resolveLoadShedding_idle (requests : List ZoneRequest) {availablePower : PyFloat}
    (idle : ∀ available < 0, availablePower ≠ .finite available) :
    resolveLoadShedding requests availablePower = ⟨[], 0, 0⟩ := by
  cases availablePower with
  | finite available =>
    rw [resolveLoadShedding, if_pos (not_lt.mp fun overload => idle available overload rfl)]
  | infinite negative => rfl
  | nan => rfl

/-- Each eligible zone is shed at most once, and no other. -/
theorem shed_subperm (requests : List ZoneRequest) (availablePower : PyFloat) :
    (resolveLoadShedding requests availablePower).shed.Subperm
      ((requests.filter ZoneRequest.eligible).map ZoneRequest.zoneId) := by
  by_cases idle : ∀ available < 0, availablePower ≠ .finite available
  · rw [resolveLoadShedding_idle requests idle]
    exact List.nil_subperm
  · push Not at idle
    obtain ⟨available, overload, rfl⟩ := idle
    obtain ⟨order, n, ranked, -, result⟩ := resolveLoadShedding_overload requests overload
    rw [result]
    exact ((List.take_sublist n order).map _).subperm.trans (ranked.perm.map _).subperm

/-- The nearest room goes first, and the freezing one stays on. -/
example :
    resolveLoadShedding
      [⟨"hall", true, 2, false, some 500, false⟩, ⟨"bath", true, 1, true, some 900, false⟩,
        ⟨"den", true, 1, false, some 400, false⟩, ⟨"attic", true, 1, false, none, false⟩]
      (.finite (-600)) = ⟨["den", "hall"], 900, 600⟩ := by
  decide +kernel

end Poise
