import Poise.Comfort.MouldRisk
import Poise.Foundation.Bisection

/-!
# The required air temperature

The search answers the safe end of a bracket that narrows 60 times. It is capped exactly
when the ceiling fails, and under a monotone excess no temperature below the answer by more
than the last bracket meets the criterion.
-/
namespace Poise

open Bisection

variable {K : Type*} [Field K] [LinearOrder K]

/-- The criterion fails: the surface is still in the growth region. -/
def growing (excess : K → K) (t : K) : Bool := 0 < excess t

theorem bisect_eq_bracket (excess : K → K) (n : ℕ) (lo hi : K) :
    bisect excess n lo hi = (bracket (growing excess) n (lo, hi)).2 := by
  induction n generalizing lo hi with
  | zero => rfl
  | succ n ih =>
    rw [bracket_succ]
    simp only [bisect, step, growing, decide_eq_true_eq]
    split
    next => exact ih _ _
    next => exact ih _ _

variable {excess : K → K} {tOut : K}

/-- The bracket of the loop after any number of steps. -/
theorem loop_invariant (meets : excess floorCeilingC ≤ 0)
    (fails : 0 < excess (min tOut floorCeilingC)) (n : ℕ) :
    let b := bracket (growing excess) n (min tOut floorCeilingC, floorCeilingC)
    0 < excess b.1 ∧ excess b.2 ≤ 0 := by
  have begins : Straddles (growing excess) (min tOut floorCeilingC, floorCeilingC) :=
    ⟨decide_eq_true fails, decide_eq_false meets.not_gt⟩
  obtain ⟨left, right⟩ := straddles_bracket begins n
  exact ⟨of_decide_eq_true left, not_lt.mp (of_decide_eq_false right)⟩

/-- The three exits: capped, safe at the outdoor temperature, and the loop. -/
theorem requiredFor_cases (excess : K → K) (tOut : K) :
    (0 < excess floorCeilingC ∧ requiredFor excess tOut = (floorCeilingC, true)) ∨
      (excess floorCeilingC ≤ 0 ∧ excess (min tOut floorCeilingC) ≤ 0 ∧
        requiredFor excess tOut = (min tOut floorCeilingC, false)) ∨
      (excess floorCeilingC ≤ 0 ∧ 0 < excess (min tOut floorCeilingC) ∧
        requiredFor excess tOut =
          ((bracket (growing excess) 60 (min tOut floorCeilingC, floorCeilingC)).2, false)) := by
  simp only [requiredFor, bisect_eq_bracket]
  split
  next fails => exact .inl ⟨fails, rfl⟩
  next meets =>
    split
    next safe => exact .inr (.inl ⟨not_lt.mp meets, safe, rfl⟩)
    next damp => exact .inr (.inr ⟨not_lt.mp meets, not_le.mp damp, rfl⟩)

theorem requiredFor_capped (excess : K → K) (tOut : K) :
    (requiredFor excess tOut).2 = true ↔ 0 < excess floorCeilingC := by
  rcases requiredFor_cases excess tOut with ⟨fails, exit⟩ | ⟨meets, -, exit⟩ | ⟨meets, -, exit⟩
  · simp [exit, fails]
  · simp [exit, meets.not_gt]
  · simp [exit, meets.not_gt]

variable [IsStrictOrderedRing K]

theorem requiredFor_meets (uncapped : (requiredFor excess tOut).2 = false) :
    excess (requiredFor excess tOut).1 ≤ 0 ∧
      min tOut floorCeilingC ≤ (requiredFor excess tOut).1 ∧
      (requiredFor excess tOut).1 ≤ floorCeilingC := by
  rcases requiredFor_cases excess tOut with ⟨-, exit⟩ | ⟨-, safe, exit⟩ | ⟨meets, fails, exit⟩
  · rw [exit] at uncapped
    cases uncapped
  · rw [exit]
    exact ⟨safe, le_rfl, min_le_right _ _⟩
  · obtain ⟨left, inner, right⟩ := @bracket_within _ _ _ _ (growing excess)
      (min tOut floorCeilingC, floorCeilingC) (min_le_right _ _) 60
    rw [exit]
    exact ⟨(loop_invariant meets fails 60).2, left.trans inner, right⟩

/-- No temperature from the outdoor one up meets the criterion below the last bracket. -/
theorem requiredFor_least (antitone : Antitone excess)
    (uncapped : (requiredFor excess tOut).2 = false) {t : K} (warm : tOut ≤ t)
    (below : t < (requiredFor excess tOut).1 - (floorCeilingC - tOut) / 2 ^ 60) :
    0 < excess t := by
  have scale : (1 : K) ≤ 2 ^ 60 := one_le_pow₀ one_le_two
  rcases requiredFor_cases excess tOut with ⟨-, exit⟩ | ⟨-, safe, exit⟩ | ⟨meets, fails, exit⟩
  · rw [exit] at uncapped
    cases uncapped
  · -- the search ended at the outdoor temperature or at the ceiling: nothing lies between
    rw [exit] at below
    exfalso
    rcases le_total tOut floorCeilingC with cold | hot
    · have width : 0 ≤ (floorCeilingC - tOut) / 2 ^ 60 :=
        div_nonneg (sub_nonneg.mpr cold) (zero_le_one.trans scale)
      rw [min_eq_left cold] at below
      linarith
    · have width : (tOut - floorCeilingC) / 2 ^ 60 ≤ tOut - floorCeilingC :=
        div_le_self (sub_nonneg.mpr hot) scale
      rw [min_eq_right hot, ← neg_sub tOut, neg_div, sub_neg_eq_add] at below
      linarith
  · have cold : tOut ≤ floorCeilingC := by
      by_contra hot
      rw [min_eq_right (not_le.mp hot).le] at fails
      exact fails.not_ge meets
    rw [exit, min_eq_left cold] at below
    rw [min_eq_left cold] at fails
    have begins : Straddles (growing excess) (tOut, floorCeilingC) :=
      ⟨decide_eq_true fails, decide_eq_false meets.not_gt⟩
    have failing := fails_of_lt begins (fun x y le growing =>
      decide_eq_true ((of_decide_eq_true growing).trans_le (antitone le))) 60 below
    exact of_decide_eq_true failing

/-- The search is capped exactly when the ceiling fails. Otherwise the answer meets the
criterion between the outdoor temperature and the ceiling, the loop keeps its bracket, and
nothing below the last bracket would do. -/
theorem requiredTemperature_spec (excess : K → K) (antitone : Antitone excess) (tOut : K) :
    ((requiredFor excess tOut).2 = true ↔ 0 < excess floorCeilingC) ∧
      ((requiredFor excess tOut).2 = false →
        excess (requiredFor excess tOut).1 ≤ 0 ∧
        min tOut floorCeilingC ≤ (requiredFor excess tOut).1 ∧
        (requiredFor excess tOut).1 ≤ floorCeilingC ∧
        ∀ t, tOut ≤ t → t < (requiredFor excess tOut).1 - (floorCeilingC - tOut) / 2 ^ 60 →
          0 < excess t) ∧
      (excess floorCeilingC ≤ 0 → 0 < excess (min tOut floorCeilingC) → ∀ n,
        let b := bracket (growing excess) n (min tOut floorCeilingC, floorCeilingC)
        0 < excess b.1 ∧ excess b.2 ≤ 0) := by
  refine ⟨requiredFor_capped excess tOut, fun uncapped => ?_, loop_invariant⟩
  obtain ⟨safe, left, right⟩ := requiredFor_meets uncapped
  exact ⟨safe, left, right, fun t => requiredFor_least antitone uncapped⟩

/-- A surface that dries at 15 °C, on a day of 5 °C. -/
theorem requiredTemperature_spec_mild :
    let excess := fun t : ℚ => 15 - t
    excess (requiredFor excess 5).1 ≤ 0 ∧
      ∀ t, 5 ≤ t → t < (requiredFor excess 5).1 - (floorCeilingC - 5) / 2 ^ 60 →
        0 < excess t := by
  intro excess
  have antitone : Antitone excess := fun a b le => sub_le_sub_left le 15
  obtain ⟨capped, answer, -⟩ := requiredTemperature_spec excess antitone 5
  have uncapped : (requiredFor excess 5).2 = false := by
    rw [← Bool.not_eq_true, capped]
    norm_num [excess, floorCeilingC]
  obtain ⟨safe, -, -, least⟩ := answer uncapped
  exact ⟨safe, least⟩

end Poise
