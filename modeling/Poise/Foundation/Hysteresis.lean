import Poise.Foundation.Deadband
import Mathlib.Algebra.Order.Group.MinMax
import Mathlib.Data.List.Chain

/-!
# A switch with two thresholds

A two-position switch that goes up only at readings of at least `gap` and down only at readings
of at most zero. Between two opposite turns the reading crosses the gap, so the turns are paid for
by the variation of the readings: a quiet reading cannot make the switch chatter.

A moment is the position of the switch and the reading that decides its next position.
-/
namespace Hysteresis

open Deadband

variable {K : Type*} [Field K] [LinearOrder K]

/-- What the reading of `a` lets the switch do until `b`. -/
def Turn (gap : K) (a b : Bool × K) : Prop :=
  (a.1 = false → b.1 = true → gap ≤ a.2) ∧ (a.1 = true → b.1 = false → a.2 ≤ 0)

/-- How often the position changes. -/
def turns : List (Bool × K) → ℕ
  | [] => 0
  | [_] => 0
  | a :: b :: rest => (if a.1 = b.1 then 0 else 1) + turns (b :: rest)

/-- How far the reading must still go until the switch may turn. -/
def toGo (gap : K) (a : Bool × K) : K :=
  let within := max 0 (min gap a.2)
  if a.1 then within else gap - within

variable {gap : K}

section Clamp

variable [IsStrictOrderedRing K]

theorem clamp_sub_le (gap x y : K) : max 0 (min gap x) - max 0 (min gap y) ≤ |x - y| := by
  calc max 0 (min gap x) - max 0 (min gap y)
      ≤ |max 0 (min gap x) - max 0 (min gap y)| := le_abs_self _
    _ ≤ max |0 - 0| |min gap x - min gap y| := abs_max_sub_max_le_max _ _ _ _
    _ = |min gap x - min gap y| := by rw [sub_self, abs_zero, max_eq_right (abs_nonneg _)]
    _ ≤ max |gap - gap| |x - y| := abs_min_sub_min_le_max _ _ _ _
    _ = |x - y| := by rw [sub_self, abs_zero, max_eq_right (abs_nonneg _)]

theorem toGo_nonneg (pos : 0 ≤ gap) (a : Bool × K) : 0 ≤ toGo gap a := by
  have most : max 0 (min gap a.2) ≤ gap := max_le pos (min_le_left _ _)
  unfold toGo
  split
  · exact le_max_left _ _
  · exact sub_nonneg.mpr most

/-- A turn costs the gap, but for what was left to go before it. -/
theorem turn_cost (pos : 0 ≤ gap) {a b : Bool × K} (turn : Turn gap a b) :
    (if a.1 = b.1 then 0 else gap) - toGo gap b ≤ |b.2 - a.2| - toGo gap a := by
  have near := clamp_sub_le gap b.2 a.2
  have back := clamp_sub_le gap a.2 b.2
  rw [abs_sub_comm] at back
  obtain ⟨up, x⟩ := a
  obtain ⟨up', y⟩ := b
  cases up with
  | false =>
    cases up' with
    | false =>
      simp only [toGo, if_true, Bool.false_eq_true, if_false]
      linarith
    | true =>
      -- the reading is at the top already
      have top : max 0 (min gap x) = gap := by
        rw [min_eq_left (turn.1 rfl rfl), max_eq_right pos]
      simp only [toGo, Bool.false_eq_true, if_false, if_true] at near back ⊢
      rw [top] at back ⊢
      linarith
  | true =>
    cases up' with
    | false =>
      -- the reading is at the bottom already
      have bottom : max 0 (min gap x) = 0 :=
        max_eq_left ((min_le_right _ _).trans (turn.2 rfl rfl))
      simp only [toGo, Bool.true_eq_false, Bool.false_eq_true, if_false, if_true] at near back ⊢
      rw [bottom] at near ⊢
      linarith
    | true =>
      simp only [toGo, if_true]
      linarith

/-- What was left to go at the first moment is paid for too. -/
theorem turns_mul_gap_add_toGo_le (pos : 0 ≤ gap) (a : Bool × K) (rest : List (Bool × K))
    (obeys : (a :: rest).IsChain (Turn gap)) :
    (turns (a :: rest) : K) * gap + toGo gap a ≤ gap + variation a.2 (rest.map Prod.snd) := by
  induction rest generalizing a with
  | nil =>
    have within : toGo gap a ≤ gap := by
      unfold toGo
      split
      · exact max_le pos (min_le_left _ _)
      · exact sub_le_self gap (le_max_left _ _)
    simpa [turns, variation] using within
  | cons b rest ih =>
    obtain ⟨turn, obeys⟩ := List.isChain_cons_cons.mp obeys
    have later := ih b obeys
    have cost := turn_cost pos turn
    rw [List.map_cons, variation, turns]
    split at cost
    next same =>
      rw [if_pos same, Nat.zero_add]
      linarith
    next turned =>
      rw [if_neg turned, Nat.cast_add, Nat.cast_one, add_mul, one_mul]
      linarith

/-- The gap is paid for each turn but the first. -/
theorem turns_mul_gap_le (pos : 0 ≤ gap) (a : Bool × K) (rest : List (Bool × K))
    (obeys : (a :: rest).IsChain (Turn gap)) :
    (turns (a :: rest) : K) * gap ≤ gap + variation a.2 (rest.map Prod.snd) := by
  have paid := turns_mul_gap_add_toGo_le pos a rest obeys
  linarith [toGo_nonneg pos a]

end Clamp

end Hysteresis
