import Mathlib.Algebra.Order.Field.Basic
import Mathlib.Logic.Function.Iterate
import Mathlib.Tactic.Linarith
import Mathlib.Tactic.Ring

/-!
# Bisection of a bracket

A bracket whose left end fails a criterion and whose right end meets it keeps both, halves
at every step and stays within itself. Where the criterion is monotone, all that fails
to its left is certain.
-/
namespace Bisection

variable {K : Type*} [Field K]

/-- One halving: the failing half of the bracket is given up. -/
def step (fails : K → Bool) (b : K × K) : K × K :=
  let mid := 0.5 * (b.1 + b.2)
  if fails mid then (mid, b.2) else (b.1, mid)

def bracket (fails : K → Bool) (n : ℕ) (b : K × K) : K × K := (step fails)^[n] b

theorem bracket_succ (fails : K → Bool) (n : ℕ) (b : K × K) :
    bracket fails (n + 1) b = bracket fails n (step fails b) :=
  Function.iterate_succ_apply (step fails) n b

/-- The left end fails and the right end does not. -/
def Straddles (fails : K → Bool) (b : K × K) : Prop := fails b.1 = true ∧ fails b.2 = false

theorem straddles_step {fails : K → Bool} {b : K × K} (straddles : Straddles fails b) :
    Straddles fails (step fails b) := by
  rw [step]
  split
  next failing => exact ⟨failing, straddles.2⟩
  next passing => exact ⟨straddles.1, Bool.eq_false_iff.mpr passing⟩

theorem straddles_bracket {fails : K → Bool} {b : K × K} (straddles : Straddles fails b)
    (n : ℕ) : Straddles fails (bracket fails n b) := by
  induction n generalizing b with
  | zero => exact straddles
  | succ n ih =>
    rw [bracket_succ]
    exact ih (straddles_step straddles)

variable [LinearOrder K] [IsStrictOrderedRing K]

theorem width_step (fails : K → Bool) (b : K × K) :
    (step fails b).2 - (step fails b).1 = (b.2 - b.1) / 2 := by
  have half : (0.5 : K) = 1 / 2 := by norm_num
  rw [step, half]
  split <;> ring

theorem width_bracket (fails : K → Bool) (n : ℕ) (b : K × K) :
    (bracket fails n b).2 - (bracket fails n b).1 = (b.2 - b.1) / 2 ^ n := by
  induction n generalizing b with
  | zero => simp [bracket]
  | succ n ih => rw [bracket_succ, ih, width_step, div_div, pow_succ']

theorem step_within (fails : K → Bool) {b : K × K} (ordered : b.1 ≤ b.2) :
    b.1 ≤ (step fails b).1 ∧ (step fails b).1 ≤ (step fails b).2 ∧ (step fails b).2 ≤ b.2 := by
  have half : (0.5 : K) = 1 / 2 := by norm_num
  rw [step, half]
  split
  next => exact ⟨by linarith, by linarith, le_rfl⟩
  next => exact ⟨le_rfl, by linarith, by linarith⟩

theorem bracket_within (fails : K → Bool) {b : K × K} (ordered : b.1 ≤ b.2) (n : ℕ) :
    b.1 ≤ (bracket fails n b).1 ∧ (bracket fails n b).1 ≤ (bracket fails n b).2 ∧
      (bracket fails n b).2 ≤ b.2 := by
  induction n generalizing b with
  | zero => exact ⟨le_rfl, ordered, le_rfl⟩
  | succ n ih =>
    obtain ⟨left, inner, right⟩ := step_within fails ordered
    obtain ⟨left', within, right'⟩ := ih inner
    rw [bracket_succ]
    exact ⟨left.trans left', within, right'.trans right⟩

/-- What lies left of the right end by more than the width of the last bracket fails. -/
theorem fails_of_lt {fails : K → Bool} {b : K × K} (straddles : Straddles fails b)
    (monotone : ∀ x y, x ≤ y → fails y = true → fails x = true) (n : ℕ) {x : K}
    (left : x < (bracket fails n b).2 - (b.2 - b.1) / 2 ^ n) : fails x = true := by
  have below : x ≤ (bracket fails n b).1 := by
    rw [← width_bracket fails n b] at left
    linarith
  exact monotone x _ below (straddles_bracket straddles n).1

end Bisection
