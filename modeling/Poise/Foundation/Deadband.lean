import Mathlib.Algebra.Order.Field.Basic
import Mathlib.Tactic.Linarith
import Mathlib.Tactic.Ring

/-!
# Following with a dead band

A held value follows its requests and moves only when a request is a band away. Every move is paid
for by the variation of the requests, so a quiet input cannot make the value hunt.
-/
namespace Deadband

variable {K : Type*} [Field K] [LinearOrder K]

def follow (band current request : K) : K :=
  if |request - current| < band then current else request

/-- How often the value moves. -/
def moves (band : K) : K → List K → ℕ
  | _, [] => 0
  | current, request :: rest =>
    (if follow band current request = current then 0 else 1) +
      moves band (follow band current request) rest

/-- The length of the way from a value through all requests. -/
def variation : K → List K → K
  | _, [] => 0
  | at', request :: rest => |request - at'| + variation request rest

variable {band current request : K}

theorem follow_near (band current request : K) :
    |request - follow band current request| < band ∨ follow band current request = request := by
  unfold follow
  split
  next near => exact Or.inl near
  next => exact Or.inr rfl

theorem follow_le {most : K} (held : current ≤ most) (asked : request ≤ most) :
    follow band current request ≤ most := by
  unfold follow
  split
  · exact held
  · exact asked

variable [IsStrictOrderedRing K]

/-- The band is paid for each move; `at'` is the request before. -/
theorem moves_mul_band_le_from (band current at' : K) (requests : List K) :
    (moves band current requests : K) * band ≤ |at' - current| + variation at' requests := by
  induction requests generalizing current at' with
  | nil => simp [moves, variation]
  | cons request rest ih =>
    have way : |request - current| ≤ |request - at'| + |at' - current| :=
      abs_sub_le request at' current
    have later := ih (follow band current request) request
    by_cases held : follow band current request = current
    · rw [held] at later
      rw [moves, variation, if_pos held, held, Nat.zero_add]
      linarith
    · have far : ¬ |request - current| < band := fun near => held (if_pos near)
      have moved : follow band current request = request := if_neg far
      rw [moved, sub_self, abs_zero, zero_add] at later
      rw [moves, variation, if_neg held, moved, Nat.cast_add, Nat.cast_one, add_mul, one_mul]
      linarith [not_lt.mp far]

theorem moves_mul_band_le (band current : K) (requests : List K) :
    (moves band current requests : K) * band ≤ variation current requests := by
  simpa using moves_mul_band_le_from band current current requests

end Deadband
