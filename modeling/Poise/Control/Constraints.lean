import Mathlib.Data.Prod.Lex
import Mathlib.Data.List.MinMax
import Mathlib.Order.MinMax

/-!
# The constraint solver

`constraints.py` and the `Precedence` of `contracts.py`: floors compose to the highest,
caps to the lowest. When the two bounds that bind invert, their precedences decide.
-/
namespace Poise

/-- The conflict order; the lower rank is the higher priority. -/
inductive Precedence where
  | safety
  | health
  | comfort
  | efficiency
  | learning
  | operation
  deriving DecidableEq, Repr

def Precedence.rank : Precedence → ℤ
  | .safety => 0
  | .health => 1
  | .comfort => 2
  | .efficiency => 3
  | .learning => 4
  | .operation => 5

theorem Precedence.rank_injective : Function.Injective Precedence.rank := by
  intro a b same
  cases a <;> cases b <;> first | rfl | cases same

instance : LinearOrder Precedence :=
  @LinearOrder.lift' _ _ Int.instLinearOrder Precedence.rank Precedence.rank_injective

def Precedence.name : Precedence → String
  -- `name.lower()` in the source.
  | .safety => "safety"
  | .health => "health"
  | .comfort => "comfort"
  | .efficiency => "efficiency"
  | .learning => "learning"
  | .operation => "operation"

inductive ConstraintKind where
  | floor
  | cap
  deriving DecidableEq, Repr

variable {K : Type*} [LinearOrder K]

/-- One hard bound with its cause and its precedence. -/
structure Constraint (K : Type*) where
  value : K
  cause : String
  kind : ConstraintKind
  precedence : Precedence := .comfort
  deriving DecidableEq, Repr

structure Resolution (K : Type*) where
  value : K
  binding : Option (Constraint K)
  floor : Option (Constraint K)
  cap : Option (Constraint K)
  deriving DecidableEq, Repr

def bindingFloor (constraints : List (Constraint K)) : Option (Constraint K) :=
  -- A tie goes to the higher precedence, then to the first.
  (constraints.filter fun c => c.kind = .floor).argmax fun c =>
    toLex (c.value, OrderDual.toDual c.precedence)

def bindingCap (constraints : List (Constraint K)) : Option (Constraint K) :=
  (constraints.filter fun c => c.kind = .cap).argmin fun c => toLex (c.value, c.precedence)

/-- The value raised to the floor, and the floor if it did. -/
def heldAbove (value : K) (floor : Option (Constraint K)) : K × Option (Constraint K) :=
  match floor with
  | some f => if value < f.value then (f.value, some f) else (value, none)
  | none => (value, none)

def heldBelow (raised : K × Option (Constraint K)) (cap : Option (Constraint K)) :
    K × Option (Constraint K) :=
  match cap with
  | some k => if k.value < raised.1 then (k.value, some k) else raised
  | none => raised

/-- The floor that an inversion leaves above the cap, and the cap. -/
def inversion (floor cap : Option (Constraint K)) : Option (Constraint K × Constraint K) :=
  match floor, cap with
  | some f, some k => if k.value < f.value then some (f, k) else none
  | _, _ => none

def resolveConstraints (desired : K) (constraints : List (Constraint K)) : Resolution K :=
  let floor := bindingFloor constraints
  let cap := bindingCap constraints
  match inversion floor cap with
  | some (f, k) =>
    let winner := if f.precedence.rank ≤ k.precedence.rank then f else k
    ⟨winner.value, some winner, floor, cap⟩
  | none =>
    let (value, binding) := heldBelow (heldAbove desired floor) cap
    ⟨value, binding, floor, cap⟩

end Poise
