import Poise.Runtime.State

/-!
# JSON values as the store returns them

What `store.load()` can return, and the type tests and coercions of Python that
the codec applies to it. Integers have any size; converting one that no double
can hold raises.
-/
namespace Poise

inductive Json where
  | null
  | bool (b : Bool)
  | int (n : ℤ)
  | float (x : PyFloat)
  | str (s : String)
  | list (items : List Json)
  | dict (entries : List (String × Json))
  deriving Repr

abbrev JsonObject := List (String × Json)

/-- `data.get(key, default)`. -/
def JsonObject.getD (data : JsonObject) (key : String) (default : Json) : Json :=
  (data.lookup key).getD default

/-- `data.get(key)`. -/
def JsonObject.get (data : JsonObject) (key : String) : Json := data.getD key .null

inductive PyException where
  | overflowError
  -- Whatever a model's `from_dict` raises.
  | raised (text : String)
  deriving DecidableEq, Repr

/-! ### Conversion to a double -/

/-- From here on an integer rounds past the largest double. -/
def doubleOverflow : ℕ := 2 ^ 1024 - 2 ^ 970

/-- The nearest integer with at most 53 significant bits, ties to even. -/
def roundDouble (n : ℕ) : ℕ :=
  let unit := 2 ^ (n.log2 - 52)
  let below := n / unit
  let rest := n % unit
  if 2 * rest < unit ∨ 2 * rest = unit ∧ below % 2 = 0 then below * unit
  else (below + 1) * unit

/-- `float(n)` of an integer. -/
def floatOfInt (n : ℤ) : Except PyException PyFloat :=
  if doubleOverflow ≤ n.natAbs then .error .overflowError
  else .ok (.finite (n.sign * roundDouble n.natAbs))

/-! ### Type tests and coercions -/

/-- `isinstance(v, (int, float))`; a `bool` is an `int`. -/
def Json.isNumber : Json → Bool
  | .bool _ | .int _ | .float _ => true
  | _ => false

/-- `float(v) if isinstance(v, (int, float)) else None`. -/
def Json.asFloat : Json → Except PyException (Option PyFloat)
  | .bool b => .ok (some (.finite (if b then 1 else 0)))
  | .int n => some <$> floatOfInt n
  | .float x => .ok (some x)
  | _ => .ok none

/-- `v if isinstance(v, str) else None`. -/
def Json.asStr : Json → Option String
  | .str s => some s
  | _ => none

/-- `v if isinstance(v, bool)`. -/
def Json.asBool : Json → Option Bool
  | .bool b => some b
  | _ => none

def Json.isDict : Json → Bool
  | .dict _ => true
  | _ => false

/-- `bool(v)`. -/
def Json.truthy : Json → Bool
  | .null => false
  | .bool b => b
  | .int n => n ≠ 0
  | .float x => x ≠ .finite 0
  | .str s => s ≠ ""
  | .list items => !items.isEmpty
  | .dict entries => !entries.isEmpty

/-- `str(v)`, with the text of a value that is no string. -/
def Json.toStr (repr : Json → String) : Json → String
  | .str s => s
  | v => repr v

/-- The objects among the items of a list, the newest fifty of them. -/
def Json.asRecords : Json → List JsonObject
  | .list items =>
    let records := items.filterMap fun item =>
      match item with
      | .dict entries => some entries
      | _ => none
    records.drop (records.length - 50)
  | _ => []

/-- An integer that `float` refuses. -/
def Json.Overflows : Json → Prop
  | .int n => doubleOverflow ≤ n.natAbs
  | _ => False

instance : (v : Json) → Decidable v.Overflows
  | .int n => inferInstanceAs (Decidable (doubleOverflow ≤ n.natAbs))
  | .null | .bool _ | .float _ | .str _ | .list _ | .dict _ => isFalse id

theorem Json.asFloat_error {v : Json} {e : PyException} :
    v.asFloat = .error e ↔ v.Overflows ∧ e = .overflowError := by
  cases v with
  | int n =>
    by_cases big : doubleOverflow ≤ n.natAbs <;>
      simp [Json.asFloat, floatOfInt, Json.Overflows, big, eq_comm]
  | _ => simp [Json.asFloat, Json.Overflows]

theorem Json.asFloat_ok {v : Json} (fits : ¬ v.Overflows) : ∃ x, v.asFloat = .ok x := by
  cases result : v.asFloat with
  | ok x => exact ⟨x, rfl⟩
  | error e => exact absurd (Json.asFloat_error.mp result).1 fits

theorem Json.asFloat_isSome {v : Json} {x : Option PyFloat} (converted : v.asFloat = .ok x) :
    x.isSome = v.isNumber := by
  cases v with
  | int n =>
    by_cases big : doubleOverflow ≤ n.natAbs
    · simp [Json.asFloat, floatOfInt, big] at converted
    · simp only [Json.asFloat, floatOfInt, big, if_false, Functor.map, Except.map,
        Except.ok.injEq] at converted
      simp [← converted, Json.isNumber]
  | _ => simp_all [Json.asFloat, Json.isNumber, eq_comm]

end Poise
