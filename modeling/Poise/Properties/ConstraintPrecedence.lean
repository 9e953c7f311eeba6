import Poise.Control.Constraints
import Mathlib.Tactic.ByContra
import Mathlib.Algebra.Order.Ring.Unbundled.Rat

/-!
# Who wins a conflict of bounds

The solver compares two bounds, the highest floor and the lowest cap. A constraint that is
neither may outrank all it conflicts with and still lose, when it stands on the side
of the weaker of the two. These are the only lists on which a violated constraint is not
answered by one that ranks as high.
-/
namespace Poise

variable {K : Type*} [LinearOrder K]

/-! ### Conflicts -/

namespace Constraint

def Holds (c : Constraint K) (v : K) : Prop :=
  (c.kind = .floor → c.value ≤ v) ∧ (c.kind = .cap → v ≤ c.value)

instance (c : Constraint K) (v : K) : Decidable (c.Holds v) :=
  inferInstanceAs (Decidable (_ ∧ _))

theorem holds_of_floor {c : Constraint K} (kind : c.kind = .floor) {v : K} :
    c.Holds v ↔ c.value ≤ v := by simp [Holds, kind]

theorem holds_of_cap {c : Constraint K} (kind : c.kind = .cap) {v : K} :
    c.Holds v ↔ v ≤ c.value := by simp [Holds, kind]

/-- No value satisfies both. -/
def Incompatible (c c' : Constraint K) : Prop := ¬ ∃ v, c.Holds v ∧ c'.Holds v

/-- A conflict is a floor above a cap. -/
theorem incompatible_iff {c c' : Constraint K} :
    c.Incompatible c' ↔
      (c.kind = .floor ∧ c'.kind = .cap ∧ c'.value < c.value) ∨
      (c.kind = .cap ∧ c'.kind = .floor ∧ c.value < c'.value) := by
  cases left : c.kind <;> cases right : c'.kind
  case floor.floor =>
    simp only [Incompatible, holds_of_floor left, holds_of_floor right]
    simpa using ⟨max c.value c'.value, le_max_left _ _, le_max_right _ _⟩
  case cap.cap =>
    simp only [Incompatible, holds_of_cap left, holds_of_cap right]
    simpa using ⟨min c.value c'.value, min_le_left _ _, min_le_right _ _⟩
  case floor.cap =>
    simp only [Incompatible, holds_of_floor left, holds_of_cap right]
    simpa using ⟨fun apart => apart _ le_rfl, fun below v above => below.trans_le above⟩
  case cap.floor =>
    simp only [Incompatible, holds_of_cap left, holds_of_floor right]
    simpa using ⟨fun apart => apart _ le_rfl, fun below v under => under.trans_lt below⟩

instance (c c' : Constraint K) : Decidable (c.Incompatible c') :=
  decidable_of_iff _ incompatible_iff.symm

theorem Incompatible.kind_ne {c c' : Constraint K} (apart : c.Incompatible c') :
    c.kind ≠ c'.kind := by
  rcases incompatible_iff.mp apart with ⟨left, right, -⟩ | ⟨left, right, -⟩ <;>
    simp [left, right]

end Constraint

open Constraint

variable {cs : List (Constraint K)} {desired v : K} {f k : Constraint K}

/-- A violated constraint is answered by a satisfied one that conflicts with it and ranks at
least as high. -/
def PrecedenceRespected (cs : List (Constraint K)) (v : K) : Prop :=
  ∀ c ∈ cs, ¬ c.Holds v →
    ∃ c' ∈ cs, c'.Holds v ∧ c.Incompatible c' ∧ c'.precedence.rank ≤ c.precedence.rank

instance (cs : List (Constraint K)) (v : K) : Decidable (PrecedenceRespected cs v) :=
  inferInstanceAs (Decidable (∀ c ∈ cs, _))

/-- In conflict, and of higher priority than all it conflicts with. -/
def Outranking (cs : List (Constraint K)) (c : Constraint K) : Prop :=
  (∃ c' ∈ cs, c.Incompatible c') ∧
    ∀ c' ∈ cs, c.Incompatible c' → c.precedence.rank < c'.precedence.rank

/-! ### The bounds that bind -/

def Topmost (cs : List (Constraint K)) (f : Constraint K) : Prop :=
  f ∈ cs ∧ f.kind = .floor ∧ ∀ g ∈ cs, g.kind = .floor →
    g.value < f.value ∨ g.value = f.value ∧ f.precedence.rank ≤ g.precedence.rank

def Lowest (cs : List (Constraint K)) (k : Constraint K) : Prop :=
  k ∈ cs ∧ k.kind = .cap ∧ ∀ g ∈ cs, g.kind = .cap →
    k.value < g.value ∨ k.value = g.value ∧ k.precedence.rank ≤ g.precedence.rank

theorem Topmost.value_le (top : Topmost cs f) {g : Constraint K} (member : g ∈ cs)
    (kind : g.kind = .floor) : g.value ≤ f.value :=
  (top.2.2 g member kind).elim le_of_lt fun tie => tie.1.le

theorem Lowest.le_value (low : Lowest cs k) {g : Constraint K} (member : g ∈ cs)
    (kind : g.kind = .cap) : k.value ≤ g.value :=
  (low.2.2 g member kind).elim le_of_lt fun tie => tie.1.le

theorem Topmost.unique {f' : Constraint K} (top : Topmost cs f) (top' : Topmost cs f') :
    f.value = f'.value ∧ f.precedence.rank = f'.precedence.rank := by
  have same := le_antisymm (top'.value_le top.1 top.2.1) (top.value_le top'.1 top'.2.1)
  have first := (top.2.2 f' top'.1 top'.2.1).resolve_left same.not_gt
  have second := (top'.2.2 f top.1 top.2.1).resolve_left same.not_lt
  exact ⟨same, le_antisymm first.2 second.2⟩

theorem Lowest.unique {k' : Constraint K} (low : Lowest cs k) (low' : Lowest cs k') :
    k.value = k'.value ∧ k.precedence.rank = k'.precedence.rank := by
  have same := le_antisymm (low.le_value low'.1 low'.2.1) (low'.le_value low.1 low.2.1)
  have first := (low.2.2 k' low'.1 low'.2.1).resolve_left same.not_lt
  have second := (low'.2.2 k low.1 low.2.1).resolve_left same.not_gt
  exact ⟨same, le_antisymm first.2 second.2⟩

theorem bindingFloor_topmost (found : bindingFloor cs = some f) : Topmost cs f := by
  have member := List.mem_filter.mp (List.argmax_mem found)
  refine ⟨member.1, by simpa using member.2, fun g inside kind => ?_⟩
  have le := List.le_of_mem_argmax (List.mem_filter.mpr ⟨inside, by simpa using kind⟩) found
  rcases Prod.Lex.toLex_le_toLex.mp le with below | ⟨tie, rank⟩
  · exact .inl below
  · exact .inr ⟨tie, rank⟩

theorem bindingFloor_none (absent : bindingFloor cs = none) {g : Constraint K} (member : g ∈ cs) :
    g.kind ≠ .floor := by
  have empty := List.filter_eq_nil_iff.mp (List.argmax_eq_none.mp absent)
  simpa using empty g member

theorem bindingCap_lowest (found : bindingCap cs = some k) : Lowest cs k := by
  have member := List.mem_filter.mp (List.argmin_mem found)
  refine ⟨member.1, by simpa using member.2, fun g inside kind => ?_⟩
  have le := List.le_of_mem_argmin (List.mem_filter.mpr ⟨inside, by simpa using kind⟩) found
  rcases Prod.Lex.toLex_le_toLex.mp le with below | ⟨tie, rank⟩
  · exact .inl below
  · exact .inr ⟨tie, rank⟩

theorem bindingCap_none (absent : bindingCap cs = none) {g : Constraint K} (member : g ∈ cs) :
    g.kind ≠ .cap := by
  have empty := List.filter_eq_nil_iff.mp (List.argmin_eq_none.mp absent)
  simpa using empty g member

/-! ### The solver -/

theorem inversion_eq_some {floor cap : Option (Constraint K)} :
    inversion floor cap = some (f, k) ↔ floor = some f ∧ cap = some k ∧ k.value < f.value := by
  cases floor <;> cases cap <;> simp [inversion]
  grind

theorem inversion_eq_none {floor cap : Option (Constraint K)} :
    inversion floor cap = none ↔
      ∀ f k, floor = some f → cap = some k → f.value ≤ k.value := by
  cases floor <;> cases cap <;> simp [inversion]

/-- Without an inversion the solver is the nested clamp. -/
theorem heldBelow_value (desired : K) (floor cap : Option (Constraint K)) :
    (heldBelow (heldAbove desired floor) cap).1 =
      cap.elim id (fun k => min k.value) (floor.elim id (fun f => max f.value) desired) := by
  have raised : (heldAbove desired floor).1 = floor.elim id (fun f => max f.value) desired := by
    cases floor <;> simp [heldAbove]
    grind
  rw [← raised]
  cases cap <;> simp [heldBelow]
  grind

/-- Either an inversion that the ranks of the two bounds decide, or the nested clamp. -/
theorem resolveConstraints_cases (desired : K) (cs : List (Constraint K)) :
    (∃ f k, bindingFloor cs = some f ∧ bindingCap cs = some k ∧ k.value < f.value ∧
        (resolveConstraints desired cs).value =
          if f.precedence.rank ≤ k.precedence.rank then f.value else k.value) ∨
      (∀ f k, bindingFloor cs = some f → bindingCap cs = some k → f.value ≤ k.value) ∧
        (resolveConstraints desired cs).value =
          (bindingCap cs).elim id (fun k => min k.value)
            ((bindingFloor cs).elim id (fun f => max f.value) desired) := by
  cases h : inversion (bindingFloor cs) (bindingCap cs) with
  | some pair =>
    obtain ⟨f, k⟩ := pair
    obtain ⟨floor, cap, above⟩ := inversion_eq_some.mp h
    refine .inl ⟨f, k, floor, cap, above, ?_⟩
    simp only [resolveConstraints, h]
    split <;> rfl
  | none =>
    refine .inr ⟨inversion_eq_none.mp h, ?_⟩
    simp only [resolveConstraints, h]
    exact heldBelow_value desired _ _

theorem clamp_holds
    (ordered : ∀ f k, bindingFloor cs = some f → bindingCap cs = some k → f.value ≤ k.value)
    {c : Constraint K} (member : c ∈ cs) :
    c.Holds ((bindingCap cs).elim id (fun k => min k.value)
      ((bindingFloor cs).elim id (fun f => max f.value) desired)) := by
  cases kind : c.kind with
  | floor =>
    rw [holds_of_floor kind]
    cases floor : bindingFloor cs with
    | none => exact absurd kind (bindingFloor_none floor member)
    | some f =>
      have below := (bindingFloor_topmost floor).value_le member kind
      cases cap : bindingCap cs with
      | none => exact le_max_of_le_left below
      | some k => exact le_min (below.trans (ordered f k floor cap)) (le_max_of_le_left below)
  | cap =>
    rw [holds_of_cap kind]
    cases cap : bindingCap cs with
    | none => exact absurd kind (bindingCap_none cap member)
    | some k => exact min_le_of_left_le ((bindingCap_lowest cap).le_value member kind)

/-- Where one kind holds throughout and the other only where nothing conflicts with it, the
order is respected when all that outranks its conflicts is of the first kind. -/
theorem precedenceRespected_iff {winning : ConstraintKind}
    (own : ∀ c ∈ cs, c.kind = winning → c.Holds v)
    (other : ∀ c ∈ cs, c.kind ≠ winning → (¬ c.Holds v ↔ ∃ c' ∈ cs, c.Incompatible c')) :
    PrecedenceRespected cs v ↔ ∀ c ∈ cs, Outranking cs c → c.kind = winning := by
  constructor
  · intro respected c member ⟨conflict, outranks⟩
    by_contra losing
    obtain ⟨c', inside, -, apart, rank⟩ :=
      respected c member ((other c member losing).mpr conflict)
    exact (outranks c' inside apart).not_ge rank
  · intro settled c member violated
    have losing : c.kind ≠ winning := fun kind => violated (own c member kind)
    have conflict := (other c member losing).mp violated
    obtain ⟨c', inside, apart, rank⟩ : ∃ c' ∈ cs, c.Incompatible c' ∧
        c'.precedence.rank ≤ c.precedence.rank := by
      by_contra none
      exact losing (settled c member ⟨conflict, fun c' inside apart =>
        not_le.mp fun rank => none ⟨c', inside, apart, rank⟩⟩)
    refine ⟨c', inside, own c' inside ?_, apart, rank⟩
    -- there are two kinds, and conflicting constraints differ in theirs
    have differ := apart.kind_ne
    cases left : c.kind <;> cases right : c'.kind <;> cases winning <;> simp_all

/-! ### The lists on which the order is respected -/

/-- When the highest floor lies above the lowest cap, whatever outranks all it conflicts with
is of the kind that the ranks of these two bounds favour. -/
def Settled (cs : List (Constraint K)) : Prop :=
  ∀ f k, Topmost cs f → Lowest cs k → k.value < f.value →
    ∀ c ∈ cs, Outranking cs c →
      (c.kind = .floor ↔ f.precedence.rank ≤ k.precedence.rank)

theorem settled_iff (top : Topmost cs f) (low : Lowest cs k) (above : k.value < f.value) :
    Settled cs ↔ ∀ c ∈ cs, Outranking cs c →
      (c.kind = .floor ↔ f.precedence.rank ≤ k.precedence.rank) := by
  constructor
  · exact fun settled => settled f k top low above
  · intro law f' k' top' low' _
    rw [← (top.unique top').2, ← (low.unique low').2]
    exact law

/-- At the highest floor, a cap is violated exactly when a floor lies above it. -/
theorem floor_wins_iff (top : Topmost cs f) :
    PrecedenceRespected cs f.value ↔ ∀ c ∈ cs, Outranking cs c → c.kind = .floor := by
  refine precedenceRespected_iff (fun c member kind => ?_) fun c member kind => ?_
  · exact (holds_of_floor kind).mpr (top.value_le member kind)
  · have isCap : c.kind = .cap := by cases h : c.kind <;> simp_all
    rw [holds_of_cap isCap, not_le]
    constructor
    · exact fun below => ⟨f, top.1, incompatible_iff.mpr (.inr ⟨isCap, top.2.1, below⟩)⟩
    · rintro ⟨c', inside, apart⟩
      rcases incompatible_iff.mp apart with ⟨isFloor, -⟩ | ⟨-, isFloor, below⟩
      · exact absurd isFloor kind
      · exact below.trans_le (top.value_le inside isFloor)

theorem cap_wins_iff (low : Lowest cs k) :
    PrecedenceRespected cs k.value ↔ ∀ c ∈ cs, Outranking cs c → c.kind = .cap := by
  refine precedenceRespected_iff (fun c member kind => ?_) fun c member kind => ?_
  · exact (holds_of_cap kind).mpr (low.le_value member kind)
  · have isFloor : c.kind = .floor := by cases h : c.kind <;> simp_all
    rw [holds_of_floor isFloor, not_le]
    constructor
    · exact fun above => ⟨k, low.1, incompatible_iff.mpr (.inl ⟨isFloor, low.2.1, above⟩)⟩
    · rintro ⟨c', inside, apart⟩
      rcases incompatible_iff.mp apart with ⟨-, isCap, above⟩ | ⟨isCap, -⟩
      · exact (low.le_value inside isCap).trans_lt above
      · exact absurd isCap kind

/-- The result respects the order of precedence exactly on the settled lists. -/
theorem resolveConstraints_respects_iff (desired : K) (cs : List (Constraint K)) :
    PrecedenceRespected cs (resolveConstraints desired cs).value ↔ Settled cs := by
  rcases resolveConstraints_cases desired cs with ⟨f, k, floor, cap, above, value⟩ |
    ⟨ordered, value⟩
  · have top := bindingFloor_topmost floor
    have low := bindingCap_lowest cap
    rw [settled_iff top low above, value]
    by_cases favoured : f.precedence.rank ≤ k.precedence.rank
    · rw [if_pos favoured, floor_wins_iff top]
      simp only [favoured, iff_true]
    · rw [if_neg favoured, cap_wins_iff low]
      have other (c : Constraint K) : c.kind = .cap ↔ ¬ c.kind = .floor := by
        cases c.kind <;> simp
      simp only [favoured, iff_false, other]
  · have holds : ∀ c ∈ cs, c.Holds (resolveConstraints desired cs).value := by
      intro c member
      rw [value]
      exact clamp_holds ordered member
    refine ⟨fun _ f k top low above => ?_, fun _ c member violated => ?_⟩
    · -- a value between the two bounds keeps them from inverting
      have high := (holds_of_floor top.2.1).mp (holds f top.1)
      have below := (holds_of_cap low.2.1).mp (holds k low.1)
      exact absurd (high.trans below) above.not_ge
    · exact absurd (holds c member) violated

/-- The bounds of a zone whose corridor ends at 20 °C, on a device that ends at 25 °C, under
a mould floor of 30 °C. -/
private def corridorBounds : List (Constraint ℚ) :=
  [⟨30, "mould", .floor, .health⟩, ⟨20, "band", .cap, .comfort⟩,
    ⟨25, "device_max", .cap, .safety⟩]

/-- The comfort cap is the lowest, so the floor wins, five kelvin above the safety cap that
outranks it. -/
theorem resolveConstraints_exceeds_safety :
    (resolveConstraints 22 corridorBounds).value = 30 ∧
      ¬ PrecedenceRespected corridorBounds (resolveConstraints 22 corridorBounds).value := by
  decide +kernel

end Poise
