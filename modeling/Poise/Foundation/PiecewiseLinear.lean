import Mathlib.Analysis.SpecialFunctions.Integrals.Basic
import Mathlib.Tactic.Linarith

/-!
# Piecewise-linear curves and their trapezoids

The curve through a list of knots, linear between neighbours and flat outside: the one curve
that interpolates them in whatever order. A trapezoid sum whose breaks skip no knot is the
integral of the curve, and shifting the knots shifts the curve.
-/
namespace PiecewiseLinear

section Curve

variable {K : Type*} [Field K]

def chord (a b : K × K) (x : K) : K := a.2 + (x - a.1) / (b.1 - a.1) * (b.2 - a.2)

theorem chord_left (a b : K × K) : chord a b a.1 = a.2 := by simp [chord]

theorem chord_right {a b : K × K} (apart : a.1 ≠ b.1) : chord a b b.1 = b.2 := by
  rw [chord, div_self (sub_ne_zero.mpr apart.symm)]
  ring

variable [LinearOrder K]

/-- The curve through knots in ascending order. -/
def curve : List (K × K) → K → K
  | [], _ => 0
  | [a], _ => a.2
  | a :: b :: rest, x =>
    if x ≤ a.1 then a.2 else if x ≤ b.1 then chord a b x else curve (b :: rest) x

/-- Knots in strictly ascending order. -/
abbrev Ascending (knots : List (K × K)) : Prop := knots.Pairwise fun a b => a.1 < b.1

omit [Field K] in
theorem head_le_of_ascending {a : K × K} {rest : List (K × K)} (ascending : Ascending (a :: rest)) :
    ∀ k ∈ a :: rest, a.1 ≤ k.1 := by
  intro k member
  rcases List.mem_cons.mp member with rfl | later
  · exact le_rfl
  · exact ((List.pairwise_cons.mp ascending).1 k later).le

theorem curve_of_le_head {a : K × K} {x : K} (below : x ≤ a.1) (rest : List (K × K)) :
    curve (a :: rest) x = a.2 := by
  cases rest with
  | nil => rfl
  | cons b rest => rw [curve, if_pos below]

theorem curve_cons_of_le {a b : K × K} {x : K} (low : a.1 ≤ x) (high : x ≤ b.1)
    (rest : List (K × K)) : curve (a :: b :: rest) x = chord a b x := by
  rw [curve]
  split
  next below => rw [le_antisymm below low, chord_left]
  next => rfl

theorem curve_cons_of_ge {a b : K × K} {x : K} (apart : a.1 < b.1) (above : b.1 ≤ x)
    (rest : List (K × K)) : curve (a :: b :: rest) x = curve (b :: rest) x := by
  rcases eq_or_lt_of_le above with same | past
  · rw [← same, curve_cons_of_le apart.le le_rfl, chord_right apart.ne,
      curve_of_le_head le_rfl]
  · rw [curve, if_neg (apart.trans past).not_ge, if_neg past.not_ge]

theorem curve_of_last_le {knots : List (K × K)} (ascending : Ascending knots) {last : K × K}
    (ends : knots.getLast? = some last) {x : K} (above : last.1 ≤ x) : curve knots x = last.2 := by
  induction knots with
  | nil => cases ends
  | cons a rest ih =>
    obtain ⟨first, tail⟩ := List.pairwise_cons.mp ascending
    cases rest with
    | nil =>
      obtain rfl := Option.some.inj ends
      rfl
    | cons b rest =>
      rw [List.getLast?_cons_cons] at ends
      have inside : last ∈ b :: rest := List.mem_of_getLast? ends
      have within : b.1 ≤ last.1 := head_le_of_ascending tail last inside
      rw [curve_cons_of_ge (first b List.mem_cons_self) (within.trans above)]
      exact ih tail ends

/-- Between two points that no knot separates the curve is affine. -/
theorem curve_affine {knots : List (K × K)} (ascending : Ascending knots) {x0 x1 : K}
    (clear : ∀ k ∈ knots, ¬ (x0 < k.1 ∧ k.1 < x1)) :
    ∃ p q, ∀ x, x0 ≤ x → x ≤ x1 → curve knots x = p + q * x := by
  induction knots with
  | nil => exact ⟨0, 0, fun x _ _ => by simp [curve]⟩
  | cons a rest ih =>
    obtain ⟨first, tail⟩ := List.pairwise_cons.mp ascending
    cases rest with
    | nil => exact ⟨a.2, 0, fun x _ _ => by simp [curve]⟩
    | cons b rest =>
      have apart := first b List.mem_cons_self
      rcases lt_or_ge x0 a.1 with before | from_a
      · have under : x1 ≤ a.1 := not_lt.mp fun past => clear a List.mem_cons_self ⟨before, past⟩
        exact ⟨a.2, 0, fun x _ high => by rw [curve_of_le_head (high.trans under)]; ring⟩
      rcases lt_or_ge x0 b.1 with between | from_b
      · have under : x1 ≤ b.1 := not_lt.mp fun past =>
          clear b (List.mem_cons_of_mem _ List.mem_cons_self) ⟨between, past⟩
        refine ⟨a.2 - a.1 / (b.1 - a.1) * (b.2 - a.2), (b.2 - a.2) / (b.1 - a.1), ?_⟩
        intro x low high
        rw [curve_cons_of_le (from_a.trans low) (high.trans under), chord]
        ring
      · obtain ⟨p, q, affine⟩ := ih tail fun k member => clear k (List.mem_cons_of_mem _ member)
        refine ⟨p, q, fun x low high => ?_⟩
        rw [curve_cons_of_ge apart (from_b.trans low)]
        exact affine x low high

/-! ### The curve of a set of points -/

/-- The piecewise-linear curve through the points, whatever their order: flat outside, and the
chord between any two that no third separates. -/
structure Interpolates (points : List (K × K)) (f : K → K) : Prop where
  left : ∀ a ∈ points, (∀ k ∈ points, a.1 ≤ k.1) → ∀ x, x ≤ a.1 → f x = a.2
  right : ∀ b ∈ points, (∀ k ∈ points, k.1 ≤ b.1) → ∀ x, b.1 ≤ x → f x = b.2
  inner : ∀ a ∈ points, ∀ b ∈ points, a.1 < b.1 → (∀ k ∈ points, ¬ (a.1 < k.1 ∧ k.1 < b.1)) →
    ∀ x, a.1 ≤ x → x ≤ b.1 → f x = chord a b x

theorem Interpolates.perm {points points' : List (K × K)} {f : K → K} (perm : points.Perm points')
    (interpolates : Interpolates points f) : Interpolates points' f := by
  have same {p : K × K → Prop} : (∀ k ∈ points', p k) ↔ ∀ k ∈ points, p k := by
    simp only [perm.mem_iff]
  obtain ⟨left, right, inner⟩ := interpolates
  constructor <;> simp only [same] <;> assumption

theorem curve_interpolates {knots : List (K × K)} (ascending : Ascending knots) :
    Interpolates knots (curve knots) := by
  induction knots with
  | nil => constructor <;> simp
  | cons a rest ih =>
    obtain ⟨first, tail⟩ := List.pairwise_cons.mp ascending
    refine ⟨fun p member least x below => ?_, fun p member greatest x above => ?_,
      fun p member q member' apart clear x low high => ?_⟩
    · rcases List.mem_cons.mp member with rfl | later
      · exact curve_of_le_head below rest
      · exact absurd (first p later) (least a List.mem_cons_self).not_gt
    · cases rest with
      | nil => rw [List.mem_singleton.mp member]; rfl
      | cons b rest =>
        have next := greatest b (List.mem_cons_of_mem _ List.mem_cons_self)
        rcases List.mem_cons.mp member with rfl | later
        · exact absurd (first b List.mem_cons_self) next.not_gt
        · rw [curve_cons_of_ge (first b List.mem_cons_self) (next.trans above)]
          exact (ih tail).right p later (fun k inside => greatest k (List.mem_cons_of_mem _ inside))
            x above
    · have later : q ∈ rest := by
        rcases List.mem_cons.mp member' with rfl | later
        · rcases List.mem_cons.mp member with rfl | after
          · exact absurd apart (lt_irrefl _)
          · exact absurd apart (first p after).not_gt
        · exact later
      cases rest with
      | nil => cases later
      | cons b rest =>
        have ahead := first b List.mem_cons_self
        rcases List.mem_cons.mp member with rfl | after
        · rcases List.mem_cons.mp later with rfl | further
          · exact curve_cons_of_le low high rest
          · have past := (List.pairwise_cons.mp tail).1 q further
            exact absurd ⟨ahead, past⟩ (clear b (List.mem_cons_of_mem _ List.mem_cons_self))
        · rw [curve_cons_of_ge ahead ((head_le_of_ascending tail p after).trans low)]
          exact (ih tail).inner p after q later apart
            (fun k inside => clear k (List.mem_cons_of_mem _ inside)) x low high

/-- From its first knot on a curve is what its segments and its right end say. -/
theorem eq_curve_of_ge {f : K → K} {a : K × K} {rest : List (K × K)}
    (ascending : Ascending (a :: rest))
    (right : ∀ b ∈ a :: rest, (∀ k ∈ a :: rest, k.1 ≤ b.1) → ∀ x, b.1 ≤ x → f x = b.2)
    (inner : ∀ b ∈ a :: rest, ∀ c ∈ a :: rest, b.1 < c.1 →
      (∀ k ∈ a :: rest, ¬ (b.1 < k.1 ∧ k.1 < c.1)) → ∀ x, b.1 ≤ x → x ≤ c.1 → f x = chord b c x)
    {x : K} (above : a.1 ≤ x) : f x = curve (a :: rest) x := by
  induction rest generalizing a with
  | nil => exact right a List.mem_cons_self (by simp) x above
  | cons b rest ih =>
    obtain ⟨first, tail⟩ := List.pairwise_cons.mp ascending
    have apart := first b List.mem_cons_self
    rcases le_total x b.1 with here | later
    · rw [curve_cons_of_le above here]
      refine inner a List.mem_cons_self b (List.mem_cons_of_mem _ List.mem_cons_self) apart ?_ x
        above here
      rintro k (_ | ⟨_, inside⟩) ⟨low, high⟩
      · exact low.false
      · exact high.not_ge (head_le_of_ascending tail k inside)
    · rw [curve_cons_of_ge apart later]
      refine ih tail (fun c member greatest => ?_) (fun c member d member' order clear => ?_) later
      · refine right c (List.mem_cons_of_mem _ member) ?_
        rintro k (_ | ⟨_, inside⟩)
        · exact (first c member).le
        · exact greatest k inside
      · refine inner c (List.mem_cons_of_mem _ member) d (List.mem_cons_of_mem _ member') order ?_
        rintro k (_ | ⟨_, inside⟩) ⟨low, high⟩
        · exact low.not_gt (first c member)
        · exact clear k inside ⟨low, high⟩

/-- There is one such curve only. -/
theorem Interpolates.eq_curve {f : K → K} {knots : List (K × K)} (ascending : Ascending knots)
    (known : knots ≠ []) (interpolates : Interpolates knots f) : f = curve knots := by
  funext x
  cases knots with
  | nil => exact absurd rfl known
  | cons a rest =>
    rcases le_total x a.1 with below | above
    · rw [curve_of_le_head below]
      exact interpolates.left a List.mem_cons_self (head_le_of_ascending ascending) x below
    · exact eq_curve_of_ge ascending interpolates.right interpolates.inner above

/-- The same curve, read from a later origin. -/
def shift (s : K) (knots : List (K × K)) : List (K × K) := knots.map fun k => (k.1 - s, k.2)

variable [IsStrictOrderedRing K]

/-- Between its ends a chord stays between their values. -/
theorem chord_mem_Icc {a b : K × K} {x lo hi : K} (low : a.1 ≤ x) (high : x ≤ b.1)
    (left : a.2 ∈ Set.Icc lo hi) (right : b.2 ∈ Set.Icc lo hi) : chord a b x ∈ Set.Icc lo hi := by
  have share : 0 ≤ (x - a.1) / (b.1 - a.1) :=
    div_nonneg (sub_nonneg.mpr low) (sub_nonneg.mpr (low.trans high))
  have share' : (x - a.1) / (b.1 - a.1) ≤ 1 :=
    div_le_one_of_le₀ (sub_le_sub_right high _) (sub_nonneg.mpr (low.trans high))
  have convex := (convex_Icc lo hi) left right (sub_nonneg.mpr share') share (by ring)
  simp only [smul_eq_mul] at convex
  rwa [show chord a b x = (1 - (x - a.1) / (b.1 - a.1)) * a.2 + (x - a.1) / (b.1 - a.1) * b.2 by
    rw [chord]; ring]

/-- A curve stays between the values of its knots. -/
theorem curve_mem_Icc {knots : List (K × K)} (known : knots ≠ []) {lo hi : K}
    (values : ∀ k ∈ knots, k.2 ∈ Set.Icc lo hi) (x : K) : curve knots x ∈ Set.Icc lo hi := by
  induction knots with
  | nil => exact absurd rfl known
  | cons a rest ih =>
    have first := values a List.mem_cons_self
    cases rest with
    | nil => exact first
    | cons b rest =>
      have tail : ∀ k ∈ b :: rest, k.2 ∈ Set.Icc lo hi := fun k inside =>
        values k (List.mem_cons_of_mem _ inside)
      rw [curve]
      split_ifs with before within
      · exact first
      · exact chord_mem_Icc (not_le.mp before).le within first (tail b List.mem_cons_self)
      · exact ih (List.cons_ne_nil _ _) tail

theorem curve_shift (s : K) (knots : List (K × K)) (x : K) :
    curve (shift s knots) x = curve knots (x + s) := by
  induction knots with
  | nil => rfl
  | cons a rest ih =>
    cases rest with
    | nil => rfl
    | cons b rest =>
      have step : curve ((b.1 - s, b.2) :: shift s rest) x = curve (b :: rest) (x + s) := ih
      simp only [shift, List.map_cons] at step ⊢
      simp only [curve, le_sub_iff_add_le, step, chord]
      ring_nf

end Curve

section Trapezoid

/-- The trapezoid sum of `f` over the breaks `xs`. -/
def trapezoid {K : Type*} [Field K] (f : K → K) (xs : List K) : K :=
  ((xs.zip xs.tail).map fun (x0, x1) => 0.5 * (f x0 + f x1) * (x1 - x0)).sum

theorem trapezoid_cons {K : Type*} [Field K] (f : K → K) (x0 x1 : K) (rest : List K) :
    trapezoid f (x0 :: x1 :: rest) =
      0.5 * (f x0 + f x1) * (x1 - x0) + trapezoid f (x1 :: rest) := by
  simp [trapezoid]

theorem trapezoid_const {K : Type*} [Field K] [CharZero K] (c : K) {xs : List K} {x0 xn : K}
    (begins : xs.head? = some x0) (ends : xs.getLast? = some xn) :
    trapezoid (fun _ => c) xs = c * (xn - x0) := by
  induction xs generalizing x0 with
  | nil => cases begins
  | cons a rest ih =>
    obtain rfl := Option.some.inj begins
    cases rest with
    | nil =>
      obtain rfl := Option.some.inj ends
      simp [trapezoid]
    | cons b rest =>
      rw [List.getLast?_cons_cons] at ends
      rw [trapezoid_cons, ih rfl ends]
      ring

/-- No break of an ascending list lies between two neighbours. -/
theorem not_between {K : Type*} [LinearOrder K] {xs : List K} (sorted : xs.Pairwise (· ≤ ·))
    {x0 x1 y : K} (neighbours : (x0, x1) ∈ xs.zip xs.tail) (member : y ∈ xs) :
    ¬ (x0 < y ∧ y < x1) := by
  induction xs with
  | nil => cases member
  | cons a rest ih =>
    obtain ⟨first, tail⟩ := List.pairwise_cons.mp sorted
    cases rest with
    | nil => cases neighbours
    | cons b rest =>
      rw [List.tail_cons, List.zip_cons_cons, List.mem_cons] at neighbours
      rintro ⟨above, below⟩
      rcases neighbours with here | later
      · obtain ⟨rfl, rfl⟩ := Prod.mk.inj here
        rcases List.mem_cons.mp member with rfl | inside
        · exact above.false
        · rcases List.mem_cons.mp inside with rfl | further
          · exact below.false
          · exact below.not_ge ((List.pairwise_cons.mp tail).1 y further)
      · rcases List.mem_cons.mp member with rfl | inside
        · have left := (List.of_mem_zip later).1
          exact above.not_ge (first x0 left)
        · exact ih tail later inside ⟨above, below⟩

theorem integral_affine {f : ℝ → ℝ} {x0 x1 p q : ℝ} (le : x0 ≤ x1)
    (affine : ∀ x, x0 ≤ x → x ≤ x1 → f x = p + q * x) :
    ∫ x in x0..x1, f x = 0.5 * (f x0 + f x1) * (x1 - x0) := by
  have same : ∫ x in x0..x1, f x = ∫ x in x0..x1, (p + q * x) := by
    refine intervalIntegral.integral_congr fun x inside => ?_
    rw [Set.uIcc_of_le le] at inside
    exact affine x inside.1 inside.2
  rw [same, affine x0 le_rfl le, affine x1 le le_rfl,
    intervalIntegral.integral_add (by simp) (Continuous.intervalIntegrable (by fun_prop) _ _),
    intervalIntegral.integral_const, intervalIntegral.integral_const_mul, integral_id]
  simp only [smul_eq_mul]
  ring

/-- Where the function is affine between neighbouring breaks the trapezoid sum is its
integral. -/
theorem trapezoid_eq_integral {f : ℝ → ℝ} (continuous : Continuous f) {xs : List ℝ} {x0 xn : ℝ}
    (sorted : xs.Pairwise (· ≤ ·)) (begins : xs.head? = some x0) (ends : xs.getLast? = some xn)
    (affine : ∀ a b, (a, b) ∈ xs.zip xs.tail →
      ∃ p q, ∀ x, a ≤ x → x ≤ b → f x = p + q * x) :
    trapezoid f xs = ∫ x in x0..xn, f x := by
  induction xs generalizing x0 with
  | nil => cases begins
  | cons a rest ih =>
    obtain ⟨first, tail⟩ := List.pairwise_cons.mp sorted
    obtain rfl := Option.some.inj begins
    cases rest with
    | nil =>
      obtain rfl := Option.some.inj ends
      simp [trapezoid]
    | cons b rest =>
      rw [List.getLast?_cons_cons] at ends
      obtain ⟨p, q, between⟩ := affine a b List.mem_cons_self
      have later := ih tail rfl ends fun c d neighbours =>
        affine c d (List.mem_cons_of_mem _ neighbours)
      rw [trapezoid_cons, later, ← integral_affine (first b List.mem_cons_self) between]
      exact intervalIntegral.integral_add_adjacent_intervals
        (continuous.intervalIntegrable _ _) (continuous.intervalIntegrable _ _)

theorem curve_continuous {knots : List (ℝ × ℝ)} (ascending : Ascending knots) :
    Continuous (curve knots) := by
  induction knots with
  | nil => exact continuous_const
  | cons a rest ih =>
    obtain ⟨first, tail⟩ := List.pairwise_cons.mp ascending
    cases rest with
    | nil => exact continuous_const
    | cons b rest =>
      have apart := first b List.mem_cons_self
      have right : Continuous fun x => if x ≤ b.1 then chord a b x else curve (b :: rest) x := by
        refine Continuous.if_le (by unfold chord; fun_prop) (ih tail) continuous_id
          continuous_const fun x meet => ?_
        obtain rfl : x = b.1 := meet
        rw [chord_right apart.ne, curve_of_le_head le_rfl]
      refine Continuous.if_le continuous_const right continuous_id continuous_const fun x meet => ?_
      obtain rfl : x = a.1 := meet
      rw [if_pos apart.le, chord_left]

end Trapezoid

end PiecewiseLinear
