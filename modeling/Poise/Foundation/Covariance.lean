import Mathlib.Algebra.Order.Field.Basic
import Mathlib.Data.Matrix.Mul
import Mathlib.Tactic.FieldSimp
import Mathlib.Tactic.Linarith
import Mathlib.Tactic.Ring

/-!
# Covariance matrices with bounded correlations

A matrix over any index type that is symmetric, with a floored diagonal and every
correlation within `[-1, 1]`: the necessary condition for positive semidefiniteness that
can be repaired entry by entry. A diagonal entry may be raised freely, and lowered as far
as its row allows. The Joseph form of a scalar measurement update, at the optimal gain,
is the rank-one downdate. A gated innovation moves each component by at most the gate's
multiple of its deviation.
-/
namespace Covariance

variable {ι K : Type*}

structure Regular [Field K] [LinearOrder K] (floor : K) (p : Matrix ι ι K) : Prop where
  symm : ∀ i j, p i j = p j i
  diag : ∀ i, floor ≤ p i i
  corr : ∀ i j, p i j ^ 2 ≤ p i i * p j j

theorem regular_diagonal [DecidableEq ι] [Field K] [LinearOrder K] [IsStrictOrderedRing K]
    {floor : K} (nonneg : 0 ≤ floor) {d : ι → K} (above : ∀ i, floor ≤ d i) :
    Regular floor (Matrix.diagonal d) := by
  refine ⟨fun i j => ?_, fun i => ?_, fun i j => ?_⟩
  · by_cases same : i = j
    · rw [same]
    · rw [Matrix.diagonal_apply_ne _ same, Matrix.diagonal_apply_ne _ (Ne.symm same)]
  · rw [Matrix.diagonal_apply_eq]
    exact above i
  · by_cases same : i = j
    · rw [same, sq]
    · rw [Matrix.diagonal_apply_ne _ same, Matrix.diagonal_apply_eq, Matrix.diagonal_apply_eq,
        zero_pow two_ne_zero]
      exact mul_nonneg (nonneg.trans (above i)) (nonneg.trans (above j))

/-! ### One diagonal entry -/

section SetDiag

variable [DecidableEq ι]

def setDiag (p : Matrix ι ι K) (a : ι) (v : K) : Matrix ι ι K :=
  fun i j => if i = a ∧ j = a then v else p i j

@[simp] theorem setDiag_self (p : Matrix ι ι K) (a : ι) (v : K) : setDiag p a v a a = v := by
  simp [setDiag]

theorem setDiag_left {i a : ι} (other : i ≠ a) (p : Matrix ι ι K) (v : K) (j : ι) :
    setDiag p a v i j = p i j := by simp [setDiag, other]

theorem setDiag_right {j a : ι} (other : j ≠ a) (p : Matrix ι ι K) (v : K) (i : ι) :
    setDiag p a v i j = p i j := by simp [setDiag, other]

variable [Field K] [LinearOrder K] {floor : K} {p : Matrix ι ι K}

/-- A new diagonal entry has to bound its row. -/
theorem Regular.setDiag_iff (regular : Regular floor p) (a : ι) {v : K} (floored : floor ≤ v) :
    Regular floor (setDiag p a v) ↔ ∀ j, j ≠ a → p a j ^ 2 ≤ v * p j j := by
  constructor
  · intro after j other
    have bound := after.corr a j
    rwa [setDiag_right other, setDiag_self, setDiag_left other] at bound
  · intro row
    refine ⟨fun i j => ?_, fun i => ?_, fun i j => ?_⟩
    · by_cases both : i = a ∧ j = a
      · rw [both.1, both.2]
      · rw [setDiag, if_neg both, setDiag, if_neg fun swapped => both swapped.symm]
        exact regular.symm i j
    · by_cases here : i = a
      · rw [here, setDiag_self]
        exact floored
      · rw [setDiag_left here]
        exact regular.diag i
    · by_cases left : i = a
      · by_cases right : j = a
        · rw [left, right, sq]
        · rw [setDiag_right right, setDiag_left right, left, setDiag_self]
          exact row j right
      · by_cases right : j = a
        · rw [setDiag_left left, setDiag_left left, right, setDiag_self, regular.symm, mul_comm]
          exact row i left
        · rw [setDiag_left left, setDiag_left left, setDiag_left right]
          exact regular.corr i j

theorem Regular.raise [IsStrictOrderedRing K] (regular : Regular floor p) (nonneg : 0 ≤ floor)
    {a : ι} {v : K} (larger : p a a ≤ v) : Regular floor (setDiag p a v) := by
  refine (regular.setDiag_iff a ((regular.diag a).trans larger)).mpr fun j _ => ?_
  exact (regular.corr a j).trans
    (mul_le_mul_of_nonneg_right larger (nonneg.trans (regular.diag j)))

end SetDiag

/-! ### One correlation -/

section Clip

variable [Field K] [LinearOrder K]

def clip (bound v : K) : K :=
  if bound < v then bound else if v < -bound then -bound else v

variable [IsStrictOrderedRing K] {bound v c : K}

theorem clip_of_sq_le (nonneg : 0 ≤ bound) (within : v ^ 2 ≤ bound ^ 2) : clip bound v = v := by
  obtain ⟨low, high⟩ := abs_le.mp (abs_le_of_sq_le_sq within nonneg)
  rw [clip, if_neg high.not_gt, if_neg low.not_gt]

theorem clip_sq (nonneg : 0 ≤ bound) : clip bound v ^ 2 = min (v ^ 2) (bound ^ 2) := by
  by_cases within : v ^ 2 ≤ bound ^ 2
  · rw [clip_of_sq_le nonneg within, min_eq_left within]
  · rw [not_le] at within
    have outside : bound < |v| := by
      have apart := sq_lt_sq.mp within
      rwa [abs_of_nonneg nonneg] at apart
    rw [min_eq_right within.le, clip]
    split
    next => rfl
    next inside =>
      split
      next => exact neg_sq bound
      next above =>
        exact absurd (abs_le.mpr ⟨not_lt.mp above, not_lt.mp inside⟩) outside.not_ge

theorem clip_sq_le_iff (nonneg : 0 ≤ bound) :
    clip bound v ^ 2 ≤ c ↔ v ^ 2 ≤ c ∨ bound ^ 2 ≤ c := by
  rw [clip_sq nonneg, min_le_iff]

end Clip

/-! ### The measurement of one component -/

section Joseph

variable [Fintype ι] [DecidableEq ι] [Field K]

/-- `(1 - k hᵗ) p (1 - k hᵗ)ᵗ + r k kᵗ`, where `h` reads the component `t`. -/
def joseph (t : ι) (k : ι → K) (r : K) (p : Matrix ι ι K) : Matrix ι ι K :=
  let a : Matrix ι ι K := .of fun i j => (1 : Matrix ι ι K) i j - if j = t then k i else 0
  a * p * a.transpose + .of fun i j => k i * r * k j

theorem joseph_apply (t : ι) (k : ι → K) (r : K) (p : Matrix ι ι K) (i j : ι) :
    joseph t k r p i j =
      p i j - k i * p t j - (p i t - k i * p t t) * k j + k i * r * k j := by
  simp only [joseph, Matrix.add_apply, Matrix.mul_apply, Matrix.transpose_apply, Matrix.of_apply,
    Matrix.one_apply,
    sub_mul, mul_sub, ite_mul, mul_ite, one_mul, zero_mul, mul_one, mul_zero,
    Finset.sum_sub_distrib, Finset.sum_ite_eq, Finset.sum_ite_eq', Finset.mem_univ, if_true]

/-- At the optimal gain the update only subtracts the explained part. -/
theorem joseph_optimal {t : ι} {r s : K} {p : Matrix ι ι K} (symm : ∀ i j, p i j = p j i)
    (total : s = p t t + r) (spread : s ≠ 0) (i j : ι) :
    joseph t (fun i => p i t / s) r p i j = p i j - p i t * p j t / s := by
  have noise : r = s - p t t := by rw [total]; ring
  rw [joseph_apply, noise, symm t j]
  field_simp
  ring

end Joseph

/-! ### The gate on the innovation -/

section Gate

variable [Field K] [LinearOrder K] [IsStrictOrderedRing K] {pi pt pit s sigma y : K}

/-- An innovation within `sigma` of the spread `s` it is weighed against moves a component by
at most `sigma` of its own deviation, whatever the correlation. -/
theorem gain_sq_le (positive : 0 < s) (own : 0 ≤ pi) (corr : pit ^ 2 ≤ pi * pt) (within : pt ≤ s)
    (gated : y ^ 2 ≤ sigma ^ 2 * s) : (pit / s * y) ^ 2 ≤ sigma ^ 2 * pi := by
  have row : pit ^ 2 ≤ pi * s := corr.trans (mul_le_mul_of_nonneg_left within own)
  calc (pit / s * y) ^ 2 = pit ^ 2 * y ^ 2 / s ^ 2 := by field_simp
    _ ≤ pi * s * (sigma ^ 2 * s) / s ^ 2 := by gcongr
    _ = sigma ^ 2 * pi := by field_simp

end Gate

end Covariance
