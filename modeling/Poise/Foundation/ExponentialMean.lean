import Mathlib.Algebra.Order.Ring.Defs
import Mathlib.Algebra.Order.Field.Basic
import Mathlib.Tactic.Linarith
import Mathlib.Tactic.Ring

/-!
# Exponentially weighted means

An exponentially weighted mean keeps one number and folds every sample into it with a weight
of its own. Folding is a sum over the whole history: `shares` lists what each sample still
weighs, and mean and variance are expectations under these shares.
-/
namespace ExponentialMean

variable {K : Type*} [Field K]

/-- One fold: the old value keeps the weight `w`. -/
def blend (w old new : K) : K := w * old + (1 - w) * new

section Order

variable [LinearOrder K] [IsStrictOrderedRing K] {w old new lo hi : K}

theorem le_blend (nonneg : 0 ≤ w) (le_one : w ≤ 1) (fromOld : lo ≤ old) (fromNew : lo ≤ new) :
    lo ≤ blend w old new := by
  have kept : w * lo ≤ w * old := mul_le_mul_of_nonneg_left fromOld nonneg
  have added : (1 - w) * lo ≤ (1 - w) * new :=
    mul_le_mul_of_nonneg_left fromNew (sub_nonneg.mpr le_one)
  unfold blend
  linarith

theorem blend_le (nonneg : 0 ≤ w) (le_one : w ≤ 1) (fromOld : old ≤ hi) (fromNew : new ≤ hi) :
    blend w old new ≤ hi := by
  have kept : w * old ≤ w * hi := mul_le_mul_of_nonneg_left fromOld nonneg
  have added : (1 - w) * new ≤ (1 - w) * hi :=
    mul_le_mul_of_nonneg_left fromNew (sub_nonneg.mpr le_one)
  unfold blend
  linarith

/-- Samples below `c` pull the mean down to `c`, a factor `w` of the way each time. -/
theorem blend_sub_le (le_one : w ≤ 1) {c : K} (below : new ≤ c) :
    blend w old new - c ≤ w * (old - c) := by
  have pull : (1 - w) * (new - c) ≤ 0 :=
    mul_nonpos_of_nonneg_of_nonpos (sub_nonneg.mpr le_one) (sub_nonpos.mpr below)
  unfold blend
  linarith

end Order

/-! ### The whole history -/

/-- A weighted history: the share of each value. -/
abbrev History (K : Type*) := List (K × K)

def expect (f : K → K) : History K → K
  | [] => 0
  | (share, value) :: rest => share * f value + expect f rest

/-- A new sample scales every share down by `w` and takes the rest. -/
def extend (w new : K) (history : History K) : History K :=
  (1 - w, new) :: history.map fun entry => (w * entry.1, entry.2)

/-- What each sample weighs after the folds, the newest first; a fold is its weight and sample. -/
def shares (seed : K) : List (K × K) → History K
  | [] => [(1, seed)]
  | (w, new) :: earlier => extend w new (shares seed earlier)

/-- The folded mean; the newest fold first. -/
def mean (seed : K) : List (K × K) → K
  | [] => seed
  | (w, new) :: earlier => blend w (mean seed earlier) new

theorem expect_extend (f : K → K) (w new : K) (history : History K) :
    expect f (extend w new history) = blend w (expect f history) (f new) := by
  have scaled : expect f (history.map fun entry => (w * entry.1, entry.2))
      = w * expect f history := by
    induction history with
    | nil => simp [expect]
    | cons entry rest ih =>
      simp only [List.map_cons, expect, ih]
      ring
  rw [extend, expect, scaled, blend]
  ring

theorem expect_add (f g : K → K) (history : History K) :
    expect (fun x => f x + g x) history = expect f history + expect g history := by
  induction history with
  | nil => simp [expect]
  | cons entry rest ih =>
    simp only [expect, ih]
    ring

theorem expect_const_mul (c : K) (f : K → K) (history : History K) :
    expect (fun x => c * f x) history = c * expect f history := by
  induction history with
  | nil => simp [expect]
  | cons entry rest ih =>
    simp only [expect, ih]
    ring

/-- The shares of a history sum to one. -/
theorem total_shares (seed : K) (folds : List (K × K)) :
    expect (fun _ => 1) (shares seed folds) = 1 := by
  induction folds with
  | nil => simp [shares, expect]
  | cons fold earlier ih =>
    rw [shares, expect_extend, ih, blend]
    ring

/-- The folded mean is the mean of the whole history. -/
theorem mean_eq_expect (seed : K) (folds : List (K × K)) :
    mean seed folds = expect (fun x => x) (shares seed folds) := by
  induction folds with
  | nil => simp [mean, shares, expect]
  | cons fold earlier ih => rw [mean, shares, expect_extend, ih]

/-! ### Variance -/

/-- The variance of a weighted history about `c`. -/
def variance (c : K) (history : History K) : K := expect (fun x => (x - c) ^ 2) history

/-- Moving the centre costs the square of the way from the mean. -/
theorem variance_shift (m c : K) {history : History K} (total : expect (fun _ => 1) history = 1)
    (centre : expect (fun x => x) history = m) :
    variance c history = variance m history + (m - c) ^ 2 := by
  have split : ∀ x : K, (x - c) ^ 2 = (x - m) ^ 2 + (2 * (m - c) * x + (c ^ 2 - m ^ 2) * 1) := by
    intro x
    ring
  unfold variance
  simp only [split]
  rw [expect_add, expect_add, expect_const_mul (2 * (m - c)) (fun x => x),
    expect_const_mul (c ^ 2 - m ^ 2) (fun _ => 1), total, centre]
  ring

/-- The incremental update of the weighted variance is exact. -/
theorem variance_fold (seed w new : K) (earlier : List (K × K)) :
    variance (mean seed ((w, new) :: earlier)) (shares seed ((w, new) :: earlier)) =
      w * (variance (mean seed earlier) (shares seed earlier)
        + (new - mean seed earlier) * ((1 - w) * (new - mean seed earlier))) := by
  have shifted := variance_shift (mean seed earlier) (mean seed ((w, new) :: earlier))
    (total_shares seed earlier) (mean_eq_expect seed earlier).symm
  have latest : mean seed ((w, new) :: earlier)
      = mean seed earlier + (1 - w) * (new - mean seed earlier) := by
    rw [mean, blend]
    ring
  have folded : variance (mean seed ((w, new) :: earlier)) (shares seed ((w, new) :: earlier)) =
      blend w (variance (mean seed ((w, new) :: earlier)) (shares seed earlier))
        ((new - mean seed ((w, new) :: earlier)) ^ 2) := by
    rw [shares]
    exact expect_extend _ w new _
  rw [folded, shifted, latest, blend]
  ring

section Order

variable [LinearOrder K] [IsStrictOrderedRing K] {seed lo hi : K} {folds : List (K × K)}

theorem expect_nonneg {f : K → K} {history : History K} (weights : ∀ entry ∈ history, 0 ≤ entry.1)
    (values : ∀ entry ∈ history, 0 ≤ f entry.2) : 0 ≤ expect f history := by
  induction history with
  | nil => exact le_refl 0
  | cons entry rest ih =>
    have here := mul_nonneg (weights entry (by simp)) (values entry (by simp))
    have there := ih (fun e member => weights e (by simp [member]))
      (fun e member => values e (by simp [member]))
    exact add_nonneg here there

theorem shares_nonneg (weights : ∀ fold ∈ folds, 0 ≤ fold.1 ∧ fold.1 ≤ 1) :
    ∀ entry ∈ shares seed folds, 0 ≤ entry.1 := by
  induction folds with
  | nil => simp [shares]
  | cons fold earlier ih =>
    have now := weights fold (by simp)
    have before := ih fun e member => weights e (by simp [member])
    simp only [shares, extend, List.mem_cons, List.mem_map]
    rintro entry (rfl | ⟨old, member, rfl⟩)
    · exact sub_nonneg.mpr now.2
    · exact mul_nonneg now.1 (before old member)

theorem variance_nonneg (weights : ∀ fold ∈ folds, 0 ≤ fold.1 ∧ fold.1 ≤ 1) (c : K) :
    0 ≤ variance c (shares seed folds) :=
  expect_nonneg (shares_nonneg weights) fun _ _ => sq_nonneg _

/-- The mean stays between the least and the greatest sample. -/
theorem mean_mem (weights : ∀ fold ∈ folds, 0 ≤ fold.1 ∧ fold.1 ≤ 1)
    (first : lo ≤ seed ∧ seed ≤ hi) (samples : ∀ fold ∈ folds, lo ≤ fold.2 ∧ fold.2 ≤ hi) :
    lo ≤ mean seed folds ∧ mean seed folds ≤ hi := by
  induction folds with
  | nil => exact first
  | cons fold earlier ih =>
    have now := weights fold (by simp)
    have new := samples fold (by simp)
    obtain ⟨low, high⟩ := ih (fun e member => weights e (by simp [member]))
      (fun e member => samples e (by simp [member]))
    exact ⟨le_blend now.1 now.2 low new.1, blend_le now.1 now.2 high new.2⟩

end Order

/-! ### The seed and the samples -/

section Samples

variable {β : Type*}

/-- What the seed still weighs; a fold is its weight and what was sampled. -/
def residue : List (K × β) → K
  | [] => 1
  | (w, _) :: earlier => w * residue earlier

/-- What the samples have added under `f`. -/
def sampled (f : β → K) : List (K × β) → K
  | [] => 0
  | (w, new) :: earlier => w * sampled f earlier + (1 - w) * f new

/-- A mean is its seed and its samples, each by its weight. -/
theorem mean_eq_residue (seed : K) (f : β → K) (folds : List (K × β)) :
    mean seed (folds.map fun fold => (fold.1, f fold.2)) =
      residue folds * seed + sampled f folds := by
  induction folds with
  | nil => simp [mean, residue, sampled]
  | cons fold earlier ih =>
    rw [List.map_cons, mean, ih, residue, sampled, blend]
    ring

/-- The samples weigh what the seed does not. -/
theorem sampled_one (folds : List (K × β)) : sampled (fun _ => 1) folds = 1 - residue folds := by
  induction folds with
  | nil => simp [residue, sampled]
  | cons fold earlier ih =>
    rw [sampled, residue, ih]
    ring

theorem sampled_const {f : β → K} {c : K} {folds : List (K × β)}
    (const : ∀ fold ∈ folds, f fold.2 = c) : sampled f folds = c * (1 - residue folds) := by
  induction folds with
  | nil => simp [residue, sampled]
  | cons fold earlier ih =>
    rw [sampled, residue, ih fun e member => const e (by simp [member]), const fold (by simp)]
    ring

theorem sampled_const_mul (c : K) (f : β → K) (folds : List (K × β)) :
    sampled (fun b => c * f b) folds = c * sampled f folds := by
  induction folds with
  | nil => simp [sampled]
  | cons fold earlier ih =>
    rw [sampled, sampled, ih]
    ring

theorem sampled_mono [LinearOrder K] [IsStrictOrderedRing K] {f g : β → K} {folds : List (K × β)}
    (weights : ∀ fold ∈ folds, 0 ≤ fold.1 ∧ fold.1 ≤ 1) (le : ∀ fold ∈ folds, f fold.2 ≤ g fold.2) :
    sampled f folds ≤ sampled g folds := by
  induction folds with
  | nil => exact le_refl 0
  | cons fold earlier ih =>
    have now := weights fold (by simp)
    have before := ih (fun e member => weights e (by simp [member]))
      (fun e member => le e (by simp [member]))
    have kept := mul_le_mul_of_nonneg_left before now.1
    have added := mul_le_mul_of_nonneg_left (le fold (by simp)) (sub_nonneg.mpr now.2)
    exact add_le_add kept added

end Samples

end ExponentialMean
