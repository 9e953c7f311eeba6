import Poise.Estimation.ThermalEkf
import Poise.Foundation.Trace
import Mathlib.Analysis.SpecialFunctions.Exp
import Mathlib.Analysis.Real.Sqrt

/-!
# The covariance of the thermal filter

After every call the covariance is symmetric, its diagonal is floored and every
correlation is at most one, but for one step: the runtime recovery lowers the variance of
α after the repair. The runs that keep the covariance are those in which no recovery
meets an α correlated beyond what the new variance allows.
-/
namespace Poise

open Trace Covariance

noncomputable instance : ExpSqrt ℝ := ⟨Real.exp, Real.sqrt⟩

namespace ThermalEkf

/-! ### Bounds -/

def InBounds (x : StateIx → ℝ) : Prop := ∀ i, lower i ≤ x i ∧ x i ≤ upper i

theorem lower_le_upper (i : StateIx) : (lower i : ℝ) ≤ upper i := by
  cases i <;> norm_num [lower, upper]

theorem clip_inBounds (i : StateIx) (v : ℝ) :
    lower i ≤ min (max v (lower i)) (upper i) ∧ min (max v (lower i)) (upper i) ≤ upper i :=
  ⟨le_min (le_max_right _ _) (lower_le_upper i), min_le_right _ _⟩

theorem clamp_inBounds (x : StateIx → ℝ) : InBounds (clamp x) := fun i => clip_inBounds i (x i)

theorem defaults_inBounds : InBounds defaults := by
  intro i
  cases i <;> norm_num [lower, upper, defaults]

theorem InBounds.update {x : StateIx → ℝ} (inside : InBounds x) {i : StateIx} {v : ℝ}
    (low : lower i ≤ v) (high : v ≤ upper i) : InBounds (Function.update x i v) := by
  intro j
  by_cases same : j = i
  · subst same
    rw [Function.update_self]
    exact ⟨low, high⟩
  · rw [Function.update_of_ne same]
    exact inside j

/-! ### The repair -/

theorem psdFloor_pos : (0 : ℝ) < psdFloor := by norm_num [psdFloor]

/-- The variance the repair leaves. -/
noncomputable def floored (v : ℝ) : ℝ := max psdFloor v

theorem floored_pos (v : ℝ) : 0 < floored v := lt_max_of_lt_left psdFloor_pos

theorem symmetrise_self (p : Matrix StateIx StateIx ℝ) (i : StateIx) :
    symmetrise p i i = floored (p i i) := by
  simp only [symmetrise, Matrix.of_apply, if_true, floored]
  split
  next low => exact (max_eq_left low.le).symm
  next high => exact (max_eq_right (not_lt.mp high)).symm

theorem symmetrise_comm (p : Matrix StateIx StateIx ℝ) (i j : StateIx) :
    symmetrise p i j = symmetrise p j i := by
  by_cases same : i = j
  · rw [same]
  · simp only [symmetrise, Matrix.of_apply, if_neg same, if_neg (Ne.symm same), add_comm]

theorem symmetrise_of_symm {p : Matrix StateIx StateIx ℝ} (symm : ∀ i j, p i j = p j i)
    {i j : StateIx} (other : i ≠ j) : symmetrise p i j = p i j := by
  simp only [symmetrise, Matrix.of_apply, if_neg other, symm j i]
  ring

theorem enforcePsd_self (p : Matrix StateIx StateIx ℝ) (i : StateIx) :
    enforcePsd p i i = floored (p i i) := by
  simp [enforcePsd, boundCorrelations, symmetrise_self]

theorem enforcePsd_other (p : Matrix StateIx StateIx ℝ) {i j : StateIx} (other : i ≠ j) :
    enforcePsd p i j =
      clip √(floored (p i i) * floored (p j j)) (symmetrise p i j) := by
  simp [enforcePsd, boundCorrelations, symmetrise_self, other, ExpSqrt.sqrt]

theorem enforcePsd_sq (p : Matrix StateIx StateIx ℝ) {i j : StateIx} (other : i ≠ j) (c : ℝ) :
    enforcePsd p i j ^ 2 ≤ c ↔
      symmetrise p i j ^ 2 ≤ c ∨ floored (p i i) * floored (p j j) ≤ c := by
  rw [enforcePsd_other p other, clip_sq_le_iff (Real.sqrt_nonneg _),
    Real.sq_sqrt (mul_pos (floored_pos _) (floored_pos _)).le]

/-- The repair makes any matrix regular. -/
theorem enforcePsd_regular (p : Matrix StateIx StateIx ℝ) : Regular psdFloor (enforcePsd p) := by
  refine ⟨fun i j => ?_, fun i => ?_, fun i j => ?_⟩
  · by_cases same : i = j
    · rw [same]
    · rw [enforcePsd_other p same, enforcePsd_other p (Ne.symm same), symmetrise_comm, mul_comm]
  · rw [enforcePsd_self]
    exact le_max_left _ _
  · by_cases same : i = j
    · rw [same, sq]
    · rw [enforcePsd_self, enforcePsd_self]
      exact (enforcePsd_sq p same _).mpr (.inr le_rfl)

theorem enforcePsd_of_regular {p : Matrix StateIx StateIx ℝ} (regular : Regular psdFloor p) :
    enforcePsd p = p := by
  have kept (i : StateIx) : floored (p i i) = p i i := max_eq_right (regular.diag i)
  ext i j
  by_cases same : i = j
  · rw [same, enforcePsd_self, kept]
  · have nonneg (k : StateIx) : 0 ≤ p k k := psdFloor_pos.le.trans (regular.diag k)
    rw [enforcePsd_other p same, symmetrise_of_symm regular.symm same, kept, kept]
    refine clip_of_sq_le (Real.sqrt_nonneg _) ?_
    rw [Real.sq_sqrt (mul_nonneg (nonneg i) (nonneg j))]
    exact regular.corr i j

/-! ### The correction -/

/-- The variance an innovation is weighed against: an outlier is weighed against its own
square. -/
noncomputable def gateVar (tempVar innovation : ℝ) : ℝ :=
  if 16.0 * (tempVar + 0.04) < innovation ^ 2 then max (tempVar + 4.0) (innovation ^ 2 / 16.0)
  else tempVar + 0.04

theorem effectiveVar_eq (tempVar innovation : ℝ) :
    tempVar + effectiveVar tempVar innovation = gateVar tempVar innovation := by
  have sigma : (anomalySigma : ℝ) ^ 2 = 16.0 := by norm_num [anomalySigma]
  have inflated : (measurementVar : ℝ) * anomalyInflate = 4.0 := by
    norm_num [measurementVar, anomalyInflate]
  have plain : (measurementVar : ℝ) = 0.04 := rfl
  simp only [effectiveVar, inflated, sigma, ← sq]
  rw [plain, gateVar]
  split
  next => rw [← max_add_add_left, add_sub_cancel]
  next => rfl

theorem gateVar_pos {tempVar : ℝ} (positive : 0 < tempVar) (innovation : ℝ) :
    0 < gateVar tempVar innovation := by
  rw [gateVar]
  split
  next => exact lt_max_of_lt_left (by linarith)
  next => linarith

variable {ekf : ThermalEkf ℝ}

noncomputable def weight (ekf : ThermalEkf ℝ) (zTemp : ℝ) : ℝ :=
  gateVar (ekf.p .t .t) (zTemp - ekf.x .t)

/-- The covariance that the measurement leaves unexplained. -/
noncomputable def unexplained (ekf : ThermalEkf ℝ) (zTemp : ℝ) (i j : StateIx) : ℝ :=
  ekf.p i j - ekf.p i .t * ekf.p j .t / ekf.weight zTemp

theorem correct_p (regular : Regular psdFloor ekf.p) (zTemp : ℝ) :
    (ekf.correct zTemp).p = enforcePsd (.of (ekf.unexplained zTemp)) := by
  have positive := gateVar_pos (psdFloor_pos.trans_le (regular.diag .t)) (zTemp - ekf.x .t)
  have total := effectiveVar_eq (ekf.p .t .t) (zTemp - ekf.x .t)
  simp only [correct]
  congr 1
  ext i j
  rw [total, joseph_optimal regular.symm total.symm positive.ne']
  rfl

theorem correct_x (zTemp : ℝ) :
    (ekf.correct zTemp).x =
      clamp fun i => ekf.x i + ekf.p i .t / ekf.weight zTemp * (zTemp - ekf.x .t) := by
  simp only [correct, effectiveVar_eq]
  rfl

theorem unexplained_comm (regular : Regular psdFloor ekf.p) (zTemp : ℝ) (i j : StateIx) :
    ekf.unexplained zTemp i j = ekf.unexplained zTemp j i := by
  rw [unexplained, unexplained, regular.symm i j, mul_comm]

theorem correct_self (regular : Regular psdFloor ekf.p) (zTemp : ℝ) (i : StateIx) :
    (ekf.correct zTemp).p i i = floored (ekf.unexplained zTemp i i) := by
  rw [correct_p regular, enforcePsd_self, Matrix.of_apply]

theorem correct_sq (regular : Regular psdFloor ekf.p) (zTemp : ℝ) {i j : StateIx}
    (other : i ≠ j) (c : ℝ) :
    (ekf.correct zTemp).p i j ^ 2 ≤ c ↔ ekf.unexplained zTemp i j ^ 2 ≤ c ∨
      floored (ekf.unexplained zTemp i i) * floored (ekf.unexplained zTemp j j) ≤ c := by
  have entry : symmetrise (.of (ekf.unexplained zTemp)) i j = ekf.unexplained zTemp i j :=
    symmetrise_of_symm (p := .of (ekf.unexplained zTemp)) (unexplained_comm regular zTemp) other
  rw [correct_p regular, enforcePsd_sq _ other, entry, Matrix.of_apply, Matrix.of_apply]

/-! ### The recovery -/

theorem runtimeRecovery_cases (ekf : ThermalEkf ℝ) :
    (pegged (ekf.x .a) = true ∧ recoveryPegCount ≤ ekf.alphaPeggedCount + 1 ∧
        ekf.runtimeRecovery.1.x = Function.update ekf.x .a (defaults .a) ∧
        ekf.runtimeRecovery.1.p = setDiag ekf.p .a (p0 .a)) ∨
      (¬ (pegged (ekf.x .a) = true ∧ recoveryPegCount ≤ ekf.alphaPeggedCount + 1) ∧
        ekf.runtimeRecovery.1.x = ekf.x ∧ ekf.runtimeRecovery.1.p = ekf.p) := by
  by_cases peg : pegged (ekf.x .a) = true
  · by_cases often : recoveryPegCount ≤ ekf.alphaPeggedCount + 1
    · exact .inl ⟨peg, often, by simp [runtimeRecovery, peg, often],
        by simp [runtimeRecovery, peg, often]⟩
    · exact .inr ⟨fun both => often both.2, by simp [runtimeRecovery, peg, often],
        by simp [runtimeRecovery, peg, often]⟩
  · exact .inr ⟨fun both => peg both.1, by simp [runtimeRecovery, peg],
      by simp [runtimeRecovery, peg]⟩

theorem update_x (ekf : ThermalEkf ℝ) (zTemp : ℝ) :
    (ekf.update zTemp).x = (ekf.correct zTemp).runtimeRecovery.1.x := rfl

theorem update_p (ekf : ThermalEkf ℝ) (zTemp : ℝ) :
    (ekf.update zTemp).p = (ekf.correct zTemp).runtimeRecovery.1.p := rfl

/-- The measurement pegs α for the last time the recovery tolerates. -/
structure ResetDue (ekf : ThermalEkf ℝ) (zTemp : ℝ) : Prop where
  count : 50 ≤ ekf.alphaPeggedCount + 1
  peg : ekf.x .a + ekf.p .a .t / ekf.weight zTemp * (zTemp - ekf.x .t) ≤ 0.005 * 1.01 ∨
    2 * 0.99 ≤ ekf.x .a + ekf.p .a .t / ekf.weight zTemp * (zTemp - ekf.x .t)

/-- What remains of α is uncertain beyond the initial variance, and correlated with
another component beyond what that variance allows. -/
structure Overcorrelated (ekf : ThermalEkf ℝ) (zTemp : ℝ) : Prop where
  uncertain : 0.01 < ekf.unexplained zTemp .a .a
  tied : ∃ j, j ≠ .a ∧
    0.01 * floored (ekf.unexplained zTemp j j) < ekf.unexplained zTemp .a j ^ 2

theorem resetDue_iff (zTemp : ℝ) :
    ekf.ResetDue zTemp ↔ pegged ((ekf.correct zTemp).x .a) = true ∧
      recoveryPegCount ≤ (ekf.correct zTemp).alphaPeggedCount + 1 := by
  have count : (ekf.correct zTemp).alphaPeggedCount = ekf.alphaPeggedCount := rfl
  have low : (lower .a : ℝ) = 0.005 := rfl
  have high : (upper .a : ℝ) = 2 := by norm_num [upper]
  -- clamping moves no value across a threshold within the bounds
  have below (v : ℝ) : min (max v 0.005) 2 ≤ 0.005 * 1.01 ↔ v ≤ 0.005 * 1.01 := by
    rw [min_le_iff, max_le_iff]
    norm_num
  have above (v : ℝ) : 2 * 0.99 ≤ min (max v 0.005) 2 ↔ 2 * 0.99 ≤ v := by
    rw [le_min_iff, le_max_iff]
    norm_num
  rw [count, correct_x, pegged, low, high]
  simp only [clamp, low, high, Bool.or_eq_true, decide_eq_true_eq, below, above]
  exact ⟨fun due => ⟨due.peg, due.count⟩, fun ⟨peg, often⟩ => ⟨often, peg⟩⟩

theorem reset_regular_iff (regular : Regular psdFloor ekf.p) (zTemp : ℝ) :
    Regular psdFloor (setDiag (ekf.correct zTemp).p .a 0.01) ↔ ¬ ekf.Overcorrelated zTemp := by
  have repaired : Regular psdFloor (ekf.correct zTemp).p := by
    rw [correct_p regular]
    exact enforcePsd_regular _
  have enough : (psdFloor : ℝ) ≤ 0.01 := by norm_num [psdFloor]
  have uncertain : 0.01 < floored (ekf.unexplained zTemp .a .a) ↔
      0.01 < ekf.unexplained zTemp .a .a := by
    rw [floored, lt_max_iff, or_iff_right]
    norm_num [psdFloor]
  rw [repaired.setDiag_iff .a enough]
  have row (j : StateIx) (other : j ≠ .a) :
      (ekf.correct zTemp).p .a j ^ 2 ≤ 0.01 * (ekf.correct zTemp).p j j ↔
        ¬ (0.01 < ekf.unexplained zTemp .a .a ∧
          0.01 * floored (ekf.unexplained zTemp j j) < ekf.unexplained zTemp .a j ^ 2) := by
    rw [correct_sq regular zTemp other.symm, correct_self regular,
      mul_le_mul_iff_left₀ (floored_pos _), ← uncertain, not_and_or, not_lt, not_lt, or_comm]
  constructor
  · intro law ⟨vague, j, other, tied⟩
    exact (row j other).mp (law j other) ⟨vague, tied⟩
  · intro tame j other
    exact (row j other).mpr fun ⟨vague, tied⟩ => tame ⟨vague, j, other, tied⟩

/-- One measurement keeps the covariance, unless it resets an overcorrelated α. -/
theorem update_regular_iff (regular : Regular psdFloor ekf.p) (zTemp : ℝ) :
    Regular psdFloor (ekf.update zTemp).p ↔
      ¬ (ekf.ResetDue zTemp ∧ ekf.Overcorrelated zTemp) := by
  rw [update_p, resetDue_iff]
  rcases runtimeRecovery_cases (ekf.correct zTemp) with ⟨peg, often, -, reset⟩ | ⟨none, -, kept⟩
  · have prior : (p0 .a : ℝ) = 0.01 := rfl
    rw [reset, prior, reset_regular_iff regular]
    simp [peg, often]
  · rw [kept, correct_p regular]
    exact ⟨fun _ both => none both.1, fun _ => enforcePsd_regular _⟩

theorem update_inBounds (ekf : ThermalEkf ℝ) (zTemp : ℝ) : InBounds (ekf.update zTemp).x := by
  have inside : InBounds (ekf.correct zTemp).x := by
    rw [correct_x]
    exact clamp_inBounds _
  rw [update_x]
  rcases runtimeRecovery_cases (ekf.correct zTemp) with ⟨-, -, reset, -⟩ | ⟨-, kept, -⟩
  · rw [reset]
    exact inside.update (defaults_inBounds .a).1 (defaults_inBounds .a).2
  · rw [kept]
    exact inside

/-! ### Runs -/

inductive Call where
  | predict (dtH tOut uH uC qSolar qOcc : ℝ)
  | update (zTemp : ℝ)
  | seedBetaH (value : ℝ)

noncomputable def step (ekf : ThermalEkf ℝ) : Call → ThermalEkf ℝ × Unit
  | .predict dtH tOut uH uC qSolar qOcc => (ekf.predict dtH tOut uH uC qSolar qOcc, ())
  | .update zTemp => (ekf.update zTemp, ())
  | .seedBetaH value => (ekf.seedBetaH value, ())

/-- The default constructor, or a restore. -/
noncomputable def start : Option (Payload ℝ) → ThermalEkf ℝ
  | none => fresh
  | some data => fromDict data

structure Sound (ekf : ThermalEkf ℝ) : Prop where
  covariance : Regular psdFloor ekf.p
  alpha : lower .a ≤ ekf.x .a

theorem fresh_sound : Sound fresh := by
  refine ⟨regular_diagonal psdFloor_pos.le fun i => ?_, (defaults_inBounds .a).1⟩
  cases i <;> norm_num [psdFloor, p0]

theorem fromDict_cases (data : Payload ℝ) :
    fromDict data = fresh ∨
      ∃ ekf : ThermalEkf ℝ,
        fromDict data = { ekf with x := clamp ekf.x, p := enforcePsd ekf.p } := by
  rw [fromDict]
  split
  next => exact .inr ⟨_, rfl⟩
  next => exact .inl rfl

theorem start_sound (data : Option (Payload ℝ)) :
    Sound (start data) ∧ InBounds (start data).x := by
  cases data with
  | none => exact ⟨fresh_sound, defaults_inBounds⟩
  | some data =>
    rw [start]
    rcases fromDict_cases data with initial | ⟨ekf, restored⟩
    · rw [initial]
      exact ⟨fresh_sound, defaults_inBounds⟩
    · rw [restored]
      exact ⟨⟨enforcePsd_regular _, (clamp_inBounds _ .a).1⟩, clamp_inBounds _⟩

theorem predict_sound (sound : Sound ekf) (dtH tOut uH uC qSolar qOcc : ℝ) :
    Sound (ekf.predict dtH tOut uH uC qSolar qOcc) := by
  refine ⟨enforcePsd_regular _, ?_⟩
  simp only [predict, Function.update_of_ne (show StateIx.a ≠ .t by decide)]
  exact sound.alpha

theorem seedBetaH_sound (sound : Sound ekf) (value : ℝ) : Sound (ekf.seedBetaH value) := by
  refine ⟨sound.covariance.raise psdFloor_pos.le (le_max_left _ _), ?_⟩
  simp only [seedBetaH, Function.update_of_ne (show StateIx.a ≠ .bh by decide)]
  exact sound.alpha

/-- What a call owes: the covariance, an α that may divide, and after a measurement the
bounds. -/
structure SoundCall (e : Step (ThermalEkf ℝ) Call Unit) : Prop where
  sound : Sound e.post
  bounds : ∀ zTemp, e.input = .update zTemp → InBounds e.post.x

/-- From every start, a run of any calls keeps the filter sound exactly if no measurement
resets an overcorrelated α. -/
theorem ekf_sound_iff (data : Option (Payload ℝ)) (calls : List Call) :
    (Sound (start data) ∧ InBounds (start data).x ∧
        ∀ e ∈ trace step (start data) calls, SoundCall e) ↔
      ∀ e ∈ trace step (start data) calls, ∀ zTemp, e.input = .update zTemp →
        ¬ (e.pre.ResetDue zTemp ∧ e.pre.Overcorrelated zTemp) := by
  obtain ⟨sound, inside⟩ := start_sound data
  have same := forall_trace_iff step Sound (fun _ => True) SoundCall
    (fun e => ∀ zTemp, e.input = .update zTemp →
      ¬ (e.pre.ResetDue zTemp ∧ e.pre.Overcorrelated zTemp)) sound
    (fun (call : Call) (_ : call ∈ calls) => trivial) ?_ fun _ _ _ _ lawful => lawful.sound
  · rw [← same]
    exact ⟨fun ⟨_, _, all⟩ => all, fun all => ⟨sound, inside, all⟩⟩
  · intro ekf call sound _
    cases call with
    | predict dtH tOut uH uC qSolar qOcc =>
      have kept := predict_sound sound dtH tOut uH uC qSolar qOcc
      exact iff_of_true ⟨kept, fun _ other => nomatch other⟩ fun _ other => nomatch other
    | seedBetaH value =>
      have kept := seedBetaH_sound sound value
      exact iff_of_true ⟨kept, fun _ other => nomatch other⟩ fun _ other => nomatch other
    | update zTemp =>
      have inside := update_inBounds ekf zTemp
      constructor
      · rintro lawful z ⟨⟩
        exact (update_regular_iff sound.covariance zTemp).mp lawful.sound.covariance
      · intro tame
        have kept := (update_regular_iff sound.covariance zTemp).mpr (tame zTemp rfl)
        exact ⟨⟨kept, (inside .a).1⟩, fun _ _ => inside⟩

/-! ### A recovery that breaks the covariance -/

-- `q` is the variance of the temperature, which every measurement lowers.
def tiedP (q : ℝ) : Matrix StateIx StateIx ℝ := .of fun
  | .t, .t => q
  | .t, .a => 0.3 * q
  | .a, .t => 0.3 * q
  | .a, .a => 0.91 + 0.09 * q
  | .a, .bh => 0.9
  | .bh, .a => 0.9
  | .bh, .bh => 1
  | .bc, .bc => 1
  | .bs, .bs => 0.5
  | .bo, .bo => 0.5
  | _, _ => 0

def tiedX : StateIx → ℝ
  | .t => 21.0
  | .a => 1.97
  | .bh => 3.0
  | .bc => 4.0
  | .bs => 0.5
  | .bo => 0.3

def tiedPayload : Payload ℝ where
  ekfVersion := some 1
  x := some [21.0, 1.97, 3.0, 4.0, 0.5, 0.3]
  p := some [[1, 0.3, 0, 0, 0, 0], [0.3, 1, 0.9, 0, 0, 0], [0, 0.9, 1, 0, 0, 0],
    [0, 0, 0, 1, 0, 0], [0, 0, 0, 0, 0.5, 0], [0, 0, 0, 0, 0, 0.5]]

/-- The variance of the temperature after `k` measurements. -/
noncomputable def tiedVar (k : ℕ) : ℝ := 0.04 / (0.04 + k)

theorem tiedVar_pos (k : ℕ) : 0 < tiedVar k := by
  unfold tiedVar
  positivity

theorem tiedVar_floor {k : ℕ} (few : k ≤ 50) : psdFloor ≤ tiedVar k := by
  have bound : (k : ℝ) ≤ 50 := by exact_mod_cast few
  rw [tiedVar, le_div_iff₀ (by positivity), psdFloor]
  nlinarith

theorem tiedP_regular {q : ℝ} (low : psdFloor ≤ q) : Regular psdFloor (tiedP q) := by
  have positive := psdFloor_pos.trans_le low
  have small : (psdFloor : ℝ) ≤ 0.5 := by norm_num [psdFloor]
  refine ⟨fun i j => ?_, fun i => ?_, fun i j => ?_⟩
  · cases i <;> cases j <;> rfl
  · cases i <;> simp only [tiedP, Matrix.of_apply] <;> linarith
  · cases i <;> cases j <;> simp only [tiedP, Matrix.of_apply] <;> nlinarith

/-- A measurement within the gate lowers the temperature variance and nothing else. -/
theorem tied_unexplained {k : ℕ} {ekf : ThermalEkf ℝ} (tied : ekf.p = tiedP (tiedVar k)) {zTemp : ℝ}
    (inlier : ekf.weight zTemp = tiedVar k + 0.04) :
    (.of (ekf.unexplained zTemp) : Matrix StateIx StateIx ℝ) = tiedP (tiedVar (k + 1)) := by
  have spread : tiedVar k + 0.04 ≠ 0 := by
    have := tiedVar_pos k
    positivity
  have next : tiedVar (k + 1) = tiedVar k * 0.04 / (tiedVar k + 0.04) := by
    have : (0 : ℝ) ≤ k := k.cast_nonneg
    rw [eq_div_iff spread, tiedVar, tiedVar]
    push_cast
    field_simp
    ring
  ext i j
  rw [Matrix.of_apply, unexplained, inlier, tied, next]
  cases i <;> cases j <;> simp only [tiedP, Matrix.of_apply] <;> field_simp <;> ring

theorem start_tied :
    (start (some tiedPayload)).p = tiedP (tiedVar 0) ∧ (start (some tiedPayload)).x .t = 21 ∧
      (start (some tiedPayload)).x .a = 1.97 ∧ (start (some tiedPayload)).alphaPeggedCount = 0 := by
  have x : tiedPayload.x.bind StateIx.ofList = some tiedX := rfl
  have p : tiedPayload.p.bind matrixOfRows = some (tiedP (tiedVar 0)) := by
    change some _ = some _
    congr 1
    ext i j
    cases i <;> cases j <;> norm_num [tiedP, tiedVar]
  have free : ¬ (upper .a * 0.99 ≤ tiedX .a ∨ tiedX .a ≤ lower .a * 1.01) := by
    norm_num [upper, lower, tiedX]
  have version : tiedPayload.ekfVersion = some ekfVersion := rfl
  have regular := tiedP_regular (tiedVar_floor (k := 0) (by norm_num))
  simp only [start, fromDict, version, x, p, not_true_eq_false, free, or_self, if_false, if_true,
    enforcePsd_of_regular regular]
  refine ⟨trivial, ?_, ?_, trivial⟩ <;> norm_num [clamp, lower, upper, tiedX]

/-- The filter after `k` measurements, all of them with α at its bound. -/
structure Tied (k : ℕ) (ekf : ThermalEkf ℝ) : Prop where
  p : ekf.p = tiedP (tiedVar k)
  t : ekf.x .t = 22
  a : ekf.x .a = 2
  count : ekf.alphaPeggedCount = k

/-- The covariance and the count after a measurement that pegs α for less than the fiftieth
time. -/
theorem update_pegged {k : ℕ} {ekf : ThermalEkf ℝ} (p : ekf.p = tiedP (tiedVar k))
    (count : ekf.alphaPeggedCount = k) (few : k + 1 < 50) {zTemp : ℝ}
    (inlier : ekf.weight zTemp = tiedVar k + 0.04) (peg : (ekf.correct zTemp).x .a = 2) :
    (ekf.update zTemp).p = tiedP (tiedVar (k + 1)) ∧
      (ekf.update zTemp).x = (ekf.correct zTemp).x ∧
      (ekf.update zTemp).alphaPeggedCount = k + 1 := by
  have regular : Regular psdFloor ekf.p := by
    rw [p]
    exact tiedP_regular (tiedVar_floor (by omega))
  have corrected : (ekf.correct zTemp).p = tiedP (tiedVar (k + 1)) := by
    rw [correct_p regular, tied_unexplained p inlier]
    exact enforcePsd_of_regular (tiedP_regular (tiedVar_floor (by omega)))
  have pegs : pegged (2 : ℝ) = true := by norm_num [pegged, upper]
  have early : ¬ recoveryPegCount ≤ (ekf.correct zTemp).alphaPeggedCount + 1 := by
    rw [show (ekf.correct zTemp).alphaPeggedCount = k from count, recoveryPegCount]
    omega
  have counted : (ekf.update zTemp).alphaPeggedCount =
      (ekf.correct zTemp).alphaPeggedCount + 1 := by
    simp [update, runtimeRecovery, peg, pegs, early]
  rw [update_p, update_x, counted]
  rcases runtimeRecovery_cases (ekf.correct zTemp) with ⟨-, often, -⟩ | ⟨-, keptX, keptP⟩
  · exact absurd often early
  · exact ⟨by rw [keptP, corrected], keptX, congrArg (· + 1) count⟩

theorem first_tied : Tied 1 ((start (some tiedPayload)).update 22.04) := by
  obtain ⟨p, t, a, count⟩ := start_tied
  set ekf := start (some tiedPayload)
  have one : tiedVar 0 = 1 := by norm_num [tiedVar]
  have inlier : ekf.weight 22.04 = tiedVar 0 + 0.04 := by
    rw [weight, p, t, one]
    norm_num [gateVar, tiedP]
  have moved : (ekf.correct 22.04).x .t = 22 ∧ (ekf.correct 22.04).x .a = 2 := by
    rw [correct_x]
    simp only [clamp, inlier, p, t, a, one]
    constructor <;> norm_num [tiedP, lower, upper]
  obtain ⟨nextP, nextX, nextCount⟩ := update_pegged p count (by norm_num) inlier moved.2
  exact ⟨nextP, by rw [nextX]; exact moved.1, by rw [nextX]; exact moved.2, nextCount⟩

theorem Tied.inlier {k : ℕ} {ekf : ThermalEkf ℝ} (tied : Tied k ekf) :
    ekf.weight 22 = tiedVar k + 0.04 := by
  have entry : tiedP (tiedVar k) .t .t = tiedVar k := rfl
  have inside : ¬ 16.0 * (tiedVar k + 0.04) < 0 := by
    have := tiedVar_pos k
    norm_num
    linarith
  rw [weight, tied.p, tied.t, entry, gateVar, sub_self, zero_pow two_ne_zero, if_neg inside]

theorem Tied.next {k : ℕ} {ekf : ThermalEkf ℝ} (tied : Tied k ekf) (few : k + 1 < 50) :
    Tied (k + 1) (ekf.update 22) := by
  have still : (ekf.correct 22).x .t = 22 ∧ (ekf.correct 22).x .a = 2 := by
    rw [correct_x]
    simp only [clamp, tied.t, tied.a]
    constructor <;> norm_num [lower, upper]
  obtain ⟨p, x, count⟩ := update_pegged tied.p tied.count few tied.inlier still.2
  exact ⟨p, by rw [x]; exact still.1, by rw [x]; exact still.2, count⟩

theorem Tied.run {k : ℕ} {ekf : ThermalEkf ℝ} (tied : Tied k ekf) {n : ℕ} (few : k + n < 50) :
    Tied (k + n) (final step ekf (.replicate n (.update 22))) := by
  induction n generalizing k ekf with
  | zero => exact tied
  | succ n ih =>
    have later := ih (tied.next (by omega)) (by omega)
    rwa [Nat.add_right_comm] at later

/-- Forty-nine measurements at the bound, and the next one resets the variance of α to a
hundredth while its correlation with the heating responsivity stays. -/
theorem Tied.breaks {ekf : ThermalEkf ℝ} (tied : Tied 49 ekf) :
    ¬ Regular psdFloor (ekf.update 22).p := by
  have regular : Regular psdFloor ekf.p := by
    rw [tied.p]
    exact tiedP_regular (tiedVar_floor (by norm_num))
  rw [update_regular_iff regular, not_not]
  have left (i j : StateIx) : ekf.unexplained 22 i j = tiedP (tiedVar 50) i j :=
    congrFun (congrFun (tied_unexplained tied.p tied.inlier) i) j
  refine ⟨⟨by rw [tied.count], .inr ?_⟩, ⟨?_, .bh, by decide, ?_⟩⟩
  · rw [tied.a, tied.t]
    norm_num
  · rw [left]
    have := tiedVar_pos 50
    simp only [tiedP, Matrix.of_apply]
    linarith
  · rw [left, left]
    norm_num [tiedP, floored, psdFloor]

theorem recovery_breaks :
    ¬ ∀ (data : Option (Payload ℝ)) (calls : List Call),
      Sound (start data) ∧ InBounds (start data).x ∧
        ∀ e ∈ trace step (start data) calls, SoundCall e := by
  intro claim
  have tied : Tied (1 + 48) (final step ((start (some tiedPayload)).update 22.04)
      (.replicate 48 (.update 22))) := first_tied.run (by norm_num)
  have law := (claim (some tiedPayload)
    (.update 22.04 :: (.replicate 48 (.update 22) ++ [.update 22]))).2.2
  have last := law _ (List.mem_cons_of_mem _ (last_mem_trace _ _ _ _))
  exact tied.breaks last.sound.covariance

end ThermalEkf

end Poise
