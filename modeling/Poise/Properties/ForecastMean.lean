import Poise.Control.Forecast

/-!
# The forecast mean

The trapezoid sum is the integral of the curve over the horizon, exactly: its breaks skip no
sample of the window, and between neighbouring breaks the curve is affine. The curve is the
one that interpolates the samples, so their order plays no part.
-/
namespace Poise

open PiecewiseLinear

/-! ### The curve of the samples -/

section Curve

variable {K : Type*} [LinearOrder K]

/-- No two samples at one offset. -/
def DistinctOffsets (samples : List (K × K)) : Prop := (samples.map Prod.fst).Nodup

theorem sortSamples_perm (samples : List (K × K)) : (sortSamples samples).Perm samples :=
  List.perm_insertionSort _ samples

theorem sortSamples_ascending {samples : List (K × K)} (distinct : DistinctOffsets samples) :
    Ascending (sortSamples samples) := by
  have sorted := List.pairwise_insertionSort (fun a b : K × K => toLex a ≤ toLex b) samples
  have apart : (sortSamples samples).Pairwise fun a b => a.1 ≠ b.1 := by
    have nodup : ((sortSamples samples).map Prod.fst).Nodup :=
      ((sortSamples_perm samples).map _).nodup_iff.mpr distinct
    exact List.pairwise_map.mp nodup
  refine (sorted.and apart).imp fun both => ?_
  rcases Prod.Lex.toLex_le_toLex.mp both.1 with below | ⟨tie, -⟩
  · exact below
  · exact absurd tie both.2

variable [Field K]

/-- The segment search stops at the segment of the curve. -/
theorem find_segment {pts : List (K × K)} (ascending : Ascending pts) {first last : K × K}
    (begins : pts.head? = some first) (ends : pts.getLast? = some last) {m : K}
    (above : first.1 ≤ m) (below : m < last.1) :
    ∃ a b, (pts.zip pts.tail).find? (fun pair => pair.1.1 ≤ m && m ≤ pair.2.1) = some (a, b) ∧
      a.1 < b.1 ∧ curve pts m = chord a b m := by
  induction pts generalizing first with
  | nil => cases begins
  | cons a rest ih =>
    obtain ⟨lower, tail⟩ := List.pairwise_cons.mp ascending
    obtain rfl := Option.some.inj begins
    cases rest with
    | nil =>
      obtain rfl := Option.some.inj ends
      exact absurd above below.not_ge
    | cons b rest =>
      have apart := lower b List.mem_cons_self
      rw [List.tail_cons, List.zip_cons_cons]
      by_cases here : m ≤ b.1
      · refine ⟨a, b, ?_, apart, curve_cons_of_le above here rest⟩
        rw [List.find?_cons_of_pos]
        simp [above, here]
      · have past := not_le.mp here
        rw [List.getLast?_cons_cons] at ends
        obtain ⟨c, d, found, order, value⟩ := ih tail rfl ends past.le
        refine ⟨c, d, ?_, order, ?_⟩
        · rw [List.find?_cons_of_neg]
          · exact found
          · simp [here]
        · rw [curve_cons_of_ge apart past.le, value]

theorem tempAt_eq_curve {pts : List (K × K)} (ascending : Ascending pts) (m : K) :
    tempAt pts m = curve pts m := by
  cases pts with
  | nil => rfl
  | cons first rest =>
    obtain ⟨last, ends⟩ : ∃ last, (first :: rest).getLast? = some last :=
      ⟨_, List.getLast?_eq_some_getLast (List.cons_ne_nil _ _)⟩
    simp only [tempAt, List.head?_cons, ends]
    split
    next before => rw [curve_of_le_head before]
    next after =>
      split
      next beyond => rw [curve_of_last_le ascending ends beyond]
      next within =>
        obtain ⟨a, b, found, order, value⟩ := find_segment ascending List.head?_cons ends
          (not_le.mp after).le (not_le.mp within)
        rw [found, value]
        simp only [if_neg order.ne', chord]

/-! ### The breaks -/

theorem mem_breaks {pts : List (K × K)} {horizonMin x : K} :
    x ∈ breaks pts horizonMin ↔
      x = 0 ∨ x = horizonMin ∨ (∃ k ∈ pts, k.1 = x) ∧ 0 < x ∧ x < horizonMin := by
  simp [breaks, List.mem_insertionSort]

theorem breaks_sorted (pts : List (K × K)) (horizonMin : K) :
    (breaks pts horizonMin).Pairwise (· ≤ ·) :=
  List.pairwise_insertionSort _ _

theorem breaks_within {pts : List (K × K)} {horizonMin x : K} (positive : 0 < horizonMin)
    (member : x ∈ breaks pts horizonMin) : 0 ≤ x ∧ x ≤ horizonMin := by
  rcases mem_breaks.mp member with rfl | rfl | ⟨-, above, below⟩
  · exact ⟨le_rfl, positive.le⟩
  · exact ⟨positive.le, le_rfl⟩
  · exact ⟨above.le, below.le⟩

theorem breaks_head {pts : List (K × K)} {horizonMin : K} (positive : 0 < horizonMin) :
    (breaks pts horizonMin).head? = some 0 := by
  have zero : (0 : K) ∈ breaks pts horizonMin := mem_breaks.mpr (.inl rfl)
  have within : ∀ x ∈ breaks pts horizonMin, 0 ≤ x ∧ x ≤ horizonMin :=
    fun _ => breaks_within positive
  have sorted := breaks_sorted pts horizonMin
  cases h : breaks pts horizonMin with
  | nil =>
    rw [h] at zero
    cases zero
  | cons x rest =>
    rw [h] at zero sorted within
    have low := (within x List.mem_cons_self).1
    rcases List.mem_cons.mp zero with same | later
    · rw [List.head?_cons, same]
    · have above := (List.pairwise_cons.mp sorted).1 0 later
      rw [List.head?_cons, le_antisymm above low]

theorem breaks_getLast {pts : List (K × K)} {horizonMin : K} (positive : 0 < horizonMin) :
    (breaks pts horizonMin).getLast? = some horizonMin := by
  have final : horizonMin ∈ breaks pts horizonMin := mem_breaks.mpr (.inr (.inl rfl))
  have within : ∀ x ∈ breaks pts horizonMin, 0 ≤ x ∧ x ≤ horizonMin :=
    fun _ => breaks_within positive
  have sorted := breaks_sorted pts horizonMin
  rcases List.eq_nil_or_concat (breaks pts horizonMin) with h | ⟨front, x, h⟩
  · rw [h] at final
    cases final
  · rw [List.concat_eq_append] at h
    rw [h] at final sorted within
    have high := (within x (by simp)).2
    rw [h, List.getLast?_concat]
    rcases List.mem_append.mp final with earlier | same
    · have below := (List.pairwise_append.mp sorted).2.2 _ earlier x (by simp)
      rw [le_antisymm high below]
    · rw [List.mem_singleton.mp same]

/-- No knot lies between neighbouring breaks. -/
theorem breaks_clear {pts : List (K × K)} {horizonMin x0 x1 : K} (positive : 0 < horizonMin)
    (neighbours : (x0, x1) ∈ (breaks pts horizonMin).zip (breaks pts horizonMin).tail)
    {k : K × K} (member : k ∈ pts) : ¬ (x0 < k.1 ∧ k.1 < x1) := by
  rintro ⟨above, below⟩
  obtain ⟨left, right⟩ := List.of_mem_zip neighbours
  have low := (breaks_within positive left).1
  have high := (breaks_within positive (List.mem_of_mem_tail right)).2
  have inside : k.1 ∈ breaks pts horizonMin :=
    mem_breaks.mpr (.inr (.inr ⟨⟨k, member, rfl⟩, low.trans_lt above, below.trans_le high⟩))
  exact not_between (breaks_sorted pts horizonMin) neighbours inside ⟨above, below⟩

end Curve

/-! ### The mean -/

variable {samples : List (ℝ × ℝ)} {horizonMin : ℝ}

/-- The trapezoid sum is the mean of the curve, exactly. -/
theorem meanForecast_eq_integral (distinct : DistinctOffsets samples) (known : samples ≠ [])
    (positive : 0 < horizonMin) (fallback : ℝ) :
    meanForecastOutdoor samples horizonMin fallback =
      (∫ m in (0)..horizonMin, curve (sortSamples samples) m) / horizonMin := by
  have ascending := sortSamples_ascending distinct
  have same : tempAt (sortSamples samples) = curve (sortSamples samples) :=
    funext (tempAt_eq_curve ascending)
  have area := trapezoid_eq_integral (curve_continuous ascending)
    (breaks_sorted (sortSamples samples) horizonMin) (breaks_head positive)
    (breaks_getLast positive) fun a b neighbours =>
      curve_affine ascending fun k member => breaks_clear positive neighbours member
  simp only [meanForecastOutdoor, positive.not_ge, known, or_self, if_false, same, area]

/-! ### The curve through the samples in any order -/

theorem sortSamples_ne_nil (known : samples ≠ []) : sortSamples samples ≠ [] := fun empty =>
  known (List.perm_nil.mp (empty ▸ (sortSamples_perm samples).symm))

theorem interpolates_sortSamples (distinct : DistinctOffsets samples) :
    Interpolates samples (curve (sortSamples samples)) :=
  (curve_interpolates (sortSamples_ascending distinct)).perm (sortSamples_perm samples)

theorem meanForecast_of_interpolates (distinct : DistinctOffsets samples) (known : samples ≠ [])
    (positive : 0 < horizonMin) (fallback : ℝ) {f : ℝ → ℝ} (through : Interpolates samples f) :
    meanForecastOutdoor samples horizonMin fallback =
      (∫ m in (0)..horizonMin, f m) / horizonMin := by
  have same : f = curve (sortSamples samples) :=
    (through.perm (sortSamples_perm samples).symm).eq_curve (sortSamples_ascending distinct)
      (sortSamples_ne_nil known)
  rw [meanForecast_eq_integral distinct known positive, same]

theorem meanForecast_perm {permuted : List (ℝ × ℝ)} (perm : permuted.Perm samples)
    (distinct : DistinctOffsets samples) (known : samples ≠ []) (positive : 0 < horizonMin)
    (fallback : ℝ) :
    meanForecastOutdoor permuted horizonMin fallback =
      meanForecastOutdoor samples horizonMin fallback := by
  have distinct' : DistinctOffsets permuted := (perm.map _).nodup_iff.mpr distinct
  have known' : permuted ≠ [] := fun empty => known (List.nil_perm.mp (empty ▸ perm))
  have through := interpolates_sortSamples distinct
  rw [meanForecast_of_interpolates distinct known positive fallback through,
    meanForecast_of_interpolates distinct' known' positive fallback (through.perm perm.symm)]

theorem meanForecast_mem_Icc (distinct : DistinctOffsets samples) (known : samples ≠ [])
    (positive : 0 < horizonMin) (fallback : ℝ) {lo hi : ℝ}
    (values : ∀ s ∈ samples, s.2 ∈ Set.Icc lo hi) :
    meanForecastOutdoor samples horizonMin fallback ∈ Set.Icc lo hi := by
  have between (m : ℝ) : curve (sortSamples samples) m ∈ Set.Icc lo hi :=
    curve_mem_Icc (sortSamples_ne_nil known)
      (fun k inside => values k ((sortSamples_perm samples).subset inside)) m
  have integrable : IntervalIntegrable (curve (sortSamples samples)) MeasureTheory.volume 0
      horizonMin :=
    (curve_continuous (sortSamples_ascending distinct)).intervalIntegrable _ _
  rw [meanForecast_eq_integral distinct known positive, Set.mem_Icc, le_div_iff₀ positive,
    div_le_iff₀ positive]
  constructor
  · have lower := intervalIntegral.integral_mono_on positive.le intervalIntegrable_const integrable
      fun m _ => (between m).1
    rwa [intervalIntegral.integral_const, smul_eq_mul, sub_zero, mul_comm] at lower
  · have upper := intervalIntegral.integral_mono_on positive.le integrable intervalIntegrable_const
      fun m _ => (between m).2
    rwa [intervalIntegral.integral_const, smul_eq_mul, sub_zero, mul_comm] at upper

/-- The mean of the samples is that of the one piecewise-linear curve through them, flat
outside. Their order does not matter to it, and it stays between their values. -/
theorem mean_forecast_outdoor_exact (distinct : DistinctOffsets samples) (known : samples ≠ [])
    (positive : 0 < horizonMin) (fallback : ℝ) :
    (∃ f, Interpolates samples f) ∧
      (∀ f, Interpolates samples f → meanForecastOutdoor samples horizonMin fallback =
        (∫ m in (0)..horizonMin, f m) / horizonMin) ∧
      (∀ permuted : List (ℝ × ℝ), permuted.Perm samples →
        meanForecastOutdoor permuted horizonMin fallback =
          meanForecastOutdoor samples horizonMin fallback) ∧
      ∀ lo hi, (∀ s ∈ samples, lo ≤ s.2 ∧ s.2 ≤ hi) →
        lo ≤ meanForecastOutdoor samples horizonMin fallback ∧
          meanForecastOutdoor samples horizonMin fallback ≤ hi :=
  ⟨⟨_, interpolates_sortSamples distinct⟩,
    fun _ => meanForecast_of_interpolates distinct known positive fallback,
    fun _ perm => meanForecast_perm perm distinct known positive fallback,
    fun _ _ values => meanForecast_mem_Icc distinct known positive fallback values⟩

/-- A sample from before the window and one inside it, asked in both orders. -/
theorem mean_forecast_outdoor_two_samples :
    meanForecastOutdoor (K := ℝ) [(30.0, 4.0), (-10.0, 0.0)] 60.0 5.0 =
        meanForecastOutdoor [(-10.0, 0.0), (30.0, 4.0)] 60.0 5.0 ∧
      0.0 ≤ meanForecastOutdoor (K := ℝ) [(-10.0, 0.0), (30.0, 4.0)] 60.0 5.0 ∧
      meanForecastOutdoor (K := ℝ) [(-10.0, 0.0), (30.0, 4.0)] 60.0 5.0 ≤ 4.0 := by
  have distinct : DistinctOffsets (K := ℝ) [(-10.0, 0.0), (30.0, 4.0)] := by
    norm_num [DistinctOffsets]
  obtain ⟨-, -, order, bounds⟩ :=
    mean_forecast_outdoor_exact distinct (List.cons_ne_nil _ _) (by norm_num : (0 : ℝ) < 60.0) 5.0
  exact ⟨order _ (List.Perm.swap _ _ _), bounds 0.0 4.0 (by norm_num)⟩

end Poise
