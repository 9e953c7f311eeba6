import Poise.Properties.ForecastMean
import Poise.Foundation.Trace

/-!
# The forecast in absolute time

The offsets count from the fetch, and a cached curve is asked again from offset zero: what it
answers is its mean over the window that began with the fetch. This is the mean over the
window that begins now at the instant of the fetch, and of a flat curve.
-/
namespace Poise

open PiecewiseLinear Trace

/-! ### The mean of a shifted curve -/

variable {samples : List (ℝ × ℝ)} {horizonMin : ℝ}

theorem sortSamples_shift (s : ℝ) (samples : List (ℝ × ℝ)) :
    sortSamples (shift s samples) = shift s (sortSamples samples) := by
  refine (List.map_insertionSort _ _ _ _ fun a _ b _ => ?_).symm
  rw [Prod.Lex.toLex_le_toLex, Prod.Lex.toLex_le_toLex]
  simp

theorem distinctOffsets_shift {s : ℝ} (distinct : DistinctOffsets samples) :
    DistinctOffsets (shift s samples) := by
  have apart := List.pairwise_map.mp distinct
  refine List.pairwise_map.mpr (List.pairwise_map.mpr (apart.imp fun ne same => ne ?_))
  exact sub_left_injective same

/-- The mean of the shifted samples is the mean of the curve from `s` on. -/
theorem meanForecast_shift (distinct : DistinctOffsets samples) (known : samples ≠ [])
    (positive : 0 < horizonMin) (s fallback : ℝ) :
    meanForecastOutdoor (shift s samples) horizonMin fallback =
      (∫ m in s..s + horizonMin, curve (sortSamples samples) m) / horizonMin := by
  have known' : shift s samples ≠ [] := fun empty => known (List.map_eq_nil_iff.mp empty)
  rw [meanForecast_eq_integral (distinctOffsets_shift distinct) known' positive,
    sortSamples_shift]
  simp only [curve_shift]
  rw [intervalIntegral.integral_comp_add_right, zero_add, add_comm horizonMin]

/-- All samples are equally warm. -/
def EvenSamples (samples : List (ℝ × ℝ)) : Prop := ∃ c, ∀ sample ∈ samples, sample.2 = c

theorem tempAt_even {c : ℝ} (even : ∀ sample ∈ samples, sample.2 = c) (known : samples ≠ [])
    (m : ℝ) : tempAt (sortSamples samples) m = c := by
  have even : ∀ sample ∈ sortSamples samples, sample.2 = c := fun sample member =>
    even sample ((sortSamples_perm samples).mem_iff.mp member)
  have known : sortSamples samples ≠ [] := by
    intro empty
    have perm := sortSamples_perm samples
    rw [empty] at perm
    exact known perm.nil_eq.symm
  rw [tempAt, List.head?_eq_some_head known, List.getLast?_eq_some_getLast known]
  have last := even _ (List.getLast_mem known)
  dsimp only
  split_ifs
  · exact even _ (List.head_mem known)
  · exact last
  · split
    next a b found =>
      obtain ⟨left, right⟩ := List.of_mem_zip (List.mem_of_find?_eq_some found)
      have first := even a left
      have second := even b (List.mem_of_mem_tail right)
      split_ifs
      · exact first
      · simp [first, second]
    next => exact last

/-- A flat curve has one mean over every window. -/
theorem meanForecast_even {c : ℝ} (even : ∀ sample ∈ samples, sample.2 = c) (known : samples ≠ [])
    (positive : 0 < horizonMin) (fallback : ℝ) :
    meanForecastOutdoor samples horizonMin fallback = c := by
  have flat : tempAt (sortSamples samples) = fun _ => c := funext (tempAt_even even known)
  rw [meanForecastOutdoor, if_neg (not_or.mpr ⟨positive.not_ge, known⟩)]
  dsimp only
  rw [flat, trapezoid_const c (breaks_head positive) (breaks_getLast positive), sub_zero,
    mul_div_cancel_right₀ _ positive.ne']

/-! ### The provider over runs -/

abbrev ForecastMoment := Step (ForecastRun ℝ) (ForecastEvent ℝ) (Option (ForecastReply ℝ))

/-- What is answered from a curve is the mean of that curve from the instant of the answer
on: its offsets moved by the minutes since the fetch. -/
def TimeAnchored (e : ForecastMoment) : Prop :=
  ∀ now horizonMin fallback answer reply t0,
    e.input = .call now true horizonMin fallback answer → e.output = some reply →
    e.post.sampledAt = some t0 → t0 ≤ reply.returned → e.post.provider.forecast ≠ [] →
      reply.value = meanForecastOutdoor
        (shift ((reply.returned - t0) / 60.0) e.post.provider.forecast) horizonMin fallback

/-- Where no two samples share an offset this is the mean of the curve through them, over the
minutes from the answer on. -/
def MeanAhead (e : ForecastMoment) : Prop :=
  ∀ now horizonMin fallback answer reply t0,
    e.input = .call now true horizonMin fallback answer → e.output = some reply →
    e.post.sampledAt = some t0 → t0 ≤ reply.returned → e.post.provider.forecast ≠ [] →
      DistinctOffsets e.post.provider.forecast → 0 < horizonMin →
        reply.value =
          (∫ m in (reply.returned - t0) / 60.0..(reply.returned - t0) / 60.0 + horizonMin,
            curve (sortSamples e.post.provider.forecast) m) / horizonMin

theorem TimeAnchored.meanAhead {e : ForecastMoment} (anchored : TimeAnchored e) : MeanAhead e := by
  intro now horizonMin fallback answer reply t0 called replied sampled order known distinct positive
  rw [anchored now horizonMin fallback answer reply t0 called replied sampled order known]
  exact meanForecast_shift distinct known positive _ fallback

/-- A call on a cached curve comes at the instant of the fetch, or asks for no horizon, or the
curve is flat. -/
def InPhase (e : ForecastMoment) : Prop :=
  ∀ now horizonMin fallback answer t0,
    e.input = .call now true horizonMin fallback answer → e.pre.sampledAt = some t0 →
    t0 ≤ now → e.pre.provider.forecast ≠ [] →
      now = t0 ∨ horizonMin ≤ 0 ∨ EvenSamples e.pre.provider.forecast

theorem shift_zero (samples : List (ℝ × ℝ)) : shift 0 samples = samples := by
  simp [shift]

theorem meanForecast_of_nonpos (none : horizonMin ≤ 0) (samples : List (ℝ × ℝ)) (fallback : ℝ) :
    meanForecastOutdoor samples horizonMin fallback = fallback := by
  simp [meanForecastOutdoor, none]

/-- A call on a cached curve answers at once, from the offsets as they are. -/
theorem forecastStep_warm (run : ForecastRun ℝ) (known : run.provider.forecast ≠ [])
    (now horizonMin fallback : ℝ) (answer : FetchAnswer ℝ) :
    let after := forecastStep run (.call now true horizonMin fallback answer)
    after.1.provider.forecast = run.provider.forecast ∧ after.1.sampledAt = run.sampledAt ∧
      after.2 = some ⟨meanForecastOutdoor run.provider.forecast horizonMin fallback, now⟩ := by
  have warm : run.provider.forecast.isEmpty = false := by simpa using known
  simp only [forecastStep, ForecastProvider.meanOutdoor, warm, Bool.and_false, not_true_eq_false,
    if_false, Bool.false_eq_true]
  have kept : (if run.provider.due now then run.provider.startRefresh now
      else run.provider).forecast = run.provider.forecast := by
    rw [ForecastProvider.startRefresh]
    split
    next => split <;> rfl
    next => rfl
  exact ⟨kept, trivial, by rw [kept]⟩

/-- A call without a curve waits for one, or has none to answer from. -/
theorem forecastStep_cold {run : ForecastRun ℝ} (unknown : run.provider.forecast = [])
    (now horizonMin fallback : ℝ) (answer : FetchAnswer ℝ) :
    let after := forecastStep run (.call now true horizonMin fallback answer)
    after.1.provider.forecast = [] ∨
      after.1.sampledAt = some answer.finished ∧
        after.2 = some ⟨meanForecastOutdoor after.1.provider.forecast horizonMin fallback,
          answer.finished⟩ := by
  simp only [forecastStep, ForecastProvider.meanOutdoor, unknown, List.isEmpty_nil, Bool.and_true,
    Bool.true_and, not_true_eq_false, if_false]
  cases due : run.provider.due now with
  | false => exact .inl unknown
  | true =>
    cases entries : answer.entries with
    | none => exact .inl (by simp [ForecastProvider.fetch, entries, unknown])
    | some list => exact .inr (by simp [FetchAnswer.sampledAt, entries])

theorem anchored_of_inPhase (run : ForecastRun ℝ) (event : ForecastEvent ℝ)
    (inPhase : InPhase (Step.of forecastStep run event)) :
    TimeAnchored (Step.of forecastStep run event) := by
  intro now horizonMin fallback answer reply t0 called replied sampled order known
  obtain rfl : event = .call now true horizonMin fallback answer := called
  by_cases cached : run.provider.forecast = []
  · rcases forecastStep_cold cached now horizonMin fallback answer with none | ⟨at', value⟩
    · exact absurd none known
    · cases value.symm.trans replied
      cases at'.symm.trans sampled
      rw [sub_self, zero_div, shift_zero]
      rfl
  · obtain ⟨kept, since, value⟩ := forecastStep_warm _ cached now horizonMin fallback answer
    cases value.symm.trans replied
    rw [Step.of_post, kept]
    rw [Step.of_post, since] at sampled
    rcases inPhase now horizonMin fallback answer t0 rfl sampled order cached with
      fresh | none | ⟨c, even⟩
    · rw [fresh, sub_self, zero_div, shift_zero]
    · rw [meanForecast_of_nonpos none, meanForecast_of_nonpos none]
    · rcases le_or_gt horizonMin 0 with none | positive
      · rw [meanForecast_of_nonpos none, meanForecast_of_nonpos none]
      · have moved : ∀ sample ∈ shift ((now - t0) / 60.0) run.provider.forecast,
            sample.2 = c := by
          intro sample member
          obtain ⟨k, inside, rfl⟩ := List.mem_map.mp member
          exact even k inside
        have known' : shift ((now - t0) / 60.0) run.provider.forecast ≠ [] := fun empty =>
          cached (List.map_eq_nil_iff.mp empty)
        exact (meanForecast_even even cached positive _).trans
          (meanForecast_even moved known' positive _).symm

/-- Over every run of calls, fetches and failures whose calls are in phase, all answers are
anchored. -/
theorem forecast_anchored (start : ForecastRun ℝ) (events : List (ForecastEvent ℝ))
    (inPhase : ∀ e ∈ trace forecastStep start events, InPhase e) :
    ∀ e ∈ trace forecastStep start events, TimeAnchored e ∧ MeanAhead e := by
  intro e member
  have here := inPhase e member
  rw [step_of_mem _ member] at here ⊢
  have anchored := anchored_of_inPhase _ _ here
  exact ⟨anchored, anchored.meanAhead⟩

/-- One temperature for two hours. -/
private def level (t : ℝ) : FetchAnswer ℝ :=
  ⟨0, some [⟨some 0, some t⟩, ⟨some 7200, some t⟩]⟩

private def levelCalls (t : ℝ) : List (ForecastEvent ℝ) :=
  [.call 0 true 60.0 5.0 (level t), .call 600.0 true 60.0 5.0 (level t)]

private theorem level_cached (t : ℝ) :
    (forecastStep {} (.call 0 true 60.0 5.0 (level t))).1.provider.forecast =
      [(0, t), (120, t)] := by
  norm_num [forecastStep, ForecastProvider.meanOutdoor, ForecastProvider.due,
    ForecastProvider.fetch, level, forecastSamplesFromResponse, ForecastEntry.sample,
    List.filterMap_cons]

private theorem level_inPhase (t : ℝ) :
    ∀ e ∈ trace forecastStep {} (levelCalls t), InPhase e := by
  intro e member now horizonMin fallback answer t0 _ _ _ known
  simp only [levelCalls, trace, List.mem_cons, List.not_mem_nil, or_false] at member
  rcases member with rfl | rfl
  · exact absurd rfl known
  · refine .inr (.inr ⟨t, ?_⟩)
    rw [Step.of_pre, level_cached]
    simp

/-- Ten minutes after the fetch a flat curve still answers its mean. -/
theorem level_anchored :
    (∀ e ∈ trace forecastStep {} (levelCalls 7), InPhase e) ∧
      ∀ e ∈ trace forecastStep {} (levelCalls 7), TimeAnchored e ∧ MeanAhead e :=
  ⟨level_inPhase 7, forecast_anchored {} (levelCalls 7) (level_inPhase 7)⟩

/-- A curve that rises by a tenth of a degree a minute for two hours. -/
private def rising : FetchAnswer ℝ :=
  ⟨0, some [⟨some 0, some 0⟩, ⟨some 7200, some 12⟩]⟩

private def risingCalls : List (ForecastEvent ℝ) :=
  [.call 0 true 60.0 5.0 rising, .call 600.0 true 60.0 5.0 rising]

private def risen : ForecastRun ℝ :=
  ⟨{ forecast := [(0, 0), (120, 12)], forecastAt := some 0 }, some 0⟩

private theorem rising_cached : (forecastStep {} (.call 0 true 60.0 5.0 rising)).1 = risen := by
  norm_num [forecastStep, ForecastProvider.meanOutdoor, ForecastProvider.due, risen,
    ForecastProvider.fetch, rising, forecastSamplesFromResponse, ForecastEntry.sample,
    FetchAnswer.sampledAt, List.filterMap_cons]

private theorem rising_means :
    meanForecastOutdoor (K := ℝ) [(0, 0), (120, 12)] 60.0 5.0 = 3 ∧
      meanForecastOutdoor (K := ℝ) [(-10, 0), (110, 12)] 60.0 5.0 = 4 := by
  constructor <;>
  · rw [meanForecastOutdoor, if_neg (by simp; norm_num)]
    norm_num [sortSamples, List.orderedInsert, tempAt, breaks, trapezoid,
      Prod.Lex.toLex_le_toLex, List.dedup_cons_of_notMem]

/-- Ten minutes after the fetch the mean of the coming hour is 4 °C. The answer is 3 °C, the
mean of the hour that began with the fetch. -/
theorem forecast_stays_relative :
    ¬ ∀ e ∈ trace forecastStep {} risingCalls, TimeAnchored e := by
  intro law
  have second := law (Step.of forecastStep (forecastStep {} (.call 0 true 60.0 5.0 rising)).1
    (.call 600.0 true 60.0 5.0 rising)) (List.mem_cons_of_mem _ List.mem_cons_self)
  rw [rising_cached] at second
  obtain ⟨kept, since, value⟩ := forecastStep_warm risen (List.cons_ne_nil _ _) 600.0 60.0 5.0
    rising
  have equal := second 600.0 60.0 5.0 rising _ 0 rfl value since (by norm_num) (by
    rw [Step.of_post, kept]
    exact List.cons_ne_nil _ _)
  rw [Step.of_post, kept] at equal
  have moved : shift ((600.0 - 0) / 60.0) risen.provider.forecast = [(-10, 0), (110, 12)] := by
    norm_num [shift, risen]
  have three : (3 : ℝ) = 4 :=
    rising_means.1.symm.trans (equal.trans (by rw [moved]; exact rising_means.2))
  norm_num at three

end Poise
