import Poise.Control.ReferenceOffset
import Poise.Foundation.ExponentialMean
import Poise.Properties.EkfCovariance

/-!
# When the reference offset is trusted

The estimate tells how jumpy the actuator's sensor is by a weighted mean of the steps it saw, and
that mean starts from zero. So a trusted sensor is not one whose every step was small: the steps
must have been small enough, often enough, for the mean to stay low over the warm-up. What that
rules out is made exact here, over runs with restarts at any point.
-/
namespace Poise

open ExponentialMean

/-! ### The run and the steps it saw -/

inductive OffsetEvent where
  | tick (t : OffsetTick ℝ)
  -- The process ends and the saved estimate is read back.
  | restart

/-- The clock's anchor is not saved. -/
noncomputable def OffsetRuntime.restart (rt : OffsetRuntime ℝ) : OffsetRuntime ℝ where
  refOffset := rt.refOffset.map OffsetEstimate.restored

noncomputable def OffsetRuntime.step (tickMin : ℝ) (rt : OffsetRuntime ℝ) :
    OffsetEvent → OffsetRuntime ℝ
  | .tick t => rt.fold tickMin t
  | .restart => rt.restart

structure OffsetSample where
  dt : ℝ
  -- How far the raw offset moved.
  step : ℝ

/-- The interval a tick covers. -/
noncomputable def offsetInterval (tickMin : ℝ) (rt : OffsetRuntime ℝ) (t : OffsetTick ℝ) : ℝ :=
  max 0 (cappedElapsedMin rt.refLastMono t.now tickMin)

/-- The step a tick adds to an estimate, if it adds any. -/
noncomputable def offsetSample (tickMin : ℝ) (rt : OffsetRuntime ℝ) (t : OffsetTick ℝ) :
    Option OffsetSample :=
  match t.conditioning, t.actuator, rt.refOffset with
  | true, some actuator, some e => some ⟨offsetInterval tickMin rt t, |actuator - t.room - e.raw|⟩
  | _, _, _ => none

noncomputable def OffsetEvent.sample (tickMin : ℝ) (rt : OffsetRuntime ℝ) :
    OffsetEvent → Option OffsetSample
  | .tick t => offsetSample tickMin rt t
  | .restart => none

/-- The runtime after an event, and the steps so far with the newest first. -/
noncomputable def observeOffset (tickMin : ℝ) (run : OffsetRuntime ℝ × List OffsetSample)
    (ev : OffsetEvent) : OffsetRuntime ℝ × List OffsetSample :=
  (run.1.step tickMin ev, (ev.sample tickMin run.1).toList ++ run.2)

noncomputable def offsetRun (tickMin : ℝ) (events : List OffsetEvent) :
    OffsetRuntime ℝ × List OffsetSample :=
  events.foldl (observeOffset tickMin) ({}, [])

/-- What is left of the past after an interval, and the sample. -/
noncomputable def offsetFold (s : OffsetSample) : ℝ × OffsetSample := (Real.exp (-s.dt / 30), s)

/-- The mean of the steps, from a seed of zero. -/
noncomputable def meanStep (samples : List OffsetSample) : ℝ :=
  mean 0 ((samples.map offsetFold).map fun fold => (fold.1, fold.2.step))

noncomputable def steppedMinutes (samples : List OffsetSample) : ℝ := (samples.map (·.dt)).sum

/-! ### The means -/

theorem meanStep_cons (s : OffsetSample) (samples : List OffsetSample) :
    meanStep (s :: samples) = blend (Real.exp (-s.dt / 30)) (meanStep samples) s.step := rfl

theorem offsetFold_weight {samples : List OffsetSample} (forward : ∀ s ∈ samples, 0 ≤ s.dt) :
    ∀ fold ∈ samples.map offsetFold, 0 ≤ fold.1 ∧ fold.1 ≤ 1 := by
  intro fold member
  obtain ⟨s, taken, rfl⟩ := List.mem_map.mp member
  refine ⟨(Real.exp_pos _).le, Real.exp_le_one_iff.mpr ?_⟩
  have interval := forward s taken
  linarith

theorem residue_offsetFold (samples : List OffsetSample) :
    residue (samples.map offsetFold) = Real.exp (-steppedMinutes samples / 30) := by
  induction samples with
  | nil => simp [residue, steppedMinutes]
  | cons s samples ih =>
    rw [List.map_cons, offsetFold, residue, ih, ← Real.exp_add]
    congr 1
    simp only [steppedMinutes, List.map_cons, List.sum_cons]
    ring

/-- Steps of at least `d` lift the mean as far as they outweigh the seed. -/
theorem le_meanStep {samples : List OffsetSample} {d : ℝ} (forward : ∀ s ∈ samples, 0 ≤ s.dt)
    (jumps : ∀ s ∈ samples, d ≤ s.step) :
    d * (1 - Real.exp (-steppedMinutes samples / 30)) ≤ meanStep samples := by
  have weights := offsetFold_weight forward
  have below : ∀ fold ∈ samples.map offsetFold, d * 1 ≤ fold.2.step := by
    intro fold member
    obtain ⟨s, taken, rfl⟩ := List.mem_map.mp member
    rw [mul_one]
    exact jumps s taken
  calc d * (1 - Real.exp (-steppedMinutes samples / 30))
      = d * sampled (fun _ => 1) (samples.map offsetFold) := by
        rw [sampled_one, residue_offsetFold]
    _ = sampled (fun _ => d * 1) (samples.map offsetFold) := (sampled_const_mul d _ _).symm
    _ ≤ sampled (·.step) (samples.map offsetFold) := sampled_mono weights below
    _ = meanStep samples := by
        rw [meanStep, mean_eq_residue]
        ring

theorem meanStep_le {samples : List OffsetSample} {d : ℝ} (bound : 0 ≤ d)
    (forward : ∀ s ∈ samples, 0 ≤ s.dt) (calm : ∀ s ∈ samples, s.step ≤ d) :
    meanStep samples ≤ d := by
  induction samples with
  | nil => exact bound
  | cons s samples ih =>
    have now := offsetFold_weight forward (offsetFold s) (by simp)
    have earlier := ih (fun e member => forward e (by simp [member]))
      (fun e member => calm e (by simp [member]))
    rw [meanStep_cons]
    exact blend_le now.1 now.2 earlier (calm s (by simp))

/-! ### One event -/

theorem offsetGain_eq (dt : ℝ) : offsetGain dt = 1 - Real.exp (-dt / 30) := by
  simp only [offsetGain, offsetHorizonMin, ExpSqrt.exp]
  norm_num

theorem clampOffset_abs (v : ℝ) : |clampOffset v| ≤ 2 := by
  have cap : (offsetCapK : ℝ) = 2 := by norm_num [offsetCapK]
  rw [clampOffset, cap, abs_le]
  exact ⟨le_min (by norm_num) (le_max_left _ _), min_le_left _ _⟩

/-- What an estimate says of the steps behind it. -/
structure StepsTo (tickMin : ℝ) (samples : List OffsetSample) (e : OffsetEstimate ℝ) : Prop where
  capped : |e.offset| ≤ 2
  deviation : e.deviation = meanStep samples
  -- The first sample has an interval and no step.
  minutes : e.minutes ≤ 2 * tickMin + steppedMinutes samples
  trusted : e.trusted = true → 30 ≤ e.minutes ∧ e.deviation ≤ 0.6

/-- What holds of every run and the steps it saw. -/
structure OffsetInv (tickMin : ℝ) (run : OffsetRuntime ℝ × List OffsetSample) : Prop where
  forward : ∀ s ∈ run.2, 0 ≤ s.dt
  unseen : run.1.refOffset = none → run.2 = []
  seen : ∀ e, run.1.refOffset = some e → StepsTo tickMin run.2 e

/-- The estimate after one more step. -/
theorem fold_sample {tickMin : ℝ} {rt : OffsetRuntime ℝ} {t : OffsetTick ℝ} {s : OffsetSample}
    (sampled : offsetSample tickMin rt t = some s) :
    ∃ e e', rt.refOffset = some e ∧ (rt.fold tickMin t).refOffset = some e' ∧ 0 ≤ s.dt ∧
      |e'.offset| ≤ 2 ∧ e'.minutes = e.minutes + s.dt ∧
      e'.deviation = blend (Real.exp (-s.dt / 30)) e.deviation s.step ∧
      (e'.trusted = true ↔ 30 ≤ e'.minutes ∧ e'.deviation ≤ 0.6) := by
  cases conditioning : t.conditioning with
  | false => simp [offsetSample, conditioning] at sampled
  | true =>
    cases actuator : t.actuator with
    | none => simp [offsetSample, conditioning, actuator] at sampled
    | some reading =>
      cases known : rt.refOffset with
      | none => simp [offsetSample, conditioning, actuator, known] at sampled
      | some e =>
        simp only [offsetSample, conditioning, actuator, known, Option.some.injEq] at sampled
        subst sampled
        have warm : (offsetWarmupMin : ℝ) = 30 := by norm_num [offsetWarmupMin]
        have next : (rt.fold tickMin t).refOffset = updateOffset (some e) (some reading)
            (some t.room) (cappedElapsedMin rt.refLastMono t.now tickMin) true := by
          rw [OffsetRuntime.fold, conditioning, actuator, known]
        refine ⟨e, _, rfl, next, le_max_left _ _, clampOffset_abs _, rfl, ?_, ?_⟩
        · show (1 - offsetGain _) * _ + offsetGain _ * _ = _
          rw [offsetGain_eq, blend, offsetInterval]
          ring
        · rw [Bool.and_eq_true, decide_eq_true_iff, decide_eq_true_iff, warm]
          rfl

/-- A tick without a step takes the first sample or leaves the estimate. -/
theorem fold_no_sample {tickMin : ℝ} {rt : OffsetRuntime ℝ} {t : OffsetTick ℝ}
    (skipped : offsetSample tickMin rt t = none) :
    (rt.fold tickMin t).refOffset = rt.refOffset ∨
      rt.refOffset = none ∧ ∃ e, (rt.fold tickMin t).refOffset = some e ∧ |e.offset| ≤ 2 ∧
        e.deviation = 0 ∧ e.minutes = offsetInterval tickMin rt t ∧ e.trusted = false := by
  cases conditioning : t.conditioning with
  | false =>
    left
    simp only [OffsetRuntime.fold, updateOffset, conditioning]
  | true =>
    cases actuator : t.actuator with
    | none =>
      left
      simp only [OffsetRuntime.fold, updateOffset, conditioning, actuator]
    | some reading =>
      cases known : rt.refOffset with
      | some e => simp [offsetSample, conditioning, actuator, known] at skipped
      | none =>
        right
        have first : (rt.fold tickMin t).refOffset = updateOffset none (some reading)
            (some t.room) (cappedElapsedMin rt.refLastMono t.now tickMin) true := by
          rw [OffsetRuntime.fold, conditioning, actuator, known]
        exact ⟨rfl, _, first, clampOffset_abs _, rfl, rfl, rfl⟩

theorem offsetInterval_le {tickMin : ℝ} (positive : 0 ≤ tickMin) (rt : OffsetRuntime ℝ)
    (t : OffsetTick ℝ) : offsetInterval tickMin rt t ≤ 2 * tickMin := by
  have two : (2.0 : ℝ) = 2 := by norm_num
  apply max_le (by linarith)
  unfold cappedElapsedMin
  cases rt.refLastMono with
  | none =>
    show tickMin ≤ 2 * tickMin
    linarith
  | some last =>
    show min _ (2.0 * tickMin) ≤ _
    rw [two]
    exact min_le_right _ _

/-- One event keeps the invariant. -/
theorem offsetInv_step {tickMin : ℝ} (positive : 0 ≤ tickMin)
    {run : OffsetRuntime ℝ × List OffsetSample} (inv : OffsetInv tickMin run) (ev : OffsetEvent) :
    OffsetInv tickMin (observeOffset tickMin run ev) := by
  obtain ⟨rt, samples⟩ := run
  obtain ⟨forward, unseen, seen⟩ := inv
  cases ev with
  | restart =>
    refine ⟨forward, fun missing => unseen (Option.map_eq_none_iff.mp missing), ?_⟩
    intro e restored
    obtain ⟨saved, known, rfl⟩ := Option.map_eq_some_iff.mp restored
    have steps := seen saved known
    exact ⟨steps.capped, steps.deviation, steps.minutes, fun trusted => nomatch trusted⟩
  | tick t =>
    cases taken : offsetSample tickMin rt t with
    | none =>
      have history : (observeOffset tickMin (rt, samples) (.tick t)).2 = samples := by
        simp only [observeOffset, OffsetEvent.sample, taken, Option.toList_none, List.nil_append]
      constructor
      · rw [history]
        exact forward
      · intro missing
        rw [history]
        obtain kept | ⟨-, e, first, -⟩ := fold_no_sample taken
        · exact unseen (kept ▸ missing)
        · exact absurd (first.symm.trans missing) (by simp)
      · intro e known
        rw [history]
        obtain kept | ⟨nothing, e', first, capped, still, opening, untrusted⟩ :=
          fold_no_sample taken
        · exact seen e (kept ▸ known)
        · obtain rfl : e' = e := Option.some.inj (first.symm.trans known)
          have empty : samples = [] := unseen nothing
          have interval := offsetInterval_le positive rt t
          subst empty
          refine ⟨capped, still, ?_, fun trusted => ?_⟩
          · rw [opening, steppedMinutes, List.map_nil, List.sum_nil]
            linarith
          · rw [untrusted] at trusted
            exact nomatch trusted
    | some s =>
      obtain ⟨e, e', known, next, interval, capped, minutes, deviation, trusted⟩ :=
        fold_sample taken
      have history : (observeOffset tickMin (rt, samples) (.tick t)).2 = s :: samples := by
        simp only [observeOffset, OffsetEvent.sample, taken, Option.toList_some,
          List.singleton_append]
      have steps := seen e known
      constructor
      · rw [history]
        intro sample member
        obtain rfl | member := List.mem_cons.mp member
        · exact interval
        · exact forward sample member
      · intro missing
        exact absurd (next.symm.trans missing) (by simp)
      · intro found same
        obtain rfl : e' = found := Option.some.inj (next.symm.trans same)
        rw [history]
        refine ⟨capped, ?_, ?_, trusted.mp⟩
        · rw [deviation, steps.deviation, meanStep_cons]
        · have before := steps.minutes
          rw [minutes, steppedMinutes, List.map_cons, List.sum_cons]
          rw [steppedMinutes] at before
          linarith

theorem offsetInv_run {tickMin : ℝ} (positive : 0 ≤ tickMin) (events : List OffsetEvent) :
    OffsetInv tickMin (offsetRun tickMin events) := by
  have start : OffsetInv tickMin (({}, []) : OffsetRuntime ℝ × List OffsetSample) := by
    constructor <;> simp
  have keeps : ∀ run, OffsetInv tickMin run →
      OffsetInv tickMin (events.foldl (observeOffset tickMin) run) := by
    induction events with
    | nil => exact fun _ inv => inv
    | cons ev events ih => exact fun run inv => ih _ (offsetInv_step positive inv ev)
  exact keeps _ start

/-! ### Trust -/

def coolingTick (now actuator room : ℝ) : OffsetTick ℝ where
  now
  actuator := some actuator
  room
  conditioning := true

/-- Ticks at a period; the reading swings about its mean. -/
noncomputable def swings (period reading swing room : ℝ) (n : ℕ) : List OffsetEvent :=
  (List.range n).map fun k : ℕ =>
    .tick (coolingTick (k * period) (reading + (-1) ^ k * swing) room)

theorem offsetRun_swings (reading swing room : ℝ) (n : ℕ) :
    offsetRun 1 (swings 60 reading swing room (n + 1)) =
      observeOffset 1 (offsetRun 1 (swings 60 reading swing room n))
        (.tick (coolingTick (n * 60) (reading + (-1) ^ n * swing) room)) := by
  simp only [offsetRun, swings, List.range_succ, List.map_append, List.foldl_append, List.map_cons,
    List.map_nil, List.foldl_cons, List.foldl_nil]

/-- What a swinging sensor has shown after `n` more minutes. -/
structure SwungTo (reading swing room : ℝ) (n : ℕ) (run : OffsetRuntime ℝ × List OffsetSample) :
    Prop where
  estimate : ∃ e, run.1.refOffset = some e ∧ e.minutes = n + 1 ∧
    e.raw = reading + (-1) ^ n * swing - room
  anchor : run.1.refLastMono = some ((n : ℝ) * 60)
  steps : ∀ s ∈ run.2, s.step = 2 * swing

/-- The next minute of a swinging sensor, whose reading moves by twice the swing. -/
theorem swings_sample {reading swing room : ℝ} (nonneg : 0 ≤ swing) {n : ℕ}
    {run : OffsetRuntime ℝ × List OffsetSample} (swung : SwungTo reading swing room n run) :
    offsetSample 1 run.1
        (coolingTick ((n + 1 : ℕ) * 60) (reading + (-1) ^ (n + 1) * swing) room) =
      some ⟨1, 2 * swing⟩ := by
  obtain ⟨e, known, -, raw⟩ := swung.estimate
  have minute : cappedElapsedMin run.1.refLastMono (((n + 1 : ℕ) : ℝ) * 60) 1 = 1 := by
    have elapsed : (((n + 1 : ℕ) : ℝ) * 60 - n * 60) / 60.0 = 1 := by
      rw [Nat.cast_succ, add_mul, add_sub_cancel_left]
      norm_num
    have two : (2.0 : ℝ) = 2 := by norm_num
    rw [swung.anchor]
    simp only [cappedElapsedMin, elapsed, two, mul_one, max_eq_left zero_le_one]
    exact min_eq_left one_le_two
  have moved : reading + (-1) ^ (n + 1) * swing - room - e.raw = (-1) ^ (n + 1) * (2 * swing) := by
    rw [raw, pow_succ]
    ring
  simp only [offsetSample, coolingTick, known, offsetInterval, minute, moved, abs_mul, abs_pow,
    abs_neg, abs_one, one_pow, one_mul, abs_two, abs_of_nonneg nonneg]
  norm_num

theorem swings_run {reading swing room : ℝ} (nonneg : 0 ≤ swing) (n : ℕ) :
    SwungTo reading swing room n (offsetRun 1 (swings 60 reading swing room (n + 1))) := by
  induction n with
  | zero =>
    rw [offsetRun_swings]
    refine ⟨⟨_, rfl, ?_, rfl⟩, rfl, ?_⟩
    · simp [cappedElapsedMin, offsetRun, swings]
    · simp [observeOffset, OffsetEvent.sample, offsetSample, coolingTick, offsetRun, swings]
  | succ n ih =>
    have taken := swings_sample nonneg ih
    rw [offsetRun_swings]
    obtain ⟨e, known, minutes, -⟩ := ih.estimate
    obtain ⟨e', next, same, after, -, -, longer, -⟩ := fold_sample taken
    obtain rfl : e = e' := Option.some.inj (known.symm.trans same)
    refine ⟨⟨next, after, ?_, ?_⟩, rfl, ?_⟩
    · rw [longer, minutes]
      push_cast
      ring
    · have raws : ∀ found : OffsetEstimate ℝ,
          ((offsetRun 1 (swings 60 reading swing room (n + 1))).1.fold 1
            (coolingTick ((n + 1 : ℕ) * 60) (reading + (-1) ^ (n + 1) * swing) room)).refOffset
              = some found → found.raw = reading + (-1) ^ (n + 1) * swing - room := by
        intro found folded
        simp only [OffsetRuntime.fold, coolingTick, updateOffset, known, Option.some.injEq]
          at folded
        rw [← folded]
      exact raws next after
    · simp only [observeOffset, OffsetEvent.sample, taken, Option.toList_some,
        List.singleton_append]
      intro s member
      obtain rfl | earlier := List.mem_cons.mp member
      · rfl
      · exact ih.steps s earlier

theorem exp_warmup_lt : Real.exp (-28 / 30) < 0.4 := by
  have quarter : (1.26 : ℝ) ≤ Real.exp (7 / 30) := by
    have series := Real.quadratic_le_exp_of_nonneg (show (0 : ℝ) ≤ 7 / 30 by norm_num)
    norm_num at series ⊢
    linarith
  have whole : Real.exp (28 / 30) = Real.exp (7 / 30) ^ 4 := by
    rw [← Real.exp_nat_mul]
    norm_num
  have grown : (2.5 : ℝ) < Real.exp (28 / 30) := by
    rw [whole]
    calc (2.5 : ℝ) < 1.26 ^ 4 := by norm_num
      _ ≤ Real.exp (7 / 30) ^ 4 := by gcongr
  rw [neg_div, Real.exp_neg, inv_lt_comm₀ (Real.exp_pos _) (by norm_num)]
  norm_num at grown ⊢
  exact grown

/-- At a tick a minute, steps of a kelvin and more are never trusted. -/
theorem kelvin_steps_are_never_trusted {tickMin : ℝ} (positive : 0 ≤ tickMin)
    (minute : tickMin ≤ 1) (events : List OffsetEvent) {e : OffsetEstimate ℝ}
    (known : (offsetRun tickMin events).1.refOffset = some e)
    (jumps : ∀ s ∈ (offsetRun tickMin events).2, 1 ≤ s.step) : e.trusted = false := by
  obtain ⟨forward, -, seen⟩ := offsetInv_run positive events
  obtain ⟨-, deviation, minutes, gate⟩ := seen e known
  by_contra trusts
  obtain ⟨warm, low⟩ := gate (Bool.not_eq_false _ ▸ trusts)
  have lifted := le_meanStep forward jumps
  have worn : Real.exp (-steppedMinutes (offsetRun tickMin events).2 / 30) ≤
      Real.exp (-28 / 30) := by
    apply Real.exp_le_exp.mpr
    linarith
  have limit := exp_warmup_lt
  norm_num at low limit
  linarith

end Poise
