import Poise.Diagnostics.RegulationQuality
import Poise.Foundation.ExponentialMean
import Poise.Properties.EkfCovariance
import Mathlib.Analysis.Complex.ExponentialBounds

/-!
# What the quality gate has seen

The gate reads weighted means that start from an optimistic seed. After any run they are the means
of the scored samples, next to what is left of the seed; when the gate opens, three days of scored
minutes have worn the seed down, so that the samples themselves vouch for the zone.
-/
namespace Poise

open ExponentialMean

/-! ### The scored samples -/

structure QualitySample where
  dt : ℝ
  deviation : ℝ
  inBand : ℝ
  rate : ℝ

/-- The sample of a scored tick, after the last scored one. -/
noncomputable def qualitySample (tickMin : ℝ) (prev : Option (QualityTick ℝ)) (t : QualityTick ℝ) :
    QualitySample :=
  let dt := cappedElapsedMin (prev.map (·.now)) t.now tickMin
  { dt
    deviation := bandDeviation t.room t.heatSp t.coolSp
    inBand := inBandScore t.room t.heatSp t.coolSp
    rate := changeRate ((prev.map (·.mode)).getD "") t.mode dt }

/-- The samples of scored ticks, each after the one before. -/
noncomputable def qualitySamples (tickMin : ℝ) :
    Option (QualityTick ℝ) → List (QualityTick ℝ) → List QualitySample
  | _, [] => []
  | prev, t :: later => qualitySample tickMin prev t :: qualitySamples tickMin (some t) later

/-- The ticks that score. -/
noncomputable def scoredTicks (ts : List (QualityTick ℝ)) : List (QualityTick ℝ) :=
  ts.filter (·.scored)

/-- What is left of the past after a sample's interval, and the sample. -/
noncomputable def qualityFold (s : QualitySample) : ℝ × QualitySample :=
  (Real.exp (-s.dt / 4320), s)

noncomputable def scoredMinutes (samples : List QualitySample) : ℝ := (samples.map (·.dt)).sum

/-- The figures of a history of samples, the newest first. -/
structure FiguresOf (samples : List QualitySample) (q : RegulationQuality ℝ) : Prop where
  minutes : q.minutes = scoredMinutes samples
  deviation : q.deviationK = sampled (·.deviation) (samples.map qualityFold)
  inBand : q.inBand = Real.exp (-scoredMinutes samples / 4320) +
    sampled (·.inBand) (samples.map qualityFold)
  cycles : q.cyclesPerHour = sampled (·.rate) (samples.map qualityFold)

/-! ### One sample -/

theorem residue_qualityFold (samples : List QualitySample) :
    residue (samples.map qualityFold) = Real.exp (-scoredMinutes samples / 4320) := by
  induction samples with
  | nil => simp [residue, scoredMinutes]
  | cons s samples ih =>
    rw [List.map_cons, qualityFold, residue, ih, ← Real.exp_add]
    congr 1
    simp only [scoredMinutes, List.map_cons, List.sum_cons]
    ring

theorem qualityGain_eq (s : QualitySample) : qualityGain s.dt = 1 - (qualityFold s).1 := by
  simp only [qualityGain, qualityFold, ExpSqrt.exp, defaultHorizonH]
  norm_num

theorem sampled_cons (f : QualitySample → ℝ) (s : QualitySample) (samples : List QualitySample) :
    sampled f ((s :: samples).map qualityFold) =
      (qualityFold s).1 * sampled f (samples.map qualityFold) + (1 - (qualityFold s).1) * f s := rfl

/-- The means after one more sample. -/
theorem figures_cons {samples : List QualitySample} {q q' : RegulationQuality ℝ}
    (figures : FiguresOf samples q) (s : QualitySample)
    (minutes : q'.minutes = q.minutes + s.dt)
    (deviation : q'.deviationK =
      (1 - qualityGain s.dt) * q.deviationK + qualityGain s.dt * s.deviation)
    (inBand : q'.inBand = (1 - qualityGain s.dt) * q.inBand + qualityGain s.dt * s.inBand)
    (cycles : q'.cyclesPerHour =
      (1 - qualityGain s.dt) * q.cyclesPerHour + qualityGain s.dt * s.rate) :
    FiguresOf (s :: samples) q' := by
  have gain := qualityGain_eq s
  have seed : Real.exp (-scoredMinutes (s :: samples) / 4320) =
      (qualityFold s).1 * Real.exp (-scoredMinutes samples / 4320) := by
    rw [← residue_qualityFold, List.map_cons, residue, residue_qualityFold]
  constructor
  · rw [minutes, figures.minutes, scoredMinutes, scoredMinutes, List.map_cons, List.sum_cons]
    ring
  · rw [deviation, gain, figures.deviation, sampled_cons]
    ring
  · rw [inBand, gain, figures.inBand, seed, sampled_cons]
    ring
  · rw [cycles, gain, figures.cycles, sampled_cons]
    ring

/-! ### The run -/

/-- The last scored tick is what the anchors remember. -/
structure QualityAnchors (prev : Option (QualityTick ℝ)) (rt : QualityRuntime ℝ) : Prop where
  mono : rt.caLastMono = prev.map (·.now)
  mode : rt.regq.lastMode = (prev.map (·.mode)).getD ""

/-- The dissatisfaction has figures and an anchor of its own. -/
theorem foldPpd_keeps (tickMin : ℝ) (rt : QualityRuntime ℝ) (t : QualityTick ℝ)
    {samples : List QualitySample} {prev : Option (QualityTick ℝ)}
    (figures : FiguresOf samples rt.regq) (anchors : QualityAnchors prev rt) :
    FiguresOf samples (rt.foldPpd tickMin t).regq ∧ QualityAnchors prev (rt.foldPpd tickMin t) := by
  unfold QualityRuntime.foldPpd
  cases t.ppd with
  | none => exact ⟨figures, anchors⟩
  | some ppd =>
    by_cases masked : t.unmasked = false
    · simp only [masked, if_true]
      exact ⟨figures, anchors⟩
    · simp only [masked]
      exact ⟨⟨figures.minutes, figures.deviation, figures.inBand, figures.cycles⟩,
        ⟨anchors.mono, anchors.mode⟩⟩

theorem figures_run {tickMin : ℝ} (ts : List (QualityTick ℝ)) {rt : QualityRuntime ℝ}
    {samples : List QualitySample} {prev : Option (QualityTick ℝ)}
    (figures : FiguresOf samples rt.regq) (anchors : QualityAnchors prev rt) :
    FiguresOf ((qualitySamples tickMin prev (scoredTicks ts)).reverse ++ samples)
      (ts.foldl (QualityRuntime.fold tickMin) rt).regq := by
  induction ts generalizing rt samples prev with
  | nil => exact figures
  | cons t ts ih =>
    rw [List.foldl_cons]
    cases scored : t.scored with
    | false =>
      have skipped : rt.fold tickMin t = rt.foldPpd tickMin t := by
        rw [QualityRuntime.fold, QualityRuntime.foldCa, if_pos scored]
      have filtered : scoredTicks (t :: ts) = scoredTicks ts := by
        simp [scoredTicks, scored]
      obtain ⟨kept, linked⟩ := foldPpd_keeps tickMin rt t figures anchors
      rw [skipped, filtered]
      exact ih kept linked
    | true =>
      have taken : rt.fold tickMin t = ({ rt with
          caLastMono := some t.now
          regq := rt.regq.observe t.room t.heatSp t.coolSp t.mode
            (cappedElapsedMin rt.caLastMono t.now tickMin) } : QualityRuntime ℝ).foldPpd
              tickMin t := by
        rw [QualityRuntime.fold, QualityRuntime.foldCa, if_neg (by rw [scored]; decide)]
      have filtered : scoredTicks (t :: ts) = t :: scoredTicks ts := by
        simp [scoredTicks, scored]
      have next : FiguresOf (qualitySample tickMin prev t :: samples)
          (rt.regq.observe t.room t.heatSp t.coolSp t.mode
            (cappedElapsedMin rt.caLastMono t.now tickMin)) := by
        rw [anchors.mono]
        refine figures_cons figures (qualitySample tickMin prev t) rfl rfl rfl ?_
        simp only [RegulationQuality.observe, qualitySample, anchors.mode]
      obtain ⟨kept, linked⟩ := foldPpd_keeps tickMin _ t next
        (⟨rfl, rfl⟩ : QualityAnchors (some t) { rt with
          caLastMono := some t.now
          regq := rt.regq.observe t.room t.heatSp t.coolSp t.mode
            (cappedElapsedMin rt.caLastMono t.now tickMin) })
      rw [taken, filtered, qualitySamples, List.reverse_cons, List.append_assoc]
      exact ih kept linked

theorem figures_fresh (tickMin : ℝ) (ts : List (QualityTick ℝ)) :
    FiguresOf (qualitySamples tickMin none (scoredTicks ts)).reverse
      (ts.foldl (QualityRuntime.fold tickMin) .fresh).regq := by
  have start : FiguresOf [] (RegulationQuality.fresh : RegulationQuality ℝ) := by
    constructor <;> simp [RegulationQuality.fresh, scoredMinutes, sampled]
  have anchors : QualityAnchors none (QualityRuntime.fresh : QualityRuntime ℝ) := ⟨rfl, rfl⟩
  have run := @figures_run tickMin ts QualityRuntime.fresh [] none start anchors
  rwa [List.append_nil] at run

/-! ### Real time -/

theorem qualitySample_dt {tickMin : ℝ} {p t : QualityTick ℝ} (after : p.now ≤ t.now) :
    (qualitySample tickMin (some p) t).dt ≤ (t.now - p.now) / 60 := by
  have sixty : (60.0 : ℝ) = 60 := by norm_num
  have interval : 0 ≤ (t.now - p.now) / 60 := by linarith
  simp only [qualitySample, cappedElapsedMin, Option.map_some, sixty, max_eq_left interval]
  exact min_le_left _ _

/-- The scored minutes after a scored tick lie within the real ones. -/
theorem scoredMinutes_le {tickMin : ℝ} {p : QualityTick ℝ} {ticks : List (QualityTick ℝ)}
    (ordered : (p :: ticks).Pairwise (·.now ≤ ·.now)) :
    ∃ last ∈ p :: ticks,
      scoredMinutes (qualitySamples tickMin (some p) ticks) ≤ (last.now - p.now) / 60 := by
  induction ticks generalizing p with
  | nil => exact ⟨p, by simp, by simp [qualitySamples, scoredMinutes]⟩
  | cons t ticks ih =>
    obtain ⟨after, rest⟩ := List.pairwise_cons.mp ordered
    obtain ⟨last, member, bound⟩ := ih rest
    have here := @qualitySample_dt tickMin p t (after t (by simp))
    refine ⟨last, List.mem_cons_of_mem _ member, ?_⟩
    rw [qualitySamples, scoredMinutes, List.map_cons, List.sum_cons]
    rw [scoredMinutes] at bound
    linarith

/-! ### The open gate -/

/-- The figures that open the gate of any tier but the reversible one. -/
theorem figures_of_flip {tier : String} {q : RegulationQuality ℝ} {identified : Bool}
    {baseline : Option ℝ} (metric : tier ≠ "reversible")
    (flips : flipMetricOk tier q identified baseline = true) :
    identified = true ∧ 4320 ≤ q.minutes ∧ q.deviationK ≤ 0.5 ∧ q.cyclesPerHour ≤ 3 ∧
      0.9 ≤ q.inBand := by
  have meets : meetsQuality q identified = true := by
    unfold flipMetricOk at flips
    rw [if_neg metric] at flips
    split_ifs at flips
    · unfold meetsComfortQuality at flips
      rw [Bool.and_eq_true, Bool.and_eq_true] at flips
      exact flips.1.1
    · exact flips
  have three_days : (warmupMin : ℝ) = 4320 := by norm_num [warmupMin]
  have three : (cycleMaxPerH : ℝ) = 3 := by norm_num [cycleMaxPerH]
  simp only [meetsQuality, Bool.and_eq_true, decide_eq_true_iff, three_days, three] at meets
  obtain ⟨⟨⟨⟨known, minutes⟩, deviation⟩, cycles⟩, band⟩ := meets
  exact ⟨known, minutes, deviation, cycles, band⟩

/-- What the samples weigh together; the seed weighs the rest. -/
noncomputable def samplesWeight (samples : List QualitySample) : ℝ :=
  sampled (fun _ => 1) (samples.map qualityFold)

/-- The weighted mean of the samples alone. -/
noncomputable def sampleMean (f : QualitySample → ℝ) (samples : List QualitySample) : ℝ :=
  sampled f (samples.map qualityFold) / samplesWeight samples

/-- What the samples behind an open gate show. -/
structure VouchedFor (tickMin : ℝ) (ts : List (QualityTick ℝ)) (samples : List QualitySample) :
    Prop where
  -- More than three fifths of the weight is measured.
  weight : 1 - Real.exp (-1) ≤ samplesWeight samples
  inBand : 0.84 ≤ sampleMean (·.inBand) samples
  deviation : sampleMean (·.deviation) samples ≤ 0.8
  cycles : sampleMean (·.rate) samples ≤ 4.8
  realTime : ∃ first ∈ scoredTicks ts, ∃ last ∈ scoredTicks ts,
    4320 ≤ tickMin + (last.now - first.now) / 60

theorem samplesWeight_eq (samples : List QualitySample) :
    samplesWeight samples = 1 - Real.exp (-scoredMinutes samples / 4320) := by
  rw [samplesWeight, sampled_one, residue_qualityFold]

/-- Three days leave the seed at most a share of 1/e. -/
theorem seed_worn {samples : List QualitySample} (long : 4320 ≤ scoredMinutes samples) :
    Real.exp (-scoredMinutes samples / 4320) ≤ Real.exp (-1) :=
  Real.exp_le_exp.mpr (by linarith)

theorem exp_neg_one_lt : Real.exp (-1) < 3 / 8 := by
  have digits := Real.exp_neg_one_lt_d9
  norm_num at digits ⊢
  linarith

theorem sampleMean_le {f : QualitySample → ℝ} {samples : List QualitySample} {bound : ℝ}
    (weight : 5 / 8 ≤ samplesWeight samples) (nonneg : 0 ≤ bound)
    (total : sampled f (samples.map qualityFold) ≤ bound * (5 / 8)) :
    sampleMean f samples ≤ bound := by
  have positive : 0 < samplesWeight samples := by linarith
  rw [sampleMean, div_le_iff₀ positive]
  exact total.trans (mul_le_mul_of_nonneg_left weight nonneg)

/-- The figures of an open gate, taken from the samples alone: the seed counts as in the band and
as without deviation, so what it still weighs is divided out. -/
theorem FiguresOf.vouched {samples : List QualitySample} {q : RegulationQuality ℝ}
    (figures : FiguresOf samples q) (long : 4320 ≤ scoredMinutes samples)
    (deviation : q.deviationK ≤ 0.5) (cycles : q.cyclesPerHour ≤ 3) (band : 0.9 ≤ q.inBand) :
    0.84 ≤ sampleMean (·.inBand) samples ∧ sampleMean (·.deviation) samples ≤ 0.8 ∧
      sampleMean (·.rate) samples ≤ 4.8 := by
  have seed := seed_worn long
  have euler := exp_neg_one_lt
  have weight : 5 / 8 ≤ samplesWeight samples := by
    rw [samplesWeight_eq]
    linarith
  rw [figures.deviation] at deviation
  rw [figures.cycles] at cycles
  rw [figures.inBand] at band
  refine ⟨?_, sampleMean_le weight (by norm_num) (deviation.trans (by norm_num)),
    sampleMean_le weight (by norm_num) (cycles.trans (by norm_num))⟩
  rw [sampleMean, le_div_iff₀ (by linarith), samplesWeight_eq]
  norm_num at band ⊢
  linarith

/-- After any run the figures are those of the scored samples beside the worn seed, and no gate
but the reversible one opens unless the samples themselves vouch for the zone. -/
theorem open_gate_rests_on_samples {tickMin : ℝ} {ts : List (QualityTick ℝ)}
    (ordered : ts.Pairwise (·.now ≤ ·.now)) :
    let samples := (qualitySamples tickMin none (scoredTicks ts)).reverse
    let q := (ts.foldl (QualityRuntime.fold tickMin) .fresh).regq
    FiguresOf samples q ∧ ∀ tier identified baseline, tier ≠ "reversible" →
      flipMetricOk tier q identified baseline = true →
        identified = true ∧ VouchedFor tickMin ts samples := by
  intro samples q
  have figures : FiguresOf samples q := figures_fresh tickMin ts
  refine ⟨figures, fun tier identified baseline metric flips => ?_⟩
  obtain ⟨known, minutes, deviation, cycles, band⟩ := figures_of_flip metric flips
  have long : 4320 ≤ scoredMinutes samples := figures.minutes ▸ minutes
  obtain ⟨inBand, near, calm⟩ := figures.vouched long deviation cycles band
  refine ⟨known, ?_, inBand, near, calm, ?_⟩
  · rw [samplesWeight_eq]
    have seed := seed_worn long
    linarith
  · have total : scoredMinutes samples =
        scoredMinutes (qualitySamples tickMin none (scoredTicks ts)) := by
      simp [samples, scoredMinutes, List.sum_reverse]
    have sorted : (scoredTicks ts).Pairwise (·.now ≤ ·.now) :=
      ordered.sublist List.filter_sublist
    rw [total] at long
    cases scored : scoredTicks ts with
    | nil =>
      rw [scored] at long
      norm_num [qualitySamples, scoredMinutes] at long
    | cons first later =>
      rw [scored] at long sorted
      obtain ⟨last, member, bound⟩ := @scoredMinutes_le tickMin first later sorted
      refine ⟨first, by simp, last, member, ?_⟩
      rw [qualitySamples, scoredMinutes, List.map_cons, List.sum_cons] at long
      rw [scoredMinutes] at bound
      have opening : (qualitySample tickMin none first).dt = tickMin := rfl
      linarith

/-! ### A calm zone -/

/-- A scored tick inside its band, in the mode of the others. -/
structure CalmTick (mode : String) (t : QualityTick ℝ) : Prop where
  scored : t.scored = true
  within : t.heatSp ≤ t.room ∧ t.room ≤ t.coolSp
  same : t.mode = mode

theorem qualitySamples_calm {tickMin : ℝ} {mode : String} {prev : Option (QualityTick ℝ)}
    {ts : List (QualityTick ℝ)} (before : ∀ p ∈ prev, p.mode = mode)
    (calm : ∀ t ∈ ts, CalmTick mode t) :
    ∀ s ∈ qualitySamples tickMin prev ts, s.deviation = 0 ∧ s.inBand = 1 ∧ s.rate = 0 := by
  induction ts generalizing prev with
  | nil => simp [qualitySamples]
  | cons t ts ih =>
    have here := calm t (by simp)
    have later := @ih (some t) (by simpa using here.same) fun u member => calm u (by simp [member])
    rw [qualitySamples]
    rintro s (_ | ⟨_, member⟩)
    · have tolerance : (0 : ℝ) ≤ bandTolK := by norm_num [bandTolK, devMaxK]
      refine ⟨?_, ?_, ?_⟩
      · simp only [qualitySample, bandDeviation]
        have warm : max 0 (t.heatSp - t.room) = 0 := max_eq_left (by linarith [here.within.1])
        rw [warm, max_eq_left (by linarith [here.within.2])]
      · simp only [qualitySample, inBandScore]
        rw [if_pos ⟨by linarith [here.within.1], by linarith [here.within.2]⟩]
      · have unchanged : ¬ ((prev.map (·.mode)).getD "" ≠ "" ∧
            t.mode ≠ (prev.map (·.mode)).getD "") := by
          cases prev with
          | none => simp
          | some p => simp [before p rfl, here.same]
        simp only [qualitySample, changeRate]
        rw [if_neg unchanged, zero_div]
    · exact later s member

/-- Three scored days inside the band open the gate of an identified zone. -/
theorem calm_days_open_gate {tickMin : ℝ} {mode : String} {ts : List (QualityTick ℝ)}
    (calm : ∀ t ∈ ts, CalmTick mode t)
    (long : 4320 ≤ scoredMinutes (qualitySamples tickMin none ts)) :
    flipMetricOk "actuator" (ts.foldl (QualityRuntime.fold tickMin) .fresh).regq true none
      = true := by
  have all : scoredTicks ts = ts := List.filter_eq_self.mpr fun t member => (calm t member).scored
  have figures := figures_fresh tickMin ts
  rw [all] at figures
  have flat : ∀ fold ∈ (qualitySamples tickMin none ts).reverse.map qualityFold,
      fold.2.deviation = 0 ∧ fold.2.inBand = 1 ∧ fold.2.rate = 0 := by
    intro fold member
    obtain ⟨s, sampled, rfl⟩ := List.mem_map.mp member
    exact @qualitySamples_calm tickMin mode none ts (by simp) calm s (List.mem_reverse.mp sampled)
  have total : scoredMinutes (qualitySamples tickMin none ts).reverse =
      scoredMinutes (qualitySamples tickMin none ts) := by
    simp [scoredMinutes, List.sum_reverse]
  have minutes := figures.minutes
  have deviation := figures.deviation
  have band := figures.inBand
  have cycles := figures.cycles
  rw [sampled_const fun fold member => (flat fold member).1, zero_mul] at deviation
  rw [sampled_const fun fold member => (flat fold member).2.1, residue_qualityFold] at band
  rw [sampled_const fun fold member => (flat fold member).2.2, zero_mul] at cycles
  rw [total] at minutes
  have reached :
      (warmupMin : ℝ) ≤ (ts.foldl (QualityRuntime.fold tickMin) .fresh).regq.minutes := by
    rw [minutes, warmupMin]
    norm_num
    exact long
  have near : (ts.foldl (QualityRuntime.fold tickMin) .fresh).regq.deviationK ≤ devMaxK := by
    rw [deviation]
    norm_num [devMaxK]
  have slow :
      (ts.foldl (QualityRuntime.fold tickMin) .fresh).regq.cyclesPerHour ≤ cycleMaxPerH := by
    rw [cycles]
    norm_num [cycleMaxPerH]
  have inside : bandMin ≤ (ts.foldl (QualityRuntime.fold tickMin) .fresh).regq.inBand := by
    rw [band, bandMin]
    norm_num
  simp [flipMetricOk, meetsQuality, reached, near, slow, inside]

/-- Ticks a minute apart count a minute each. -/
theorem scoredMinutes_paced {p : QualityTick ℝ} {ts : List (QualityTick ℝ)}
    (paced : (p :: ts).IsChain fun a b => b.now = a.now + 60) :
    scoredMinutes (qualitySamples 1 (some p) ts) = ts.length := by
  induction ts generalizing p with
  | nil => simp [qualitySamples, scoredMinutes]
  | cons t ts ih =>
    obtain ⟨next, rest⟩ := List.isChain_cons_cons.mp paced
    have later := ih rest
    have minute : (qualitySample 1 (some p) t).dt = 1 := by
      simp only [qualitySample, cappedElapsedMin, Option.map_some, next]
      norm_num
    rw [scoredMinutes] at later
    rw [qualitySamples, scoredMinutes, List.map_cons, List.sum_cons, minute, later,
      List.length_cons]
    push_cast
    ring

def comfortTick (now room heatSp coolSp : ℝ) : QualityTick ℝ where
  now
  room
  heatSp
  coolSp
  mode := "heat"

theorem three_calm_days_vouch :
    let ts := (List.range 4320).map fun n : ℕ => comfortTick (60 * n) 20.5 20 26
    let samples := (qualitySamples 1 none (scoredTicks ts)).reverse
    flipMetricOk "actuator" (ts.foldl (QualityRuntime.fold 1) .fresh).regq true none = true ∧
      VouchedFor 1 ts samples := by
  intro ts samples
  have ordered : ts.Pairwise (·.now ≤ ·.now) := by
    refine List.pairwise_map.mpr (List.pairwise_lt_range.imp fun {a b} less => ?_)
    have cast : (a : ℝ) ≤ b := by exact_mod_cast less.le
    simp only [comfortTick]
    linarith
  have paced : ts.IsChain fun a b => b.now = a.now + 60 := by
    refine (List.isChain_map _).mpr ((List.isChain_range _ _).mpr fun n _ => ?_)
    simp only [comfortTick]
    push_cast
    ring
  have calm : ∀ t ∈ ts, CalmTick "heat" t := by
    intro t member
    obtain ⟨n, -, rfl⟩ := List.mem_map.mp member
    refine ⟨?_, by norm_num [comfortTick], rfl⟩
    norm_num [QualityTick.scored, QualityTick.unmasked, caTickScorable, comfortTick]
  have long : 4320 ≤ scoredMinutes (qualitySamples 1 none ts) := by
    have start : ts = comfortTick (60 * (0 : ℕ)) 20.5 20 26 ::
        ((List.range 4319).map Nat.succ).map fun n : ℕ => comfortTick (60 * n) 20.5 20 26 := by
      simp only [ts]
      rw [List.range_succ_eq_map, List.map_cons]
    rw [start] at paced ⊢
    have opening : (qualitySample 1 none (comfortTick (60 * (0 : ℕ)) 20.5 20 26)).dt = 1 := rfl
    have rest := scoredMinutes_paced paced
    rw [scoredMinutes] at rest
    rw [qualitySamples, scoredMinutes, List.map_cons, List.sum_cons, opening, rest]
    simp only [List.length_map, List.length_range]
    norm_num
  have opens := calm_days_open_gate calm long
  exact ⟨opens, ((open_gate_rests_on_samples ordered).2 "actuator" true none (by decide) opens).2⟩

end Poise
