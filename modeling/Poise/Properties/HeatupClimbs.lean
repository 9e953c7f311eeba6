import Poise.Estimation.SeasonlessRate
import Poise.Properties.MouldLatch
import Mathlib.Algebra.Order.Field.Basic

/-!
# What a heat-up rate measures

Every emitted rate is the climb of one uninterrupted burst of heating: two readings at most an
hour apart, at least the minimal rise, the flat ticks between them counted in the time and no other
rate emitted over it. The prior keeps the last of these climbs and stays between them.
-/
namespace Poise

open Trace

section Climbs

variable {K : Type*} [Field K] [LinearOrder K]

abbrev HeatupStep (K : Type*) [Field K] := Step (HeatupLearner K) (HeatupEvent K) (Option K)

/-- A tick that heats, emits nothing and stays within the minimal rise above `base`. -/
def Waits (base : K) (g : HeatupStep K) : Prop :=
  ∃ u, g.input = .tick u ∧ u.heating = true ∧ base ≤ u.room ∧ u.room < base + minRiseK ∧
    g.output = none

/-- A rate measured from `s` to `t`, across the ticks `between`. -/
structure Climb (between : List (HeatupStep K)) (s t : HeatupTick K) (rate : K) : Prop where
  heating : s.heating = true ∧ t.heating = true
  span : s.mono < t.mono ∧ t.mono ≤ s.mono + 3600
  rise : minRiseK ≤ t.room - s.room
  measured : rate = (t.room - s.room) / ((t.mono - s.mono) / 3600)
  waiting : ∀ g ∈ between, Waits s.room g

/-- The anchor is a heating tick of the past, and the burst has waited since. -/
def BurstFrom (past : List (HeatupStep K)) (acc : HeatupAccumulator K) : Prop :=
  ∀ room mono, acc.anchorRoom = some room → acc.anchorMono = some mono →
    ∃ before f between s, past = before ++ f :: between ∧ f.input = .tick s ∧ s.heating = true ∧
      s.room = room ∧ s.mono = mono ∧ ∀ g ∈ between, Waits room g

/-- What one heating tick does to the anchor. -/
theorem sample_cases [IsStrictOrderedRing K] (acc : HeatupAccumulator K) (room mono : K) :
    sampleHeatupRate acc true room mono = (.at room mono, none) ∨
      ∃ base since, acc.anchorRoom = some base ∧ acc.anchorMono = some since ∧
        since < mono ∧ mono ≤ since + 3600 ∧ base ≤ room ∧
        (room < base + minRiseK ∧ sampleHeatupRate acc true room mono = (acc, none) ∨
          minRiseK ≤ room - base ∧ sampleHeatupRate acc true room mono =
            (.at room mono, some ((room - base) / ((mono - since) / 3600)))) := by
  rcases acc with ⟨_ | base, _ | since⟩
  · exact Or.inl rfl
  · exact Or.inl rfl
  · exact Or.inl rfl
  · simp only [sampleHeatupRate, Bool.true_eq_false, if_false]
    split_ifs with stale fell flat
    · exact Or.inl rfl
    · exact Or.inl rfl
    all_goals
      right
      obtain ⟨after, within⟩ := not_or.mp stale
      have seconds : (3600.0 : K) = 3600 := by norm_num
      rw [seconds, not_le, div_pos_iff_of_pos_right (by norm_num), sub_pos] at after
      rw [seconds, not_lt, maxSpanH, div_le_iff₀ (by norm_num)] at within
      refine ⟨base, since, rfl, rfl, after, by linarith, by linarith, ?_⟩
    · exact Or.inl ⟨by linarith, rfl⟩
    · exact Or.inr ⟨not_lt.mp flat, by rw [seconds]⟩

theorem burstFrom_fresh (past : List (HeatupStep K)) : BurstFrom past {} :=
  fun _ _ room _ => absurd room nofun

/-- A tick that anchors here starts a burst of its own. -/
theorem burstFrom_at {past : List (HeatupStep K)} {e : HeatupStep K} {t : HeatupTick K}
    (tick : e.input = .tick t) (heating : t.heating = true) :
    BurstFrom (past ++ [e]) (.at t.room t.mono) := by
  intro room mono here now
  obtain rfl := Option.some.inj here
  obtain rfl := Option.some.inj now
  exact ⟨past, e, [], t, by simp, tick, heating, rfl, rfl, by simp⟩

theorem step_output (s : HeatupLearner K) (t : HeatupTick K) :
    (s.step (.tick t)).2 = (sampleHeatupRate s.heatupAcc t.heating t.room t.mono).2 := rfl

theorem step_acc (s : HeatupLearner K) (t : HeatupTick K) :
    (s.step (.tick t)).1.heatupAcc = (sampleHeatupRate s.heatupAcc t.heating t.room t.mono).1 := rfl

theorem burstFrom_step [IsStrictOrderedRing K] {past : List (HeatupStep K)}
    {s : HeatupLearner K} (ev : HeatupEvent K)
    (burst : BurstFrom past s.heatupAcc) :
    BurstFrom (past ++ [Step.of HeatupLearner.step s ev]) (s.step ev).1.heatupAcc := by
  cases ev with
  | pause => exact burstFrom_fresh _
  | tick t =>
    rw [step_acc]
    cases heating : t.heating with
    | false => exact burstFrom_fresh _
    | true =>
      rcases sample_cases s.heatupAcc t.room t.mono with anchored |
        ⟨base, since, known, instant, -, -, above, ⟨below, waits⟩ | ⟨-, emits⟩⟩
      · rw [anchored]
        exact burstFrom_at rfl heating
      · -- the anchor stays and the tick joins the wait
        rw [waits]
        intro room mono here now
        obtain rfl := Option.some.inj (known.symm.trans here)
        obtain ⟨before, f, between, u, rfl, tick, heated, rfl, rfl, waiting⟩ :=
          burst base mono here now
        refine ⟨before, f, between ++ [Step.of HeatupLearner.step s (.tick t)], u, by simp, tick,
          heated, rfl, rfl, ?_⟩
        intro g member
        rcases List.mem_append.mp member with early | last
        · exact waiting g early
        · rw [List.mem_singleton.mp last]
          refine ⟨t, rfl, heating, above, below, ?_⟩
          rw [Step.of_output, step_output, heating, waits]
      · rw [emits]
        exact burstFrom_at rfl heating

end Climbs

/-! ### The kept observations -/

/-- What a step of the run adds to the prior. -/
def recorded {K : Type*} [Field K] [LinearOrder K] (e : HeatupStep K) : List (SeasonObs K) :=
  match e.input with
  | .pause => []
  | .tick t =>
    match e.output, t.lastTarget with
    | some rate, some target =>
      match normalizedRate rate target t.tOut with
      | none => []
      | some r => [⟨t.tOut, r, t.day⟩]
    | _, _ => []

/-- The newest `n` of a list. -/
def newest {α : Type*} (n : ℕ) (l : List α) : List α := l.drop (l.length - n)

theorem newest_append {α : Type*} (n : ℕ) (l l' : List α) :
    newest n (newest n l ++ l') = newest n (l ++ l') := by
  have early : newest n l ++ l' = (l ++ l').drop (l.length - n) :=
    (List.drop_append_of_le_length (Nat.sub_le _ _)).symm
  rw [early, newest, newest, List.drop_drop, List.length_drop, List.length_append]
  congr 1
  omega

@[simp] theorem newest_nil {α : Type*} (n : ℕ) : newest n ([] : List α) = [] := List.drop_nil

section Prior

variable {K : Type*} [Field K] [LinearOrder K] [IsStrictOrderedRing K]

theorem observe_obs (s : SeasonlessRate K) (rate target outdoor day : K) (positive : 0 < rate) :
    (s.observe rate target outdoor day).obs =
      match normalizedRate rate target outdoor with
      | none => s.obs
      | some r => newest historyCap (s.obs ++ [⟨outdoor, r, day⟩]) := by
  unfold SeasonlessRate.observe
  cases norm : normalizedRate rate target outdoor with
  | none => rfl
  | some r =>
    have climbs : ¬ r ≤ 0 := by
      simp only [normalizedRate] at norm
      split_ifs at norm with tiny
      have drive : 0 < target - outdoor := lt_of_lt_of_le (by norm_num [minDriveK]) (not_lt.mp tiny)
      rw [← Option.some.inj norm, not_le]
      exact div_pos positive drive
    simp only [if_neg climbs, newest]
    split_ifs with full
    · rfl
    · rw [Nat.sub_eq_zero_of_le (not_lt.mp full), List.drop_zero]

theorem rate_pos (acc : HeatupAccumulator K) (heating : Bool) (room mono : K) :
    ∀ rate ∈ (sampleHeatupRate acc heating room mono).2, 0 < rate := by
  intro rate emitted
  cases heating with
  | false => exact absurd emitted nofun
  | true =>
    rcases sample_cases acc room mono with anchored |
      ⟨base, since, -, -, after, -, -, ⟨-, waits⟩ | ⟨rise, emits⟩⟩
    · rw [anchored] at emitted
      exact absurd emitted nofun
    · rw [waits] at emitted
      exact absurd emitted nofun
    · rw [emits, Option.mem_some] at emitted
      rw [← emitted]
      have positive : (0 : K) < minRiseK := by norm_num [minRiseK]
      exact div_pos (lt_of_lt_of_le positive rise) (by linarith)

/-- A step keeps the newest of what the run recorded. -/
theorem recorded_step {s : HeatupLearner K} {history : List (SeasonObs K)} (ev : HeatupEvent K)
    (kept : s.seasonless.obs = newest historyCap history) :
    (s.step ev).1.seasonless.obs =
      newest historyCap (history ++ recorded (Step.of HeatupLearner.step s ev)) := by
  -- a step that records nothing leaves the prior as it is
  have same : ∀ {obs : List (SeasonObs K)}, obs = newest historyCap history →
      obs = newest historyCap (history ++ []) := fun eq => by rw [List.append_nil]; exact eq
  cases ev with
  | pause => exact same kept
  | tick t =>
    have positive := rate_pos s.heatupAcc t.heating t.room t.mono
    have next : (s.step (.tick t)).1.seasonless =
        match (sampleHeatupRate s.heatupAcc t.heating t.room t.mono).2, t.lastTarget with
        | some rate, some target =>
          if 0 < rate then s.seasonless.observe rate target t.tOut t.day else s.seasonless
        | _, _ => s.seasonless := rfl
    rw [next]
    simp only [recorded, Step.of_output, Step.of_input, step_output]
    cases emitted : (sampleHeatupRate s.heatupAcc t.heating t.room t.mono).2 with
    | none => exact same kept
    | some rate =>
      cases t.lastTarget with
      | none => exact same kept
      | some target =>
        have climbs := positive rate emitted
        have observed := observe_obs s.seasonless rate target t.tOut t.day climbs
        simp only [if_pos climbs]
        rw [observed]
        cases normalizedRate rate target t.tOut with
        | none => exact same kept
        | some r =>
          simp only
          rw [kept]
          exact newest_append historyCap history _

theorem recorded_run {s : HeatupLearner K} {history : List (SeasonObs K)}
    (events : List (HeatupEvent K)) (kept : s.seasonless.obs = newest historyCap history) :
    (final HeatupLearner.step s events).seasonless.obs =
      newest historyCap (history ++ (trace HeatupLearner.step s events).flatMap recorded) := by
  induction events generalizing s history with
  | nil =>
    rw [trace, final, List.flatMap_nil, List.append_nil]
    exact kept
  | cons ev events ih =>
    rw [final, trace, List.flatMap_cons, ← List.append_assoc]
    exact ih (recorded_step ev kept)

theorem weigh_total {w : SeasonObs K → K} (weights : ∀ o, 0 < w o) (obs : List (SeasonObs K)) :
    0 ≤ (SeasonlessRate.weigh w obs).2 ∧ (0 < (SeasonlessRate.weigh w obs).2 ↔ obs ≠ []) := by
  induction obs with
  | nil => simp [SeasonlessRate.weigh]
  | cons o obs ih =>
    have here := weights o
    simp only [SeasonlessRate.weigh, ne_eq, reduceCtorEq, not_false_eq_true, iff_true]
    constructor <;> linarith [ih.1]

theorem weigh_mem {w : SeasonObs K → K} {obs : List (SeasonObs K)} {lo hi : K}
    (weights : ∀ o, 0 < w o) (range : ∀ o ∈ obs, lo ≤ o.rNorm ∧ o.rNorm ≤ hi) :
    (SeasonlessRate.weigh w obs).2 * lo ≤ (SeasonlessRate.weigh w obs).1 ∧
      (SeasonlessRate.weigh w obs).1 ≤ (SeasonlessRate.weigh w obs).2 * hi := by
  induction obs with
  | nil => simp [SeasonlessRate.weigh]
  | cons o obs ih =>
    obtain ⟨low, high⟩ := ih fun u member => range u (by simp [member])
    obtain ⟨least, most⟩ := range o (by simp)
    have under := mul_le_mul_of_nonneg_left least (weights o).le
    have above := mul_le_mul_of_nonneg_left most (weights o).le
    simp only [SeasonlessRate.weigh]
    constructor <;> linarith

end Prior

/-! ### The prior of a run -/

theorem weight_pos (s : SeasonlessRate ℝ) (outdoor nowDay : ℝ) (o : SeasonObs ℝ)
    (sigma : 0 < s.tempSigma) : 0 < s.weight outdoor nowDay o := by
  unfold SeasonlessRate.weight SeasonlessRate.gaussianWeight SeasonlessRate.halfLifeWeight
  rw [if_neg (not_le.mpr sigma)]
  refine mul_pos (Real.exp_pos _) ?_
  split_ifs
  · exact one_pos
  · exact Real.exp_pos _

theorem tempSigma_observe (s : SeasonlessRate ℝ) (rate target outdoor day : ℝ) :
    (s.observe rate target outdoor day).tempSigma = s.tempSigma := by
  unfold SeasonlessRate.observe
  cases normalizedRate rate target outdoor with
  | none => rfl
  | some r =>
    simp only
    split_ifs <;> rfl

theorem tempSigma_run (s : HeatupLearner ℝ) (events : List (HeatupEvent ℝ)) :
    (final HeatupLearner.step s events).seasonless.tempSigma = s.seasonless.tempSigma := by
  induction events generalizing s with
  | nil => rfl
  | cons ev events ih =>
    rw [final, ih]
    cases ev with
    | pause => rfl
    | tick t =>
      simp only [HeatupLearner.step]
      split
      · split_ifs
        · exact tempSigma_observe _ _ _ _ _
        · rfl
      · rfl

/-- The prior holds the last climbs of the run, normalised, and estimates between them. -/
theorem prior_of_climbs (events : List (HeatupEvent ℝ)) :
    let prior := (final HeatupLearner.step {} events).seasonless
    prior.obs = newest historyCap ((trace HeatupLearner.step {} events).flatMap recorded) ∧
      ∀ outdoor nowDay, ((prior.estimateNorm outdoor nowDay).isSome = true ↔ prior.obs ≠ []) ∧
        ∀ lo hi, (∀ o ∈ prior.obs, lo ≤ o.rNorm ∧ o.rNorm ≤ hi) →
          ∀ r ∈ prior.estimateNorm outdoor nowDay, lo ≤ r ∧ r ≤ hi := by
  intro prior
  have kept : prior.obs =
      newest historyCap ([] ++ (trace HeatupLearner.step {} events).flatMap recorded) :=
    recorded_run events (newest_nil historyCap).symm
  refine ⟨kept, fun outdoor nowDay => ?_⟩
  have weights : ∀ o, 0 < prior.weight outdoor nowDay o := fun o =>
    weight_pos prior outdoor nowDay o (by rw [tempSigma_run]; norm_num [tempSigma])
  constructor
  · rw [← (weigh_total weights prior.obs).2]
    simp only [SeasonlessRate.estimateNorm]
    split_ifs with positive <;> simp [positive]
  · intro lo hi range r estimate
    obtain ⟨low, high⟩ := weigh_mem weights range
    simp only [SeasonlessRate.estimateNorm] at estimate
    split_ifs at estimate with positive
    · rw [Option.mem_some] at estimate
      rw [← estimate, le_div_iff₀ positive, div_le_iff₀ positive]
      constructor <;> linarith
    · exact absurd estimate nofun

/-! ### One burst -/

/-- A minute's tick towards 22 °C. -/
def burstTick (minute room : ℚ) : HeatupEvent ℚ :=
  .tick { mono := 60 * minute, room, tOut := 2, day := 10, lastTarget := some 22, lastUH := 1 }

end Poise
