import Poise.Properties.TierActivation
import Mathlib.Algebra.BigOperators.Group.List.Basic

/-!
# Dwell and safety of the tier-2 activation

Over whole runs of report ticks: a latch goes live only after a full qualified
dwell since it last became eligible, leaves LIVE on the tick that speaks against
it, never shares ELIGIBLE with the other latch, and carries a fresh generation.
-/
namespace Poise

variable {K : Type*} [Field K] [LinearOrder K]

/-! ### Events of a run -/

def Activated (e : Tier2Step K) (feature : Tier2Feature) : Prop :=
  (e.pre.latch feature).state ≠ .live ∧ (e.post.latch feature).state = .live

-- The latch became eligible in this tick, with a dwell of its own.
def EntersEligible (e : Tier2Step K) (feature : Tier2Feature) : Prop :=
  (latchBefore e.pre e.input feature).state ≠ .eligible ∧
    (e.post.latch feature).state = .eligible

def StaysEligible (e : Tier2Step K) (feature : Tier2Feature) : Prop :=
  (latchBefore e.pre e.input feature).state = .eligible ∧
    (e.post.latch feature).state = .eligible

/-- The minutes of the ticks that were ready, passed the entry gate and had leave
to dwell. -/
def qualifiedMinutes (steps : List (Tier2Step K)) (feature : Tier2Feature) : K :=
  (steps.map fun e => dwellGain (tierInputs e.pre e.input feature)).sum

/-- `past` ends in an uninterrupted stretch of ELIGIBLE since the latch entered it. -/
def EligibleSince (past since : List (Tier2Step K)) (feature : Tier2Feature) : Prop :=
  ∃ before entry, past = before ++ entry :: since ∧ EntersEligible entry feature ∧
    ∀ d ∈ since, StaysEligible d feature

def Stamped (e : Tier2Step K) (feature : Tier2Feature) : Prop :=
  (e.post.latch feature).baselinePpd = some e.input.ppd ∧
    (e.post.latch feature).baselineSignature =
      some (tierInputs e.pre e.input feature).signature

/-- A live latch that is not ready, carries another signature than the tick's, or
whose baseline the PPD exceeds by more than the exit tolerance. -/
def MustLeave (e : Tier2Step K) (feature : Tier2Feature) : Prop :=
  (e.pre.latch feature).state = .live ∧
    ((tierInputs e.pre e.input feature).ready = false ∨
      (e.pre.latch feature).baselineSignature ≠
        some (tierInputs e.pre e.input feature).signature ∨
      ∃ baseline, (e.pre.latch feature).baselinePpd = some baseline ∧
        baseline + ppdExitTolPct < e.input.ppd)

/-! ### Dwell -/

theorem post_latch {e : Tier2Step K} {s : ComfortActivation K} {ticks : List (Tier2Tick K)}
    (member : e ∈ Trace.trace foldTier2Activation s ticks) (feature : Tier2Feature) :
    e.post.latch feature =
      stepTier (latchBefore e.pre e.input feature) (tierInputs e.pre e.input feature) := by
  rw [Trace.step_of_mem _ member]
  exact foldTier2Activation_latch _ _ feature

@[simp] theorem qualifiedMinutes_append (steps : List (Tier2Step K)) (e : Tier2Step K)
    (feature : Tier2Feature) :
    qualifiedMinutes (steps ++ [e]) feature =
      qualifiedMinutes steps feature + dwellGain (tierInputs e.pre e.input feature) := by
  simp [qualifiedMinutes]

/-- The dwell of an eligible latch is the qualified time since it became eligible. -/
def DwellAccounted (past : List (Tier2Step K)) (container : ComfortActivation K) : Prop :=
  ∀ feature, (container.latch feature).state = .eligible →
    ∃ since, EligibleSince past since feature ∧
      (container.latch feature).dwellMin = qualifiedMinutes since feature

theorem dwellAccounted_step (past : List (Tier2Step K)) (container : ComfortActivation K)
    (tick : Tier2Tick K) (accounted : DwellAccounted past container) :
    DwellAccounted (past ++ [Trace.Step.of foldTier2Activation container tick])
      (foldTier2Activation container tick).1 := by
  intro feature eligible
  have stepped := (foldTier2Activation_latch container tick feature).symm
  cases stepTier_eligible stepped eligible with
  | inl entered =>
    refine ⟨[], ⟨past, _, rfl, ⟨entered.1, eligible⟩, by simp⟩, ?_⟩
    simpa [qualifiedMinutes] using entered.2.2
  | inr stayed =>
    -- the cascade did not touch a latch that is still eligible
    have same := latchBefore_active (.inr stayed.1)
    obtain ⟨since, ⟨before, entry, rfl, entered, held⟩, dwell⟩ :=
      accounted feature (same ▸ stayed.1)
    refine ⟨since ++ [Trace.Step.of foldTier2Activation container tick],
      ⟨before, entry, by simp, entered, ?_⟩, ?_⟩
    · intro d member
      rw [List.mem_append, List.mem_singleton] at member
      cases member with
      | inl earlier => exact held d earlier
      | inr last =>
        rw [last]
        exact ⟨stayed.1, eligible⟩
    · rw [stayed.2, same, dwell, qualifiedMinutes_append]
      rfl

theorem dwellAccounted_run {ticks : List (Tier2Tick K)} {past : List (Tier2Step K)}
    {e : Tier2Step K} (moment : past ++ [e] <+: tier2Run ticks) : DwellAccounted past e.pre := by
  refine Trace.history_of_moment foldTier2Activation DwellAccounted ?_
    (fun past t i accounted => dwellAccounted_step past t i accounted) moment
  intro feature eligible
  cases feature <;> simp [ComfortActivation.latch] at eligible

theorem activated_dwell {ticks : List (Tier2Tick K)} {past : List (Tier2Step K)}
    {e : Tier2Step K} {feature : Tier2Feature} (moment : past ++ [e] <+: tier2Run ticks)
    (activated : Activated e feature) :
    (∃ since, EligibleSince past since feature ∧
      dwellTargetMin ≤ qualifiedMinutes (since ++ [e]) feature) ∧ Stamped e feature := by
  have stepped := (post_latch (Trace.mem_of_moment _ moment) feature).symm
  cases stepTier_live stepped activated.2 with
  | inl held =>
    have same := latchBefore_active (.inl held.1)
    exact absurd (same ▸ held.1) activated.1
  | inr flipped =>
    obtain ⟨was, qualified, full, ppd, signature, _⟩ := flipped
    have same := latchBefore_active (.inr was)
    obtain ⟨since, eligible, dwell⟩ := dwellAccounted_run moment feature (same ▸ was)
    refine ⟨⟨since, eligible, ?_⟩, ?_, signature⟩
    · rw [qualifiedMinutes_append, ← dwell, ← same]
      simpa [dwellGain, qualified] using full
    · rw [ppd]
      cases feature <;> rfl

/-! ### Exits, exclusion and generations -/

theorem mustLeave_leaves {ticks : List (Tier2Tick K)} {e : Tier2Step K}
    {feature : Tier2Feature} (member : e ∈ tier2Run ticks) (must : MustLeave e feature) :
    (e.post.latch feature).state ≠ .live := by
  intro live
  have stepped := (post_latch member feature).symm
  cases stepTier_live stepped live with
  | inl held =>
    obtain ⟨was, ready, signature, fine, _⟩ := held
    rw [latchBefore_active (.inl was)] at signature fine
    obtain ⟨_, unready | unsigned | ⟨baseline, stamped, exceeds⟩⟩ := must
    · simp [ready] at unready
    · exact unsigned signature
    · have ppd : (tierInputs e.pre e.input feature).ppd = e.input.ppd := by cases feature <;> rfl
      simp only [worsened, stamped, ppd, decide_eq_false_iff_not] at fine
      exact fine exceeds
  | inr flipped =>
    have was := flipped.1
    rw [latchBefore_active (.inr was), must.1] at was
    cases was

/-- At most one feature dwells. -/
def OneEligible (container : ComfortActivation K) : Prop :=
  ¬ (container.fanCe.state = .eligible ∧ container.pmvOffset.state = .eligible)

theorem oneEligible_step (container : ComfortActivation K) (tick : Tier2Tick K)
    (one : OneEligible container) : OneEligible (foldTier2Activation container tick).1 := by
  intro ⟨fan, pmv⟩
  have pmv_was : container.pmvOffset.state ≠ .eligible := by
    have stepped := (foldTier2Activation_latch container tick .fanCe).symm
    cases stepTier_eligible stepped fan with
    | inl entered => exact (mayDwell_fanCe container _).mp entered.2.1
    | inr stayed => exact fun other => one ⟨stayed.1, other⟩
  cases stepTier_eligible (foldTier2Activation_latch container tick .pmvOffset).symm pmv with
  | inl entered => exact ((mayDwell_pmvOffset (afterFan container tick) _).mp entered.2.1).1 fan
  | inr stayed =>
    have was := stayed.1
    rw [latchBefore_active (.inr was)] at was
    exact pmv_was was

theorem foldTier2Activation_generation (container : ComfortActivation K) (tick : Tier2Tick K) :
    container.generation ≤ (afterFan container tick).generation ∧
      (afterFan container tick).generation ≤
        (foldTier2Activation container tick).1.generation := by
  constructor
  · rw [afterFan_generation]
    split <;> omega
  · simp only [foldTier2Activation]
    split <;> omega

theorem activated_generation {container : ComfortActivation K} {tick : Tier2Tick K}
    {feature : Tier2Feature}
    (activated : Activated (Trace.Step.of foldTier2Activation container tick) feature) :
    container.generation < ((foldTier2Activation container tick).1.latch feature).generation ∧
      ((foldTier2Activation container tick).1.latch feature).generation ≤
        (foldTier2Activation container tick).1.generation := by
  obtain ⟨out, live⟩ := activated
  simp only [Trace.Step.of_pre, Trace.Step.of_post] at out live
  have stepped := (foldTier2Activation_latch container tick feature).symm
  have grows := foldTier2Activation_generation container tick
  cases stepTier_live stepped live with
  | inl held =>
    have same := latchBefore_active (.inl held.1)
    exact absurd (same ▸ held.1) out
  | inr flipped =>
    obtain ⟨was, _, _, _, _, generation⟩ := flipped
    rw [generation]
    cases feature with
    | fanCe =>
      have counted : (afterFan container tick).generation = container.generation + 1 := by
        have now : (stepTier container.fanCe (fanInputs container tick)).state = .live := by
          rw [← afterFan_fanCe]
          exact live
        rw [afterFan_generation, if_pos ⟨now, out⟩]
      simp only [tierInputs, fanInputs]
      omega
    | pmvOffset =>
      have counted : (foldTier2Activation container tick).1.generation =
          (afterFan container tick).generation + 1 := by
        have before : (afterFan container tick).pmvOffset.state = .eligible := was
        simp only [foldTier2Activation]
        rw [if_pos ⟨live, by simp [before]⟩]
      simp only [tierInputs, pmvInputs]
      omega

theorem activated_unique {ticks : List (Tier2Tick K)} {e : Tier2Step K}
    (member : e ∈ tier2Run ticks) : ¬ (Activated e .fanCe ∧ Activated e .pmvOffset) := by
  intro ⟨fan, pmv⟩
  cases stepTier_live (post_latch member .pmvOffset).symm pmv.2 with
  | inl held =>
    have same := latchBefore_active (.inl held.1)
    exact pmv.1 (same ▸ held.1)
  | inr flipped =>
    have was := flipped.1
    rw [latchBefore_active (.inr was)] at was
    cases stepTier_live (post_latch member .fanCe).symm fan.2 with
    | inl held => exact fan.1 held.1
    | inr dwelt =>
      -- the fan had leave to dwell, so the successor was not eligible
      have qualified := dwelt.2.1
      simp only [TierInputs.qualified, Bool.and_eq_true] at qualified
      exact (mayDwell_fanCe e.pre _).mp qualified.2 was

/-- Every activation so far carries a generation the counter has reached. -/
def GenerationsCounted (past : List (Tier2Step K)) (container : ComfortActivation K) : Prop :=
  ∀ d ∈ past, ∀ feature, Activated d feature →
    (d.post.latch feature).generation ≤ container.generation

theorem generationsCounted_run {ticks : List (Tier2Tick K)} {past : List (Tier2Step K)}
    {e : Tier2Step K} (moment : past ++ [e] <+: tier2Run ticks) :
    GenerationsCounted past e.pre := by
  refine Trace.history_of_moment foldTier2Activation GenerationsCounted
    (by simp [GenerationsCounted]) ?_ moment
  intro past container tick counted d member feature activated
  rw [List.mem_append, List.mem_singleton] at member
  cases member with
  | inl earlier =>
    have grows := foldTier2Activation_generation container tick
    have bound := counted d earlier feature activated
    omega
  | inr last =>
    subst last
    exact (activated_generation activated).2

/-! ### The whole run -/

/-- The safety of a run of report ticks. -/
structure Tier2Safe (ticks : List (Tier2Tick K)) : Prop where
  dwell : ∀ past e, past ++ [e] <+: tier2Run ticks → ∀ feature, Activated e feature →
    (∃ since, EligibleSince past since feature ∧
      dwellTargetMin ≤ qualifiedMinutes (since ++ [e]) feature) ∧ Stamped e feature
  exits : ∀ e ∈ tier2Run ticks, ∀ feature, MustLeave e feature →
    (e.post.latch feature).state ≠ .live
  exclusive : ∀ e ∈ tier2Run ticks, OneEligible e.pre ∧ OneEligible e.post
  generations : ∀ past e, past ++ [e] <+: tier2Run ticks → ∀ feature, Activated e feature →
    (∀ d ∈ past, ∀ other, Activated d other →
      (d.post.latch other).generation < (e.post.latch feature).generation) ∧
    ∀ other, Activated e other → other = feature

theorem tier2_safe (ticks : List (Tier2Tick K)) : Tier2Safe ticks where
  dwell _ _ moment _ activated := activated_dwell moment activated
  exits _ member _ must := mustLeave_leaves member must
  exclusive _ member :=
    Trace.invariant_of_mem _ OneEligible (by simp [OneEligible]) oneEligible_step member
  generations past e moment feature activated := by
    constructor
    · intro d member other earlier
      have counted := generationsCounted_run moment d member other earlier
      have shape := Trace.step_of_mem _ (Trace.mem_of_moment _ moment)
      rw [shape] at activated ⊢
      have fresh := (activated_generation activated).1
      exact lt_of_le_of_lt counted fresh
    · intro other both
      have unique := activated_unique (Trace.mem_of_moment _ moment)
      cases feature <;> cases other <;> simp_all

end Poise
