import Poise.Control.ComfortActivation
import Mathlib.Algebra.Field.Rat
import Mathlib.Algebra.Order.Ring.Rat

/-!
# Laws of the tier-2 activation

Which latch a tick can make eligible or live, what a whole run of ticks then
guarantees, and when the serialization of the two latches blocks both of them.
-/
namespace Poise

variable {K : Type*} [Field K] [LinearOrder K]

/-! ### One latch step -/

def TierInputs.qualified (inputs : TierInputs K) : Bool :=
  inputs.ready && inputs.entryOk && inputs.allowed

def dwellGain (inputs : TierInputs K) : K := if inputs.qualified then inputs.dtMin else 0

/-- A live latch has nothing to leave LIVE for in this tick. -/
def HoldsLive (act : TierActivation K) (inputs : TierInputs K) : Prop :=
  inputs.ready = true ∧ act.baselineSignature = some inputs.signature ∧
    worsened act inputs.ppd = false

/-- Everything one step can do to a latch, with the gates it passed. -/
inductive TierMove (act : TierActivation K) (inputs : TierInputs K) : TierActivation K → Prop where
  | retire (impossible : inputs.impossible = true) (active : act.state ≠ .shadow) :
      TierMove act inputs { state := .shadow, generation := act.generation }
  | stay (out : act.state = .shadow ∨ act.state = .suspended)
      (unentered : inputs.impossible = true ∨ (inputs.ready && inputs.allowed) = false) :
      TierMove act inputs act
  | enter (possible : inputs.impossible = false)
      (out : act.state = .shadow ∨ act.state = .suspended)
      (ready : inputs.ready = true) (allowed : inputs.allowed = true) :
      TierMove act inputs { state := .eligible, generation := act.generation }
  | hold (possible : inputs.impossible = false) (was : act.state = .live)
      (holds : HoldsLive act inputs) : TierMove act inputs act
  | suspend (possible : inputs.impossible = false) (was : act.state = .live)
      (against : ¬ HoldsLive act inputs) :
      TierMove act inputs { state := .suspended, generation := act.generation }
  | complete (possible : inputs.impossible = false) (was : act.state = .eligible)
      (qualified : inputs.qualified = true) (full : dwellTargetMin ≤ act.dwellMin + inputs.dtMin) :
      TierMove act inputs
        { state := .live
          dwellMin := act.dwellMin + inputs.dtMin
          baselinePpd := some inputs.ppd
          baselineSignature := some inputs.signature
          generation := inputs.nextGeneration }
  | dwell (possible : inputs.impossible = false) (was : act.state = .eligible)
      (short : inputs.qualified = true → act.dwellMin + inputs.dtMin < dwellTargetMin) :
      TierMove act inputs { act with dwellMin := act.dwellMin + dwellGain inputs }

theorem stepTier_moves (act : TierActivation K) (inputs : TierInputs K) :
    TierMove act inputs (stepTier act inputs) := by
  unfold stepTier
  split
  · next impossible =>
    split
    · next shadow => exact .stay (.inl shadow) (.inl impossible)
    · next active => exact .retire impossible active
  · next possible =>
    rw [Bool.not_eq_true] at possible
    split
    · next was =>
      split
      · next against =>
        refine .suspend possible was fun holds => ?_
        simp [holds.1, holds.2.1, holds.2.2] at against
      · next holds =>
        refine .hold possible was ?_
        simpa [HoldsLive, and_assoc] using holds
    · next out =>
      split
      · next entered =>
        rw [Bool.and_eq_true] at entered
        exact .enter possible (.inl out) entered.1 entered.2
      · next unentered => exact .stay (.inl out) (.inr (by simpa using unentered))
    · next out =>
      split
      · next entered =>
        rw [Bool.and_eq_true] at entered
        exact .enter possible (.inr out) entered.1 entered.2
      · next unentered => exact .stay (.inr out) (.inr (by simpa using unentered))
    · next was =>
      split
      · next qualified =>
        split
        · next full => exact .complete possible was qualified full
        · next short =>
          have move := TierMove.dwell possible was fun _ => not_le.mp short
          simpa [dwellGain, TierInputs.qualified, qualified] using move
      · next frozen =>
        have move := TierMove.dwell possible was fun qualified => absurd qualified frozen
        simpa [dwellGain, TierInputs.qualified, frozen] using move
/-- What makes a latch eligible: it enters with no dwell, or it was eligible and
its dwell grows by a qualified tick. -/
theorem stepTier_eligible {act nxt : TierActivation K} {inputs : TierInputs K}
    (stepped : stepTier act inputs = nxt) (eligible : nxt.state = .eligible) :
    act.state ≠ .eligible ∧ inputs.allowed = true ∧ nxt.dwellMin = 0 ∨
      act.state = .eligible ∧ nxt.dwellMin = act.dwellMin + dwellGain inputs := by
  have move := stepped ▸ stepTier_moves act inputs
  cases move with
  | retire => cases eligible
  | stay out _ => simp [eligible] at out
  | enter possible out ready allowed =>
    refine .inl ⟨fun was => ?_, allowed, rfl⟩
    simp [was] at out
  | hold possible was _ =>
    rw [was] at eligible
    cases eligible
  | suspend => cases eligible
  | complete => cases eligible
  | dwell possible was _ => exact .inr ⟨was, rfl⟩

/-- What makes a latch live: it was live and nothing spoke against it, or it was
eligible and a qualified tick completed its dwell. -/
theorem stepTier_live {act nxt : TierActivation K} {inputs : TierInputs K}
    (stepped : stepTier act inputs = nxt) (live : nxt.state = .live) :
    act.state = .live ∧ inputs.ready = true ∧ act.baselineSignature = some inputs.signature ∧
        worsened act inputs.ppd = false ∧ nxt = act ∨
      act.state = .eligible ∧ inputs.qualified = true ∧
        dwellTargetMin ≤ act.dwellMin + inputs.dtMin ∧ nxt.baselinePpd = some inputs.ppd ∧
        nxt.baselineSignature = some inputs.signature ∧
        nxt.generation = inputs.nextGeneration := by
  have move := stepped ▸ stepTier_moves act inputs
  cases move with
  | retire => cases live
  | stay out _ => simp [live] at out
  | enter => cases live
  | hold possible was holds => exact .inl ⟨was, holds.1, holds.2.1, holds.2.2, rfl⟩
  | suspend => cases live
  | complete possible was qualified full => exact .inr ⟨was, qualified, full, rfl, rfl, rfl⟩
  | dwell possible was _ =>
    rw [was] at live
    cases live

-- Without leave to dwell a latch neither enters nor leaves ELIGIBLE.
theorem stepTier_blocked {act : TierActivation K} {inputs : TierInputs K}
    (possible : inputs.impossible = false) (blocked : inputs.allowed = false) :
    (stepTier act inputs).state = .eligible ↔ act.state = .eligible := by
  constructor
  · intro eligible
    cases stepTier_eligible rfl eligible with
    | inl entered => simp [blocked] at entered
    | inr stayed => exact stayed.1
  · intro eligible
    simp [stepTier, possible, blocked, eligible]

theorem stepTier_impossible {act : TierActivation K} {inputs : TierInputs K}
    (impossible : inputs.impossible = true) : (stepTier act inputs).state = .shadow := by
  unfold stepTier
  rw [if_pos impossible]
  split
  · next shadow => exact shadow
  · rfl

theorem stepTier_generation {act nxt : TierActivation K} {inputs : TierInputs K}
    (stepped : stepTier act inputs = nxt) :
    nxt.generation = act.generation ∨
      nxt.state = .live ∧ act.state ≠ .live ∧ nxt.generation = inputs.nextGeneration := by
  have move := stepped ▸ stepTier_moves act inputs
  cases move with
  | complete possible was => exact .inr ⟨rfl, by simp [was], rfl⟩
  | _ => exact .inl rfl

/-! ### One report tick -/

abbrev Tier2Step (K : Type*) [Zero K] :=
  Trace.Step (ComfortActivation K) (Tier2Tick K) (Option Tier2Feature)

def tier2Run (ticks : List (Tier2Tick K)) : List (Tier2Step K) :=
  Trace.trace foldTier2Activation {} ticks

-- The latch as its `step_tier` call finds it in the tick.
def latchBefore (ca0 : ComfortActivation K) (tick : Tier2Tick K) :
    Tier2Feature → TierActivation K
  | .fanCe => ca0.fanCe
  | .pmvOffset => (afterFan ca0 tick).pmvOffset

def tierInputs (ca0 : ComfortActivation K) (tick : Tier2Tick K) : Tier2Feature → TierInputs K
  | .fanCe => fanInputs ca0 tick
  | .pmvOffset => pmvInputs (afterFan ca0 tick) tick

omit [LinearOrder K] in
theorem dropDependent_active {generation : ℤ} {act : TierActivation K} {state : TierState}
    (active : state = .live ∨ state = .eligible) :
    (dropDependent generation act).state = state ↔
      act.state = state ∧ ¬ generation < act.generation := by
  unfold dropDependent
  split
  · next dropped =>
    constructor
    · intro same
      cases active <;> simp_all
    · intro kept
      exact absurd dropped.1 kept.2
  · next kept =>
    constructor
    · intro same
      exact ⟨same, fun younger => kept ⟨younger, by cases active <;> simp_all⟩⟩
    · exact fun same => same.1

omit [LinearOrder K] in
theorem dropDependent_eq {generation : ℤ} {act : TierActivation K}
    (active : (dropDependent generation act).state = .live ∨
      (dropDependent generation act).state = .eligible) :
    dropDependent generation act = act := by
  unfold dropDependent at active ⊢
  split <;> simp_all

theorem stepTier_kept_generation {act : TierActivation K} {inputs : TierInputs K}
    (out : (stepTier act inputs).state ≠ .live) :
    (stepTier act inputs).generation = act.generation := by
  have stepped : stepTier act inputs = stepTier act inputs := rfl
  cases stepTier_generation stepped with
  | inl kept => exact kept
  | inr activated => exact absurd activated.1 out

-- The cascade never touches the feature whose exit caused it.
@[simp] theorem afterFan_fanCe (ca0 : ComfortActivation K) (tick : Tier2Tick K) :
    (afterFan ca0 tick).fanCe = stepTier ca0.fanCe (fanInputs ca0 tick) := by
  simp only [afterFan]
  split
  · next left =>
    simp [cascadeAfterInvalidation, dropDependent, stepTier_kept_generation left.2]
  · rfl

theorem afterFan_generation (ca0 : ComfortActivation K) (tick : Tier2Tick K) :
    (afterFan ca0 tick).generation =
      if (stepTier ca0.fanCe (fanInputs ca0 tick)).state = .live ∧ ca0.fanCe.state ≠ .live then
        ca0.generation + 1
      else ca0.generation := by
  simp only [afterFan]
  split <;> rfl

theorem afterFan_pmvOffset (ca0 : ComfortActivation K) (tick : Tier2Tick K) :
    (afterFan ca0 tick).pmvOffset =
      if ca0.fanCe.state = .live ∧ (stepTier ca0.fanCe (fanInputs ca0 tick)).state ≠ .live then
        dropDependent ca0.fanCe.generation ca0.pmvOffset
      else ca0.pmvOffset := by
  simp only [afterFan]
  split <;> rfl

theorem foldTier2Activation_latch (ca0 : ComfortActivation K) (tick : Tier2Tick K)
    (feature : Tier2Feature) :
    (foldTier2Activation ca0 tick).1.latch feature =
      stepTier (latchBefore ca0 tick feature) (tierInputs ca0 tick feature) := by
  cases feature with
  | fanCe => exact afterFan_fanCe ca0 tick
  | pmvOffset => rfl

-- An active latch reaches its step as the tick found it.
theorem latchBefore_active {ca0 : ComfortActivation K} {tick : Tier2Tick K}
    {feature : Tier2Feature}
    (active : (latchBefore ca0 tick feature).state = .live ∨
      (latchBefore ca0 tick feature).state = .eligible) :
    latchBefore ca0 tick feature = ca0.latch feature := by
  cases feature with
  | fanCe => rfl
  | pmvOffset =>
    simp only [latchBefore, ComfortActivation.latch, afterFan_pmvOffset] at active ⊢
    split
    · next left =>
      rw [if_pos left] at active
      exact dropDependent_eq active
    · rfl

/-! ### The serialization -/

-- Neither live nor structurally impossible in this zone.
def Remaining (container : ComfortActivation K) (impossible : Bool) (feature : Tier2Feature) :
    Prop :=
  (container.latch feature).state ≠ .live ∧ ¬ (feature = .fanCe ∧ impossible = true)

/-- As long as a feature remains to be activated, one of them may dwell. -/
def Unblocked (container : ComfortActivation K) (impossible : Bool) : Prop :=
  (∃ feature, Remaining container impossible feature) →
    ∃ feature, Remaining container impossible feature ∧
      mayDwell container feature impossible = true

omit [LinearOrder K] in
theorem unblocked_possible (container : ComfortActivation K) :
    Unblocked container false ↔
      (container.pmvOffset.state = .eligible → container.fanCe.state = .live) := by
  constructor
  · intro free eligible
    by_contra out
    -- the eligible successor keeps the fan out, the fan keeps the successor out
    obtain ⟨feature, remaining, allowed⟩ := free ⟨.fanCe, out, by simp⟩
    cases feature with
    | fanCe => exact (mayDwell_fanCe container false).mp allowed eligible
    | pmvOffset =>
      have waits := ((mayDwell_pmvOffset container false).mp allowed).2
      simp [out] at waits
  · intro ordered remains
    by_cases live : container.fanCe.state = .live
    · obtain ⟨feature, remaining⟩ := remains
      cases feature with
      | fanCe => exact absurd live remaining.1
      | pmvOffset => exact ⟨.pmvOffset, remaining, by simp [live]⟩
    · exact ⟨.fanCe, ⟨live, by simp⟩, by simpa using mt ordered live⟩

omit [LinearOrder K] in
theorem unblocked_impossible (container : ComfortActivation K)
    (retired : container.fanCe.state = .shadow) : Unblocked container true := by
  intro remains
  obtain ⟨feature, remaining⟩ := remains
  cases feature with
  | fanCe => exact absurd ⟨rfl, rfl⟩ remaining.2
  | pmvOffset => exact ⟨.pmvOffset, remaining, by simp [retired]⟩

/-- An eligible successor of a possible predecessor meets it live, and the
predecessor stays so or takes the successor out of ELIGIBLE with it. -/
def PredecessorKept (container : ComfortActivation K) (tick : Tier2Tick K) : Prop :=
  container.pmvOffset.state = .eligible → tick.predImpossible = false →
    container.fanCe.state = .live ∧
      (HoldsLive container.fanCe (fanInputs container tick) ∨
        container.fanCe.generation < container.pmvOffset.generation)

theorem stepTier_holdsLive {act : TierActivation K} {inputs : TierInputs K}
    (possible : inputs.impossible = false) (was : act.state = .live) :
    (stepTier act inputs).state = .live ↔ HoldsLive act inputs := by
  constructor
  · intro live
    cases stepTier_live rfl live with
    | inl held => exact ⟨held.2.1, held.2.2.1, held.2.2.2.1⟩
    | inr activated => simp [was] at activated
  · intro ⟨ready, signed, fine⟩
    simp [stepTier, possible, was, ready, signed, fine]

-- Beside an eligible successor the fan latch can only keep what it has.
theorem fan_beside_eligible {ca0 : ComfortActivation K} {tick : Tier2Tick K}
    (possible : tick.predImpossible = false) (eligible : ca0.pmvOffset.state = .eligible) :
    (foldTier2Activation ca0 tick).1.fanCe.state = .live ↔
      ca0.fanCe.state = .live ∧ HoldsLive ca0.fanCe (fanInputs ca0 tick) := by
  have fan : (foldTier2Activation ca0 tick).1.fanCe =
      stepTier ca0.fanCe (fanInputs ca0 tick) := afterFan_fanCe ca0 tick
  rw [fan]
  constructor
  · intro live
    cases stepTier_live rfl live with
    | inl held => exact ⟨held.1, held.2.1, held.2.2.1, held.2.2.2.1⟩
    | inr activated =>
      have allowed : mayDwell ca0 .fanCe tick.predImpossible = true := by
        have qualified := activated.2.1
        simp only [TierInputs.qualified, Bool.and_eq_true] at qualified
        exact qualified.2
      exact absurd eligible ((mayDwell_fanCe ca0 _).mp allowed)
  · intro ⟨was, holds⟩
    exact (stepTier_holdsLive possible was).mpr holds

-- Below a fan latch that is not live, only the cascade takes the successor out of ELIGIBLE.
theorem pmv_below_fan {ca0 : ComfortActivation K} {tick : Tier2Tick K}
    (possible : tick.predImpossible = false)
    (out : (foldTier2Activation ca0 tick).1.fanCe.state ≠ .live) :
    (foldTier2Activation ca0 tick).1.pmvOffset.state = .eligible ↔
      ca0.pmvOffset.state = .eligible ∧
        ¬ (ca0.fanCe.state = .live ∧ ca0.fanCe.generation < ca0.pmvOffset.generation) := by
  have fan : (foldTier2Activation ca0 tick).1.fanCe =
      stepTier ca0.fanCe (fanInputs ca0 tick) := afterFan_fanCe ca0 tick
  have pmv : (foldTier2Activation ca0 tick).1.pmvOffset =
      stepTier (afterFan ca0 tick).pmvOffset (pmvInputs (afterFan ca0 tick) tick) := rfl
  rw [fan] at out
  have blocked : (pmvInputs (afterFan ca0 tick) tick).allowed = false := by
    apply Bool.eq_false_iff.mpr
    intro allowed
    have waits := ((mayDwell_pmvOffset (afterFan ca0 tick) _).mp allowed).2
    simp [possible, out] at waits
  rw [pmv, stepTier_blocked rfl blocked, afterFan_pmvOffset]
  by_cases live : ca0.fanCe.state = .live
  · rw [if_pos ⟨live, out⟩, dropDependent_active (.inr rfl)]
    simp [live]
  · rw [if_neg fun left => live left.1]
    simp [live]

theorem foldTier2Activation_unblocked (ca0 : ComfortActivation K) (tick : Tier2Tick K) :
    Unblocked (foldTier2Activation ca0 tick).1 tick.predImpossible ↔
      PredecessorKept ca0 tick := by
  cases impossible : tick.predImpossible with
  | true =>
    -- an impossible predecessor is in shadow when the tick ends
    have retired : (foldTier2Activation ca0 tick).1.fanCe.state = .shadow := by
      simp [foldTier2Activation, stepTier_impossible, fanInputs, impossible]
    simp [unblocked_impossible _ retired, PredecessorKept, impossible]
  | false =>
    rw [unblocked_possible]
    constructor
    · intro ordered eligible _
      by_cases live : (foldTier2Activation ca0 tick).1.fanCe.state = .live
      · have held := (fan_beside_eligible impossible eligible).mp live
        exact ⟨held.1, .inl held.2⟩
      · have freed := mt (pmv_below_fan impossible live).mpr (mt ordered live)
        have cascaded := not_not.mp fun kept => freed ⟨eligible, kept⟩
        exact ⟨cascaded.1, .inr cascaded.2⟩
    · intro kept eligible
      by_contra out
      obtain ⟨was, stays⟩ := (pmv_below_fan impossible out).mp eligible
      obtain ⟨live, holds | younger⟩ := kept was impossible
      · exact out ((fan_beside_eligible impossible was).mpr ⟨live, holds⟩)
      · exact stays ⟨live, younger⟩

-- Nothing but an impossible predecessor ends a block.
theorem blocked_step {container : ComfortActivation K} {tick : Tier2Tick K}
    (blocked : ¬ Unblocked container false) (possible : tick.predImpossible = false) :
    ¬ Unblocked (foldTier2Activation container tick).1 false := by
  intro freed
  rw [unblocked_possible, Classical.not_imp] at blocked
  rw [← possible, foldTier2Activation_unblocked] at freed
  exact blocked.2 (freed blocked.1 possible).1

theorem blocked_forever {container : ComfortActivation K} {ticks : List (Tier2Tick K)}
    (blocked : ¬ Unblocked container false)
    (possible : ∀ tick ∈ ticks, tick.predImpossible = false) :
    ¬ Unblocked (Trace.final foldTier2Activation container ticks) false := by
  induction ticks generalizing container with
  | nil => exact blocked
  | cons tick ticks ih =>
    apply ih
    · exact blocked_step blocked (possible tick (by simp))
    · exact fun later member => possible later (by simp [member])

/-- No container of the run, the default one included, blocks every feature. -/
def NeverBlocked (ticks : List (Tier2Tick K)) : Prop :=
  (∀ impossible, Unblocked ({} : ComfortActivation K) impossible) ∧
    ∀ e ∈ tier2Run ticks, Unblocked e.post e.input.predImpossible

/-- A run of report ticks never blocks every remaining feature at once if and only
if no tick takes the fan latch from an eligible successor it does not cascade. -/
theorem tier2_never_blocked_iff (ticks : List (Tier2Tick K)) :
    NeverBlocked ticks ↔ ∀ e ∈ tier2Run ticks, PredecessorKept e.pre e.input := by
  have stepwise : (∀ e ∈ tier2Run ticks, Unblocked e.post e.input.predImpossible) ↔
      ∀ e ∈ tier2Run ticks, PredecessorKept e.pre e.input := by
    apply forall₂_congr
    intro e member
    have post : e.post = (foldTier2Activation e.pre e.input).1 := by
      rw [Trace.step_of_mem _ member]
      rfl
    rw [post]
    exact foldTier2Activation_unblocked e.pre e.input
  have fresh : ∀ impossible, Unblocked ({} : ComfortActivation K) impossible := by
    intro impossible
    cases impossible with
    | true => exact unblocked_impossible _ rfl
    | false => simp [unblocked_possible]
  rw [← stepwise]
  exact ⟨fun law => law.2, fun law => ⟨fresh, law⟩⟩

-- A mature zone with every gate open, one tick of two minutes.
def matureTick : Tier2Tick ℚ :=
  { activeComfort := true
    pmvReady := true
    entryOk := true
    ppd := 6
    signature := fun _ => "pmv1|standard|+0.00|"
    dtMin := 2
    predImpossible := false }

-- The fan live after its day of dwell; the PMV latch became eligible in the same tick.
def fanJustLive : ComfortActivation ℚ :=
  { fanCe :=
      { state := .live
        dwellMin := 1440
        baselinePpd := some 6
        baselineSignature := some "pmv1|standard|+0.00|"
        generation := 1 }
    pmvOffset := { state := .eligible }
    generation := 1 }

-- The fan on its way through the dwell, everything else as it started.
def fanDwelling (dwellMin : ℚ) : ComfortActivation ℚ :=
  { fanCe := { state := .eligible, dwellMin } }

theorem mature_dwells {dwellMin : ℚ} (short : dwellMin + 2 < dwellTargetMin) :
    (foldTier2Activation (fanDwelling dwellMin) matureTick).1 = fanDwelling (dwellMin + 2) := by
  simp [foldTier2Activation, afterFan, fanDwelling, matureTick, stepTier, fanInputs, pmvInputs,
    not_le.mpr short]

theorem final_dwelling (n : ℕ) (short : 2 * n < 1440) :
    Trace.final foldTier2Activation {} (List.replicate (n + 1) matureTick) =
      fanDwelling (2 * n : ℕ) := by
  induction n with
  | zero => decide +kernel
  | succ n ih =>
    have bound : ((2 * n : ℕ) : ℚ) + 2 < dwellTargetMin := by
      rw [dwellTargetMin]
      exact_mod_cast short
    have next : 2 * (n + 1) = 2 * n + 2 := by omega
    rw [List.replicate_succ', Trace.final_append, ih (by omega), next, Nat.cast_add]
    exact mature_dwells bound

-- The first tick enters, the last of the day completes the dwell.
theorem final_mature :
    Trace.final foldTier2Activation {} (List.replicate 721 matureTick) = fanJustLive := by
  rw [List.replicate_succ', Trace.final_append, final_dwelling 719 (by omega)]
  decide +kernel

/-- The user switches active comfort off in the tick after the fan went live. -/
theorem tier2_deadlocks : ¬ ∀ ticks : List (Tier2Tick ℚ), NeverBlocked ticks := by
  intro law
  let off : Tier2Tick ℚ := { matureTick with activeComfort := false }
  have freed := (law (List.replicate 721 matureTick ++ [off])).2 _
    (Trace.last_mem_trace foldTier2Activation {} _ off)
  rw [final_mature] at freed
  have kept := (foldTier2Activation_unblocked fanJustLive off).mp freed rfl rfl
  cases kept.2 with
  | inl holds => simp [HoldsLive, fanInputs, off] at holds
  | inr younger => simp [fanJustLive] at younger

end Poise
