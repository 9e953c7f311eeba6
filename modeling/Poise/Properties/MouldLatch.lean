import Poise.Comfort.MouldRisk
import Mathlib.Analysis.SpecialFunctions.Log.Basic
import Mathlib.Tactic.NormNum

/-!
# The mould floor's hysteresis over runs

Once engaged, the floor is to hold on every later reading until the dose releases
it. A reading straight after a reading keeps this promise. After a dropout the
previous verdict is gone: the promise is broken exactly when a floor that was
engaged before the dropout meets a dose that neither engages it again nor
releases it.
-/
namespace Poise

open Trace

variable {K : Type*}

abbrev FloorRun (K : Type*) := Trace.Step (MouldState K) (FloorTick K) (SafetyFloorsResult K)

def lastVerdict (past : List (FloorRun K)) : Bool :=
  ((past.filter fun f => f.input.rh.isSome).getLast?).any fun f => f.output.mouldEngaged

theorem lastVerdict_reading {past : List (FloorRun K)} {e : FloorRun K}
    (reading : e.input.rh ≠ none) :
    lastVerdict (past ++ [e]) = e.output.mouldEngaged := by
  have some : e.input.rh.isSome = true := Option.isSome_iff_ne_none.mpr reading
  simp [lastVerdict, List.filter_append, some]

theorem lastVerdict_dropout {past : List (FloorRun K)} {e : FloorRun K}
    (blind : e.input.rh = none) :
    lastVerdict (past ++ [e]) = lastVerdict past := by
  simp [lastVerdict, List.filter_append, blind]

variable [Field K] [LinearOrder K]

def SafetyFloorsResult.Unreleased (r : SafetyFloorsResult K) : Prop :=
  -- The dose does not release an engaged floor.
  indexRelease ≤ r.mouldIndex ∨ acuteWetHours ≤ r.mouldWetHours

/-- Some earlier tick engaged the floor and no reading since has released it. -/
def Owed (past : List (FloorRun K)) : Prop :=
  ∃ before f since, past = before ++ f :: since ∧ f.output.mouldEngaged = true ∧
    ∀ g ∈ since, g.input.rh ≠ none → g.output.Unreleased

/-- The hysteresis: a floor still owed is engaged on every reading that does not release it. -/
def Hysteresis (past : List (FloorRun K)) (e : FloorRun K) : Prop :=
  Owed past → e.input.rh ≠ none → e.output.Unreleased → e.output.mouldEngaged = true

theorem owed_append {past : List (FloorRun K)} {e : FloorRun K} (owed : Owed (past ++ [e])) :
    e.output.mouldEngaged = true ∨
      (Owed past ∧ (e.input.rh ≠ none → e.output.Unreleased)) := by
  obtain ⟨before, f, since, split, engaged, unreleased⟩ := owed
  rcases List.eq_nil_or_concat' since with rfl | ⟨since, g, rfl⟩
  · have same : e = f := by
      have last := congrArg List.getLast? split
      simpa using last
    exact Or.inl (same ▸ engaged)
  · have cut : past ++ [e] = (before ++ f :: since) ++ [g] := by simpa using split
    obtain ⟨rfl, last⟩ := List.append_inj' cut rfl
    obtain rfl : e = g := by simpa using last
    exact Or.inr ⟨⟨before, f, since, rfl, engaged, fun h member => unreleased h (by simp [member])⟩,
      unreleased e (by simp)⟩

theorem owed_of_lastVerdict {past : List (FloorRun K)} (latched : lastVerdict past = true) :
    Owed past := by
  induction past using List.reverseRecOn with
  | nil => simp [lastVerdict] at latched
  | append_singleton past e ih =>
    by_cases blind : e.input.rh = none
    · rw [lastVerdict_dropout blind] at latched
      obtain ⟨before, f, since, rfl, engaged, unreleased⟩ := ih latched
      refine ⟨before, f, since ++ [e], by simp, engaged, fun g member reading => ?_⟩
      cases List.mem_append.mp member with
      | inl earlier => exact unreleased g earlier reading
      | inr newest =>
        rw [List.mem_singleton.mp newest] at reading
        exact absurd blind reading
    · rw [lastVerdict_reading blind] at latched
      exact ⟨past, e, [], rfl, latched, by simp⟩

theorem engagement_iff (dose : MouldDose K) (was : Bool) :
    (engagement dose was).1 = true ↔
      indexEngage ≤ dose.index ∨ acuteWetHours ≤ dose.wetHours ∨
        (was = true ∧ indexRelease ≤ dose.index) := by
  unfold engagement
  split
  next high => simp [high]
  next low =>
  split
  next wet => simp [wet]
  next short =>
  split
  next held => simp [held]
  next free =>
    simp only [Bool.false_eq_true, false_iff]
    tauto

variable [ExpLog K] {entryId : String} {humidityEntity : Option String}

/-! ### One tick -/

theorem floorStep_dropout {hum : MouldState K} {ing : FloorTick K} (blind : ing.rh = none) :
    (floorStep entryId humidityEntity hum ing).1 = { hum with mouldEngaged := false } := by
  simp [floorStep, stageSafetyFloors, MouldInput.evaluate, MouldState.input, blind]

theorem floorStep_post (entryId : String) (humidityEntity : Option String) (hum : MouldState K)
    {ing : FloorTick K} {rh : K} (reading : ing.rh = some rh) :
    let dose := (hum.input ing).advance SubstrateClass.sensitive.spec rh 0.7
    (floorStep entryId humidityEntity hum ing).1 =
      ⟨dose.index, dose.wetHours, dose.dryHours, (engagement dose hum.mouldEngaged).1⟩ := by
  simp [floorStep, stageSafetyFloors, MouldInput.evaluate, MouldState.input, reading]

theorem floorStep_reading (entryId : String) (humidityEntity : Option String) (hum : MouldState K)
    {ing : FloorTick K} {rh : K} (reading : ing.rh = some rh) :
    let floors := (floorStep entryId humidityEntity hum ing).2
    let dose := (hum.input ing).advance SubstrateClass.sensitive.spec rh 0.7
    floors.mouldIndex = dose.index ∧ floors.mouldWetHours = dose.wetHours ∧
      floors.mouldEngaged = (engagement dose hum.mouldEngaged).1 := by
  simp [floorStep, stageSafetyFloors, MouldInput.evaluate, MouldState.input, reading]

theorem floorStep_carries (hum : MouldState K) (ing : FloorTick K) :
    (floorStep entryId humidityEntity hum ing).1.mouldEngaged =
      (floorStep entryId humidityEntity hum ing).2.mouldEngaged := rfl

/-! ### Runs -/

/-- The first reading after a dropout that began with an engaged floor finds a dose
between release and engagement. -/
def ForgetsLatch (past : List (FloorRun K)) (e : FloorRun K) : Prop :=
  (∃ d ∈ past.getLast?, d.input.rh = none) ∧ lastVerdict past = true ∧
    ∃ rh ∈ e.input.rh,
      let dose := (e.pre.input e.input).advance SubstrateClass.sensitive.spec rh 0.7
      indexRelease ≤ dose.index ∧ dose.index < indexEngage ∧ dose.wetHours < acuteWetHours

theorem carried_latch {start : MouldState K} {ticks : List (FloorTick K)}
    {past : List (FloorRun K)} {e : FloorRun K}
    (moment : past ++ [e] <+: trace (floorStep entryId humidityEntity) start ticks) :
    ∀ f ∈ past.getLast?, e.pre.mouldEngaged = f.output.mouldEngaged := by
  -- the invariant only looks at the newest step, so one tick renews it
  refine history_of_moment (floorStep entryId humidityEntity)
    (fun past hum => ∀ f ∈ past.getLast?, hum.mouldEngaged = f.output.mouldEngaged)
    (by simp) ?_ moment
  intro past hum ing _ f last
  simp only [List.getLast?_append, List.getLast?_singleton, Option.some_or, Option.mem_def,
    Option.some.injEq] at last
  subst last
  exact floorStep_carries hum ing

theorem engaged_of_unreleased {hum : MouldState K} {ing : FloorTick K} {rh : K}
    (reading : ing.rh = some rh)
    (unreleased : (floorStep entryId humidityEntity hum ing).2.Unreleased) :
    (floorStep entryId humidityEntity hum ing).2.mouldEngaged = false ↔
      hum.mouldEngaged = false ∧
        ((hum.input ing).advance SubstrateClass.sensitive.spec rh 0.7).index < indexEngage ∧
        ((hum.input ing).advance SubstrateClass.sensitive.spec rh 0.7).wetHours < acuteWetHours := by
  -- an unreleased dose below both engagement bounds is held up by the latch alone
  obtain ⟨index, wet, engaged⟩ := floorStep_reading entryId humidityEntity hum reading
  rw [SafetyFloorsResult.Unreleased, index, wet] at unreleased
  rw [engaged, ← Bool.not_eq_true, engagement_iff, not_or, not_or, not_le, not_le, not_and,
    ← Bool.not_eq_true]
  constructor
  · rintro ⟨low, short, free⟩
    have held := unreleased.resolve_right (not_le.mpr short)
    exact ⟨fun was => free was held, low, short⟩
  · rintro ⟨down, low, short⟩
    exact ⟨low, short, fun was => absurd was down⟩

section Run

variable {start : MouldState K} {ticks : List (FloorTick K)} {past : List (FloorRun K)}
  {e : FloorRun K}

theorem dropout_disengages (member : e ∈ trace (floorStep entryId humidityEntity) start ticks)
    (blind : e.input.rh = none) : e.output.mouldEngaged = false := by
  rw [step_of_mem _ member, Step.of_output, ← floorStep_carries, floorStep_dropout blind]

/-- Where the newest reading engaged the floor, a reading that does not release it finds
it down exactly when the tick forgets the latch. -/
theorem verdict_after
    (moment : past ++ [e] <+: trace (floorStep entryId humidityEntity) start ticks)
    (latched : lastVerdict past = true) (reading : e.input.rh ≠ none)
    (unreleased : e.output.Unreleased) : e.output.mouldEngaged = false ↔ ForgetsLatch past e := by
  obtain ⟨rh, read⟩ := Option.ne_none_iff_exists'.mp reading
  have carried := carried_latch moment
  have output : e.output = (floorStep entryId humidityEntity e.pre e.input).2 :=
    congrArg (·.output) (step_of_mem _ (mem_of_moment _ moment))
  obtain ⟨index, wet, _⟩ := floorStep_reading entryId humidityEntity e.pre read
  have unreleased' := unreleased
  rw [output] at unreleased
  rw [output, engaged_of_unreleased read unreleased]
  rw [SafetyFloorsResult.Unreleased, index, wet] at unreleased
  cases last : past.getLast? with
  | none => simp [List.getLast?_eq_none_iff.mp last, lastVerdict] at latched
  | some f =>
    have previous : e.pre.mouldEngaged = f.output.mouldEngaged := carried f last
    obtain ⟨before, rfl⟩ := List.getLast?_eq_some_iff.mp last
    by_cases blind : f.input.rh = none
    · -- a dropout came between: the carried latch is down
      have member : f ∈ trace (floorStep entryId humidityEntity) start ticks :=
        moment.subset (by simp)
      have down : e.pre.mouldEngaged = false := by rw [previous, dropout_disengages member blind]
      constructor
      · rintro ⟨_, low, short⟩
        have held := unreleased.resolve_right (not_le.mpr short)
        exact ⟨⟨f, last, blind⟩, latched, rh, read, held, low, short⟩
      · rintro ⟨_, _, rh', read', _, low, short⟩
        obtain rfl : rh = rh' := Option.some.inj (read.symm.trans read')
        exact ⟨down, low, short⟩
    · -- the previous tick was a reading: the latch is carried
      rw [lastVerdict_reading blind] at latched
      constructor
      · rintro ⟨down, _⟩
        simp [previous, latched] at down
      · rintro ⟨⟨d, isLast, gone⟩, _⟩
        obtain rfl : f = d := Option.some.inj (last.symm.trans isLast)
        exact absurd gone blind

/-- While no reading forgets the latch, a floor that is owed was engaged by the newest reading. -/
theorem owed_latched
    (within : past <+: trace (floorStep entryId humidityEntity) start ticks)
    (remembers : ∀ past e, past ++ [e] <+: trace (floorStep entryId humidityEntity) start ticks →
      ¬ ForgetsLatch past e) (owed : Owed past) : lastVerdict past = true := by
  induction past using List.reverseRecOn with
  | nil =>
    obtain ⟨before, f, since, split, _⟩ := owed
    simp at split
  | append_singleton past e ih =>
    have member : e ∈ trace (floorStep entryId humidityEntity) start ticks := within.subset (by simp)
    by_cases blind : e.input.rh = none
    · rw [lastVerdict_dropout blind]
      cases owed_append owed with
      | inl engaged => simp [dropout_disengages member blind] at engaged
      | inr older => exact ih ((List.prefix_append _ _).trans within) older.1
    · rw [lastVerdict_reading blind]
      cases owed_append owed with
      | inl engaged => exact engaged
      | inr older =>
        have latched := ih ((List.prefix_append _ _).trans within) older.1
        by_contra down
        exact remembers past e within
          ((verdict_after within latched blind (older.2 blind)).mp (by simpa using down))

end Run

noncomputable instance : ExpLog ℝ := ⟨Real.exp, Real.log⟩

-- A dry room at outdoor temperature: its surface is as dry as its air.
private def dryRoom (t : ℝ) (rh : Option ℝ) : FloorTick ℝ := ⟨t, rh, t⟩

theorem surfaceRelativeHumidity_isothermal : surfaceRelativeHumidity (20 : ℝ) 1 20 0.7 = 0.01 := by
  have positive : saturationPressure (20 : ℝ) ≠ 0 := by
    have := Real.exp_pos (17.625 * 20 / (243.04 + 20))
    simp only [saturationPressure, ExpLog.exp]
    positivity
  have surface : surfaceTemperature (20 : ℝ) 20 0.7 = 20 := by norm_num [surfaceTemperature]
  rw [surfaceRelativeHumidity, surface, vapourPressure, mul_div_assoc, div_self positive]
  norm_num

theorem advance_dry {hum : MouldState ℝ} (low : 1 ≤ hum.mouldIndex) (high : hum.mouldIndex ≤ 6)
    (fresh : hum.mouldDryHours ≤ 5) :
    ((hum.input (dryRoom 20 (some 1))).advance SubstrateClass.sensitive.spec 1 0.7) =
      ⟨hum.mouldIndex - 0.00133 * 0.5 / 60, 0, hum.mouldDryHours + 1 / 60⟩ := by
  have surface : surfaceTemperature (20 : ℝ) 20 0.7 = 20 := by norm_num [surfaceTemperature]
  have dry : ¬ criticalRh SubstrateClass.sensitive.spec (20 : ℝ) ≤ 0.01 * 100 := by
    norm_num [criticalRh, SubstrateClass.spec]
  have hour : (60 / 3600 : ℝ) = 1 / 60 := by norm_num
  have early : hum.mouldDryHours + 1 / 60 ≤ 6 := by linarith
  simp only [MouldInput.advance, MouldState.input, dryRoom, surfaceRelativeHumidity_isothermal,
    surface, indexStep, dry, false_and, if_false, hour, if_pos early]
  congr 1
  rw [max_eq_left, min_eq_left] <;> norm_num [SubstrateClass.spec] <;> linarith

end Poise
