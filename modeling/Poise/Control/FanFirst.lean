import Mathlib.Algebra.Order.Field.Rat
import Mathlib.Data.List.Induction

/-!
# The fan-first cooling stage

`control/fan_first.py`: a five-phase machine that tries the fan before the compressor,
gated by what the device reports. A failed `assert` of the source is `none`.
-/
namespace Poise

def fanEchoTimeoutS : ℚ := 180

def fanDwellMinS : ℚ := 600

def fanFirstTimeoutS : ℚ := 1800

def fastRiseK : ℚ := 1 / 2

def heatLimitC : ℚ := 35

def reentryBlockS : ℚ := 900

/-! ### The stage and its velocity -/

def clampLowC : ℚ := 23

def clampHighC : ℚ := 51 / 2

def clampLowMs : ℚ := 1 / 5

def clampHighMs : ℚ := 4 / 5

/-- The air-speed clamp for the current operative temperature. -/
def maxStageVelocity (operativeC : ℚ) : ℚ :=
  if operativeC < clampLowC then clampLowMs
  else if clampHighC ≤ operativeC then clampHighMs
  else
    let span := (clampHighMs - clampLowMs) / (clampHighC - clampLowC)
    clampLowMs + (operativeC - clampLowC) * span

/-- The velocity table of `comfort/fan_cooling.py`. -/
def fanSpeedMs : List (String × ℚ) :=
  [("silent", 1 / 4), ("quiet", 1 / 4), ("low", 1 / 4), ("min", 1 / 4), ("medium", 2 / 5),
    ("mid", 2 / 5), ("high", 13 / 20), ("strong", 13 / 20), ("focus", 13 / 20),
    ("turbo", 17 / 20), ("powerful", 17 / 20), ("max", 17 / 20), ("auto", 7 / 20)]

/-- The velocity of a known label. -/
def knownStageVelocity (stage : String) : Option ℚ := fanSpeedMs.lookup stage.toLower

/-- The velocity of a label the sequence may command under the clamp. -/
def qualifyingVelocity (maxVelocity : ℚ) (stage : String) : Option ℚ :=
  -- "auto" hands the speed to the firmware: no clamp can be guaranteed.
  if stage.toLower = "auto" then none
  else
    match knownStageVelocity stage with
    | none => none
    | some velocity =>
      if clampLowMs < velocity ∧ velocity ≤ maxVelocity then some velocity else none

/-- The fastest qualifying stage, the first of equals. -/
def selectFanStage (advertisedModes : List String) (maxVelocity : ℚ) : Option String :=
  let best := advertisedModes.foldl (fun (best : Option (ℚ × String)) stage =>
    match qualifyingVelocity maxVelocity stage, best with
    | none, best => best
    | some velocity, none => some (velocity, stage)
    | some velocity, some (fastest, chosen) =>
      if fastest < velocity then some (velocity, stage) else some (fastest, chosen)) none
  best.map Prod.snd

/-! ### State and inputs -/

inductive FanPhase where
  | idle
  | awaitFanOnly
  | awaitStage
  | dwell
  | yielded
  deriving DecidableEq, Repr

structure FanFirstState where
  phase : FanPhase := .idle
  engagedAt : Option ℚ := none
  phaseAt : Option ℚ := none
  stage : Option String := none
  roomAtEntry : Option ℚ := none
  entryFanMode : Option String := none
  blockedUntil : Option ℚ := none
  deriving DecidableEq, Repr

inductive FanCommand where
  | none
  | fanOnly
  | stage
  | cool
  | release
  deriving DecidableEq, Repr

structure FanFirstDecision where
  state : FanFirstState
  command : FanCommand
  reason : String
  restoreStage : Option String := none
  deriving DecidableEq, Repr

structure FanFirstInput where
  now : ℚ
  coolRequested : Bool
  fanFirstAllowed : Bool
  fanOnlyCapable : Bool
  observedHvacMode : Option String
  observedHvacAction : Option String
  observedFanMode : Option String
  advertisedModes : List String
  operativeC : ℚ
  roomC : ℚ
  presenceOk : Bool
  windowOpen : Bool
  inComfortWindow : Bool
  foreignFanChange : Bool
  deriving DecidableEq, Repr

def FanPhase.engaged : FanPhase → Bool
  | .awaitFanOnly | .awaitStage | .dwell => true
  | .idle | .yielded => false

/-- The stage to write back on exit: never a guess, never a duel. -/
def restoreTarget (state : FanFirstState) (observedFanMode : Option String)
    (advertisedModes : List String) : Option String :=
  if state.stage = none ∨ observedFanMode ≠ state.stage then none
  else
    let target := state.entryFanMode.or
      (if advertisedModes.any (·.toLower == "auto") then some "auto" else none)
    if target = observedFanMode then none else target

def released (now : ℚ) (reason : String) (restore : Option String) : FanFirstDecision :=
  ⟨{ blockedUntil := some (now + reentryBlockS) }, .release, reason, restore⟩

def yielded (state : FanFirstState) (now : ℚ) (reason : String) (restore : Option String) :
    FanFirstDecision :=
  ⟨{ state with phase := .yielded, phaseAt := some now }, .cool, reason, restore⟩

/-! ### The tick -/

section Tick

variable (state : FanFirstState) (i : FanFirstInput)

def FanFirstInput.fanStage : Option String :=
  selectFanStage i.advertisedModes (maxStageVelocity i.operativeC)

def restore : Option String := restoreTarget state i.observedFanMode i.advertisedModes

/-- The exits every engaged tick checks first. -/
def engagedExit (engagedAt roomAtEntry : ℚ) : Option FanFirstDecision :=
  if i.foreignFanChange then some (released i.now "foreign_fan_change" none)
  else if !i.coolRequested then some (released i.now "demand_ended" (restore state i))
  else if i.windowOpen then some (released i.now "window_open" (restore state i))
  else if !i.fanFirstAllowed || !i.presenceOk || !i.inComfortWindow || decide (heatLimitC ≤ i.roomC)
  then some (yielded state i.now "guard_lost" (restore state i))
  else if fanFirstTimeoutS < i.now - engagedAt then
    some (yielded state i.now "timeout" (restore state i))
  else if fastRiseK < i.roomC - roomAtEntry then
    some (yielded state i.now "fast_rise" (restore state i))
  else none

def entryOk : Bool :=
  i.coolRequested && i.fanFirstAllowed && i.fanOnlyCapable && i.presenceOk && !i.windowOpen &&
    i.inComfortWindow && decide (i.roomC < heatLimitC) &&
    -- A running compressor is never demoted, an unknown run state blocks.
    i.observedHvacAction.isSome && decide (i.observedHvacAction ≠ some "cooling") &&
    i.fanStage.isSome && state.blockedUntil.all (· ≤ i.now)

def idleTick : FanFirstDecision :=
  if !entryOk state i then ⟨state, .none, "idle", none⟩
  else
    ⟨{ phase := .awaitFanOnly, engagedAt := some i.now, phaseAt := some i.now,
       roomAtEntry := some i.roomC, entryFanMode := i.observedFanMode },
      .fanOnly, "engage", none⟩

def awaitFanOnlyTick : Option FanFirstDecision :=
  if i.observedHvacMode = some "fan_only" then
    match i.fanStage with
    | none => some (yielded state i.now "stage_lost" (restore state i))
    | some stage =>
      if i.observedFanMode = some stage then
        some ⟨{ state with phase := .dwell, stage := some stage, phaseAt := some i.now },
          .none, "dwell", none⟩
      else
        some ⟨{ state with phase := .awaitStage, stage := some stage, phaseAt := some i.now },
          .stage, "stage_request", none⟩
  else
    match state.phaseAt with
    | none => none
    | some phaseAt =>
      if fanEchoTimeoutS < i.now - phaseAt then
        some (yielded state i.now "echo_timeout" (restore state i))
      else some ⟨state, .none, "await_echo", none⟩

def awaitStageTick : Option FanFirstDecision :=
  if i.observedFanMode = state.stage then
    some ⟨{ state with phase := .dwell, phaseAt := some i.now }, .none, "dwell", none⟩
  else
    match state.phaseAt with
    | none => none
    | some phaseAt =>
      if fanEchoTimeoutS < i.now - phaseAt then
        some (yielded state i.now "stage_echo_timeout" (restore state i))
      else some ⟨state, .none, "await_echo", none⟩

def dwellTick : Option FanFirstDecision :=
  match state.phaseAt, state.roomAtEntry with
  | some phaseAt, some roomAtEntry =>
    if fanDwellMinS ≤ i.now - phaseAt ∧ roomAtEntry ≤ i.roomC then
      some (yielded state i.now "no_progress" (restore state i))
    else some ⟨state, .none, "dwelling", none⟩
  | _, _ => none

def yieldedTick : FanFirstDecision :=
  if !i.coolRequested then
    ⟨{ blockedUntil := some (i.now + reentryBlockS) }, .none, "reset", none⟩
  else ⟨state, .none, "yielded", none⟩

/-- The engaged phases: the assertions, the exits, then the phase itself. -/
def engagedTick (own : Option FanFirstDecision) : Option FanFirstDecision :=
  match state.engagedAt, state.phaseAt, state.roomAtEntry with
  | some engagedAt, some _, some roomAtEntry => (engagedExit state i engagedAt roomAtEntry).or own
  | _, _, _ => none

def fanFirstDecision : Option FanFirstDecision :=
  match state.phase with
  | .idle => some (idleTick state i)
  | .awaitFanOnly => engagedTick state i (awaitFanOnlyTick state i)
  | .awaitStage => engagedTick state i (awaitStageTick state i)
  | .dwell => engagedTick state i (dwellTick state i)
  | .yielded => some (yieldedTick state i)

end Tick

/-! ### What the selection guarantees -/

theorem qualifyingVelocity_spec {maxVelocity velocity : ℚ} {stage : String}
    (qualifies : qualifyingVelocity maxVelocity stage = some velocity) :
    stage.toLower ≠ "auto" ∧ knownStageVelocity stage = some velocity ∧
      clampLowMs < velocity ∧ velocity ≤ maxVelocity := by
  unfold qualifyingVelocity at qualifies
  split at qualifies
  next => cases qualifies
  next named =>
    split at qualifies
    next => cases qualifies
    next known =>
      split at qualifies
      next within =>
        rw [← Option.some.inj qualifies]
        exact ⟨named, known, within⟩
      next => cases qualifies

theorem selectFanStage_spec {advertisedModes : List String} {maxVelocity : ℚ} {stage : String}
    (selected : selectFanStage advertisedModes maxVelocity = some stage) :
    stage ∈ advertisedModes ∧ ∃ velocity, qualifyingVelocity maxVelocity stage = some velocity := by
  simp only [selectFanStage, Option.map_eq_some_iff] at selected
  obtain ⟨⟨velocity, chosen⟩, folded, rfl⟩ := selected
  -- every best so far is an advertised mode with its own velocity
  induction advertisedModes using List.reverseRecOn generalizing velocity chosen with
  | nil => cases folded
  | append_singleton modes mode ih =>
    rw [List.foldl_append, List.foldl_cons, List.foldl_nil] at folded
    have older : ∀ v c, modes.foldl _ none = some (v, c) →
        c ∈ modes ++ [mode] ∧ ∃ w, qualifyingVelocity maxVelocity c = some w := fun v c before =>
      ⟨List.mem_append_left _ (ih v c before).1, (ih v c before).2⟩
    split at folded
    next => exact older _ _ folded
    next qualifies _ =>
      obtain ⟨rfl, rfl⟩ := Option.some.inj folded
      exact ⟨by simp, _, qualifies⟩
    next fastest previous qualifies before =>
      split at folded
      next =>
        obtain ⟨rfl, rfl⟩ := Option.some.inj folded
        exact ⟨by simp, _, qualifies⟩
      next => exact older _ _ (before.trans folded)

end Poise
