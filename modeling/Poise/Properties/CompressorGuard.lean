import Poise.Multi.Lifecycle
import Poise.Foundation.Trace

/-!
# Compressor protection over restarts

Runs that mix observations, nudge decisions and restarts from storage, the clock going
either way. The guard is judged against what the run itself observed: the last stop and
the last mode change, whose stamps count as `now` where a restart finds them in the
future.
-/
namespace Poise

inductive LifecycleEvent where
  | observe (conditioning : Bool) (mode : Option String) (now : ℚ) (health : String)
  | nudge (policy : LifecyclePolicy) (desired : String) (current : Option String)
      (isSafety : Bool) (now : ℚ)
  -- The state is saved and restored at `now`.
  | restart (now : ℚ)
  deriving DecidableEq, Repr

/-- The output of a nudge is its block reason. -/
def lifecycleStep (state : DeviceLifecycle) :
    LifecycleEvent → DeviceLifecycle × Option String
  | .observe conditioning mode now health => (observe state conditioning mode now health, none)
  | .nudge policy desired current isSafety now =>
    (state, guardBlockReason (some policy) state now desired current isSafety)
  | .restart now => (.fromDict state.toDict now, none)

abbrev LifecycleTrace := Trace.Step DeviceLifecycle LifecycleEvent (Option String)

def lifecycleRun (events : List LifecycleEvent) : List LifecycleTrace :=
  Trace.trace lifecycleStep {} events

/-! ### What the run observed -/

def LifecycleEvent.observes (e : LifecycleEvent) (conditioning : Bool) : Bool :=
  match e with
  | .observe c _ _ _ => c == conditioning
  | _ => false

/-- The mode an event observes. -/
def LifecycleEvent.mode : LifecycleEvent → Option String
  | .observe _ mode _ _ => mode
  | _ => none

/-- Whether the last observation saw the device conditioning. -/
def observedOn (past : List LifecycleEvent) : Bool :=
  past.foldl (fun on e => if e.observes true then true else if e.observes false then false else on)
    false

def observedMode (past : List LifecycleEvent) : Option String :=
  past.foldl (fun last e => e.mode.or last) none

/-- A stamp after the restarts of `later`, each of which counts it as `now` if it lies
too far ahead. -/
def heldStamp (stamp : ℚ) (later : List LifecycleEvent) : ℚ :=
  later.foldl (fun t e => match e with | .restart now => clampFuture t now | _ => t) stamp

/-- The device is observed off, and its last observed stop carries this stamp. -/
def LastStop (past : List LifecycleEvent) (stamp : ℚ) : Prop :=
  ∃ before mode now health later,
    past = before ++ .observe false mode now health :: later ∧ observedOn before = true ∧
      (∀ e ∈ later, e.observes true = false) ∧ stamp = heldStamp now later

/-- The last observed mode change carries this stamp. -/
def LastModeChange (past : List LifecycleEvent) (stamp : ℚ) : Prop :=
  ∃ before conditioning mode now health later,
    past = before ++ .observe conditioning (some mode) now health :: later ∧
      observedMode before ≠ some mode ∧ (∀ e ∈ later, e.mode.getD mode = mode) ∧
      stamp = heldStamp now later

/-- What a stored stamp implies at `now`, a future one counting as `now`. -/
def impliedRemaining (timer : ℚ) (stamp : Option ℚ) (now : ℚ) : ℚ :=
  match stamp with
  | none => 0
  | some t => max 0 (timer - (now - min t now))

/-- The protection of the compressor on this run. -/
structure CompressorProtected (run : List LifecycleTrace) : Prop where
  minOff : ∀ past e, past ++ [e] <+: run → ∀ policy desired current now,
    e.input = .nudge policy desired current false now →
    compressorConditioning (some desired) = true → compressorConditioning current = false →
    e.output = none → ∀ stamp, LastStop (past.map Trace.Step.input) stamp →
      policy.minOffS ≤ now - stamp
  modeHold : ∀ past e, past ++ [e] <+: run → ∀ policy desired current now,
    e.input = .nudge policy desired current false now →
    compressorConditioning (some desired) = true → compressorConditioning current = true →
    some desired ≠ current → e.output = none →
    ∀ stamp, LastModeChange (past.map Trace.Step.input) stamp →
      policy.minModeHoldS ≤ now - stamp
  outward : ∀ e ∈ run, ∀ policy desired current isSafety now,
    e.input = .nudge policy desired current isSafety now →
    compressorConditioning (some desired) = false → e.output = none
  safety : ∀ e ∈ run, ∀ policy desired current now,
    e.input = .nudge policy desired current true now → e.output = none
  restored : ∀ e ∈ run, ∀ now, e.input = .restart now → ∀ policy : LifecyclePolicy,
    (e.pre.isOn = false → impliedRemaining policy.minOffS e.pre.lastOffWall now ≤
      minOffRemaining e.post now policy) ∧
    impliedRemaining policy.minModeHoldS e.pre.modeChangedWall now ≤
      modeHoldRemaining e.post now policy ∧
    (0 ≤ policy.minOffS →
      minOffRemaining e.post now policy ≤ policy.minOffS + clockSkewToleranceS) ∧
    (0 ≤ policy.minModeHoldS →
      modeHoldRemaining e.post now policy ≤ policy.minModeHoldS + clockSkewToleranceS)

/-! ### The state against the observations -/

theorem observedOn_append (past : List LifecycleEvent) (e : LifecycleEvent) :
    observedOn (past ++ [e]) =
      if e.observes true then true else if e.observes false then false else observedOn past := by
  simp [observedOn]

theorem observedMode_append (past : List LifecycleEvent) (e : LifecycleEvent) :
    observedMode (past ++ [e]) = e.mode.or (observedMode past) := by
  simp [observedMode]

theorem final_observed (events : List LifecycleEvent) :
    (Trace.final lifecycleStep {} events).isOn = observedOn events ∧
      (Trace.final lifecycleStep {} events).lastMode = observedMode events := by
  induction events using List.reverseRecOn with
  | nil => exact ⟨rfl, rfl⟩
  | append_singleton events e ih =>
    rw [Trace.final_append, observedOn_append, observedMode_append]
    obtain ⟨on, mode⟩ := ih
    generalize Trace.final lifecycleStep {} events = state at on mode
    cases e with
    | observe conditioning seen now health =>
      refine ⟨?_, ?_⟩
      · cases conditioning <;> rfl
      · cases seen with
        | none => simpa [Trace.final, lifecycleStep, observe, LifecycleEvent.mode] using mode
        | some m =>
          by_cases same : some m = state.lastMode
          · simp [Trace.final, lifecycleStep, observe, LifecycleEvent.mode, ← same]
          · simp [Trace.final, lifecycleStep, observe, LifecycleEvent.mode, same]
    | nudge => exact ⟨on, mode⟩
    | restart => exact ⟨on, mode⟩

/-- A stop stays on record while nothing sees the device on again. -/
theorem final_off {state : DeviceLifecycle} {stamp : ℚ} {later : List LifecycleEvent}
    (isOff : state.isOn = false) (stopped : state.lastOffWall = some stamp)
    (quiet : ∀ e ∈ later, e.observes true = false) :
    (Trace.final lifecycleStep state later).isOn = false ∧
      (Trace.final lifecycleStep state later).lastOffWall = some (heldStamp stamp later) := by
  induction later generalizing state stamp with
  | nil => exact ⟨isOff, stopped⟩
  | cons e later ih =>
    have rest : ∀ d ∈ later, d.observes true = false := fun d member => quiet d (by simp [member])
    have here := quiet e (by simp)
    cases e with
    | observe conditioning mode now health =>
      cases conditioning with
      | true => cases here
      | false => exact ih rfl (by simp [lifecycleStep, observe, isOff, stopped]) rest
    | nudge => exact ih isOff stopped rest
    | restart now =>
      exact ih isOff (by simp [lifecycleStep, DeviceLifecycle.fromDict, DeviceLifecycle.toDict,
        stopped]) rest

theorem final_mode {state : DeviceLifecycle} {stamp : ℚ} {mode : String}
    {later : List LifecycleEvent} (held : state.lastMode = some mode)
    (changed : state.modeChangedWall = some stamp)
    (same : ∀ e ∈ later, e.mode.getD mode = mode) :
    (Trace.final lifecycleStep state later).modeChangedWall = some (heldStamp stamp later) := by
  induction later generalizing state stamp with
  | nil => exact changed
  | cons e later ih =>
    have rest : ∀ d ∈ later, d.mode.getD mode = mode := fun d member => same d (by simp [member])
    have here := same e (by simp)
    cases e with
    | observe conditioning seen now health =>
      cases seen with
      | none =>
        exact ih (by simp [lifecycleStep, observe, held])
          (by simp [lifecycleStep, observe, changed]) rest
      | some m =>
        have equal : m = mode := here
        exact ih (by simp [lifecycleStep, observe, held, equal])
          (by simp [lifecycleStep, observe, held, changed, equal]) rest
    | nudge => exact ih held changed rest
    | restart now =>
      exact ih held (by simp [lifecycleStep, DeviceLifecycle.fromDict, DeviceLifecycle.toDict,
        changed]) rest

theorem lastStop_state {past : List LifecycleEvent} {stamp : ℚ} (stop : LastStop past stamp) :
    (Trace.final lifecycleStep {} past).isOn = false ∧
      (Trace.final lifecycleStep {} past).lastOffWall = some stamp := by
  obtain ⟨before, mode, now, health, later, rfl, on, quiet, rfl⟩ := stop
  rw [Trace.final_append, Trace.final]
  have was := (final_observed before).1.trans on
  exact final_off rfl (by simp [lifecycleStep, observe, was]) quiet

theorem lastModeChange_state {past : List LifecycleEvent} {stamp : ℚ}
    (change : LastModeChange past stamp) :
    (Trace.final lifecycleStep {} past).modeChangedWall = some stamp := by
  obtain ⟨before, conditioning, mode, now, health, later, rfl, other, same, rfl⟩ := change
  rw [Trace.final_append, Trace.final]
  have was := (final_observed before).2
  have changed : some mode ≠ (Trace.final lifecycleStep {} before).lastMode := by
    rw [was]
    exact other.symm
  exact final_mode (by simp [lifecycleStep, observe, changed])
    (by simp [lifecycleStep, observe, changed]) same

/-! ### After a restore -/

theorem impliedRemaining_le (timer t now : ℚ) :
    impliedRemaining timer (some t) now ≤ max 0 (timer - (now - clampFuture t now)) := by
  have bound := (clampFuture_bounds t now).1
  exact max_le_max_left 0 (by linarith)

theorem restored_le {timer : ℚ} (t now : ℚ) (counts : 0 ≤ timer) :
    max 0 (timer - (now - clampFuture t now)) ≤ timer + clockSkewToleranceS := by
  have bound := (clampFuture_bounds t now).2
  have skew : (0 : ℚ) ≤ clockSkewToleranceS := by norm_num [clockSkewToleranceS]
  exact max_le (by linarith) (by linarith)

theorem restored_minOff (state : DeviceLifecycle) (policy : LifecyclePolicy) (now : ℚ) :
    (state.isOn = false → impliedRemaining policy.minOffS state.lastOffWall now ≤
      minOffRemaining (.fromDict state.toDict now) now policy) ∧
    (0 ≤ policy.minOffS → minOffRemaining (.fromDict state.toDict now) now policy ≤
      policy.minOffS + clockSkewToleranceS) := by
  have skew : (0 : ℚ) ≤ clockSkewToleranceS := by norm_num [clockSkewToleranceS]
  cases on : state.isOn with
  | true =>
    have free : minOffRemaining (.fromDict state.toDict now) now policy = 0 := by
      simp [minOffRemaining, DeviceLifecycle.fromDict, DeviceLifecycle.toDict, on]
    exact ⟨fun off => absurd off (by decide), fun counts => by linarith⟩
  | false =>
    simp only [minOffRemaining, DeviceLifecycle.fromDict, DeviceLifecycle.toDict, on,
      Option.getD_some, Bool.false_eq_true, if_false]
    cases state.lastOffWall with
    | none => exact ⟨fun _ => le_rfl, fun counts => add_nonneg counts skew⟩
    | some t => exact ⟨fun _ => impliedRemaining_le _ t now, restored_le t now⟩

theorem restored_modeHold (state : DeviceLifecycle) (policy : LifecyclePolicy) (now : ℚ) :
    impliedRemaining policy.minModeHoldS state.modeChangedWall now ≤
      modeHoldRemaining (.fromDict state.toDict now) now policy ∧
    (0 ≤ policy.minModeHoldS → modeHoldRemaining (.fromDict state.toDict now) now policy ≤
      policy.minModeHoldS + clockSkewToleranceS) := by
  have skew : (0 : ℚ) ≤ clockSkewToleranceS := by norm_num [clockSkewToleranceS]
  simp only [modeHoldRemaining, DeviceLifecycle.fromDict, DeviceLifecycle.toDict]
  cases state.modeChangedWall with
  | none => exact ⟨le_rfl, fun counts => add_nonneg counts skew⟩
  | some t => exact ⟨impliedRemaining_le _ t now, restored_le t now⟩

/-! ### The whole run -/

/-- A nudge of the run is the guard's verdict on what the run observed before it. -/
theorem nudge_verdict {events : List LifecycleEvent} {past : List LifecycleTrace}
    {e : LifecycleTrace} (moment : past ++ [e] <+: lifecycleRun events)
    {policy : LifecyclePolicy} {desired : String} {current : Option String} {isSafety : Bool}
    {now : ℚ} (nudges : e.input = .nudge policy desired current isSafety now) :
    e.output = guardBlockReason (some policy)
      (Trace.final lifecycleStep {} (past.map Trace.Step.input)) now desired current isSafety := by
  obtain ⟨front, i, _, rfl, rfl⟩ := Trace.prefix_trace lifecycleStep moment
  rw [Trace.Step.of_input] at nudges
  rw [Trace.trace_map_input, nudges]
  rfl

theorem compressor_protected (events : List LifecycleEvent) :
    CompressorProtected (lifecycleRun events) where
  minOff past e moment policy desired current now nudges enters other passes stamp stop := by
    rw [nudge_verdict moment nudges, guardBlockReason_start enters other] at passes
    obtain ⟨isOff, stopped⟩ := lastStop_state stop
    exact (minOffRemaining_le_zero isOff stopped).mp passes
  modeHold past e moment policy desired current now nudges enters runs flips passes stamp change := by
    rw [nudge_verdict moment nudges, guardBlockReason_flip enters runs flips] at passes
    exact (modeHoldRemaining_le_zero (lastModeChange_state change)).mp passes
  outward e member policy desired current isSafety now nudges leaves := by
    rw [Trace.step_of_mem _ member, nudges]
    exact guardBlockReason_outward leaves isSafety
  safety e member policy desired current now nudges := by
    rw [Trace.step_of_mem _ member, nudges]
    rfl
  restored e member now restarts policy := by
    have post : e.post = .fromDict e.pre.toDict now := by
      rw [Trace.step_of_mem _ member, restarts]
      rfl
    rw [post]
    obtain ⟨offLow, offHigh⟩ := restored_minOff e.pre policy now
    obtain ⟨holdLow, holdHigh⟩ := restored_modeHold e.pre policy now
    exact ⟨offLow, holdLow, offHigh, holdHigh⟩

end Poise
