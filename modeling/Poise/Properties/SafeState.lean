import Poise.Properties.SensorHandback

/-!
# The safe state settles

The unavailable tick against a device that takes what reaches it and never goes below its own
minimum. Whichever calls fail to go out, each of the two commands reaches the device once and is
not repeated after that, and nothing but the health floor is ever commanded.
-/
namespace Poise

open Trace

structure OutageDevice where
  hvacModes : List String
  state : String
  temperature : Option ℚ := none
  deviceMin : Option ℚ := none
  deriving DecidableEq

namespace OutageDevice

/-- The tick's reading of this device. -/
def read (d : OutageDevice) (r : OutageReading) : OutageReading :=
  { r with
    actuator := some { state := d.state, hvacModes := d.hvacModes, temperature := d.temperature }
    deviceMin := d.deviceMin }

/-- What a dispatched call does to the device. -/
def take (d : OutageDevice) : OutageCall → OutageDevice
  | .mode hvacMode true => { d with state := hvacMode }
  | .setpoint value true =>
    { d with temperature := some ((d.deviceMin.map (max value)).getD value) }
  | _ => d

def heats (d : OutageDevice) : Bool := decide ("heat" ∈ d.hvacModes)

def safeMode (d : OutageDevice) : String := if d.heats then "heat" else "off"

/-- The health floor, as far down as the device goes. -/
def safeTarget (d : OutageDevice) : ℚ := (d.deviceMin.map (max frostFloorC)).getD frostFloorC

def needsMode (d : OutageDevice) : Bool := decide (d.state ≠ d.safeMode)

def needsSetpoint (d : OutageDevice) : Bool :=
  d.heats && d.temperature.all fun reading => decide (0.000001 < |reading - d.safeTarget|)

end OutageDevice

/-- One unavailable tick, and what the device takes of it. -/
def outageLoop (s : OutageRuntime × OutageDevice) (t : ℚ × OutageReading) :
    (OutageRuntime × OutageDevice) × OutageReport :=
  let out := outageStep s.1 (.unavailable t.1 (s.2.read t.2))
  ((out.1, out.2.calls.foldl OutageDevice.take s.2), out.2)

abbrev LoopMoment := Step (OutageRuntime × OutageDevice) (ℚ × OutageReading) OutageReport

/-! ### The plan of an online device -/

theorem plan_read {d : OutageDevice} (online : d.state ≠ "unavailable") (r : OutageReading) :
    (d.read r).plan =
      if d.needsMode = false ∧ d.needsSetpoint = false then none
      else some ⟨d.safeMode, if d.heats then some d.safeTarget else none, d.needsMode,
        d.needsSetpoint⟩ := by
  have reading : attrNumber (d.read r).actuator (·.temperature) = d.temperature := by
    simp [attrNumber, OutageDevice.read, online]
  have low : attrNumber (d.read r).actuator (fun _ => (d.read r).deviceMin) = d.deviceMin := by
    simp [attrNumber, OutageDevice.read, online]
  unfold OutageReading.plan
  rw [reading, low]
  unfold resolveSafeState OutageDevice.needsMode OutageDevice.needsSetpoint OutageDevice.safeMode
    OutageDevice.safeTarget OutageDevice.heats
  by_cases heats : "heat" ∈ d.hvacModes
  · cases d.temperature <;> cases d.deviceMin <;> simp [OutageDevice.read, heats]
  · by_cases off : d.state = "off" <;> simp [OutageDevice.read, heats, off, online]

/-- The setpoint follows only where no mode call stood in its way. -/
def setpointDue (d : OutageDevice) (r : OutageReading) : Bool :=
  d.needsSetpoint && (!d.needsMode || r.modeSent)

theorem calls_eq (plan : SafeStatePlan) (r : OutageReading) :
    plan.calls r = (if plan.writeMode then [OutageCall.mode plan.hvacMode r.modeSent] else []) ++
      if plan.writeSetpoint && (!plan.writeMode || r.modeSent) then
        plan.setpoint.toList.map (OutageCall.setpoint · r.setpointSent)
      else [] := by
  unfold SafeStatePlan.calls SafeStatePlan.run
  cases plan.writeMode <;> cases plan.writeSetpoint <;> cases plan.setpoint <;>
    cases sent : r.modeSent <;> simp [OutageCall.of]

theorem safeCalls_read {d : OutageDevice} (online : d.state ≠ "unavailable") (r : OutageReading) :
    safeCalls (d.read r) =
      (if d.needsMode then [OutageCall.mode d.safeMode r.modeSent] else []) ++
        if setpointDue d r then [OutageCall.setpoint d.safeTarget r.setpointSent] else [] := by
  have sent : (d.read r).modeSent = r.modeSent ∧ (d.read r).setpointSent = r.setpointSent :=
    ⟨rfl, rfl⟩
  unfold safeCalls setpointDue
  rw [plan_read online]
  cases mode : d.needsMode <;> cases setpoint : d.needsSetpoint
  · simp
  · have heats : d.heats = true := by
      unfold OutageDevice.needsSetpoint at setpoint
      exact (Bool.and_eq_true_iff.mp setpoint).1
    simp [calls_eq, heats, sent]
  · cases heats : d.heats <;> simp [calls_eq, sent]
  · have heats : d.heats = true := by
      unfold OutageDevice.needsSetpoint at setpoint
      exact (Bool.and_eq_true_iff.mp setpoint).1
    cases out : r.modeSent <;> simp [calls_eq, heats, sent, out]

/-! ### What the device takes -/

/-- A call that commands the device's own safe state, or none of its commands. -/
def CommandsSafe (d : OutageDevice) (call : OutageCall) : Prop :=
  (∀ hvacMode sent, call = .mode hvacMode sent → hvacMode = d.safeMode) ∧
    ∀ value sent, call = .setpoint value sent → d.heats = true ∧ value = d.safeTarget

/-- What is left to do at a device after some calls. -/
structure AfterCalls (d : OutageDevice) (calls : List OutageCall) (after : OutageDevice) :
    Prop where
  modes : after.hvacModes = d.hvacModes
  low : after.deviceMin = d.deviceMin
  state : after.state = d.state ∨ after.state = d.safeMode
  mode : after.needsMode = true ↔
    d.needsMode = true ∧ ∀ hvacMode, OutageCall.mode hvacMode true ∉ calls
  setpoint : after.needsSetpoint = true ↔
    d.needsSetpoint = true ∧ ∀ value, OutageCall.setpoint value true ∉ calls

theorem safeMode_congr {d after : OutageDevice} (modes : after.hvacModes = d.hvacModes) :
    after.safeMode = d.safeMode := by
  have heats : after.heats = d.heats := by
    unfold OutageDevice.heats
    rw [modes]
  simp only [OutageDevice.safeMode, heats]

theorem safeTarget_congr {d after : OutageDevice} (low : after.deviceMin = d.deviceMin) :
    after.safeTarget = d.safeTarget := by
  simp only [OutageDevice.safeTarget, low]

/-- The safe target is not below the device's own minimum. -/
theorem raise_safeTarget (d : OutageDevice) :
    (d.deviceMin.map (max d.safeTarget)).getD d.safeTarget = d.safeTarget := by
  unfold OutageDevice.safeTarget
  cases d.deviceMin <;> simp

theorem leaves_take {d : OutageDevice} {call : OutageCall} (safe : CommandsSafe d call) :
    AfterCalls d [call] (d.take call) := by
  cases call with
  | selectInternal entity sent => exact ⟨rfl, rfl, .inl rfl, by simp [OutageDevice.take],
      by simp [OutageDevice.take]⟩
  | mode hvacMode sent =>
    obtain rfl := safe.1 hvacMode sent rfl
    cases sent with
    | false => exact ⟨rfl, rfl, .inl rfl, by simp [OutageDevice.take], by simp [OutageDevice.take]⟩
    | true =>
      have same : (d.take (.mode d.safeMode true)).safeMode = d.safeMode := safeMode_congr rfl
      have kept : (d.take (.mode d.safeMode true)).needsSetpoint = d.needsSetpoint := rfl
      refine ⟨rfl, rfl, .inr rfl, iff_of_false ?_ (by simp), by simp [kept]⟩
      rw [OutageDevice.needsMode, same]
      simp [OutageDevice.take]
  | setpoint value sent =>
    obtain ⟨heats, rfl⟩ := safe.2 value sent rfl
    cases sent with
    | false => exact ⟨rfl, rfl, .inl rfl, by simp [OutageDevice.take], by simp [OutageDevice.take]⟩
    | true =>
      have same : (d.take (.setpoint d.safeTarget true)).safeTarget = d.safeTarget :=
        safeTarget_congr rfl
      have kept : (d.take (.setpoint d.safeTarget true)).needsMode = d.needsMode := rfl
      refine ⟨rfl, rfl, .inl rfl, by simp [kept], iff_of_false ?_ (by simp)⟩
      rw [OutageDevice.needsSetpoint, same]
      simp only [OutageDevice.take, raise_safeTarget, Option.all_some, sub_self, abs_zero]
      norm_num

theorem AfterCalls.append {d mid after : OutageDevice} {front back : List OutageCall}
    (first : AfterCalls d front mid) (second : AfterCalls mid back after) :
    AfterCalls d (front ++ back) after where
  modes := second.modes.trans first.modes
  low := second.low.trans first.low
  state := by
    have safe := safeMode_congr first.modes
    rcases second.state with kept | reached
    · rw [kept]
      exact first.state
    · exact .inr (reached.trans safe)
  mode := by
    rw [second.mode, first.mode]
    simp only [List.mem_append, not_or, and_assoc, forall_and]
  setpoint := by
    rw [second.setpoint, first.setpoint]
    simp only [List.mem_append, not_or, and_assoc, forall_and]

theorem leaves_nil (d : OutageDevice) : AfterCalls d [] d :=
  ⟨rfl, rfl, .inl rfl, by simp, by simp⟩

theorem leaves_takes {d : OutageDevice} {calls : List OutageCall}
    (safe : ∀ call ∈ calls, CommandsSafe d call) :
    AfterCalls d calls (calls.foldl OutageDevice.take d) := by
  induction calls using List.reverseRecOn with
  | nil => exact leaves_nil d
  | append_singleton calls call ih =>
    have before := ih fun other member => safe other (by simp [member])
    rw [List.foldl_append, List.foldl_cons, List.foldl_nil]
    refine before.append (leaves_take ?_)
    obtain ⟨mode, setpoint⟩ := safe call (by simp)
    refine ⟨fun m sent here => ?_, fun v sent here => ?_⟩
    · rw [safeMode_congr before.modes]
      exact mode m sent here
    · rw [safeTarget_congr before.low]
      obtain ⟨heats, value⟩ := setpoint v sent here
      exact ⟨by rw [OutageDevice.heats, before.modes]; exact heats, value⟩

/-! ### One tick of the loop -/

/-- A tick calls for releases, and when it is engaged for what the device still needs. -/
theorem loop_calls {s : OutageRuntime × OutageDevice} (online : s.2.state ≠ "unavailable")
    (t : ℚ × OutageReading) :
    let e := Step.of outageLoop s t
    (∀ call ∈ e.output.calls, CommandsSafe s.2 call) ∧
      (∀ hvacMode sent, OutageCall.mode hvacMode sent ∈ e.output.calls → s.2.needsMode = true) ∧
      (∀ value sent, OutageCall.setpoint value sent ∈ e.output.calls →
        s.2.needsSetpoint = true) ∧
      (e.output.engaged = true → t.2.modeSent = true → t.2.setpointSent = true →
        (s.2.needsMode = true → OutageCall.mode s.2.safeMode true ∈ e.output.calls) ∧
        (s.2.needsSetpoint = true → OutageCall.setpoint s.2.safeTarget true ∈ e.output.calls)) := by
  intro e
  obtain ⟨-, -, writes, rests⟩ := outageStep_lost s.1 t.1 (s.2.read t.2)
  have report : e.output = (outageStep s.1 (.unavailable t.1 (s.2.read t.2))).2 := rfl
  rw [← report] at writes rests
  cases engaged : e.output.engaged with
  | false =>
    rw [(rests engaged).2]
    simp
  | true =>
    have calls := (writes engaged).2
    rw [safeCalls_read online] at calls
    have setpoint : setpointDue s.2 t.2 = true → s.2.needsSetpoint = true :=
      fun due => (Bool.and_eq_true_iff.mp due).1
    have heats : s.2.needsSetpoint = true → s.2.heats = true :=
      fun needs => (Bool.and_eq_true_iff.mp needs).1
    -- a call is a release, or the one command of its kind
    have kinds : ∀ call ∈ e.output.calls,
        (∃ entity sent, call = .selectInternal entity sent) ∨
          s.2.needsMode = true ∧ call = .mode s.2.safeMode t.2.modeSent ∨
          setpointDue s.2 t.2 = true ∧ call = .setpoint s.2.safeTarget t.2.setpointSent := by
      intro call member
      rw [calls, List.mem_append, List.mem_append] at member
      rcases member with release | mode | due
      · obtain ⟨entity, -, rfl⟩ := List.mem_map.mp release
        exact .inl ⟨entity, _, rfl⟩
      · split_ifs at mode with needs
        · exact .inr (.inl ⟨needs, List.mem_singleton.mp mode⟩)
        · exact absurd mode (by simp)
      · split_ifs at due with needs
        · exact .inr (.inr ⟨needs, List.mem_singleton.mp due⟩)
        · exact absurd due (by simp)
    refine ⟨fun call member => ⟨fun m sent here => ?_, fun v sent here => ?_⟩,
      fun m sent member => ?_, fun v sent member => ?_, fun _ modeSent setpointSent => ⟨?_, ?_⟩⟩
    · rcases kinds call member with ⟨_, _, rfl⟩ | ⟨-, rfl⟩ | ⟨-, rfl⟩
      · exact absurd here nofun
      · exact (OutageCall.mode.inj here).1.symm
      · exact absurd here nofun
    · rcases kinds call member with ⟨_, _, rfl⟩ | ⟨-, rfl⟩ | ⟨due, rfl⟩
      · exact absurd here nofun
      · exact absurd here nofun
      · exact ⟨heats (setpoint due), (OutageCall.setpoint.inj here).1.symm⟩
    · rcases kinds _ member with ⟨_, _, here⟩ | ⟨needs, -⟩ | ⟨-, here⟩
      · exact absurd here nofun
      · exact needs
      · exact absurd here nofun
    · rcases kinds _ member with ⟨_, _, here⟩ | ⟨-, here⟩ | ⟨due, -⟩
      · exact absurd here nofun
      · exact absurd here nofun
      · exact setpoint due
    · intro needs
      rw [calls, if_pos needs, modeSent]
      simp
    · intro needs
      have due : setpointDue s.2 t.2 = true := by
        rw [setpointDue, needs, modeSent, Bool.or_true, Bool.and_self]
      rw [calls, if_pos due, setpointSent]
      simp

/-! ### The run -/

/-- The device shows the safe state. -/
def ShowsSafe (d : OutageDevice) : Prop :=
  d.state = d.safeMode ∧
    (d.heats = true → ∃ reading, d.temperature = some reading ∧
      |reading - d.safeTarget| ≤ 0.000001)

theorem showsSafe_iff {d : OutageDevice} :
    ShowsSafe d ↔ d.needsMode = false ∧ d.needsSetpoint = false := by
  unfold ShowsSafe OutageDevice.needsMode OutageDevice.needsSetpoint
  refine and_congr (by simp) ?_
  cases d.heats with
  | false => simp
  | true => cases d.temperature <;> simp

/-- What the loop has reached after some ticks. -/
structure Settling (d : OutageDevice) (past : List LoopMoment)
    (s : OutageRuntime × OutageDevice) : Prop where
  leaves : AfterCalls d (past.flatMap (·.output.calls)) s.2
  done : ∀ g ∈ past, g.output.engaged = true → g.input.2.modeSent = true →
    g.input.2.setpointSent = true → s.2.needsMode = false ∧ s.2.needsSetpoint = false

theorem AfterCalls.online {d after : OutageDevice} {calls : List OutageCall}
    (leaves : AfterCalls d calls after) (online : d.state ≠ "unavailable") :
    after.state ≠ "unavailable" := by
  rcases leaves.state with kept | safe
  · rw [kept]
    exact online
  · rw [safe, OutageDevice.safeMode]
    split_ifs <;> decide

theorem settling_step {d : OutageDevice} (online : d.state ≠ "unavailable")
    {past : List LoopMoment} {s : OutageRuntime × OutageDevice} (t : ℚ × OutageReading)
    (settling : Settling d past s) :
    Settling d (past ++ [Step.of outageLoop s t]) (outageLoop s t).1 := by
  obtain ⟨safe, -, -, sent⟩ := loop_calls (settling.leaves.online online) t
  set e := Step.of outageLoop s t with here
  have step : AfterCalls s.2 e.output.calls (outageLoop s t).1.2 := leaves_takes safe
  constructor
  · rw [List.flatMap_append, List.flatMap_cons, List.flatMap_nil, List.append_nil]
    exact settling.leaves.append step
  · intro g member engaged modeSent setpointSent
    -- whatever was needed has been taken by now
    have mode : (outageLoop s t).1.2.needsMode ≠ true := by
      rw [ne_eq, step.mode]
      rintro ⟨needs, none⟩
      rcases List.mem_append.mp member with old | new
      · rw [(settling.done g old engaged modeSent setpointSent).1] at needs
        exact absurd needs nofun
      · obtain rfl := List.mem_singleton.mp new
        exact none _ ((sent engaged modeSent setpointSent).1 needs)
    have setpoint : (outageLoop s t).1.2.needsSetpoint ≠ true := by
      rw [ne_eq, step.setpoint]
      rintro ⟨needs, none⟩
      rcases List.mem_append.mp member with old | new
      · rw [(settling.done g old engaged modeSent setpointSent).2] at needs
        exact absurd needs nofun
      · obtain rfl := List.mem_singleton.mp new
        exact none _ ((sent engaged modeSent setpointSent).2 needs)
    exact ⟨Bool.not_eq_true _ ▸ mode, Bool.not_eq_true _ ▸ setpoint⟩

theorem frost_le_safeTarget (d : OutageDevice) : 7 ≤ d.safeTarget := by
  have floor : frostFloorC = 7 := rfl
  unfold OutageDevice.safeTarget
  rw [floor]
  cases d.deviceMin <;> simp

/-- However the calls fail, no command of the safe state is called for again once it has reached
the device, and after a tick on which both go out the device shows the safe state and is left in
peace. -/
theorem safe_state_settles {rt : OutageRuntime} {d : OutageDevice}
    (online : d.state ≠ "unavailable") {ts : List (ℚ × OutageReading)} {past : List LoopMoment}
    {e : LoopMoment} (moment : past ++ [e] <+: trace outageLoop (rt, d) ts) :
    (∀ hvacMode sent, OutageCall.mode hvacMode sent ∈ e.output.calls →
        hvacMode = d.safeMode ∧
          ∀ g ∈ past, ∀ other, OutageCall.mode other true ∉ g.output.calls) ∧
      (∀ value sent, OutageCall.setpoint value sent ∈ e.output.calls →
        d.heats = true ∧ value = d.safeTarget ∧ 7 ≤ value ∧
          ∀ g ∈ past, ∀ other, OutageCall.setpoint other true ∉ g.output.calls) ∧
      (∀ g ∈ past, g.output.engaged = true → g.input.2.modeSent = true →
        g.input.2.setpointSent = true → ShowsSafe e.pre.2 ∧
          ∀ call ∈ e.output.calls, ∃ entity sent, call = .selectInternal entity sent) := by
  have start : Settling d [] (rt, d) := ⟨leaves_nil d, by simp⟩
  have settling : Settling d past e.pre :=
    history_of_moment outageLoop (Settling d) start (fun _ _ t => settling_step online t) moment
  have here := step_of_mem outageLoop (mem_of_moment outageLoop moment)
  obtain ⟨safe, mode, setpoint, -⟩ := loop_calls (settling.leaves.online online) e.input
  rw [← here] at safe mode setpoint
  have sameMode := safeMode_congr settling.leaves.modes
  have sameTarget := safeTarget_congr settling.leaves.low
  refine ⟨fun m sent member => ⟨?_, fun g inside other called => ?_⟩,
    fun v sent member => ?_, fun g inside engaged modeSent setpointSent => ?_⟩
  · rw [← sameMode]
    exact (safe _ member).1 m sent rfl
  · exact (settling.leaves.mode.mp (mode m sent member)).2 other
      (List.mem_flatMap.mpr ⟨g, inside, called⟩)
  · obtain ⟨heats, rfl⟩ := (safe _ member).2 v sent rfl
    rw [OutageDevice.heats, settling.leaves.modes] at heats
    rw [sameTarget]
    exact ⟨heats, rfl, frost_le_safeTarget d, fun g inside other called =>
      (settling.leaves.setpoint.mp (setpoint _ sent member)).2 other
        (List.mem_flatMap.mpr ⟨g, inside, called⟩)⟩
  · obtain ⟨reached, warm⟩ := settling.done g inside engaged modeSent setpointSent
    refine ⟨showsSafe_iff.mpr ⟨reached, warm⟩, fun call member => ?_⟩
    cases call with
    | selectInternal entity sent => exact ⟨entity, sent, rfl⟩
    | mode m sent => exact absurd (mode m sent member) (by rw [reached]; exact nofun)
    | setpoint v sent => exact absurd (setpoint v sent member) (by rw [warm]; exact nofun)

/-! ### A cooling split unit -/

def coolingSplit : OutageDevice where
  hvacModes := ["off", "cool", "heat"]
  state := "cool"
  temperature := some 24
  deviceMin := some 16

/-- Its mode call fails once, its sensor is not ours. -/
def splitTicks : List (ℚ × OutageReading) :=
  [(0, { actuator := none }), (1800, { actuator := none, modeSent := false }),
    (1860, { actuator := none })]

theorem split_settles_in_heat :
    let run := trace outageLoop ({}, coolingSplit) splitTicks
    let e := Step.of outageLoop (final outageLoop ({}, coolingSplit) splitTicks)
      (1920, { actuator := none })
    coolingSplit.safeMode = "heat" ∧ coolingSplit.safeTarget = 16 ∧
      (∀ hvacMode sent, OutageCall.mode hvacMode sent ∈ e.output.calls →
        hvacMode = coolingSplit.safeMode ∧
          ∀ g ∈ run, ∀ other, OutageCall.mode other true ∉ g.output.calls) ∧
      (∀ value sent, OutageCall.setpoint value sent ∈ e.output.calls →
        coolingSplit.heats = true ∧ value = coolingSplit.safeTarget ∧ 7 ≤ value ∧
          ∀ g ∈ run, ∀ other, OutageCall.setpoint other true ∉ g.output.calls) ∧
      (∀ g ∈ run, g.output.engaged = true → g.input.2.modeSent = true →
        g.input.2.setpointSent = true → ShowsSafe e.pre.2 ∧
          ∀ call ∈ e.output.calls, ∃ entity sent, call = .selectInternal entity sent) :=
  ⟨by decide, by decide +kernel, @safe_state_settles {} coolingSplit (by decide)
    (splitTicks ++ [(1920, { actuator := none })]) _ _ List.prefix_rfl⟩

end Poise
