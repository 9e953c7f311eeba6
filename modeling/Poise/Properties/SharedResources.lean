import Poise.Foundation.Deadband
import Poise.Hub.Aggregate
import Poise.Properties.BoilerRuns

/-!
# Flow temperature and compressor groups

Two resources the hub shares between zones. The flow temperature serves the most demanding zone up
to the hysteresis and moves no more often than the requests pay for; a compressor group keeps its
minimum run and pause even when all its zones vanish and come back.
-/
namespace Poise

open Trace Deadband

variable {setup : HubSetup} {cfg : HubConfig}

/-! ### Flow temperature -/

/-- What the most demanding zone asks of the flow, capped. -/
def requestedFlow (requests : List HubRequest) (maxFlow : ℚ) : Option ℚ :=
  match requests.filterMap HubRequest.flow with
  | [] => none
  | first :: rest => some (min (rest.foldl max first) maxFlow)

theorem resolveFlowTemperature_eq (requests : List HubRequest) (current : Option ℚ)
    (maxFlow hysteresis : ℚ) :
    resolveFlowTemperature requests current maxFlow hysteresis =
      match requestedFlow requests maxFlow, current with
      | none, current => ⟨none, none, current.isSome⟩
      | some requested, none => ⟨some requested, some requested, true⟩
      | some requested, some current =>
        ⟨some (follow hysteresis current requested), some requested,
          !decide (|requested - current| < hysteresis)⟩ := by
  unfold resolveFlowTemperature requestedFlow
  cases requests.filterMap HubRequest.flow with
  | nil => rfl
  | cons first rest =>
    cases current with
    | none => rfl
    | some current =>
      simp only [follow]
      split
      next near => simp [near]
      next far => simp [far]

theorem le_highest (first : ℚ) (rest : List ℚ) :
    ∀ x ∈ first :: rest, x ≤ rest.foldl max first := by
  induction rest generalizing first with
  | nil => simp
  | cons next rest ih =>
    intro x member
    rw [List.foldl_cons]
    have step := ih (max first next)
    rcases List.mem_cons.mp member with rfl | later
    · exact (le_max_left x next).trans (step _ (by simp))
    · rcases List.mem_cons.mp later with rfl | later
      · exact (le_max_right first x).trans (step _ (by simp))
      · exact step x (by simp [later])

theorem requestedFlow_serves {requests : List HubRequest} {maxFlow requested flow : ℚ}
    (asked : requestedFlow requests maxFlow = some requested) {r : HubRequest}
    (member : r ∈ requests) (asks : r.flow = some flow) : min flow maxFlow ≤ requested := by
  have among : flow ∈ requests.filterMap HubRequest.flow := List.mem_filterMap.mpr ⟨r, member, asks⟩
  unfold requestedFlow at asked
  cases flows : requests.filterMap HubRequest.flow with
  | nil =>
    rw [flows] at among
    simp at among
  | cons first rest =>
    rw [flows] at among asked
    rw [← Option.some.inj asked]
    exact min_le_min_right maxFlow (le_highest first rest flow among)

def HouseTick.requests (t : HouseTick) : List HubRequest := (collectRequests t.now t.zones).1

def HouseTick.requestedFlow (t : HouseTick) (setup : HubSetup) : Option ℚ :=
  Poise.requestedFlow t.requests setup.maxFlow

def SharedState.stepGroups (cfg : HubConfig) (now : ℚ) (shared : SharedState)
    (calls : List (String × Bool)) : SharedState :=
  calls.foldl (fun shared call => shared.stepGroup cfg now call.1 call.2) shared

theorem stepGroups_flow (now : ℚ) (shared : SharedState) (calls : List (String × Bool)) :
    (shared.stepGroups cfg now calls).flowCurrent = shared.flowCurrent := by
  induction calls generalizing shared with
  | nil => rfl
  | cons call calls ih => exact ih (shared.stepGroup cfg now call.1 call.2)

theorem step_flow (setup : HubSetup) (house : House) (t : HouseTick) :
    ∃ report, (house.step setup (.tick t)).2 = some report ∧
      report.shared.flow = resolveFlowTemperature t.requests house.shared.flowCurrent setup.maxFlow
        setup.flowHysteresis ∧
      (house.step setup (.tick t)).1.shared.flowCurrent = report.shared.flow.target := by
  refine ⟨_, rfl, ?_, rfl⟩
  change resolveFlowTemperature t.requests (house.shared.stepGroups setup.toHubConfig t.now
    (groupCallForHeat t.requests)).flowCurrent setup.maxFlow setup.flowHysteresis = _
  rw [stepGroups_flow]

/-- The command of a tick: none without a request, else capped, near the request, and enough for
every zone up to the hysteresis. -/
structure FlowServed (setup : HubSetup) (t : HouseTick) (decision : FlowDecision) : Prop where
  idle : decision.target = none ↔ ∀ r ∈ t.requests, r.flow = none
  near : ∀ target, decision.target = some target → target ≤ setup.maxFlow ∧
    ∃ requested, t.requestedFlow setup = some requested ∧
      decision.requestedMax = some requested ∧
        (|requested - target| < setup.flowHysteresis ∨ target = requested)
  serves : ∀ r ∈ t.requests, ∀ flow, r.flow = some flow → ∃ target, decision.target = some target ∧
    (min flow setup.maxFlow < target + setup.flowHysteresis ∨ min flow setup.maxFlow ≤ target)

theorem requestedFlow_eq_none {requests : List HubRequest} {maxFlow : ℚ} :
    requestedFlow requests maxFlow = none ↔ ∀ r ∈ requests, r.flow = none := by
  unfold requestedFlow
  rw [← List.filterMap_eq_nil_iff]
  cases requests.filterMap HubRequest.flow <;> simp

theorem requestedFlow_capped {requests : List HubRequest} {maxFlow requested : ℚ}
    (asked : requestedFlow requests maxFlow = some requested) : requested ≤ maxFlow := by
  unfold requestedFlow at asked
  split at asked
  next => simp at asked
  next =>
    rw [← Option.some.inj asked]
    exact min_le_right _ _

theorem flow_served_of_near {t : HouseTick} {requested target : ℚ} {decision : FlowDecision}
    (asked : t.requestedFlow setup = some requested) (shown : decision.target = some target)
    (request : decision.requestedMax = some requested) (capped : target ≤ setup.maxFlow)
    (near : |requested - target| < setup.flowHysteresis ∨ target = requested) :
    FlowServed setup t decision := by
  refine ⟨?_, ?_, ?_⟩
  · have some' : ¬ ∀ r ∈ t.requests, r.flow = none := by
      intro nobody
      have none' : t.requestedFlow setup = none := requestedFlow_eq_none.mpr nobody
      rw [asked] at none'
      simp at none'
    simp [shown, some']
  · intro other same
    obtain rfl := Option.some.inj (shown.symm.trans same)
    exact ⟨capped, requested, asked, request, near⟩
  · intro r member flow asks
    have served := requestedFlow_serves asked member asks
    refine ⟨target, shown, ?_⟩
    rcases near with near | rfl
    · have close := abs_lt.mp near
      exact Or.inl (by linarith)
    · exact Or.inr served

theorem flow_served {house : House}
    (capped : ∀ c, house.shared.flowCurrent = some c → c ≤ setup.maxFlow) (t : HouseTick) :
    FlowServed setup t (resolveFlowTemperature t.requests house.shared.flowCurrent setup.maxFlow
      setup.flowHysteresis) := by
  rw [resolveFlowTemperature_eq]
  cases asked : requestedFlow t.requests setup.maxFlow with
  | none =>
    have idle := requestedFlow_eq_none.mp asked
    refine ⟨by simpa using idle, by simp, ?_⟩
    intro r member flow asks
    rw [idle r member] at asks
    simp at asks
  | some requested =>
    have within := requestedFlow_capped asked
    cases held : house.shared.flowCurrent with
    | none => exact flow_served_of_near asked rfl rfl within (Or.inr rfl)
    | some current =>
      exact flow_served_of_near asked rfl rfl (follow_le (capped current held) within)
        (follow_near _ _ _)

/-- In every run, restarts included. -/
theorem flow_serves_all (setup : HubSetup) (epoch : ℚ) (events : List HouseEvent) :
    ∀ e ∈ trace (House.step setup) { boiler := { epoch } } events, ∀ report ∈ e.output,
      ∀ t, e.input = .tick t → FlowServed setup t report.shared.flow := by
  intro e member report shown t input
  have within := invariant_of_mem (House.step setup)
    (fun house => ∀ c, house.shared.flowCurrent = some c → c ≤ setup.maxFlow) (by simp) ?_ member
  · rw [step_of_mem _ member] at shown
    obtain ⟨report', shown', decided, -⟩ := step_flow setup e.pre t
    simp only [Step.of_output, input, Option.mem_def, shown', Option.some.injEq] at shown
    subst shown
    rw [decided]
    exact flow_served within.1 t
  · intro house event capped
    cases event with
    | restart epoch => simp [House.step]
    | tick t =>
      obtain ⟨report', shown', decided, held⟩ := step_flow setup house t
      intro c commanded
      rw [held, decided] at commanded
      exact ((flow_served capped t).near c commanded).1

def splitHouse : HubSetup where
  toHubConfig := .ofEntry 120 60 300 300
  countThreshold := 1
  powerThreshold := none
  actuation := false
  maxFlow := 55
  flowHysteresis := 2
  defaultSource := "heat_pump"

/-- One zone on a split unit that asks for a flow temperature while it heats. -/
def splitTick (now : ℚ) (heating : Bool) (flow : ℚ) : HouseTick where
  now
  zones := [{
    entryId := "study"
    data := some {
      available := true
      unavailableSafe := false
      sensorFrozen := false
      heating
      bindingLowerCause := none
      tpiDuty := none
      currentTemperature := some (.finite 19)
      heatSp := some (.finite 21)
      monoTs := some now }
    controlsBoiler := false
    compressorGroup := some "outdoor"
    flowTemp := some (.finite flow) }]

/-- The cap holds against a request of sixty degrees. -/
theorem flow_serves_split :
    FlowServed splitHouse (splitTick 0 true 60) ⟨some 55, some 55, true⟩ := by
  let first := Step.of (House.step splitHouse) { boiler := { epoch := 0 } }
    (.tick (splitTick 0 true 60))
  obtain ⟨report, shown, flow⟩ : ∃ report, first.output = some report ∧
      report.shared.flow = ⟨some 55, some 55, true⟩ :=
    ⟨_, rfl, by decide +kernel⟩
  rw [← flow]
  exact flow_serves_all splitHouse 0 [.tick (splitTick 0 true 60)] first (by simp [trace, first])
    report shown _ rfl

abbrev HouseStep := Step House HouseEvent (Option HouseReport)

/-- The tick left another flow command than it found. -/
def flowMoved (e : HouseStep) : Bool := e.post.shared.flowCurrent ≠ e.pre.shared.flowCurrent

/-- No hunting: while a zone asks, each move of the command is paid for by a full hysteresis of
variation of the capped request. -/
theorem flow_moves_bounded (setup : HubSetup) (house : House) (current : ℚ) (ticks : List HouseTick)
    (held : house.shared.flowCurrent = some current)
    (asked : ∀ t ∈ ticks, (t.requestedFlow setup).isSome = true) :
    ((trace (House.step setup) house (ticks.map .tick)).countP flowMoved : ℚ) *
        setup.flowHysteresis ≤
      variation current (ticks.filterMap fun t => t.requestedFlow setup) := by
  have counted : (trace (House.step setup) house (ticks.map .tick)).countP flowMoved =
      moves setup.flowHysteresis current (ticks.filterMap fun t => t.requestedFlow setup) := by
    induction ticks generalizing house current with
    | nil => rfl
    | cons t ticks ih =>
      obtain ⟨requested, request⟩ := Option.isSome_iff_exists.mp (asked t (by simp))
      obtain ⟨report, -, decided, next⟩ := step_flow setup house t
      have decision := resolveFlowTemperature_eq t.requests house.shared.flowCurrent setup.maxFlow
        setup.flowHysteresis
      have request' : Poise.requestedFlow t.requests setup.maxFlow = some requested := request
      rw [request', held] at decision
      simp only at decision
      rw [held, decision] at decided
      have command := next.trans (congrArg FlowDecision.target decided)
      have later := ih _ (follow setup.flowHysteresis current requested) command
        (fun u member => asked u (by simp [member]))
      have here : flowMoved (Step.of (House.step setup) house (.tick t)) =
          !decide (follow setup.flowHysteresis current requested = current) := by
        rw [flowMoved, Step.of_post, Step.of_pre, command, held]
        simp
      simp only [List.filterMap_cons, request, List.map_cons, trace, List.countP_cons, moves, later,
        here]
      by_cases still : follow setup.flowHysteresis current requested = current
      · simp [still]
      · simp [still, Nat.add_comm]
  rw [counted]
  exact moves_mul_band_le _ _ _

def splitRun : List HouseTick :=
  [splitTick 0 true 45, splitTick 60 true 46, splitTick 120 true (91 / 2), splitTick 180 true 50]

/-- Two moves in four ticks, paid for by eleven degrees of requests. -/
theorem flow_moves_split :
    let house : House := { boiler := { epoch := 0 }, shared := { flowCurrent := some 40 } }
    let run := trace (House.step splitHouse) house (splitRun.map .tick)
    run.countP flowMoved = 2 ∧ (run.countP flowMoved : ℚ) * 2 ≤ 11 := by
  intro house run
  refine ⟨by decide +kernel, ?_⟩
  have law := flow_moves_bounded splitHouse house 40 splitRun rfl (by decide +kernel)
  refine law.trans ?_
  decide +kernel

/-! ### Compressor groups -/

theorem stepGroup_on (now : ℚ) (shared : SharedState) (group : String) (want : Bool) (g : String) :
    (shared.stepGroup cfg now group want).on g = if g = group then
      gateMinCycle want (shared.on group) (shared.switch group) now cfg.minOn cfg.minOff
    else shared.on g := by
  simp only [SharedState.stepGroup, SharedState.on, stepMinCycle, Dict.lookup_set]
  by_cases same : g = group
  · simp [same]
  · simp [same]

theorem stepGroup_switch (now : ℚ) (shared : SharedState) (group : String) (want : Bool)
    (g : String) :
    (shared.stepGroup cfg now group want).switch g = if g = group then
      (if gateMinCycle want (shared.on group) (shared.switch group) now cfg.minOn cfg.minOff ≠
        shared.on group then now else shared.switch group)
    else shared.switch g := by
  simp only [SharedState.stepGroup, SharedState.switch, SharedState.on, stepMinCycle,
    Dict.lookup_set]
  by_cases same : g = group
  · simp [same]
  · simp [same]

def HubConfig.dwell (cfg : HubConfig) (on : Bool) : ℚ := if on then cfg.minOn else cfg.minOff

theorem dwell_pos (cfg : HubConfig) (on : Bool) : 0 < cfg.dwell on := by
  have positive : (0 : ℚ) < boilerMinDwellFloorS := by norm_num [boilerMinDwellFloorS]
  cases on
  · exact positive.trans_le cfg.minOff_floor
  · exact positive.trans_le cfg.minOn_floor

/-- A tick leaves a group as it is, or changes it once its dwell is over. -/
def GroupStepped (cfg : HubConfig) (now : ℚ) (g : String) (before after : SharedState) : Prop :=
  (after.on g = before.on g ∧ after.switch g = before.switch g) ∨
    (after.on g = !before.on g ∧ after.switch g = now ∧
      cfg.dwell (before.on g) ≤ now - before.switch g)

theorem stepGroup_stepped (cfg : HubConfig) (now : ℚ) (shared : SharedState) (group : String)
    (want : Bool) (g : String) :
    GroupStepped cfg now g shared (shared.stepGroup cfg now group want) := by
  by_cases same : g = group
  · subst same
    by_cases flips : gateMinCycle want (shared.on g) (shared.switch g) now cfg.minOn cfg.minOff =
        shared.on g
    · refine Or.inl ⟨?_, ?_⟩
      · rw [stepGroup_on, if_pos rfl, flips]
      · rw [stepGroup_switch, if_pos rfl, if_neg (not_not.mpr flips)]
    · refine Or.inr ⟨?_, ?_, ?_⟩
      · rw [stepGroup_on, if_pos rfl]
        exact Bool.eq_not.mpr flips
      · rw [stepGroup_switch, if_pos rfl, if_pos flips]
      · exact (gateMinCycle_flip flips).2
  · refine Or.inl ⟨?_, ?_⟩
    · rw [stepGroup_on, if_neg same]
    · rw [stepGroup_switch, if_neg same]

theorem stepGroups_stepped (now : ℚ) (shared : SharedState) (calls : List (String × Bool))
    (g : String) : GroupStepped cfg now g shared (shared.stepGroups cfg now calls) := by
  induction calls generalizing shared with
  | nil => exact Or.inl ⟨rfl, rfl⟩
  | cons call calls ih =>
    have first := stepGroup_stepped cfg now shared call.1 call.2 g
    have later := ih (shared.stepGroup cfg now call.1 call.2)
    change GroupStepped cfg now g shared
      ((shared.stepGroup cfg now call.1 call.2).stepGroups cfg now calls)
    rcases first with ⟨on, switch⟩ | ⟨on, switch, dwelt⟩
    · rcases later with ⟨on', switch'⟩ | ⟨on', switch', dwelt'⟩
      · exact Or.inl ⟨on'.trans on, switch'.trans switch⟩
      · rw [on] at on' dwelt'
        rw [switch] at dwelt'
        exact Or.inr ⟨on', switch', dwelt'⟩
    · rcases later with ⟨on', switch'⟩ | ⟨-, -, dwelt'⟩
      · exact Or.inr ⟨on'.trans on, switch'.trans switch, dwelt⟩
      · -- a second change in one tick would have no dwell
        rw [switch, sub_self] at dwelt'
        exact absurd dwelt' (not_le.mpr (dwell_pos cfg _))

theorem step_stepped (setup : HubSetup) (house : House) (t : HouseTick) (g : String) :
    GroupStepped setup.toHubConfig t.now g house.shared (house.step setup (.tick t)).1.shared :=
  stepGroups_stepped t.now house.shared (groupCallForHeat t.requests) g

/-- The new state of a group that a tick changed. -/
def groupFlip (group : String) (e : HouseStep) : Option Bool :=
  if e.post.shared.on group = e.pre.shared.on group then none else some (e.post.shared.on group)

def HouseEvent.time : HouseEvent → Option ℚ
  | .tick t => some t.now
  | .restart _ => none

/-- The stamp of the group is no older than any change so far. -/
def GroupStamped (group : String) (past : List HouseStep) (house : House) : Prop :=
  ∀ f ∈ past, groupFlip group f ≠ none → ∀ w, f.input.time = some w →
    w ≤ house.shared.switch group

/-- Ticks of one process, in the order of its clock. -/
def InOrder (past : List HouseStep) (e : HouseStep) : Prop :=
  ∃ t, e.input = .tick t ∧ ∀ f ∈ past, ∀ w, f.input.time = some w → w ≤ t.now

theorem groupStamped_step {past : List HouseStep} {house : House} {event : HouseEvent}
    {group : String} (stamped : GroupStamped group past house)
    (order : InOrder past (Step.of (House.step setup) house event)) :
    GroupStamped group (past ++ [Step.of (House.step setup) house event])
      (house.step setup event).1 := by
  obtain ⟨t, rfl, earlier⟩ := order
  intro f member flips w at'
  have stepped := step_stepped setup house t group
  rcases List.mem_append.mp member with old | new
  · rcases stepped with ⟨-, switch⟩ | ⟨-, switch, -⟩
    · rw [switch]
      exact stamped f old flips w at'
    · rw [switch]
      exact earlier f old w at'
  · obtain rfl := List.mem_singleton.mp new
    obtain rfl : t.now = w := Option.some.inj at'
    rcases stepped with ⟨on, -⟩ | ⟨-, switch, -⟩
    · exact absurd (if_pos on) flips
    · rw [switch]

theorem inOrder_of_pairwise {house : House} {ticks : List HouseTick} {past : List HouseStep}
    {e : HouseStep} (ordered : ticks.Pairwise fun t u => t.now ≤ u.now)
    (moment : past ++ [e] <+: trace (House.step setup) house (ticks.map .tick)) :
    InOrder past e := by
  have events : (ticks.map HouseEvent.tick).Pairwise fun i j =>
      ∀ w u, i.time = some w → j = .tick u → w ≤ u.now := by
    rw [List.pairwise_map]
    refine ordered.imp fun {t u} before w u' at' same => ?_
    obtain rfl : t.now = w := Option.some.inj at'
    obtain rfl : u = u' := HouseEvent.tick.inj same
    exact before
  obtain ⟨front, i, within, -, rfl⟩ := prefix_trace _ moment
  obtain ⟨t, -, rfl⟩ := List.mem_map.mp (within.subset (List.mem_append_right _ List.mem_cons_self))
  exact ⟨t, rfl, fun f member w at' => pairwise_past _ events moment f member w t at' rfl⟩

/-- Minimum run and pause of a compressor group over a whole process, whichever zones are there at
which tick: a group without zones keeps its state and its dwell. -/
theorem compressor_min_cycle (setup : HubSetup) (house : House) (ticks : List HouseTick)
    (group : String) (ordered : ticks.Pairwise fun t u => t.now ≤ u.now) :
    ∀ past e, past ++ [e] <+: trace (House.step setup) house (ticks.map .tick) →
      ∀ f ∈ past, ∀ start stop, f.input.time = some start → e.input.time = some stop →
        (groupFlip group f = some true → groupFlip group e = some false →
          start + setup.minOn ≤ stop) ∧
        (groupFlip group f = some false → groupFlip group e = some true →
          start + setup.minOff ≤ stop) := by
  intro past e moment f member start stop started stopped
  have stamped := history_at (House.step setup) (GroupStamped group) InOrder
    (by simp [GroupStamped]) (fun past house event before order => groupStamped_step before order)
    (fun past e moment => inOrder_of_pairwise ordered moment) moment
  obtain ⟨t, input, -⟩ := inOrder_of_pairwise ordered moment
  have own := step_of_mem _ (mem_of_moment _ moment)
  have late : groupFlip group f ≠ none → start ≤ e.pre.shared.switch group :=
    fun flips => stamped f member flips start started
  have dwelt : ∀ on, groupFlip group e = some (!on) →
      setup.dwell on ≤ stop - e.pre.shared.switch group := by
    intro on flips
    rw [own, input] at flips stopped
    obtain rfl : t.now = stop := Option.some.inj stopped
    rcases step_stepped setup e.pre t group with ⟨same, -⟩ | ⟨other, -, dwell⟩
    · simp [groupFlip, Step.of, same] at flips
    · have before : e.pre.shared.on group = on := by
        simp [groupFlip, Step.of, other] at flips
        exact flips
      rw [← before]
      exact dwell
  constructor
  · intro starts stops
    have dwell : setup.minOn ≤ _ := dwelt true stops
    have stamp := late (by simp [starts])
    linarith
  · intro stops starts
    have dwell : setup.minOff ≤ _ := dwelt false starts
    have stamp := late (by simp [stops])
    linarith

/-- The zone stops calling after a minute, and the group runs on for its five. -/
theorem compressor_min_cycle_split :
    let run := trace (House.step splitHouse) { boiler := { epoch := 0 } }
      ([splitTick 0 true 45, splitTick 60 false 45, { now := 120, zones := [] },
        splitTick 300 false 45].map .tick)
    run.map (groupFlip "outdoor") = [some true, none, none, some false] ∧
      ∀ past e, past ++ [e] <+: run → ∀ f ∈ past, ∀ start stop, f.input.time = some start →
        e.input.time = some stop →
          (groupFlip "outdoor" f = some true → groupFlip "outdoor" e = some false →
            start + 300 ≤ stop) ∧
          (groupFlip "outdoor" f = some false → groupFlip "outdoor" e = some true →
            start + 300 ≤ stop) :=
  ⟨by decide +kernel, compressor_min_cycle splitHouse _ _ "outdoor" (by decide +kernel)⟩

end Poise
