import Poise.Foundation.Trace
import Mathlib.Algebra.Order.Field.Rat

/-!
# The shared boiler

The boiler state machine of `control/hub_aggregate.py` and the hub tick that
drives it (`hub_coordinator.py`): restore and reconcile once per process, step,
dispatch, commit on success, persist. Monotonic and wall-clock seconds are exact
rationals. The hub actuates only when both boiler actions are configured, so
every proposed call has an action.
-/
namespace Poise

-- Never lets a configured dwell drop under two minutes.
def boilerMinDwellFloorS : ℚ := 120

/-- The timing options of the hub entry, the dwells already clamped. -/
structure HubConfig where
  activationDelay : ℚ
  keepalive : ℚ
  minOn : ℚ
  minOff : ℚ
  minOn_floor : boilerMinDwellFloorS ≤ minOn
  minOff_floor : boilerMinDwellFloorS ≤ minOff

def HubConfig.ofEntry (activationDelay keepalive minOn minOff : ℚ) : HubConfig where
  activationDelay := activationDelay
  keepalive := keepalive
  minOn := max boilerMinDwellFloorS minOn
  minOff := max boilerMinDwellFloorS minOff
  minOn_floor := le_max_left _ _
  minOff_floor := le_max_left _ _

def gateMinCycle (desiredOn currentlyOn : Bool) (lastChangeMono nowMono minOnS minOffS : ℚ) :
    Bool :=
  -- Hold the generator state until min-on/min-off elapsed.
  if desiredOn = currentlyOn then currentlyOn
  else
    let elapsed := nowMono - lastChangeMono
    if currentlyOn then elapsed < minOnS else minOffS ≤ elapsed

/-- The commanded state: turning on also waits for the activation delay. -/
def targetBoilerState (demand currentlyOn : Bool) (demandTrueSince : Option ℚ)
    (nowMono activationDelayS lastSwitchMono minOnS minOffS : ℚ) : Bool :=
  let desired :=
    if currentlyOn then demand
    else demand && demandTrueSince.any fun since => activationDelayS ≤ nowMono - since
  gateMinCycle desired currentlyOn lastSwitchMono nowMono minOnS minOffS

/-- What the hub carries from tick to tick about the boiler. -/
structure BoilerState where
  on : Bool := false
  lastSwitchMono : ℚ := -1000000000
  demandTrueSince : Option ℚ := none
  lastKeepaliveMono : ℚ := 0
  deriving DecidableEq, Repr

inductive BoilerCall where
  | on
  | off
  deriving DecidableEq, Repr

def BoilerCall.to (on : Bool) : BoilerCall := if on then .on else .off

structure BoilerStep where
  state : BoilerState
  call : Option BoilerCall
  deriving DecidableEq, Repr

def demandSince (since : Option ℚ) (demand : Bool) (nowMono : ℚ) : Option ℚ :=
  -- The activation latch: when the running demand began.
  if demand then some (since.getD nowMono) else none

def keepaliveDue (state : BoilerState) (nowMono keepaliveS : ℚ) (allowKeepalive : Bool) : Prop :=
  allowKeepalive = true ∧ 0 < keepaliveS ∧ keepaliveS ≤ nowMono - state.lastKeepaliveMono

instance (state : BoilerState) (nowMono keepaliveS : ℚ) (allowKeepalive : Bool) :
    Decidable (keepaliveDue state nowMono keepaliveS allowKeepalive) :=
  inferInstanceAs (Decidable (_ ∧ _))

/-- One tick of the boiler state machine. -/
def stepBoiler (state : BoilerState) (demand : Bool)
    (nowMono activationDelayS minOnS minOffS keepaliveS : ℚ) (allowKeepalive : Bool) :
    BoilerStep :=
  let demandTrueSince := demandSince state.demandTrueSince demand nowMono
  let target := targetBoilerState demand state.on demandTrueSince nowMono activationDelayS
    state.lastSwitchMono minOnS minOffS
  if target ≠ state.on then
    ⟨⟨target, nowMono, demandTrueSince, nowMono⟩, some (.to target)⟩
  else if keepaliveDue state nowMono keepaliveS allowKeepalive then
    ⟨⟨state.on, state.lastSwitchMono, demandTrueSince, nowMono⟩, some (.to state.on)⟩
  else
    ⟨⟨state.on, state.lastSwitchMono, demandTrueSince, state.lastKeepaliveMono⟩, none⟩

/-- The stored boiler state; `none` is a payload without the stamp. -/
structure BoilerPayload where
  boilerOn : Bool
  lastSwitchWall : Option ℚ
  hasActuated : Bool
  deriving DecidableEq, Repr

def boilerStateToPayload (state : BoilerState) (nowMono nowWall : ℚ) (hasActuated : Bool) :
    BoilerPayload :=
  let elapsed := max 0 (nowMono - state.lastSwitchMono)
  ⟨state.on, some (nowWall - elapsed), hasActuated⟩

def restoreBoilerState (payload : Option BoilerPayload) (nowMono nowWall : ℚ) :
    BoilerState × Bool :=
  match payload with
  | none => ({}, false)
  | some payload =>
    match payload.lastSwitchWall with
    | none => ({ on := payload.boilerOn }, payload.hasActuated)
    | some wall =>
      let elapsed := max 0 (nowWall - wall)
      ({ on := payload.boilerOn, lastSwitchMono := nowMono - elapsed }, payload.hasActuated)

/-- The on/off reading of the actuator entity; unknown states read as `none`. -/
def reconcileBoilerOn (state : Option String) : Option Bool :=
  match state with
  | none => none
  | some state => if state ∈ ["unknown", "unavailable"] then none else some (state ≠ "off")

/-- The hub coordinator's boiler fields. -/
structure HubCoordinator where
  boiler : BoilerState := {}
  reconciled : Bool := false
  restored : Bool := false
  hasActuated : Bool := false
  deriving DecidableEq, Repr

/-- `_restore_state`; `loaded` is `none` when the load raised. -/
def HubCoordinator.restoreState (hub : HubCoordinator) (loaded : Option (Option BoilerPayload))
    (now nowWall : ℚ) : HubCoordinator :=
  if hub.restored then hub
  else
    match loaded with
    | none => { hub with restored := true }
    | some payload =>
      let (boiler, hasActuated) := restoreBoilerState payload now nowWall
      { hub with restored := true, boiler, hasActuated }

/-- The one-time reconciliation of the believed state against the real actuator. -/
def HubCoordinator.reconcile (cfg : HubConfig) (hub : HubCoordinator) (realState : Option String)
    (now : ℚ) : HubCoordinator :=
  if hub.reconciled then hub
  else
    match reconcileBoilerOn realState with
    | none => hub
    | some real =>
      let lastSwitch :=
        if real = hub.boiler.on then hub.boiler.lastSwitchMono
        -- a running boiler is protected from now on, a stopped one may start at once
        else if real then now
        else now - max cfg.minOff cfg.minOn
      { hub with
        boiler := ⟨real, lastSwitch, hub.boiler.demandTrueSince, now⟩
        reconciled := true }

/-- What the world answers during one `_actuate`. -/
structure ActuateEnv where
  loaded : Option (Option BoilerPayload)
  nowWall : ℚ
  realState : Option String
  callOk : Bool
  -- The wall clock when the payload is built, after the call returned.
  persistWall : ℚ

/-- The belief before the call, the call and its outcome, the payload handed to the store. -/
structure ActuateReport where
  prevOn : Bool
  call : Option BoilerCall
  callOk : Bool
  saved : Option BoilerPayload
  deriving DecidableEq, Repr

def HubCoordinator.prepared (cfg : HubConfig) (hub : HubCoordinator) (now : ℚ)
    (env : ActuateEnv) : HubCoordinator :=
  -- The hub's belief when it steps: restored, then reconciled.
  (hub.restoreState env.loaded now env.nowWall).reconcile cfg env.realState now

/-- The second half of `_actuate`: a state whose service call failed is never
committed, and the first call as well as every change is stored. -/
def HubCoordinator.dispatch (hub : HubCoordinator) (step : BoilerStep) (now : ℚ)
    (env : ActuateEnv) : HubCoordinator × ActuateReport :=
  let prevOn := hub.boiler.on
  if step.call.isSome ∧ env.callOk = false then (hub, ⟨prevOn, step.call, false, none⟩)
  else
    let newlyActuated := hub.hasActuated = false
    let next := { hub with
      boiler := step.state, hasActuated := hub.hasActuated || step.call.isSome }
    let saved :=
      if step.call.isSome ∧ (newlyActuated ∨ step.state.on ≠ prevOn) then
        some (boilerStateToPayload next.boiler now env.persistWall next.hasActuated)
      else none
    (next, ⟨prevOn, step.call, true, saved⟩)

/-- `_actuate`. -/
def HubCoordinator.actuate (cfg : HubConfig) (hub : HubCoordinator) (demandActive : Bool)
    (now : ℚ) (env : ActuateEnv) : HubCoordinator × ActuateReport :=
  let hub := hub.prepared cfg now env
  let step := stepBoiler hub.boiler demandActive now cfg.activationDelay cfg.minOn cfg.minOff
    cfg.keepalive hub.reconciled
  hub.dispatch step now env

/-- Everything but the state of the two clocks and the outside world is in here:
the running coordinator, the stored payload, and the wall time at which the
monotonic clock of this process reads zero. -/
structure HubSystem where
  hub : HubCoordinator := {}
  disk : Option BoilerPayload := none
  epoch : ℚ
  deriving DecidableEq, Repr

structure HubTick where
  now : ℚ
  demand : Bool
  realState : Option String := none
  callOk : Bool := true
  -- The monotonic clock when the call has returned.
  callDone : ℚ := now
  saveOk : Bool := true
  loadOk : Bool := true
  deriving DecidableEq, Repr

inductive HubEvent where
  | tick (t : HubTick)
  -- A new process: a fresh coordinator over the stored payload.
  | restart (epoch : ℚ)
  deriving DecidableEq, Repr

/-- What an observer of the hub sees of one tick. -/
structure HubReport where
  wall : ℚ
  demand : Bool
  actuate : ActuateReport
  -- The payload of this tick reached the store.
  stored : Bool
  deriving DecidableEq, Repr

def HubReport.flip (r : HubReport) : Option Bool :=
  match r.actuate.call with
  | some call =>
    if r.actuate.callOk ∧ call ≠ .to r.actuate.prevOn then some (!r.actuate.prevOn) else none
  | none => none

def HubTick.env (t : HubTick) (sys : HubSystem) : ActuateEnv where
  loaded := if t.loadOk then some sys.disk else none
  nowWall := sys.epoch + t.now
  realState := t.realState
  callOk := t.callOk
  persistWall := sys.epoch + t.callDone

/-- One event of the hub: a tick, or a restart that keeps only the store. -/
def HubSystem.step (cfg : HubConfig) (sys : HubSystem) : HubEvent → HubSystem × Option HubReport
  | .restart epoch => ({ sys with hub := {}, epoch }, none)
  | .tick t =>
    let (hub, report) := sys.hub.actuate cfg t.demand t.now (t.env sys)
    let stored := report.saved.isSome && t.saveOk
    let disk := if stored then report.saved else sys.disk
    ({ sys with hub, disk }, some ⟨sys.epoch + t.now, t.demand, report, stored⟩)

end Poise
