import Poise.Foundation.Dict
import Poise.Hub.Boiler
import Poise.Hub.LoadShedding

/-!
# The hub tick

`hub_coordinator.py::_async_update_data` over `control/hub_aggregate.py`: the published snapshots of
the zones become requests, the requests become the boiler demand, and beside the boiler the hub
keeps the compressor groups and the flow temperature. A snapshot value is `none` when it is missing
or not a number; temperatures, powers and clocks are exact rationals.
-/
namespace Poise

open Rounding

def hubZoneStaleAfterS : ℚ := 180

-- A room at or just above the frost floor is in the anti-freeze regime.
def frostMarginC : ℚ := 1 / 2

-- Below this a cold reading is a sensor fault.
def frostPlausibleMinC : ℚ := -20

def clamp01 (value : ℚ) : ℚ := min (max value 0) 1

/-- `_num`. -/
def num : Option PyFloat → Option ℚ
  | some (.finite value) => some value
  | _ => none

/-- `_cfg_finite_opt`: a zero option reads as no option. -/
def cfgFiniteOpt (value : Option PyFloat) : Option ℚ := (num value).filter (· ≠ 0)

/-! ### Requests -/

/-- What the hub reads of a zone's published `data`. -/
structure ZoneData where
  available : Bool
  unavailableSafe : Bool
  sensorFrozen : Bool
  heating : Bool
  bindingLowerCause : Option String
  tpiDuty : Option PyFloat
  currentTemperature : Option PyFloat
  heatSp : Option PyFloat
  monoTs : Option ℚ
  deriving DecidableEq, Repr

/-- A config entry with what its coordinator shows. -/
structure HubZone where
  entryId : String
  -- The entry of the hub itself.
  system : Bool := false
  data : Option ZoneData
  lastUpdateSuccess : Bool := true
  controlsBoiler : Bool
  declaredPower : Option PyFloat := none
  compressorGroup : Option String := none
  flowTemp : Option PyFloat := none
  sourcePolicy : Option String := none
  deriving DecidableEq, Repr

structure HubRequest extends ZoneRequest where
  hvacAction : String
  heatDemand : ℚ
  controlsBoiler : Bool
  monoTs : ℚ
  flowTempRequest : Option ℚ := none
  sourcePref : Option String := none
  compressorGroup : Option String := none
  frozen : Bool := false
  deriving DecidableEq, Repr

def zoneHeatDemand (heating : Bool) (tpiDuty : Option ℚ) (frozen : Bool) : ℚ :=
  if frozen then 0 else tpiDuty.getD (if heating then 1 else 0)

def includes (text word : String) : Bool := decide (word.toList <:+: text.toList)

def frostReading (room : ℚ) : Bool :=
  frostPlausibleMinC ≤ room && room ≤ frostFloorC + frostMarginC

def zoneRequestFromData (zone : HubZone) (data : ZoneData) (monoTs : ℚ) : HubRequest :=
  let heating := data.heating && !data.sensorFrozen
  let cause := (data.bindingLowerCause.getD "").toLower
  let room := num data.currentTemperature
  let sp := num data.heatSp
  { zoneId := zone.entryId
    heating
    hvacAction := if heating then "heating" else "idle"
    heatDemand := zoneHeatDemand heating (num data.tpiDuty) data.sensorFrozen
    comfortGap := (room.bind fun room => sp.map (· - room)).getD 0
    -- A physical signal: a frozen sensor still reports its last cold reading.
    frostActive := room.any frostReading
    controlsBoiler := zone.controlsBoiler
    monoTs
    declaredPower := cfgFiniteOpt zone.declaredPower
    compressorGroup := zone.compressorGroup
    flowTempRequest := cfgFiniteOpt zone.flowTemp
    sourcePref := zone.sourcePolicy
    healthActive := includes cause "mould" || includes cause "schimmel" || includes cause "mold"
    frozen := data.sensorFrozen }

/-- The request of a zone that is parked at its frost floor without a sensor. -/
def frostHeatRequest (zoneId : String) (monoTs : ℚ) : HubRequest :=
  { zoneId
    heating := true
    hvacAction := "heating"
    heatDemand := 1
    comfortGap := 0
    frostActive := true
    controlsBoiler := true
    monoTs
    declaredPower := none
    healthActive := false }

/-- One entry of the loop of `_collect_requests`; a missing stamp is stale. -/
def HubZone.request (now : ℚ) (zone : HubZone) : Option HubRequest :=
  if zone.system then none
  else
    match zone.data with
    | none => none
    | some data =>
      if !data.available then
        if zone.controlsBoiler && data.unavailableSafe then some (frostHeatRequest zone.entryId now)
        else none
      else if !zone.lastUpdateSuccess then none
      else
        match data.monoTs with
        | none => none
        | some ts =>
          if hubZoneStaleAfterS < now - ts then none else some (zoneRequestFromData zone data ts)

def HubZone.frostUnavailable (zone : HubZone) : Bool :=
  !zone.system && zone.data.any fun data =>
    !data.available && zone.controlsBoiler && data.unavailableSafe

/-- `_collect_requests`: the requests, and the zones that ask through the frost fallback. -/
def collectRequests (now : ℚ) (zones : List HubZone) : List HubRequest × List String :=
  (zones.filterMap (HubZone.request now),
    (zones.filter HubZone.frostUnavailable).map HubZone.entryId)

/-! ### The boiler demand -/

structure BoilerDemand where
  active : Bool
  activeCount : ℕ
  weightedDemand : ℚ
  frostOverride : Bool
  frostZoneId : Option String := none
  frostExcluded : List String := []
  deriving DecidableEq, Repr

def HubRequest.weight (r : HubRequest) : ℚ := r.power * clamp01 r.heatDemand

def aggregateBoilerDemand (requests : List HubRequest) (countThreshold : ℤ)
    (powerThreshold : Option ℚ) : BoilerDemand :=
  let participating := requests.filter HubRequest.controlsBoiler
  let calling := participating.filter fun r => r.heating
  let weighted := (calling.map HubRequest.weight).sum
  let frostZone := requests.find? fun r => r.frostActive && r.controlsBoiler
  let frostZoneId := frostZone.map fun r => r.zoneId
  let frostExcluded :=
    (requests.filter fun r => r.frostActive && !r.controlsBoiler).map fun r => r.zoneId
  let byCount : Bool := countThreshold ≤ calling.length
  let byPower := powerThreshold.any fun threshold => threshold ≤ weighted
  { active := frostZoneId.isSome || byCount || byPower
    activeCount := calling.length
    weightedDemand := roundTo weighted 3
    frostOverride := frostZoneId.isSome
    frostZoneId
    frostExcluded }

/-! ### The other shared resources -/

/-- `if r.compressor_group:` -/
def HubRequest.group (r : HubRequest) : Option String := r.compressorGroup.filter (· ≠ "")

def groupCallForHeat (requests : List HubRequest) : List (String × Bool) :=
  requests.foldl (fun out r =>
    match r.group with
    | none => out
    | some group => Dict.set group ((out.lookup group).getD false || r.heating) out) []

/-- The new state and the instant of its last change. -/
def stepMinCycle (prevOn : Bool) (prevSwitchMono : ℚ) (demand : Bool) (nowMono minOnS minOffS : ℚ) :
    Bool × ℚ :=
  let on := gateMinCycle demand prevOn prevSwitchMono nowMono minOnS minOffS
  (on, if on ≠ prevOn then nowMono else prevSwitchMono)

structure FlowDecision where
  -- The commanded flow setpoint; `none` is no flow demand.
  target : Option ℚ
  requestedMax : Option ℚ
  changed : Bool
  deriving DecidableEq, Repr

def HubRequest.flow (r : HubRequest) : Option ℚ := if r.heating then r.flowTempRequest else none

/-- Highest request wins, capped; the command moves only past the hysteresis. -/
def resolveFlowTemperature (requests : List HubRequest) (current : Option ℚ)
    (maxFlow hysteresis : ℚ) : FlowDecision :=
  match requests.filterMap HubRequest.flow with
  | [] => ⟨none, none, current.isSome⟩
  | first :: rest =>
    let requested := min (rest.foldl max first) maxFlow
    match current with
    | none => ⟨some requested, some requested, true⟩
    | some current =>
      if |requested - current| < hysteresis then ⟨some current, some requested, false⟩
      else ⟨some requested, some requested, true⟩

/-- `pref = (r.source_pref or "auto").lower()`; the empty string is no preference. -/
def HubRequest.pref (r : HubRequest) : String :=
  ((r.sourcePref.filter (· ≠ "")).getD "auto").toLower

def resolveSourcePolicy (requests : List HubRequest) (defaultSource : String) :
    List (String × String) :=
  requests.foldl (fun out r =>
    if r.heating then
      Dict.set r.zoneId
        (if r.pref = "radiator" || r.pref = "heat_pump" then r.pref else defaultSource) out
    else out) []

/-! ### One tick of the hub -/

structure HubSetup extends HubConfig where
  countThreshold : ℤ
  powerThreshold : Option PyFloat
  -- Both boiler actions parse.
  actuation : Bool
  maxFlow : ℚ
  flowHysteresis : ℚ
  defaultSource : String

/-- The tick-crossing state beside the boiler. -/
structure SharedState where
  groupOn : List (String × Bool) := []
  groupSwitch : List (String × ℚ) := []
  flowCurrent : Option ℚ := none
  deriving DecidableEq, Repr

def SharedState.on (shared : SharedState) (group : String) : Bool :=
  (shared.groupOn.lookup group).getD false

def SharedState.switch (shared : SharedState) (group : String) : ℚ :=
  (shared.groupSwitch.lookup group).getD (-1000000000)

/-- The loop body over the groups. -/
def SharedState.stepGroup (cfg : HubConfig) (now : ℚ) (shared : SharedState) (group : String)
    (want : Bool) : SharedState :=
  let (on, switch) := stepMinCycle (shared.on group) (shared.switch group) want now cfg.minOn
    cfg.minOff
  { shared with
    groupOn := Dict.set group on shared.groupOn
    groupSwitch := Dict.set group switch shared.groupSwitch }

structure SharedReport where
  availablePower : Option ℚ
  shedZones : List String
  compressorGroups : List (String × Bool)
  flow : FlowDecision
  sourceGrants : List (String × String)
  deriving DecidableEq, Repr

/-- `_shared_resource_shadow`; the power readings are those of `_power`. -/
def SharedState.step (setup : HubSetup) (shared : SharedState) (requests : List HubRequest)
    (now : ℚ) (maxPower currentPower : Option PyFloat) : SharedState × SharedReport :=
  let available := (num maxPower).bind fun most => (num currentPower).map (most - ·)
  let shedding := available.map fun available =>
    resolveLoadShedding (requests.map HubRequest.toZoneRequest) (.finite available)
  let calls := groupCallForHeat requests
  let cfg := setup.toHubConfig
  let shared := calls.foldl (fun shared call => shared.stepGroup cfg now call.1 call.2) shared
  let groups := calls.map fun call => (call.1, shared.on call.1)
  let flow := resolveFlowTemperature requests shared.flowCurrent setup.maxFlow setup.flowHysteresis
  ({ shared with flowCurrent := flow.target },
    { availablePower := available.map (roundTo · 1)
      shedZones := (shedding.map SheddingResult.shed).getD []
      compressorGroups := groups
      flow
      sourceGrants := resolveSourcePolicy requests setup.defaultSource })

/-- What one tick of the hub finds. -/
structure HouseTick where
  now : ℚ
  zones : List HubZone
  maxPower : Option PyFloat := none
  currentPower : Option PyFloat := none
  realState : Option String := none
  callOk : Bool := true
  callDone : ℚ := now
  saveOk : Bool := true
  loadOk : Bool := true
  deriving DecidableEq, Repr

inductive HouseEvent where
  | tick (t : HouseTick)
  | restart (epoch : ℚ)
  deriving DecidableEq, Repr

/-- The hub with its store and clock, and what it carries beside the boiler. -/
structure House where
  boiler : HubSystem
  shared : SharedState := {}
  deriving DecidableEq, Repr

structure HouseReport where
  demand : BoilerDemand
  boilerOn : Bool
  frostUnavailableZones : List String
  zoneCount : ℕ
  controllingZones : ℕ
  shared : SharedReport
  deriving DecidableEq, Repr

def HouseTick.demand (setup : HubSetup) (t : HouseTick) : BoilerDemand :=
  aggregateBoilerDemand (collectRequests t.now t.zones).1 setup.countThreshold
    (cfgFiniteOpt setup.powerThreshold)

def HouseTick.hubTick (setup : HubSetup) (t : HouseTick) : HubTick where
  now := t.now
  demand := (t.demand setup).active
  realState := t.realState
  callOk := t.callOk
  callDone := t.callDone
  saveOk := t.saveOk
  loadOk := t.loadOk

/-- `_async_update_data`. -/
def House.step (setup : HubSetup) (house : House) : HouseEvent → House × Option HouseReport
  | .restart epoch =>
    ({ boiler := (house.boiler.step setup.toHubConfig (.restart epoch)).1 }, none)
  | .tick t =>
    let (requests, frostUnavailableZones) := collectRequests t.now t.zones
    let boiler :=
      if setup.actuation then (house.boiler.step setup.toHubConfig (.tick (t.hubTick setup))).1
      else house.boiler
    let (shared, report) := house.shared.step setup requests t.now t.maxPower t.currentPower
    ({ boiler, shared },
      some {
        demand := t.demand setup
        boilerOn := boiler.hub.boiler.on
        frostUnavailableZones
        zoneCount := requests.length
        controllingZones := (requests.filter HubRequest.controlsBoiler).length
        shared := report })

end Poise
