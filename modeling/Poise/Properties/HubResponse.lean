import Poise.Hub.Aggregate
import Poise.Properties.BoilerRuns

/-!
# The hub answers

What the snapshots of the zones do to the shared boiler in the end: a freezing zone fires it within
the larger of activation delay and minimum pause, and zones that went silent let it stop within the
minimum run. Both count from the first tick that shows it and need service calls that succeed.
-/
namespace Poise

open Trace

/-! ### What a zone asks for -/

/-- The zone is served by the boiler and shows frost: parked without a sensor, or in a fresh
snapshot with a plausible reading at the frost floor. -/
def HubZone.Freezing (now : ℚ) (zone : HubZone) : Prop :=
  zone.system = false ∧ zone.controlsBoiler = true ∧ ∃ data, zone.data = some data ∧
    ((data.available = false ∧ data.unavailableSafe = true) ∨
      (data.available = true ∧ zone.lastUpdateSuccess = true ∧
        (∃ ts, data.monoTs = some ts ∧ now - ts ≤ hubZoneStaleAfterS) ∧
        ∃ room, num data.currentTemperature = some room ∧ frostPlausibleMinC ≤ room ∧
          room ≤ frostFloorC + frostMarginC))

/-- Nothing current can be read of the zone. -/
def HubZone.Silent (now : ℚ) (zone : HubZone) : Prop :=
  ∀ data, zone.data = some data →
    (data.available = false ∧ data.unavailableSafe = false) ∨
    (data.available = true ∧ (zone.lastUpdateSuccess = false ∨
      ∀ ts, data.monoTs = some ts → hubZoneStaleAfterS < now - ts))

/-- A zone asks through the frost fallback or with a fresh snapshot, or not at all. -/
theorem request_eq_some_iff {now : ℚ} {zone : HubZone} {r : HubRequest} :
    zone.request now = some r ↔ zone.system = false ∧ ∃ data, zone.data = some data ∧
      ((data.available = false ∧ zone.controlsBoiler = true ∧ data.unavailableSafe = true ∧
          r = frostHeatRequest zone.entryId now) ∨
        (data.available = true ∧ zone.lastUpdateSuccess = true ∧ ∃ ts, data.monoTs = some ts ∧
          now - ts ≤ hubZoneStaleAfterS ∧ r = zoneRequestFromData zone data ts)) := by
  unfold HubZone.request
  cases entry : zone.system with
  | true => simp
  | false =>
    cases shown : zone.data with
    | none => simp
    | some data =>
      cases available : data.available with
      | false => simp [available, eq_comm (a := r), and_assoc]
      | true =>
        cases success : zone.lastUpdateSuccess with
        | false => simp [available]
        | true =>
          cases stamped : data.monoTs with
          | none => simp [available, stamped]
          | some ts =>
            by_cases stale : hubZoneStaleAfterS < now - ts
            · simp [available, stamped, stale, not_le.mpr stale, -tsub_le_iff_right]
            · simp [available, stamped, stale, not_lt.mp stale, eq_comm (a := r),
                -tsub_le_iff_right]

theorem HubZone.Freezing.request {now : ℚ} {zone : HubZone} (freezing : zone.Freezing now) :
    ∃ r, zone.request now = some r ∧ r.frostActive = true ∧ r.controlsBoiler = true := by
  obtain ⟨entry, served, data, shown, ⟨gone, parked⟩ | live⟩ := freezing
  · exact ⟨_, request_eq_some_iff.mpr
      ⟨entry, data, shown, Or.inl ⟨gone, served, parked, rfl⟩⟩, rfl, rfl⟩
  · obtain ⟨available, success, ⟨ts, stamped, fresh⟩, room, reading, real, cold⟩ := live
    refine ⟨_, request_eq_some_iff.mpr
      ⟨entry, data, shown, Or.inr ⟨available, success, ts, stamped, fresh, rfl⟩⟩, ?_, served⟩
    simp [zoneRequestFromData, reading, frostReading, real, cold]

theorem HubZone.Silent.request {now : ℚ} {zone : HubZone} (silent : zone.Silent now) :
    zone.request now = none := by
  rw [Option.eq_none_iff_forall_not_mem]
  intro r asked
  obtain ⟨-, data, shown, parked | live⟩ := request_eq_some_iff.mp asked
  · rcases silent data shown with ⟨-, unparked⟩ | ⟨available, -⟩
    · simp [parked.2.2.1] at unparked
    · simp [parked.1] at available
  · obtain ⟨available, success, ts, stamped, fresh, -⟩ := live
    rcases silent data shown with ⟨gone, -⟩ | ⟨-, failed | stale⟩
    · simp [available] at gone
    · simp [success] at failed
    · exact absurd (stale ts stamped) (not_lt.mpr fresh)

theorem request_served {now : ℚ} {zone : HubZone} {r : HubRequest}
    (asked : zone.request now = some r) : r.controlsBoiler = zone.controlsBoiler := by
  obtain ⟨-, data, -, ⟨-, served, -, rfl⟩ | ⟨-, -, ts, -, -, rfl⟩⟩ := request_eq_some_iff.mp asked
  · exact served.symm
  · rfl

theorem frost_demands (setup : HubSetup) (t : HouseTick) {zone : HubZone} (member : zone ∈ t.zones)
    (freezing : zone.Freezing t.now) : (t.demand setup).active = true := by
  obtain ⟨r, asked, frost, served⟩ := freezing.request
  have requested : r ∈ (collectRequests t.now t.zones).1 :=
    List.mem_filterMap.mpr ⟨zone, member, asked⟩
  have found : ((collectRequests t.now t.zones).1.find? fun r =>
      r.frostActive && r.controlsBoiler).isSome = true := by
    rw [List.find?_isSome]
    exact ⟨r, requested, by simp [frost, served]⟩
  simp [HouseTick.demand, aggregateBoilerDemand, found]

theorem silence_demands_nothing (setup : HubSetup) (t : HouseTick)
    (count : 1 ≤ setup.countThreshold)
    (power : ∀ threshold, num setup.powerThreshold = some threshold → 0 ≤ threshold)
    (silent : ∀ zone ∈ t.zones, zone.controlsBoiler = true → zone.Silent t.now) :
    (t.demand setup).active = false := by
  have unserved : ∀ r ∈ (collectRequests t.now t.zones).1, r.controlsBoiler = false := by
    intro r requested
    obtain ⟨zone, member, asked⟩ := List.mem_filterMap.mp requested
    by_contra served
    rw [Bool.not_eq_false, request_served asked] at served
    rw [(silent zone member served).request] at asked
    simp at asked
  have nobody : (collectRequests t.now t.zones).1.filter HubRequest.controlsBoiler = [] := by
    rw [List.filter_eq_nil_iff]
    intro r requested
    simp [unserved r requested]
  have frost : ((collectRequests t.now t.zones).1.find? fun r =>
      r.frostActive && r.controlsBoiler) = none := by
    rw [List.find?_eq_none]
    intro r requested
    simp [unserved r requested]
  have apart : (cfgFiniteOpt setup.powerThreshold).any (fun threshold => decide (threshold ≤ 0)) =
      false := by
    unfold cfgFiniteOpt
    cases read : num setup.powerThreshold with
    | none => rfl
    | some threshold =>
      have nonneg := power threshold read
      by_cases zero : threshold = 0
      · simp [zero]
      · simp [Option.filter, zero, lt_of_le_of_ne nonneg (Ne.symm zero)]
  have few : 0 < setup.countThreshold := by omega
  simp only [HouseTick.demand, aggregateBoilerDemand, nobody, frost]
  simpa [few] using apart

/-! ### Clock and stamps -/

/-- The clock of a process starts at zero or later and never goes back. -/
def Clocked : ℚ → List HouseEvent → Prop
  | _, [] => True
  | clock, .tick t :: rest => clock ≤ t.now ∧ Clocked t.now rest
  | _, .restart _ :: rest => Clocked 0 rest

instance decidableClocked :
    (clock : ℚ) → (events : List HouseEvent) → Decidable (Clocked clock events)
  | _, [] => isTrue trivial
  | _, .tick t :: rest =>
    have := decidableClocked t.now rest
    inferInstanceAs (Decidable (_ ∧ _))
  | _, .restart _ :: rest => decidableClocked 0 rest

/-- What the boiler remembers lies behind the clock. -/
structure Behind (clock : ℚ) (boiler : BoilerState) : Prop where
  switch : boiler.lastSwitchMono ≤ clock
  since : ∀ s, boiler.demandTrueSince = some s → s ≤ clock

variable {setup : HubSetup} {cfg : HubConfig} {clock now : ℚ}

theorem dwell_nonneg (cfg : HubConfig) : 0 ≤ max cfg.minOff cfg.minOn := by
  have floor := cfg.minOn_floor
  have positive : (0 : ℚ) ≤ boilerMinDwellFloorS := by norm_num [boilerMinDwellFloorS]
  exact (positive.trans floor).trans (le_max_right _ _)

theorem restoreState_behind {hub : HubCoordinator} (behind : Behind clock hub.boiler)
    (passing : clock ≤ now) (booted : 0 ≤ now) (loaded : Option (Option BoilerPayload))
    (nowWall : ℚ) : Behind now (hub.restoreState loaded now nowWall).boiler := by
  have kept : Behind now hub.boiler :=
    ⟨behind.switch.trans passing, fun s at' => (behind.since s at').trans passing⟩
  have fresh : ∀ on, Behind now { on } := by
    intro on
    refine ⟨?_, by simp⟩
    simp only
    linarith
  unfold HubCoordinator.restoreState
  split
  next => exact kept
  next =>
    cases loaded with
    | none => exact kept
    | some payload =>
      cases payload with
      | none => exact fresh false
      | some payload =>
        cases stamped : payload.lastSwitchWall with
        | none => simpa [restoreBoilerState, stamped] using fresh payload.boilerOn
        | some wall =>
          have elapsed := le_max_left 0 (nowWall - wall)
          simp only [restoreBoilerState, stamped]
          exact ⟨by simp only; linarith, by simp⟩

theorem reconcile_behind {hub : HubCoordinator} (behind : Behind now hub.boiler)
    (realState : Option String) : Behind now (hub.reconcile cfg realState now).boiler := by
  unfold HubCoordinator.reconcile
  split
  next => exact behind
  next =>
    split
    next => exact behind
    next real _ =>
      refine ⟨?_, behind.since⟩
      simp only
      split
      next => exact behind.switch
      next =>
        split
        next => exact le_rfl
        next =>
          have dwell := dwell_nonneg cfg
          linarith

theorem prepared_behind {hub : HubCoordinator} (behind : Behind clock hub.boiler)
    (passing : clock ≤ now) (booted : 0 ≤ now) (env : ActuateEnv) :
    Behind now (hub.prepared cfg now env).boiler :=
  reconcile_behind (restoreState_behind behind passing booted _ _) _

theorem demandSince_behind {since : Option ℚ} (behind : ∀ s, since = some s → s ≤ now)
    (demand : Bool) : ∀ s, demandSince since demand now = some s → s ≤ now := by
  intro s runs
  unfold demandSince at runs
  split at runs
  next =>
    obtain rfl := Option.some.inj runs
    cases since with
    | none => exact le_rfl
    | some s => exact behind s rfl
  next => simp at runs

theorem actuate_behind {hub : HubCoordinator} {env : ActuateEnv}
    (behind : Behind now (hub.prepared cfg now env).boiler) (demand : Bool) :
    Behind now (hub.actuate cfg demand now env).1.boiler := by
  have latched := demandSince_behind behind.since demand
  rcases actuate_cases cfg hub demand now env with ⟨-, -, call, acted, -⟩ | ⟨-, -, acted⟩ |
    ⟨-, -, keep, call, saved, acted, -, -⟩
  · rw [acted]
    exact behind
  · rw [acted]
    exact ⟨le_rfl, latched⟩
  · rw [acted]
    exact ⟨behind.switch, latched⟩

/-! ### The hub along a clocked run -/

def House.hub (house : House) : HubCoordinator := house.boiler.hub

def HouseTick.env (t : HouseTick) (setup : HubSetup) (house : House) : ActuateEnv :=
  (t.hubTick setup).env house.boiler

theorem step_hub (wired : setup.actuation = true) (house : House) (t : HouseTick) :
    (house.step setup (.tick t)).1.hub = (house.hub.actuate setup.toHubConfig
      (t.demand setup).active t.now (t.env setup house)).1 := by
  simp [House.step, House.hub, HouseTick.env, wired, HubSystem.step, HouseTick.hubTick]

structure Booted (clock : ℚ) (house : House) : Prop where
  started : 0 ≤ clock
  behind : Behind clock house.hub.boiler
  restored : house.hub.reconciled = true → house.hub.restored = true

theorem booted_fresh {house : House} (fresh : house.hub = {}) : Booted 0 house := by
  refine ⟨le_rfl, ?_, ?_⟩
  · rw [fresh]
    exact ⟨by norm_num, by simp⟩
  · rw [fresh]
    simp

theorem actuate_restored (hub : HubCoordinator) (demand : Bool) (env : ActuateEnv) :
    (hub.actuate cfg demand now env).1.restored = true := by
  have prepared := prepared_restored cfg hub now env
  rcases actuate_cases cfg hub demand now env with ⟨-, -, call, acted, -⟩ | ⟨-, -, acted⟩ |
    ⟨-, -, keep, call, saved, acted, -, -⟩
  all_goals
    rw [acted]
    exact prepared

theorem booted_tick (wired : setup.actuation = true) {house : House} (booted : Booted clock house)
    {t : HouseTick} (passing : clock ≤ t.now) : Booted t.now (house.step setup (.tick t)).1 := by
  have started := booted.started.trans passing
  refine ⟨started, ?_, fun _ => ?_⟩
  · rw [step_hub wired]
    exact actuate_behind (prepared_behind booted.behind passing started _) _
  · rw [step_hub wired]
    exact actuate_restored _ _ _

theorem booted_run (wired : setup.actuation = true) {house : House} (booted : Booted clock house)
    {events later : List HouseEvent} (clocked : Clocked clock (events ++ later)) :
    ∃ clock', Booted clock' (final (House.step setup) house events) ∧ Clocked clock' later := by
  induction events generalizing house clock with
  | nil => exact ⟨clock, booted, clocked⟩
  | cons event events ih =>
    cases event with
    | tick t => exact ih (booted_tick wired booted clocked.1) clocked.2
    | restart epoch => exact ih (booted_fresh rfl) clocked

/-! ### A demand is answered -/

/-- The state of a tick whose demand began at `start` at the latest. -/
structure Answering (cfg : HubConfig) (start now : ℚ) (boiler : BoilerState) : Prop where
  demanded : ∃ s, boiler.demandTrueSince = some s ∧ s ≤ start
  paused : boiler.on = false →
    boiler.lastSwitchMono ≤ start ∨ boiler.lastSwitchMono + cfg.minOff ≤ now

theorem targetBoilerState_starts {s delay last minOn minOff : ℚ} (waited : delay ≤ now - s)
    (dwelt : minOff ≤ now - last) :
    targetBoilerState true false (some s) now delay last minOn minOff = true := by
  simp [targetBoilerState, gateMinCycle, waited, dwelt]

/-- A tick with demand keeps the demand latched, and from the waiting time on it leaves the boiler
on. -/
theorem actuate_answers {hub : HubCoordinator} {env : ActuateEnv} {start : ℚ}
    (latched : ∃ s, s ≤ start ∧
      demandSince (hub.prepared cfg now env).boiler.demandTrueSince true now = some s)
    (paused : (hub.prepared cfg now env).boiler.on = false →
      (hub.prepared cfg now env).boiler.lastSwitchMono ≤ start ∨
        (hub.prepared cfg now env).boiler.lastSwitchMono + cfg.minOff ≤ now)
    (ok : env.callOk = true) :
    let after := (hub.actuate cfg true now env).1.boiler
    Answering cfg start now after ∧
      (start + max cfg.activationDelay cfg.minOff ≤ now → after.on = true) := by
  intro after
  obtain ⟨s, before, runs⟩ := latched
  rcases actuate_cases cfg hub true now env with ⟨-, failed, -⟩ | ⟨due, -, acted⟩ |
    ⟨still, -, keep, call, saved, acted, -, -⟩
  · rw [ok] at failed
    simp at failed
  · -- only a stopped boiler changes under demand
    obtain ⟨-, demanded, -⟩ := targetBoilerState_flip due
    have started : after.on = true := by
      simp only [after, acted]
      exact demanded.symm
    refine ⟨⟨⟨s, ?_, before⟩, fun stopped => ?_⟩, fun _ => started⟩
    · simp only [after, acted]
      exact runs
    · rw [started] at stopped
      simp at stopped
  · simp only [after, acted]
    refine ⟨⟨⟨s, runs, before⟩, paused⟩, fun waited => ?_⟩
    by_contra stopped
    rw [Bool.not_eq_true] at stopped
    have delay := le_max_left cfg.activationDelay cfg.minOff
    have pause := le_max_right cfg.activationDelay cfg.minOff
    apply still
    unfold HubCoordinator.flipDue
    rw [stopped, runs, targetBoilerState_starts (by linarith)]
    · simp
    · rcases paused stopped with early | elapsed <;> linarith

theorem reconcile_answering {hub : HubCoordinator} {start : ℚ}
    (answering : Answering cfg start clock hub.boiler) (passing : clock ≤ now)
    (realState : Option String) :
    Answering cfg start now (hub.reconcile cfg realState now).boiler := by
  have kept : hub.boiler.on = false →
      hub.boiler.lastSwitchMono ≤ start ∨ hub.boiler.lastSwitchMono + cfg.minOff ≤ now := by
    intro stopped
    rcases answering.paused stopped with early | elapsed
    · exact Or.inl early
    · exact Or.inr (elapsed.trans passing)
  unfold HubCoordinator.reconcile
  split
  next => exact ⟨answering.demanded, kept⟩
  next =>
    split
    next => exact ⟨answering.demanded, kept⟩
    next real _ =>
      refine ⟨answering.demanded, fun stopped => ?_⟩
      simp only at stopped ⊢
      subst stopped
      split
      next same => exact kept same.symm
      next =>
        -- a boiler found stopped may start at once
        have pause := le_max_left cfg.minOff cfg.minOn
        simp only [Bool.false_eq_true, if_false]
        exact Or.inr (by linarith)

theorem prepared_of_restored {hub : HubCoordinator} (restored : hub.restored = true)
    (env : ActuateEnv) : hub.prepared cfg now env = hub.reconcile cfg env.realState now := by
  simp [HubCoordinator.prepared, HubCoordinator.restoreState, restored]

/-- The tick that first shows the demand. -/
theorem first_answers (wired : setup.actuation = true) {house : House} (booted : Booted clock house)
    {t : HouseTick} (passing : clock ≤ t.now) (demanded : (t.demand setup).active = true)
    (ok : t.callOk = true) :
    Answering setup.toHubConfig t.now t.now (house.step setup (.tick t)).1.hub.boiler := by
  have behind : Behind t.now
      (house.hub.prepared setup.toHubConfig t.now (t.env setup house)).boiler :=
    prepared_behind booted.behind passing (booted.started.trans passing) _
  rw [step_hub wired, demanded]
  refine (actuate_answers ?_ (fun _ => Or.inl behind.switch) ok).1
  have latched := demandSince_behind behind.since true
  unfold demandSince at latched ⊢
  exact ⟨_, latched _ rfl, rfl⟩

theorem next_answers (wired : setup.actuation = true) {house : House} {start : ℚ}
    (restored : house.hub.restored = true)
    (answering : Answering setup.toHubConfig start clock house.hub.boiler) {t : HouseTick}
    (passing : clock ≤ t.now) (demanded : (t.demand setup).active = true) (ok : t.callOk = true) :
    Answering setup.toHubConfig start t.now (house.step setup (.tick t)).1.hub.boiler ∧
      (start + max setup.activationDelay setup.minOff ≤ t.now →
        (house.step setup (.tick t)).1.hub.boiler.on = true) := by
  have prepared := reconcile_answering answering passing t.realState
  have shown : (t.env setup house).realState = t.realState := rfl
  rw [step_hub wired, demanded]
  apply actuate_answers
  · rw [prepared_of_restored restored, shown]
    obtain ⟨s, runs, before⟩ := prepared.demanded
    exact ⟨s, before, by simp [demandSince, runs]⟩
  · rw [prepared_of_restored restored, shown]
    exact prepared.paused
  · exact ok

theorem answers_run (wired : setup.actuation = true) {house : House} {start : ℚ}
    (restored : house.hub.restored = true)
    (answering : Answering setup.toHubConfig start clock house.hub.boiler)
    {between : List HouseTick} {later : List HouseEvent}
    (clocked : Clocked clock (between.map .tick ++ later))
    (demanded : ∀ t ∈ between, (t.demand setup).active = true)
    (ok : ∀ t ∈ between, t.callOk = true) :
    ∃ clock', (final (House.step setup) house (between.map .tick)).hub.restored = true ∧
      Answering setup.toHubConfig start clock'
        (final (House.step setup) house (between.map .tick)).hub.boiler ∧ Clocked clock' later := by
  induction between generalizing house clock with
  | nil => exact ⟨clock, restored, answering, clocked⟩
  | cons t between ih =>
    have next := next_answers wired restored answering clocked.1 (demanded t (by simp))
      (ok t (by simp))
    refine ih ?_ next.1 clocked.2 (fun u member => demanded u (by simp [member]))
      (fun u member => ok u (by simp [member]))
    rw [step_hub wired]
    exact actuate_restored _ _ _

/-- Frost is answered: whatever happened before, restarts included, a zone that shows frost at every
tick of a stretch has the boiler on when the larger of activation delay and minimum pause is over,
however the thresholds are set. -/
theorem frost_zone_fires_boiler (setup : HubSetup) (epoch : ℚ) (events : List HouseEvent)
    (first last : HouseTick) (between : List HouseTick) (wired : setup.actuation = true)
    (clocked : Clocked 0 (events ++ (first :: between ++ [last]).map .tick))
    (freezing : ∀ t ∈ first :: between ++ [last], ∃ zone ∈ t.zones, zone.Freezing t.now)
    (ok : ∀ t ∈ first :: between ++ [last], t.callOk = true)
    (waited : first.now + max setup.activationDelay setup.minOff ≤ last.now) :
    (final (House.step setup) { boiler := { epoch } }
      (events ++ (first :: between ++ [last]).map .tick)).hub.boiler.on = true := by
  have demanded : ∀ t ∈ first :: between ++ [last], (t.demand setup).active = true := by
    intro t member
    obtain ⟨zone, here, frost⟩ := freezing t member
    exact frost_demands setup t here frost
  have start : Booted 0 { boiler := { epoch } } := booted_fresh rfl
  obtain ⟨clock, booted, stretch⟩ := booted_run wired start clocked
  rw [final_append]
  set house := final (House.step setup) { boiler := { epoch } } events
  have started := first_answers wired booted stretch.1 (demanded first (by simp))
    (ok first (by simp))
  have restored : (house.step setup (.tick first)).1.hub.restored = true := by
    rw [step_hub wired]
    exact actuate_restored _ _ _
  have rest : Clocked first.now (between.map .tick ++ [.tick last]) := by simpa using stretch.2
  obtain ⟨clock', restored', answering, now⟩ := answers_run wired restored started rest
    (fun t member => demanded t (by simp [member])) (fun t member => ok t (by simp [member]))
  simp only [List.cons_append, List.map_cons, List.map_append, List.map_nil, final, final_append]
  exact (next_answers wired restored' answering now.1 (demanded last (by simp))
    (ok last (by simp))).2 waited

/-- Two zones would have to call, and only one cold room is there. -/
def coldHouse : HubSetup where
  toHubConfig := .ofEntry 120 60 300 300
  countThreshold := 2
  powerThreshold := none
  actuation := true
  maxFlow := 55
  flowHysteresis := 2
  defaultSource := "radiator"

def coldZone (now : ℚ) : HubZone where
  entryId := "cellar"
  data := some {
    available := true
    unavailableSafe := false
    sensorFrozen := true
    heating := false
    bindingLowerCause := none
    tpiDuty := none
    currentTemperature := some (.finite 5)
    heatSp := none
    monoTs := some now }
  controlsBoiler := true

def coldTick (now : ℚ) : HouseTick := { now, zones := [coldZone now] }

theorem coldTick_freezing (now : ℚ) : ∃ zone ∈ (coldTick now).zones, zone.Freezing now := by
  refine ⟨coldZone now, by simp [coldTick], rfl, rfl, _, rfl, Or.inr ⟨rfl, rfl, ⟨now, rfl, ?_⟩, 5,
    rfl, ?_, ?_⟩⟩
  · simp [hubZoneStaleAfterS]
  · norm_num [frostPlausibleMinC]
  · norm_num [frostFloorC, frostMarginC]

theorem cold_house_fires : (final (House.step coldHouse) { boiler := { epoch := 0 } }
    ([.restart 1000] ++ (coldTick 10 :: [coldTick 70] ++ [coldTick 310]).map .tick)).hub.boiler.on =
      true := by
  apply frost_zone_fires_boiler coldHouse 0 [.restart 1000] (coldTick 10) (coldTick 310)
    [coldTick 70] rfl (by decide +kernel) ?_ (by decide +kernel) (by decide +kernel)
  simp only [List.cons_append, List.nil_append, List.forall_mem_cons]
  exact ⟨coldTick_freezing 10, coldTick_freezing 70, coldTick_freezing 310, by simp⟩

/-! ### Silence is answered -/

/-- The state of a tick without demand since `start`. -/
structure Resting (start : ℚ) (hub : HubCoordinator) : Prop where
  restored : hub.restored = true
  reconciled : hub.reconciled = true
  running : hub.boiler.on = true → hub.boiler.lastSwitchMono ≤ start

theorem prepared_of_reconciled {hub : HubCoordinator} (restored : hub.restored = true)
    (reconciled : hub.reconciled = true) (env : ActuateEnv) : hub.prepared cfg now env = hub := by
  simp [prepared_of_restored restored, HubCoordinator.reconcile, reconciled]

theorem actuate_rests {hub : HubCoordinator} {env : ActuateEnv} {start : ℚ}
    (resting : Resting start hub) (ok : env.callOk = true) :
    let after := (hub.actuate cfg false now env).1
    Resting start after ∧ (start + cfg.minOn ≤ now → after.boiler.on = false) := by
  intro after
  have outcomes := actuate_cases cfg hub false now env
  rw [prepared_of_reconciled resting.restored resting.reconciled] at outcomes
  rcases outcomes with ⟨-, failed, -⟩ | ⟨due, -, acted⟩ | ⟨still, -, keep, call, saved, acted, -, -⟩
  · rw [ok] at failed
    simp at failed
  · obtain ⟨running, -⟩ := targetBoilerState_off.mp due
    simp only [after, acted]
    exact ⟨⟨resting.restored, resting.reconciled, by simp [running]⟩, by simp [running]⟩
  · simp only [after, acted]
    refine ⟨⟨resting.restored, resting.reconciled, resting.running⟩, fun served => ?_⟩
    by_contra running
    rw [Bool.not_eq_false] at running
    have early := resting.running running
    exact still (targetBoilerState_off.mpr ⟨running, by linarith⟩)

theorem rests_tick (wired : setup.actuation = true) {house : House} {start : ℚ}
    (resting : Resting start house.hub) {t : HouseTick} (silent : (t.demand setup).active = false)
    (ok : t.callOk = true) :
    Resting start (house.step setup (.tick t)).1.hub ∧
      (start + setup.minOn ≤ t.now → (house.step setup (.tick t)).1.hub.boiler.on = false) := by
  rw [step_hub wired, silent]
  exact actuate_rests resting ok

theorem rests_run (wired : setup.actuation = true) {house : House} {start : ℚ}
    (resting : Resting start house.hub) {ticks : List HouseTick}
    (silent : ∀ t ∈ ticks, (t.demand setup).active = false) (ok : ∀ t ∈ ticks, t.callOk = true) :
    Resting start (final (House.step setup) house (ticks.map .tick)).hub := by
  induction ticks generalizing house with
  | nil => exact resting
  | cons t ticks ih =>
    exact ih (rests_tick wired resting (silent t (by simp)) (ok t (by simp))).1
      (fun u member => silent u (by simp [member])) (fun u member => ok u (by simp [member]))

/-- No boiler for a silent house: once the real boiler was read, a stretch of ticks in which every
zone the boiler serves is silent has it off when the minimum run is over. -/
theorem silent_zones_stop_boiler (setup : HubSetup) (epoch : ℚ) (events : List HouseEvent)
    (ticks : List HouseTick) (first last : HouseTick) (wired : setup.actuation = true)
    (count : 1 ≤ setup.countThreshold)
    (power : ∀ threshold, num setup.powerThreshold = some threshold → 0 ≤ threshold)
    (clocked : Clocked 0 (events ++ (first :: ticks ++ [last]).map .tick))
    (read : (final (House.step setup) { boiler := { epoch } } events).hub.reconciled = true)
    (silent : ∀ t ∈ first :: ticks ++ [last], ∀ zone ∈ t.zones, zone.controlsBoiler = true →
      zone.Silent t.now)
    (ok : ∀ t ∈ first :: ticks ++ [last], t.callOk = true)
    (served : first.now + setup.minOn ≤ last.now) :
    (final (House.step setup) { boiler := { epoch } }
      (events ++ (first :: ticks ++ [last]).map .tick)).hub.boiler.on = false := by
  have nothing : ∀ t ∈ first :: ticks ++ [last], (t.demand setup).active = false :=
    fun t member => silence_demands_nothing setup t count power (silent t member)
  have start : Booted 0 { boiler := { epoch } } := booted_fresh rfl
  obtain ⟨clock, booted, stretch⟩ := booted_run wired start clocked
  rw [final_append]
  set house := final (House.step setup) { boiler := { epoch } } events
  have resting : Resting first.now house.hub := ⟨booted.restored read, read,
    fun _ => booted.behind.switch.trans stretch.1⟩
  have rested := rests_run wired resting (fun t member => nothing t (List.mem_append_left _ member))
    (fun t member => ok t (List.mem_append_left _ member))
  rw [List.map_append, final_append]
  exact (rests_tick wired rested (nothing last (by simp)) (ok last (by simp))).2 served

def silentTick (now : ℚ) : HouseTick := { now, zones := [coldZone 0] }

theorem silentTick_silent {now : ℚ} (late : hubZoneStaleAfterS < now) :
    ∀ zone ∈ (silentTick now).zones, zone.controlsBoiler = true → zone.Silent now := by
  intro zone member _ data shown
  obtain rfl : zone = coldZone 0 := by simpa [silentTick] using member
  obtain rfl := Option.some.inj shown
  refine Or.inr ⟨rfl, Or.inr fun ts stamped => ?_⟩
  obtain rfl := Option.some.inj stamped
  simpa using late

/-- The cellar fired the boiler and its coordinator hung. -/
theorem silent_cellar_stops : (final (House.step coldHouse) { boiler := { epoch := 0 } }
    (([coldTick 0, { coldTick 300 with realState := some "on" }].map .tick) ++
      (silentTick 360 :: [] ++ [silentTick 700]).map .tick)).hub.boiler.on = false := by
  apply silent_zones_stop_boiler coldHouse 0 _ [] (silentTick 360) (silentTick 700) rfl
    (by decide +kernel) (by simp [coldHouse, num]) (by decide +kernel) (by decide +kernel) ?_
    (by decide +kernel) (by decide +kernel)
  simp only [List.cons_append, List.nil_append, List.forall_mem_cons]
  exact ⟨silentTick_silent (by norm_num [hubZoneStaleAfterS]),
    silentTick_silent (by norm_num [hubZoneStaleAfterS]), by simp⟩

end Poise
