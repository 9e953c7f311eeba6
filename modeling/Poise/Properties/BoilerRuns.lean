import Poise.Hub.Boiler
import Mathlib.Tactic.Linarith
import Mathlib.Tactic.NormNum

/-!
# Runs of the hub boiler

What one tick can do is said once, by `stepBoiler_cases` and `actuate_cases`.
From it follow two laws of whole runs: the minimum run and pause, which survive
restarts through the stored wall clock stamp, and the activation delay, which
holds exactly as long as no failing call swallows the reset of the demand timer.
-/
namespace Poise

open Trace

variable {cfg : HubConfig}

/-! ### One step -/

theorem gateMinCycle_flip {desired on : Bool} {last now minOn minOff : ℚ}
    (flips : gateMinCycle desired on last now minOn minOff ≠ on) :
    desired = !on ∧ (if on then minOn else minOff) ≤ now - last := by
  unfold gateMinCycle at flips
  cases desired <;> cases on <;> simp_all

theorem targetBoilerState_flip {demand on : Bool} {since : Option ℚ}
    {now delay last minOn minOff : ℚ}
    (flips : targetBoilerState demand on since now delay last minOn minOff ≠ on) :
    (if on then minOn else minOff) ≤ now - last ∧ demand = !on ∧
      (on = false → ∃ s, since = some s ∧ delay ≤ now - s) := by
  obtain ⟨wanted, dwelt⟩ := gateMinCycle_flip flips
  refine ⟨dwelt, ?_, ?_⟩
  · cases on <;> simp_all
  · rintro rfl
    simp only [Bool.false_eq_true, if_false, Bool.not_false, Bool.and_eq_true] at wanted
    cases since with
    | none => simp at wanted
    | some s => exact ⟨s, rfl, by simpa using wanted.2⟩

theorem targetBoilerState_off {on : Bool} {since : Option ℚ} {now delay last minOn minOff : ℚ} :
    targetBoilerState false on since now delay last minOn minOff ≠ on ↔
      on = true ∧ minOn ≤ now - last := by
  cases on <;> simp [targetBoilerState, gateMinCycle]

theorem stepBoiler_cases (state : BoilerState) (demand : Bool)
    (now delay minOn minOff keepalive : ℚ) (allow : Bool) :
    let since := demandSince state.demandTrueSince demand now
    let flips := targetBoilerState demand state.on since now delay state.lastSwitchMono minOn minOff
      ≠ state.on
    let result := stepBoiler state demand now delay minOn minOff keepalive allow
    (flips ∧ result = ⟨⟨!state.on, now, since, now⟩, some (.to !state.on)⟩) ∨
    (¬ flips ∧ keepaliveDue state now keepalive allow ∧
      result = ⟨{ state with demandTrueSince := since, lastKeepaliveMono := now },
        some (.to state.on)⟩) ∨
    (¬ flips ∧ ¬ keepaliveDue state now keepalive allow ∧
      result = ⟨{ state with demandTrueSince := since }, none⟩) := by
  intro since flips result
  by_cases flip : flips
  · have target : targetBoilerState demand state.on since now delay state.lastSwitchMono minOn
        minOff = !state.on := Bool.eq_not.mpr flip
    refine Or.inl ⟨flip, ?_⟩
    simp only [result, stepBoiler]
    rw [if_pos flip, target]
  · by_cases due : keepaliveDue state now keepalive allow
    · refine Or.inr (Or.inl ⟨flip, due, ?_⟩)
      simp only [result, stepBoiler]
      rw [if_neg flip, if_pos due]
    · refine Or.inr (Or.inr ⟨flip, due, ?_⟩)
      simp only [result, stepBoiler]
      rw [if_neg flip, if_neg due]

def HubCoordinator.flipDue (cfg : HubConfig) (hub : HubCoordinator) (demand : Bool) (now : ℚ) :
    Prop :=
  targetBoilerState demand hub.boiler.on (demandSince hub.boiler.demandTrueSince demand now) now
    cfg.activationDelay hub.boiler.lastSwitchMono cfg.minOn cfg.minOff ≠ hub.boiler.on

def HubCoordinator.callDue (cfg : HubConfig) (hub : HubCoordinator) (demand : Bool) (now : ℚ) :
    Prop :=
  -- The prepared hub is about to call the boiler, for a change or as a keep-alive.
  hub.flipDue cfg demand now ∨ keepaliveDue hub.boiler now cfg.keepalive hub.reconciled

@[simp] theorem BoilerCall.to_inj {a b : Bool} : BoilerCall.to a = BoilerCall.to b ↔ a = b := by
  cases a <;> cases b <;> decide

/-- Everything one tick can do: a failed call leaves the prepared hub, a change
commits with a fresh stamp, any other tick keeps the state and its stamp. -/
theorem actuate_cases (cfg : HubConfig) (hub : HubCoordinator) (demand : Bool) (now : ℚ)
    (env : ActuateEnv) :
    let before := hub.prepared cfg now env
    let on := before.boiler.on
    let since := demandSince before.boiler.demandTrueSince demand now
    (before.callDue cfg demand now ∧ env.callOk = false ∧ ∃ call,
      hub.actuate cfg demand now env = (before, ⟨on, some call, false, none⟩) ∧
        (call = .to (!on) → before.flipDue cfg demand now)) ∨
    (before.flipDue cfg demand now ∧ env.callOk = true ∧
      hub.actuate cfg demand now env =
        ({ before with boiler := ⟨!on, now, since, now⟩, hasActuated := true },
          ⟨on, some (.to !on), true, some ⟨!on, some env.persistWall, true⟩⟩)) ∨
    (¬ before.flipDue cfg demand now ∧ (before.callDue cfg demand now → env.callOk = true) ∧
      ∃ keep call saved, hub.actuate cfg demand now env =
        ({ before with
            boiler := { before.boiler with demandTrueSince := since, lastKeepaliveMono := keep }
            hasActuated := before.hasActuated || call.isSome },
          ⟨on, call, true, saved⟩) ∧
        (∀ c ∈ call, c = .to on) ∧
        ∀ p ∈ saved, before.hasActuated = false ∧
          p = boilerStateToPayload before.boiler now env.persistWall true) := by
  intro before on since
  have unfolded := stepBoiler_cases before.boiler demand now cfg.activationDelay cfg.minOn
    cfg.minOff cfg.keepalive before.reconciled
  simp only at unfolded
  have actuated : hub.actuate cfg demand now env = before.dispatch (stepBoiler before.boiler demand
    now cfg.activationDelay cfg.minOn cfg.minOff cfg.keepalive before.reconciled) now env := rfl
  rw [actuated]
  rcases unfolded with ⟨flip, step⟩ | ⟨still, due, step⟩ | ⟨still, quiet, step⟩
  · rw [step]
    cases ok : env.callOk with
    | false =>
      refine Or.inl ⟨Or.inl flip, rfl, .to !on, ?_, fun _ => flip⟩
      simp [HubCoordinator.dispatch, ok, on]
    | true =>
      refine Or.inr (Or.inl ⟨flip, rfl, ?_⟩)
      simp [HubCoordinator.dispatch, ok, on, since, boilerStateToPayload]
  · rw [step]
    cases ok : env.callOk with
    | false =>
      refine Or.inl ⟨Or.inr due, rfl, .to on, ?_, by simp⟩
      simp [HubCoordinator.dispatch, ok, on]
    | true =>
      refine Or.inr (Or.inr ⟨still, fun _ => rfl, now, some (.to on), if before.hasActuated = false
        then some (boilerStateToPayload before.boiler now env.persistWall true) else none,
        ?_, by simp, ?_⟩)
      · simp [HubCoordinator.dispatch, ok, on, since, boilerStateToPayload]
      · intro p stored
        split at stored
        next fresh => exact ⟨fresh, (Option.some.inj stored).symm⟩
        next => simp at stored
  · rw [step]
    refine Or.inr (Or.inr ⟨still, fun called => absurd called (not_or.mpr ⟨still, quiet⟩),
      before.boiler.lastKeepaliveMono, none, none, ?_, by simp, by simp⟩)
    simp [HubCoordinator.dispatch, on, since]

/-! ### Minimum run and pause -/

abbrev HubRun := List (Trace.Step HubSystem HubEvent (Option HubReport))

-- The tick reports of a run; restarts leave none.
def reports (past : HubRun) : List HubReport := past.filterMap Trace.Step.output

def FlippedAt (rs : List HubReport) (on : Bool) (w : ℚ) : Prop :=
  ∃ r ∈ rs, r.flip = some on ∧ r.wall = w

def LastFlipSaved (rs : List HubReport) : Prop :=
  ∀ r ∈ (rs.filter fun r => r.flip.isSome).getLast?, r.stored = true

instance (rs : List HubReport) : Decidable (LastFlipSaved rs) :=
  match h : (rs.filter fun r => r.flip.isSome).getLast? with
  | none => isTrue (by simp [LastFlipSaved, h])
  | some r => decidable_of_iff (r.stored = true) (by simp [LastFlipSaved, h])

/-- The stamp is late enough for the min-cycle gate to keep the dwells. -/
structure Dwells (cfg : HubConfig) (rs : List HubReport) (clock : ℚ) (on : Bool) (stamp : ℚ) :
    Prop where
  whenOn : on = true → ∀ w, FlippedAt rs true w → w ≤ stamp
  whenOff : on = false → ∀ w, FlippedAt rs false w → w ≤ stamp ∨ w + cfg.minOff ≤ clock

/-- A believed running boiler has served its pause: if reconciliation finds it
stopped, it may start again at once. -/
def Paused (cfg : HubConfig) (rs : List HubReport) (clock : ℚ) (on : Bool) : Prop :=
  on = true → ∀ w, FlippedAt rs false w → w + cfg.minOff ≤ clock

structure HubSound (cfg : HubConfig) (rs : List HubReport) (clock epoch : ℚ)
    (hub : HubCoordinator) : Prop where
  dwells : Dwells cfg rs clock hub.boiler.on (epoch + hub.boiler.lastSwitchMono)
  paused : hub.reconciled = false → Paused cfg rs clock hub.boiler.on
  fresh : hub.hasActuated = false → ∀ on w, ¬ FlippedAt rs on w

def DiskSound (cfg : HubConfig) (rs : List HubReport) (clock : ℚ) : Option BoilerPayload → Prop
  -- The stored payload carries the dwell of the changes made so far.
  | none => ∀ on w, ¬ FlippedAt rs on w
  | some p => ∃ stamp, p.lastSwitchWall = some stamp ∧ p.hasActuated = true ∧
      Dwells cfg rs clock p.boilerOn stamp ∧ Paused cfg rs clock p.boilerOn

theorem restoreState_sound {rs : List HubReport} {clock epoch now : ℚ} {disk : Option BoilerPayload}
    {loaded : Option (Option BoilerPayload)} (wall : clock = epoch + now)
    (passed : ∀ on w, FlippedAt rs on w → w ≤ clock) (sound : DiskSound cfg rs clock disk)
    (read : loaded = some disk ∨ disk = none) :
    HubSound cfg rs clock epoch (HubCoordinator.restoreState {} loaded now clock) := by
  cases disk with
  | none =>
    have blank : ∀ hub : HubCoordinator, HubSound cfg rs clock epoch hub := fun hub =>
      ⟨⟨fun _ w at' => absurd at' (sound _ w), fun _ w at' => absurd at' (sound _ w)⟩,
        fun _ _ w at' => absurd at' (sound _ w), fun _ => sound⟩
    exact blank _
  | some p =>
    have loadedDisk : loaded = some (some p) := by simpa using read
    obtain ⟨stamp, stamped, actuated, dwells, paused⟩ := sound
    -- the restored switch instant lies no later than the stamp, and no later than now
    have rebuilt : epoch + (now - max 0 (clock - stamp)) = min clock stamp := by
      rw [max_def, min_def]
      split <;> split <;> linarith
    subst loadedDisk
    simp only [HubCoordinator.restoreState, restoreBoilerState, stamped]
    refine ⟨⟨?_, ?_⟩, fun _ => paused, by simp [actuated]⟩
    · intro running w at'
      simp only [Bool.false_eq_true, if_false] at running ⊢
      rw [rebuilt]
      exact le_min (passed _ w at') (dwells.whenOn running w at')
    · intro stopped w at'
      simp only [Bool.false_eq_true, if_false] at stopped ⊢
      rw [rebuilt]
      cases dwells.whenOff stopped w at' with
      | inl held => exact Or.inl (le_min (passed _ w at') held)
      | inr elapsed => exact Or.inr elapsed

theorem reconcile_sound {rs : List HubReport} {clock epoch now : ℚ} {hub : HubCoordinator}
    (realState : Option String) (wall : clock = epoch + now)
    (passed : ∀ on w, FlippedAt rs on w → w ≤ clock) (sound : HubSound cfg rs clock epoch hub) :
    HubSound cfg rs clock epoch (hub.reconcile cfg realState now) := by
  -- a reading that agrees keeps the stamp; one that differs restarts the dwell at this tick
  unfold HubCoordinator.reconcile
  split
  next => exact sound
  next unreconciled =>
  split
  next => exact sound
  next real _ =>
  refine ⟨⟨?_, ?_⟩, by simp, sound.fresh⟩
  · intro running w at'
    simp only at running ⊢
    subst running
    split
    next same => exact sound.dwells.whenOn same.symm w at'
    next => simpa [wall] using passed _ w at'
  · intro stopped w at'
    simp only at stopped ⊢
    subst stopped
    split
    next same => exact sound.dwells.whenOff same.symm w at'
    next other =>
      have running : hub.boiler.on = true := by simpa using other
      exact Or.inr (sound.paused (by simpa using unreconciled) running w at')

theorem prepared_sound {rs : List HubReport} {clock epoch now : ℚ} {hub : HubCoordinator}
    (disk : Option BoilerPayload) {env : ActuateEnv} (wall : clock = epoch + now)
    (passed : ∀ on w, FlippedAt rs on w → w ≤ clock) (shown : env.nowWall = clock)
    (running : hub.restored = true → HubSound cfg rs clock epoch hub)
    (started : hub.restored = false → hub = {} ∧ DiskSound cfg rs clock disk ∧
      (env.loaded = some disk ∨ disk = none)) :
    HubSound cfg rs clock epoch (hub.prepared cfg now env) := by
  apply reconcile_sound env.realState wall passed
  cases restored : hub.restored with
  | true =>
    simpa only [HubCoordinator.restoreState, restored, if_true] using running restored
  | false =>
    obtain ⟨rfl, sound, read⟩ := started restored
    rw [shown]
    exact restoreState_sound wall passed sound read

theorem flippedAt_append {rs : List HubReport} {r : HubReport} {on : Bool} {w : ℚ} :
    FlippedAt (rs ++ [r]) on w ↔ FlippedAt rs on w ∨ (r.flip = some on ∧ r.wall = w) := by
  simp only [FlippedAt, List.mem_append, List.mem_singleton]
  constructor
  · rintro ⟨q, old | rfl, flipped⟩
    · exact Or.inl ⟨q, old, flipped⟩
    · exact Or.inr flipped
  · rintro (⟨q, old, flipped⟩ | flipped)
    · exact ⟨q, Or.inl old, flipped⟩
    · exact ⟨r, Or.inr rfl, flipped⟩

theorem lastFlipSaved_still {rs : List HubReport} {r : HubReport} (still : r.flip = none) :
    LastFlipSaved (rs ++ [r]) ↔ LastFlipSaved rs := by
  simp [LastFlipSaved, List.filter_append, still]

theorem lastFlipSaved_flip {rs : List HubReport} {r : HubReport} {on : Bool}
    (flips : r.flip = some on) : LastFlipSaved (rs ++ [r]) ↔ r.stored = true := by
  simp [LastFlipSaved, List.filter_append, flips]

variable {rs : List HubReport} {r : HubReport} {clock later epoch : ℚ}

theorem Dwells.still {on : Bool} {stamp : ℚ} (dwells : Dwells cfg rs clock on stamp)
    (still : r.flip = none) (passing : clock ≤ later) : Dwells cfg (rs ++ [r]) later on stamp := by
  constructor
  · intro running w at'
    rw [flippedAt_append, still] at at'
    exact dwells.whenOn running w (by simpa using at')
  · intro stopped w at'
    rw [flippedAt_append, still] at at'
    cases dwells.whenOff stopped w (by simpa using at') with
    | inl held => exact Or.inl held
    | inr elapsed => exact Or.inr (elapsed.trans passing)

theorem Paused.still {on : Bool} (paused : Paused cfg rs clock on) (still : r.flip = none)
    (passing : clock ≤ later) : Paused cfg (rs ++ [r]) later on := by
  intro running w at'
  rw [flippedAt_append, still] at at'
  exact (paused running w (by simpa using at')).trans passing

theorem HubSound.still {hub : HubCoordinator} (sound : HubSound cfg rs clock epoch hub)
    (still : r.flip = none) (passing : clock ≤ later) :
    HubSound cfg (rs ++ [r]) later epoch hub := by
  refine ⟨sound.dwells.still still passing,
    fun unreconciled => (sound.paused unreconciled).still still passing, fun fresh on w => ?_⟩
  rw [flippedAt_append, still]
  simpa using sound.fresh fresh on w

theorem DiskSound.still {disk : Option BoilerPayload} (sound : DiskSound cfg rs clock disk)
    (still : r.flip = none) (passing : clock ≤ later) : DiskSound cfg (rs ++ [r]) later disk := by
  cases disk with
  | none =>
    intro on w
    rw [flippedAt_append, still]
    simpa using sound on w
  | some p =>
    obtain ⟨stamp, stamped, actuated, dwells, paused⟩ := sound
    exact ⟨stamp, stamped, actuated, dwells.still still passing, paused.still still passing⟩

/-- A change obeys its dwell, measured from every earlier change the other way. -/
def DwellKept (cfg : HubConfig) (rs : List HubReport) (r : HubReport) : Prop :=
  (r.flip = some false → ∀ w, FlippedAt rs true w → w + cfg.minOn ≤ r.wall) ∧
    (r.flip = some true → ∀ w, FlippedAt rs false w → w + cfg.minOff ≤ r.wall)

theorem HubSound.flip_dwells {hub : HubCoordinator} {demand : Bool} {now : ℚ}
    (sound : HubSound cfg rs clock epoch hub) (wall : clock = epoch + now)
    (due : hub.flipDue cfg demand now) :
    (hub.boiler.on = true → ∀ w, FlippedAt rs true w → w + cfg.minOn ≤ clock) ∧
      (hub.boiler.on = false → ∀ w, FlippedAt rs false w → w + cfg.minOff ≤ clock) := by
  obtain ⟨dwelt, _, _⟩ := targetBoilerState_flip due
  constructor
  · intro running w at'
    have held := sound.dwells.whenOn running w at'
    rw [running, if_pos rfl] at dwelt
    linarith
  · intro stopped w at'
    rw [stopped] at dwelt
    simp only [Bool.false_eq_true, if_false] at dwelt
    cases sound.dwells.whenOff stopped w at' with
    | inl held => linarith
    | inr elapsed => exact elapsed

theorem dwells_after_flip {on : Bool} {stamp : ℚ}
    (passed : ∀ on w, FlippedAt rs on w → w ≤ clock) (wall : r.wall = clock)
    (stamped : clock ≤ stamp) : Dwells cfg (rs ++ [r]) later on stamp := by
  have all : ∀ on w, FlippedAt (rs ++ [r]) on w → w ≤ clock := by
    intro on w at'
    rw [flippedAt_append] at at'
    cases at' with
    | inl old => exact passed on w old
    | inr new => exact (wall ▸ new.2).ge
  exact ⟨fun _ w at' => (all _ w at').trans stamped,
    fun _ w at' => Or.inl ((all _ w at').trans stamped)⟩

theorem paused_after_flip {on : Bool} (flips : r.flip = some on) (wall : r.wall = clock)
    (kept : DwellKept cfg rs r) (passing : clock ≤ later) : Paused cfg (rs ++ [r]) later on := by
  intro running w at'
  rw [flippedAt_append, flips, running] at at'
  have served := kept.2 (running ▸ flips) w (by simpa using at')
  linarith

def Passed (rs : List HubReport) (clock : ℚ) : Prop := ∀ r ∈ rs, r.wall ≤ clock

instance (rs : List HubReport) (clock : ℚ) : Decidable (Passed rs clock) :=
  inferInstanceAs (Decidable (∀ r ∈ rs, r.wall ≤ clock))

theorem Passed.flipped (passed : Passed rs clock) (on : Bool) (w : ℚ) (at' : FlippedAt rs on w) :
    w ≤ clock := by
  obtain ⟨r, member, _, rfl⟩ := at'
  exact passed r member

theorem restoreState_restored (hub : HubCoordinator) (loaded : Option (Option BoilerPayload))
    (now nowWall : ℚ) : (hub.restoreState loaded now nowWall).restored = true := by
  unfold HubCoordinator.restoreState
  split
  next restored => exact restored
  next => split <;> rfl

theorem reconcile_restored (cfg : HubConfig) (hub : HubCoordinator) (realState : Option String)
    (now : ℚ) : (hub.reconcile cfg realState now).restored = hub.restored := by
  unfold HubCoordinator.reconcile
  split
  next => rfl
  next => split <;> rfl

theorem prepared_restored (cfg : HubConfig) (hub : HubCoordinator) (now : ℚ) (env : ActuateEnv) :
    (hub.prepared cfg now env).restored = true := by
  rw [HubCoordinator.prepared, reconcile_restored, restoreState_restored]

/-- One tick of a sound hub: its change obeys the dwell, and hub and store are sound after it. -/
theorem tick_sound (sys : HubSystem) (t : HubTick) (wall : clock = sys.epoch + t.now)
    (passed : Passed rs clock) (late : t.now ≤ t.callDone)
    (before : HubSound cfg rs clock sys.epoch (sys.hub.prepared cfg t.now (t.env sys)))
    (disk : LastFlipSaved rs → DiskSound cfg rs clock sys.disk) :
    ∃ r, (sys.step cfg (.tick t)).2 = some r ∧ r.wall = clock ∧ DwellKept cfg rs r ∧
      (sys.step cfg (.tick t)).1.hub.restored = true ∧
      ∀ later, clock ≤ later →
        HubSound cfg (rs ++ [r]) later sys.epoch (sys.step cfg (.tick t)).1.hub ∧
        (LastFlipSaved (rs ++ [r]) →
          DiskSound cfg (rs ++ [r]) later (sys.step cfg (.tick t)).1.disk) := by
  have restored := prepared_restored cfg sys.hub t.now (t.env sys)
  have cases' := actuate_cases cfg sys.hub t.demand t.now (t.env sys)
  simp only at cases'
  set hub := sys.hub.prepared cfg t.now (t.env sys)
  rcases cases' with ⟨_, _, call, acted, _⟩ | ⟨due, _, acted⟩ |
    ⟨_, _, keep, call, saved, acted, same, stored⟩
  · -- the call failed: nothing is committed and nothing stored
    refine ⟨⟨clock, t.demand, ⟨hub.boiler.on, some call, false, none⟩, false⟩, ?_, rfl, ?_, ?_, ?_⟩
    · simp [HubSystem.step, acted, wall]
    · simp [DwellKept, HubReport.flip]
    · simp [HubSystem.step, acted, restored]
    · intro later passing
      have still : HubReport.flip ⟨clock, t.demand, ⟨hub.boiler.on, some call, false, none⟩, false⟩ =
          none := by simp [HubReport.flip]
      simp only [HubSystem.step, acted]
      exact ⟨before.still still passing,
        fun kept => (disk ((lastFlipSaved_still still).mp kept)).still still passing⟩
  · -- a change: both dwells restart from this tick
    set r : HubReport := ⟨clock, t.demand,
      ⟨hub.boiler.on, some (.to !hub.boiler.on), true,
        some ⟨!hub.boiler.on, some (t.env sys).persistWall, true⟩⟩, t.saveOk⟩ with report
    have flips : r.flip = some (!hub.boiler.on) := by simp [report, HubReport.flip]
    have kept : DwellKept cfg rs r := by
      have law := before.flip_dwells wall due
      simp only [DwellKept, flips, Option.some.injEq, Bool.not_eq_false', Bool.not_eq_true']
      exact law
    have persisted : clock ≤ (t.env sys).persistWall := by
      simp only [HubTick.env, wall]
      linarith
    refine ⟨r, by simp [HubSystem.step, acted, report, wall], rfl, kept, ?_, ?_⟩
    · simp [HubSystem.step, acted, restored]
    · intro later passing
      simp only [HubSystem.step, acted]
      refine ⟨⟨dwells_after_flip passed.flipped rfl wall.le,
        fun _ => paused_after_flip flips rfl kept passing, by simp⟩, fun savedFlip => ?_⟩
      have saved : t.saveOk = true := (lastFlipSaved_flip flips).mp savedFlip
      simp only [saved, Option.isSome_some, Bool.and_self, if_true]
      exact ⟨_, rfl, rfl, dwells_after_flip passed.flipped rfl persisted,
        paused_after_flip flips rfl kept passing⟩
  · -- no change: state and stamp stay, and only a first call is stored
    set r : HubReport := ⟨clock, t.demand, ⟨hub.boiler.on, call, true, saved⟩,
      saved.isSome && t.saveOk⟩ with report
    have still : r.flip = none := by
      cases call with
      | none => rfl
      | some c => simp [report, HubReport.flip, same c rfl]
    refine ⟨r, by simp [HubSystem.step, acted, report, wall], rfl, by simp [DwellKept, still], ?_, ?_⟩
    · simp [HubSystem.step, acted, restored]
    · intro later passing
      simp only [HubSystem.step, acted]
      refine ⟨⟨before.dwells.still still passing,
        fun unreconciled => (before.paused unreconciled).still still passing, ?_⟩, fun savedFlip => ?_⟩
      · intro fresh on w
        rw [flippedAt_append, still]
        simpa using before.fresh (by simp_all) on w
      · cases saved with
        | none => simpa using (disk ((lastFlipSaved_still still).mp savedFlip)).still still passing
        | some p =>
          cases ok : t.saveOk with
          | false =>
            simpa [ok] using (disk ((lastFlipSaved_still still).mp savedFlip)).still still passing
          | true =>
            obtain ⟨fresh, rfl⟩ := stored p rfl
            have none' : ∀ on w, ¬ FlippedAt (rs ++ [r]) on w := by
              intro on w
              rw [flippedAt_append, still]
              simpa using before.fresh fresh on w
            simp only [Option.isSome_some, Bool.and_self, if_true]
            exact ⟨_, rfl, rfl, ⟨fun _ w at' => absurd at' (none' _ w),
              fun _ w at' => absurd at' (none' _ w)⟩, fun _ w at' => absurd at' (none' _ w)⟩

structure HubInv (cfg : HubConfig) (past : HubRun) (sys : HubSystem) : Prop where
  running : sys.hub.restored = true → ∀ clock, Passed (reports past) clock →
    HubSound cfg (reports past) clock sys.epoch sys.hub
  started : sys.hub.restored = false → sys.hub = {} ∧ LastFlipSaved (reports past)
  disk : LastFlipSaved (reports past) → ∀ clock, Passed (reports past) clock →
    DiskSound cfg (reports past) clock sys.disk

/-- The clock is monotone, a stored payload is read back, and the process is only
restarted once the last change is stored. -/
def CleanMoment (past : HubRun) (e : Trace.Step HubSystem HubEvent (Option HubReport)) : Prop :=
  match e.input with
  | .restart _ => LastFlipSaved (reports past)
  | .tick t => Passed (reports past) (e.pre.epoch + t.now) ∧ t.now ≤ t.callDone ∧
      (e.pre.hub.restored = false → t.loadOk = true ∨ e.pre.disk = none)

instance (past : HubRun) (e : Trace.Step HubSystem HubEvent (Option HubReport)) :
    Decidable (CleanMoment past e) := by
  unfold CleanMoment
  cases e.input <;> infer_instance

theorem reports_append (past : HubRun) (e : Trace.Step HubSystem HubEvent (Option HubReport)) :
    reports (past ++ [e]) = reports past ++ e.output.toList := by
  cases out : e.output <;> simp [reports, List.filterMap_append, out]

theorem HubInv.prepared {past : HubRun} {sys : HubSystem} {t : HubTick}
    (inv : HubInv cfg past sys) (passed : Passed (reports past) (sys.epoch + t.now))
    (read : sys.hub.restored = false → t.loadOk = true ∨ sys.disk = none) :
    HubSound cfg (reports past) (sys.epoch + t.now) sys.epoch
      (sys.hub.prepared cfg t.now (t.env sys)) := by
  apply prepared_sound sys.disk rfl passed.flipped rfl (fun old => inv.running old _ passed)
  intro fresh
  obtain ⟨blank, saved⟩ := inv.started fresh
  refine ⟨blank, inv.disk saved _ passed, ?_⟩
  cases read fresh with
  | inl ok => exact Or.inl (by simp [HubTick.env, ok])
  | inr empty => exact Or.inr empty

theorem hubInv_step {past : HubRun} {sys : HubSystem} {event : HubEvent} (inv : HubInv cfg past sys)
    (clean : CleanMoment past (Step.of (HubSystem.step cfg) sys event)) :
    HubInv cfg (past ++ [Step.of (HubSystem.step cfg) sys event])
      (sys.step cfg event).1 := by
  cases event with
  | restart epoch =>
    have same :
        reports (past ++ [Step.of (HubSystem.step cfg) sys (.restart epoch)]) = reports past := by
      simp [reports_append, HubSystem.step]
    refine ⟨by simp [HubSystem.step], fun _ => ⟨rfl, same ▸ clean⟩, ?_⟩
    rw [same]
    exact inv.disk
  | tick t =>
    obtain ⟨passed, late, read⟩ := clean
    obtain ⟨r, reported, wall, _, restored, next⟩ :=
      tick_sound sys t rfl passed late (inv.prepared passed read) (fun saved => inv.disk saved _ passed)
    have grown : reports (past ++ [Step.of (HubSystem.step cfg) sys (.tick t)]) =
        reports past ++ [r] := by
      simp [reports_append, reported]
    have after : ∀ later, Passed (reports past ++ [r]) later → sys.epoch + t.now ≤ later := by
      intro later passing
      rw [← wall]
      exact passing r (by simp)
    refine ⟨fun _ later passing => ?_, fun fresh => by simp [restored] at fresh,
      fun saved later passing => ?_⟩
    · rw [grown] at passing ⊢
      exact (next later (after later passing)).1
    · rw [grown] at passing saved ⊢
      exact (next later (after later passing)).2 saved

/-- Minimum run and pause: over clean runs, restarts included, a committed change
comes at least the dwell after every earlier change the other way, whatever the
demand, the failing calls and the readings of the real boiler. -/
theorem boiler_min_cycle (cfg : HubConfig) (epoch : ℚ) (events : List HubEvent)
    (clean : ∀ past e, past ++ [e] <+: trace (HubSystem.step cfg) { epoch } events →
      CleanMoment past e) :
    ∀ past e, past ++ [e] <+: trace (HubSystem.step cfg) { epoch } events →
      ∀ r ∈ e.output, ∀ q ∈ reports past,
        (q.flip = some true → r.flip = some false → q.wall + cfg.minOn ≤ r.wall) ∧
        (q.flip = some false → r.flip = some true → q.wall + cfg.minOff ≤ r.wall) := by
  intro past e moment r reported q earlier
  have start : HubInv cfg [] { epoch } :=
    ⟨by simp, fun _ => ⟨rfl, by simp [LastFlipSaved, reports]⟩,
      fun _ _ _ => by simp [DiskSound, FlippedAt, reports]⟩
  have inv := history_at (HubSystem.step cfg) (HubInv cfg) CleanMoment start
    (fun past sys event => hubInv_step) clean moment
  have own := step_of_mem _ (mem_of_moment _ moment)
  have cleanNow := clean past e moment
  rw [own] at cleanNow reported
  cases input : e.input with
  | restart epoch => simp [HubSystem.step, input] at reported
  | tick t =>
    rw [input] at cleanNow reported
    obtain ⟨passed, late, read⟩ := cleanNow
    obtain ⟨r', reported', wall, kept, _⟩ :=
      tick_sound e.pre t rfl passed late (inv.prepared passed read) (fun saved => inv.disk saved _ passed)
    obtain rfl : r' = r := Option.some.inj (reported'.symm.trans reported)
    exact ⟨fun was off => kept.1 off _ ⟨q, earlier, was, rfl⟩,
      fun was on => kept.2 on _ ⟨q, earlier, was, rfl⟩⟩

/-- Five minutes of dwell across a restart: the stop waits until the wall clock has
moved 350 seconds from the start. -/
theorem boiler_min_cycle_restart :
    let run := trace (HubSystem.step (.ofEntry 0 300 300 300)) { epoch := 0 }
      [.tick { now := 0, demand := true, realState := some "off" }, .restart 100,
        .tick { now := 5, demand := false, realState := some "on" },
        .tick { now := 250, demand := false }]
    (reports run).map HubReport.flip = [some true, none, some false] ∧
      ∀ past e, past ++ [e] <+: run → ∀ r ∈ e.output, ∀ q ∈ reports past,
        (q.flip = some true → r.flip = some false → q.wall + 300 ≤ r.wall) ∧
        (q.flip = some false → r.flip = some true → q.wall + 300 ≤ r.wall) :=
  ⟨by decide +kernel, boiler_min_cycle (.ofEntry 0 300 300 300) 0 _ (by decide +kernel)⟩

/-! ### Activation delay -/

/-- A tick without demand whose due call fails while the demand timer still runs:
the proposed state, and with it the reset of the timer, is dropped. -/
def SwallowsReset (cfg : HubConfig) (e : Trace.Step HubSystem HubEvent (Option HubReport)) :
    Prop :=
  match e.input with
  | .restart _ => False
  | .tick t =>
    let hub := e.pre.hub.prepared cfg t.now (t.env e.pre)
    t.demand = false ∧ t.callOk = false ∧ hub.boiler.demandTrueSince ≠ none ∧
      ((hub.boiler.on = true ∧ cfg.minOn ≤ t.now - hub.boiler.lastSwitchMono) ∨
        keepaliveDue hub.boiler t.now cfg.keepalive hub.reconciled)

/-- An OFF-to-ON command is dispatched only after a full activation delay of demand. -/
def ActivationDelayed (cfg : HubConfig) (past : HubRun)
    (e : Trace.Step HubSystem HubEvent (Option HubReport)) : Prop :=
  ∀ r ∈ e.output, r.actuate.call = some .on → r.actuate.prevOn = false →
    r.demand = true ∧ ∀ q ∈ reports past, r.wall - cfg.activationDelay < q.wall → q.demand = true

instance (cfg : HubConfig) (past : HubRun)
    (e : Trace.Step HubSystem HubEvent (Option HubReport)) :
    Decidable (ActivationDelayed cfg past e) := by
  unfold ActivationDelayed
  infer_instance

def ResetKept (e : Trace.Step HubSystem HubEvent (Option HubReport)) : Prop :=
  ∀ r ∈ e.output, r.demand = false → e.post.hub.boiler.demandTrueSince = none

theorem callDue_without_demand {hub : HubCoordinator} {now : ℚ} :
    hub.callDue cfg false now ↔
      (hub.boiler.on = true ∧ cfg.minOn ≤ now - hub.boiler.lastSwitchMono) ∨
        keepaliveDue hub.boiler now cfg.keepalive hub.reconciled := by
  rw [HubCoordinator.callDue, HubCoordinator.flipDue, targetBoilerState_off]

/-- What a tick leaves of the demand timer, and when it may start the boiler. -/
theorem tick_latch (cfg : HubConfig) (sys : HubSystem) (t : HubTick) :
    let hub := sys.hub.prepared cfg t.now (t.env sys)
    let acted := sys.hub.actuate cfg t.demand t.now (t.env sys)
    (acted.1.boiler.demandTrueSince = demandSince hub.boiler.demandTrueSince t.demand t.now ∧
        (hub.callDue cfg t.demand t.now → t.callOk = true) ∨
      hub.callDue cfg t.demand t.now ∧ t.callOk = false ∧
        acted.1.boiler.demandTrueSince = hub.boiler.demandTrueSince) ∧
      (acted.2.call = some .on → acted.2.prevOn = false → t.demand = true ∧
        ∃ s, demandSince hub.boiler.demandTrueSince t.demand t.now = some s ∧
          cfg.activationDelay ≤ t.now - s) := by
  intro hub acted
  have outcomes := actuate_cases cfg sys.hub t.demand t.now (t.env sys)
  simp only at outcomes
  -- an ON command for a stopped boiler is a change, so the activation delay is served
  have served : hub.boiler.on = false → hub.flipDue cfg t.demand t.now → t.demand = true ∧
      ∃ s, demandSince hub.boiler.demandTrueSince t.demand t.now = some s ∧
        cfg.activationDelay ≤ t.now - s := by
    intro stopped due
    obtain ⟨_, demanded, waited⟩ := targetBoilerState_flip due
    exact ⟨by simpa [stopped] using demanded, waited stopped⟩
  have isChange : ∀ on, BoilerCall.on = .to on ↔ on = true := by decide
  rcases outcomes with ⟨due, failed, call, result, flips⟩ | ⟨due, ok, result⟩ |
    ⟨_, ok, keep, call, saved, result, same, _⟩ <;> simp only [acted, result]
  · refine ⟨Or.inr ⟨due, failed, rfl⟩, fun onCall stopped => served stopped (flips ?_)⟩
    rw [Option.some.inj onCall, isChange]
    simpa using stopped
  · exact ⟨Or.inl ⟨rfl, fun _ => ok⟩, fun _ stopped => served stopped due⟩
  · refine ⟨Or.inl ⟨rfl, ok⟩, fun onCall stopped => ?_⟩
    have running := (isChange _).mp (same .on onCall)
    simp [stopped] at running

theorem resetKept_iff (cfg : HubConfig) (sys : HubSystem) (event : HubEvent) :
    ResetKept (Step.of (HubSystem.step cfg) sys event) ↔
      ¬ SwallowsReset cfg (Step.of (HubSystem.step cfg) sys event) := by
  cases event with
  | restart epoch => simp [ResetKept, SwallowsReset, HubSystem.step]
  | tick t =>
    obtain ⟨latch, _⟩ := tick_latch cfg sys t
    simp only [ResetKept, SwallowsReset, HubSystem.step, Step.of, Option.mem_def,
      Option.some.injEq, forall_eq']
    rw [← callDue_without_demand]
    cases demand : t.demand with
    | true => simp
    | false =>
      rw [demand] at latch
      cases latch with
      | inl committed =>
        have reset :
            (sys.hub.actuate cfg false t.now (t.env sys)).1.boiler.demandTrueSince = none := by
          simpa [demandSince] using committed.1
        simp only [reset, imp_self, true_iff]
        rintro ⟨_, failed, _, due⟩
        simp [committed.2 due] at failed
      | inr dropped => simp [dropped.1, dropped.2.1, dropped.2.2]

def Latched (past : HubRun) (sys : HubSystem) : Prop :=
  -- Every tick without demand lies before the running demand began.
  ∀ s, sys.hub.boiler.demandTrueSince = some s →
    ∀ q ∈ reports past, q.demand = false → q.wall ≤ sys.epoch + s

theorem prepared_demandTrueSince {hub : HubCoordinator} {now s : ℚ} {env : ActuateEnv}
    (runs : (hub.prepared cfg now env).boiler.demandTrueSince = some s) :
    hub.boiler.demandTrueSince = some s := by
  have reconciled : (hub.restoreState env.loaded now env.nowWall).boiler.demandTrueSince = some s := by
    unfold HubCoordinator.prepared HubCoordinator.reconcile at runs
    split at runs
    next => exact runs
    next => split at runs <;> exact runs
  unfold HubCoordinator.restoreState at reconciled
  split at reconciled
  next => exact reconciled
  next =>
    split at reconciled
    next => exact reconciled
    next =>
      simp only [restoreBoilerState] at reconciled
      split at reconciled
      next => simp at reconciled
      next => split at reconciled <;> simp at reconciled

theorem latched_since {past : HubRun} {sys : HubSystem} {t : HubTick} {s : ℚ}
    (latched : Latched past sys) (passed : Passed (reports past) (sys.epoch + t.now))
    (runs : demandSince (sys.hub.prepared cfg t.now (t.env sys)).boiler.demandTrueSince t.demand
      t.now = some s) : ∀ q ∈ reports past, q.demand = false → q.wall ≤ sys.epoch + s := by
  -- the timer either starts now, after every report, or was latched before
  unfold demandSince at runs
  split at runs
  next =>
    obtain rfl := Option.some.inj runs
    cases old : (sys.hub.prepared cfg t.now (t.env sys)).boiler.demandTrueSince with
    | none => exact fun q earlier _ => passed q earlier
    | some s => exact latched s (prepared_demandTrueSince old)
  next => simp at runs

def MonotoneMoment (past : HubRun) (e : Trace.Step HubSystem HubEvent (Option HubReport)) : Prop :=
  ∀ r ∈ e.output, Passed (reports past) r.wall

instance (past : HubRun) (e : Trace.Step HubSystem HubEvent (Option HubReport)) :
    Decidable (MonotoneMoment past e) := by
  unfold MonotoneMoment
  infer_instance

theorem latched_step {past : HubRun} {sys : HubSystem} {event : HubEvent}
    (latched : Latched past sys)
    (monotone : MonotoneMoment past (Step.of (HubSystem.step cfg) sys event))
    (kept : ResetKept (Step.of (HubSystem.step cfg) sys event)) :
    Latched (past ++ [Step.of (HubSystem.step cfg) sys event]) (sys.step cfg event).1 := by
  cases event with
  | restart epoch => simp [Latched, HubSystem.step]
  | tick t =>
    obtain ⟨latch, _⟩ := tick_latch cfg sys t
    simp only [MonotoneMoment, ResetKept, HubSystem.step, Step.of, Option.mem_def,
      Option.some.injEq, forall_eq'] at monotone kept
    intro s runs q member demandless
    simp only [reports_append, HubSystem.step, Step.of, Option.toList_some, List.mem_append,
      List.mem_singleton] at runs member ⊢
    have demand : t.demand = true := by
      by_contra off
      simp [kept (by simpa using off)] at runs
    cases member with
    | inr new =>
      subst new
      simp [demand] at demandless
    | inl old =>
      cases latch with
      | inl committed => exact latched_since latched monotone (committed.1 ▸ runs) q old demandless
      | inr dropped =>
        rw [dropped.2.2] at runs
        exact latched s (prepared_demandTrueSince runs) q old demandless

theorem activationDelayed_step {past : HubRun} {sys : HubSystem} {event : HubEvent}
    (latched : Latched past sys)
    (monotone : MonotoneMoment past (Step.of (HubSystem.step cfg) sys event)) :
    ActivationDelayed cfg past (Step.of (HubSystem.step cfg) sys event) := by
  cases event with
  | restart epoch => simp [ActivationDelayed, HubSystem.step]
  | tick t =>
    obtain ⟨_, starts⟩ := tick_latch cfg sys t
    simp only [MonotoneMoment, HubSystem.step, Step.of, Option.mem_def, Option.some.injEq,
      forall_eq'] at monotone
    simp only [ActivationDelayed, HubSystem.step, Step.of, Option.mem_def, Option.some.injEq,
      forall_eq']
    intro onCall stopped
    obtain ⟨demand, s, runs, waited⟩ := starts onCall stopped
    refine ⟨demand, fun q earlier recent => ?_⟩
    by_contra demandless
    -- a tick without demand inside the delay would have begun the timer later
    have before := latched_since latched monotone runs q earlier (by simpa using demandless)
    linarith

/-- The activation delay: in every run with a monotone clock, the demand timer is
reset by every tick without demand exactly when no tick swallows the reset, and
then the boiler is started only after a full activation delay of demand. -/
theorem boiler_activation_delay (cfg : HubConfig) (epoch : ℚ) (events : List HubEvent)
    (monotone : ∀ past e, past ++ [e] <+: trace (HubSystem.step cfg) { epoch } events →
      MonotoneMoment past e) :
    (∀ e ∈ trace (HubSystem.step cfg) { epoch } events, ¬ SwallowsReset cfg e) ↔
      (∀ e ∈ trace (HubSystem.step cfg) { epoch } events, ResetKept e) ∧
      ∀ past e, past ++ [e] <+: trace (HubSystem.step cfg) { epoch } events →
        ActivationDelayed cfg past e := by
  have same : ∀ e ∈ trace (HubSystem.step cfg) { epoch } events,
      ResetKept e ↔ ¬ SwallowsReset cfg e := by
    intro e member
    rw [step_of_mem _ member]
    exact resetKept_iff cfg _ _
  constructor
  · intro clean
    have kept := fun e member => (same e member).mpr (clean e member)
    refine ⟨kept, fun past e moment => ?_⟩
    have latched := history_at (HubSystem.step cfg) Latched
      (fun past e => MonotoneMoment past e ∧ ResetKept e) (by simp [Latched])
      (fun past sys event inv ok => latched_step inv ok.1 ok.2)
      (fun past e earlier => ⟨monotone past e earlier, kept e (mem_of_moment _ earlier)⟩) moment
    have own := step_of_mem _ (mem_of_moment _ moment)
    rw [own]
    exact activationDelayed_step latched (own ▸ monotone past e moment)
  · exact fun law e member => (same e member).mp (law.1 e member)

theorem boiler_activation_delay_served :
    let run := trace (HubSystem.step (.ofEntry 120 60 300 300)) { epoch := 0 }
      [.tick { now := 0, demand := true, realState := some "off" },
        .tick { now := 60, demand := true }, .tick { now := 120, demand := true }]
    (reports run).map HubReport.flip = [none, none, some true] ∧
      ((∀ e ∈ run, ¬ SwallowsReset (.ofEntry 120 60 300 300) e) ↔
        (∀ e ∈ run, ResetKept e) ∧
          ∀ past e, past ++ [e] <+: run → ActivationDelayed (.ofEntry 120 60 300 300) past e) :=
  ⟨by decide +kernel, boiler_activation_delay (.ofEntry 120 60 300 300) 0 _ (by decide +kernel)⟩

/-- The failing keep-alive OFF of the tick without demand swallows the reset, and
the boiler starts a minute later although the demand is new. -/
theorem boiler_starts_on_stale_demand :
    let run := trace (HubSystem.step (.ofEntry 120 60 300 300)) { epoch := 0 }
      [.tick { now := 0, demand := true, realState := some "off" },
        .tick { now := 60, demand := false, callOk := false },
        .tick { now := 120, demand := true }]
    run.map (fun e => e.post.hub.boiler.demandTrueSince) = [some 0, some 0, some 0] ∧
      (reports run).map (fun r => (r.demand, r.actuate.call, r.actuate.callOk)) =
        [(true, none, true), (false, some .off, false), (true, some .on, true)] ∧
      ¬ ∀ past e, past ++ [e] <+: run → ActivationDelayed (.ofEntry 120 60 300 300) past e := by
  decide +kernel

end Poise
