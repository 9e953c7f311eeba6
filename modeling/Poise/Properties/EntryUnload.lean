import Poise.Runtime.EntryLifecycle

/-!
# What the lock promises

Once the unload has drained the lock, no tick of the old instance runs again, so a parked device
stays parked. A command may land at any time: the dirty flag accounts for it unless it lands while a
tick awaits its save, and the save cadence brings it to the store even then.
-/
namespace Poise

open Trace

variable {α β : Type*}

/-! ### The queue for the lock -/

/-- The shutdown flag is up. -/
def UnloadPhase.shut : UnloadPhase → Bool
  | .loaded | .detached => false
  | .draining | .quiet | .stuck | .persisting | .persisted _ => true

/-- The drain had its turn. -/
def UnloadPhase.drained : UnloadPhase → Bool
  | .loaded | .detached | .draining => false
  | .quiet | .stuck | .persisting | .persisted _ => true

theorem UnloadPhase.shut_of_drained {phase : UnloadPhase} (drained : phase.drained = true) :
    phase.shut = true := by
  revert drained
  cases phase <;> simp [UnloadPhase.drained, UnloadPhase.shut]

structure Orderly (entry : EntryLife α β) : Prop where
  shut : entry.phase.shut = true → entry.shutdown = true
  drain : LockUse.drain ∈ entry.waiting → entry.phase = .draining
  -- Nothing behind the drain is a tick.
  behind : entry.phase = .draining → ∃ front back, entry.waiting = front ++ .drain :: back ∧
    LockUse.drain ∉ front ∧ LockUse.drain ∉ back ∧ LockUse.tick ∉ back
  inert : entry.phase.drained = true → entry.holder ≠ some .tick ∧ LockUse.tick ∉ entry.waiting
  final : LockUse.finalSave ∈ entry.waiting ∨ entry.holder = some .finalSave →
    entry.phase.drained = true

theorem orderly_fresh (live : ZoneLive α β) (store : Option (ZoneLive α β)) :
    Orderly { live, store } :=
  ⟨by simp [UnloadPhase.shut], by simp, by simp, by simp [UnloadPhase.drained], by simp⟩

variable {entry : EntryLife α β}

/-- Turns that leave queue, holder and unload alone. -/
theorem Orderly.same {next : EntryLife α β} (orderly : Orderly entry)
    (waiting : next.waiting = entry.waiting) (holder : next.holder = entry.holder)
    (phase : next.phase = entry.phase) (shutdown : next.shutdown = entry.shutdown) :
    Orderly next := by
  constructor
  · rw [phase, shutdown]
    exact orderly.shut
  · rw [waiting, phase]
    exact orderly.drain
  · rw [waiting, phase]
    exact orderly.behind
  · rw [waiting, holder, phase]
    exact orderly.inert
  · rw [waiting, holder, phase]
    exact orderly.final

theorem Orderly.no_drain (orderly : Orderly entry) (other : entry.phase ≠ .draining) :
    LockUse.drain ∉ entry.waiting := fun waits => other (orderly.drain waits)

theorem Orderly.release (orderly : Orderly entry) : Orderly entry.release := by
  refine ⟨orderly.shut, orderly.drain, orderly.behind, fun drained => ?_, fun asked => ?_⟩
  · exact ⟨by simp [EntryLife.release], (orderly.inert drained).2⟩
  · apply orderly.final
    rcases asked with waits | holds
    · exact Or.inl waits
    · simp [EntryLife.release] at holds

/-- A new waiter that is no drain, and no tick once the shutdown flag is up. -/
theorem Orderly.ask (orderly : Orderly entry) {use : LockUse} (noDrain : use ≠ .drain)
    (gated : use = .tick → entry.shutdown = false)
    (served : use = .finalSave → entry.phase.drained = true) : Orderly (entry.ask use) := by
  have noTick : entry.phase.shut = true → use ≠ .tick := by
    rintro shut rfl
    rw [orderly.shut shut] at gated
    simp at gated
  refine ⟨orderly.shut, fun waits => ?_, fun draining => ?_, fun drained => ?_, fun asked => ?_⟩
  · rcases List.mem_append.mp waits with before | new
    · exact orderly.drain before
    · exact absurd (List.mem_singleton.mp new).symm noDrain
  · obtain ⟨front, back, waiting, frontClear, backClear, ticks⟩ := orderly.behind draining
    have shut : entry.phase.shut = true := by
      have here : entry.phase = .draining := draining
      rw [here]
      rfl
    refine ⟨front, back ++ [use], ?_, frontClear, ?_, ?_⟩
    · simp [EntryLife.ask, waiting]
    · simp [backClear, noDrain.symm]
    · simp [ticks, (noTick shut).symm]
  · have shut : entry.phase.shut = true := UnloadPhase.shut_of_drained drained
    obtain ⟨holder, waiting⟩ := orderly.inert drained
    exact ⟨holder, by simp [EntryLife.ask, waiting, (noTick shut).symm]⟩
  · rcases asked with waits | holds
    · rcases List.mem_append.mp waits with before | new
      · exact orderly.final (Or.inl before)
      · exact served (List.mem_singleton.mp new).symm
    · exact orderly.final (Or.inr holds)

/-- The first waiter gets the lock. -/
theorem Orderly.acquire (orderly : Orderly entry) {use : LockUse} {rest : List LockUse}
    (free : entry.holder = none) (waiting : entry.waiting = use :: rest) :
    Orderly ({ entry with waiting := rest }.enter use) := by
  have still : ∀ other, other ∈ rest → other ∈ entry.waiting := by
    intro other member
    rw [waiting]
    exact List.mem_cons_of_mem use member
  -- a use that is no drain leaves the drain and what is behind it in the queue
  have popped : use ≠ .drain → ∀ next : EntryLife α β, next.waiting = rest →
      next.phase = entry.phase → next.shutdown = entry.shutdown →
      (next.holder = some .tick → use = .tick) →
      (next.holder = some .finalSave → use = .finalSave) → Orderly next := by
    intro noDrain next waits phase shutdown ticks finals
    refine ⟨?_, ?_, ?_, ?_, ?_⟩
    · rw [phase, shutdown]
      exact orderly.shut
    · rw [waits, phase]
      exact fun member => orderly.drain (still _ member)
    · rw [waits, phase]
      intro draining
      obtain ⟨front, back, split, frontClear, backClear, noTick⟩ := orderly.behind draining
      rw [waiting] at split
      cases front with
      | nil =>
        simp only [List.nil_append, List.cons.injEq] at split
        exact absurd split.1 noDrain
      | cons first front =>
        simp only [List.cons_append, List.cons.injEq] at split
        exact ⟨front, back, split.2, fun member => frontClear (List.mem_cons_of_mem _ member),
          backClear, noTick⟩
    · rw [waits, phase]
      intro drained
      obtain ⟨-, noTick⟩ := orderly.inert drained
      rw [waiting] at noTick
      simp only [List.mem_cons, not_or] at noTick
      exact ⟨fun holds => noTick.1 (ticks holds).symm, noTick.2⟩
    · rw [waits, phase]
      rintro (member | holds)
      · exact orderly.final (Or.inl (still _ member))
      · apply orderly.final
        rw [waiting, finals holds]
        exact Or.inl List.mem_cons_self
  cases use with
  | tick =>
    exact popped (by simp) ({ entry with waiting := rest }.enter .tick) rfl rfl rfl (fun _ => rfl)
      (by simp [EntryLife.enter])
  | options =>
    exact popped (by simp) ({ entry with waiting := rest }.enter .options) rfl rfl rfl
      (by simp [EntryLife.enter, free]) (by simp [EntryLife.enter, free])
  | stopSave =>
    exact popped (by simp) ({ entry with waiting := rest }.enter .stopSave) rfl rfl rfl
      (by simp [EntryLife.enter, EntryLife.startSave])
      (by simp [EntryLife.enter, EntryLife.startSave])
  | finalSave =>
    exact popped (by simp) ({ entry with waiting := rest }.enter .finalSave) rfl rfl rfl
      (by simp [EntryLife.enter, EntryLife.startSave]) (fun _ => rfl)
  | drain =>
    have draining : entry.phase = .draining := orderly.drain (by simp [waiting])
    obtain ⟨front, back, split, frontClear, backClear, noTick⟩ := orderly.behind draining
    rw [waiting] at split
    cases front with
    | cons first front =>
      simp only [List.cons_append, List.cons.injEq] at split
      exact absurd (split.1 ▸ List.mem_cons_self) frontClear
    | nil =>
      simp only [List.nil_append, List.cons.injEq, true_and] at split
      subst split
      have shutdown : entry.shutdown = true := orderly.shut (by simp [draining, UnloadPhase.shut])
      refine ⟨fun _ => shutdown, fun member => absurd member backClear, by simp [EntryLife.enter],
        fun _ => ⟨by simp [EntryLife.enter, free], noTick⟩, fun _ => rfl⟩

theorem ticking_iff : entry.ticking = true ↔ entry.holder = some .tick ∧ entry.saving = none := by
  simp [EntryLife.ticking]

theorem Orderly.maybeSave (orderly : Orderly entry) (ticking : entry.ticking = true) :
    Orderly entry.maybeSave := by
  obtain ⟨holder, -⟩ := ticking_iff.mp ticking
  unfold EntryLife.maybeSave
  simp only
  split
  · exact orderly.same rfl holder.symm rfl rfl
  · apply Orderly.release
    exact orderly.same rfl rfl rfl rfl

theorem Orderly.saveReturned (orderly : Orderly entry) {use : LockUse}
    (holds : entry.holder = some use) (payload : ZoneLive α β) (ok : Bool) :
    Orderly (entry.saveReturned use payload ok).release := by
  cases use with
  | finalSave =>
    have drained := orderly.final (Or.inr holds)
    obtain ⟨-, noTick⟩ := orderly.inert drained
    have noDrain := orderly.no_drain fun draining => by
      simp [draining, UnloadPhase.drained] at drained
    have shutdown : entry.shutdown = true := orderly.shut (UnloadPhase.shut_of_drained drained)
    cases ok <;> exact ⟨fun _ => shutdown, fun waits => absurd waits noDrain,
      by simp [EntryLife.saveReturned, EntryLife.release],
      fun _ => ⟨by simp [EntryLife.release], noTick⟩, fun _ => rfl⟩
  | tick | options | drain | stopSave =>
    apply Orderly.release
    cases ok <;> exact orderly.same rfl rfl rfl rfl

theorem orderly_step (orderly : Orderly entry) (event : EntryEvent α β) :
    Orderly (entry.step event).1 := by
  cases event with
  | refresh byInput =>
    simp only [EntryLife.step]
    split
    next => exact orderly
    next passes =>
      simp only [Bool.or_eq_true, not_or] at passes
      exact orderly.ask (by simp) (fun _ => by simpa using passes.1) (by simp)
  | optionsChanged => exact orderly.ask (by simp) (by simp) (by simp)
  | stop => exact orderly.ask (by simp) (by simp) (by simp)
  | acquire =>
    simp only [EntryLife.step]
    split
    next free waiting => exact orderly.acquire free waiting
    next => exact orderly
  | command intent => exact orderly.same rfl rfl rfl rfl
  | deviceWrite =>
    simp only [EntryLife.step]
    split <;> exact orderly
  | learn learned =>
    simp only [EntryLife.step]
    split
    · exact orderly.same rfl rfl rfl rfl
    · exact orderly
  | checkpoint dirtyOnly =>
    simp only [EntryLife.step]
    split
    next ticking =>
      split
      · exact orderly.release
      · exact orderly.maybeSave ticking
    next => exact orderly
  | raise =>
    simp only [EntryLife.step]
    split
    · exact orderly.release
    · exact orderly
  | saved ok =>
    simp only [EntryLife.step]
    split
    next holds _ => exact orderly.saveReturned holds _ ok
    next => exact orderly
  | unload =>
    simp only [EntryLife.step]
    split
    next loaded =>
      refine ⟨by simp [UnloadPhase.shut], fun waits => ?_, by simp, by simp [UnloadPhase.drained],
        fun asked => ?_⟩
      · rw [orderly.drain waits] at loaded
        simp at loaded
      · have drained := orderly.final asked
        rw [loaded] at drained
        simp [UnloadPhase.drained] at drained
    next => exact orderly
  | shutdown =>
    simp only [EntryLife.step]
    split
    next detached =>
      have noDrain := orderly.no_drain fun draining => by simp [draining] at detached
      refine ⟨fun _ => rfl, fun _ => rfl,
        fun _ => ⟨entry.waiting, [], rfl, noDrain, by simp, by simp⟩,
        by simp [EntryLife.ask, UnloadPhase.drained], fun asked => ?_⟩
      have before : LockUse.finalSave ∈ entry.waiting ∨ entry.holder = some .finalSave := by
        simpa [EntryLife.ask] using asked
      have drained := orderly.final before
      rw [detached] at drained
      simp [UnloadPhase.drained] at drained
    next => exact orderly
  | platformsUnloaded ok =>
    simp only [EntryLife.step]
    split
    next quiet =>
      have drained : entry.phase.drained = true := by
        rw [quiet]
        rfl
      have shutdown : entry.shutdown = true := orderly.shut (UnloadPhase.shut_of_drained drained)
      obtain ⟨noHolder, noTick⟩ := orderly.inert drained
      have noDrain := orderly.no_drain fun draining => by simp [draining] at quiet
      cases ok with
      | true =>
        refine ⟨fun _ => shutdown, fun waits => ?_, by simp [EntryLife.ask],
          fun _ => ⟨noHolder, by simp [EntryLife.ask, noTick]⟩, fun _ => rfl⟩
        simp [EntryLife.ask, noDrain] at waits
      | false =>
        exact ⟨fun _ => shutdown, fun waits => absurd waits noDrain, by simp,
          fun _ => ⟨noHolder, noTick⟩, fun _ => rfl⟩
    next => exact orderly
  | park =>
    simp only [EntryLife.step]
    split <;> exact orderly

/-! ### After the drain -/

abbrev EntryStep (α β : Type*) := Step (EntryLife α β) (EntryEvent α β) EntryAct

theorem enter_phase (entry : EntryLife α β) (use : LockUse) :
    (entry.enter use).phase = entry.phase ∨ (entry.enter use).phase = .quiet := by
  cases use with
  | drain => exact Or.inr rfl
  | tick | options | finalSave | stopSave => exact Or.inl rfl

theorem saveReturned_phase (entry : EntryLife α β) (use : LockUse) (payload : ZoneLive α β)
    (ok : Bool) :
    (entry.saveReturned use payload ok).phase = entry.phase ∨
      (entry.saveReturned use payload ok).phase = .persisted ok := by
  cases use <;> cases ok <;> simp [EntryLife.saveReturned]

theorem maybeSave_phase (entry : EntryLife α β) : entry.maybeSave.phase = entry.phase := by
  unfold EntryLife.maybeSave
  simp only
  split <;> rfl

/-- The unload does not go back behind its drain. -/
theorem drained_step (drained : entry.phase.drained = true) (event : EntryEvent α β) :
    (entry.step event).1.phase.drained = true := by
  cases event with
  | refresh byInput =>
    simp only [EntryLife.step]
    split <;> exact drained
  | acquire =>
    simp only [EntryLife.step]
    split
    next use rest _ _ =>
      rcases enter_phase { entry with waiting := rest } use with same | quiet
      · rw [same]
        exact drained
      · rw [quiet]
        rfl
    next => exact drained
  | checkpoint dirtyOnly =>
    simp only [EntryLife.step]
    split
    · split
      · exact drained
      · rw [maybeSave_phase]
        exact drained
    · exact drained
  | saved ok =>
    simp only [EntryLife.step]
    split
    next use payload _ _ =>
      rcases saveReturned_phase entry use payload ok with same | persisted
      · simp only [EntryLife.release, same]
        exact drained
      · simp only [EntryLife.release, persisted]
        rfl
    next => exact drained
  | unload =>
    simp only [EntryLife.step]
    split
    next loaded =>
      rw [loaded] at drained
      simp [UnloadPhase.drained] at drained
    next => exact drained
  | shutdown =>
    simp only [EntryLife.step]
    split
    next detached =>
      rw [detached] at drained
      simp [UnloadPhase.drained] at drained
    next => exact drained
  | platformsUnloaded ok =>
    simp only [EntryLife.step]
    split
    · cases ok <;> rfl
    · exact drained
  | deviceWrite | learn _ | raise | park =>
    simp only [EntryLife.step]
    split <;> exact drained
  | optionsChanged | stop | command _ => exact drained

theorem park_drained (event : EntryEvent α β) (parks : (entry.step event).2 = .parkWrite) :
    entry.phase.drained = true := by
  cases event with
  | park =>
    simp only [EntryLife.step] at parks
    split at parks
    next phase =>
      rw [phase]
      rfl
    next => simp at parks
  | refresh _ | checkpoint _ | acquire | saved _ | unload | shutdown | platformsUnloaded _
  | deviceWrite | learn _ | raise =>
    simp only [EntryLife.step] at parks
    repeat' split at parks
    all_goals simp at parks
  | optionsChanged | stop | command _ => simp [EntryLife.step] at parks

theorem enter_live (entry : EntryLife α β) (use : LockUse) :
    (entry.enter use).live = entry.live := by
  cases use <;> rfl

theorem saveReturned_live (entry : EntryLife α β) (use : LockUse) (payload : ZoneLive α β)
    (ok : Bool) : (entry.saveReturned use payload ok).live = entry.live := by
  cases use <;> cases ok <;> rfl

theorem maybeSave_live (entry : EntryLife α β) : entry.maybeSave.live = entry.live := by
  unfold EntryLife.maybeSave
  simp only
  split <;> rfl

/-- Only a command and a fold inside a tick change the live state. -/
theorem live_step (entry : EntryLife α β) (event : EntryEvent α β) :
    (∃ intent, event = .command intent ∧
      (entry.step event).1.live = { entry.live with intent }) ∨
    (∃ learned, event = .learn learned ∧ entry.ticking = true ∧
      (entry.step event).1.live = { entry.live with learned }) ∨
    (entry.step event).1.live = entry.live := by
  cases event with
  | command intent => exact Or.inl ⟨intent, rfl, rfl⟩
  | learn learned =>
    simp only [EntryLife.step]
    split
    next ticking => exact Or.inr (Or.inl ⟨learned, rfl, ticking, rfl⟩)
    next => exact Or.inr (Or.inr rfl)
  | acquire =>
    refine Or.inr (Or.inr ?_)
    simp only [EntryLife.step]
    split
    · exact enter_live _ _
    · rfl
  | checkpoint dirtyOnly =>
    refine Or.inr (Or.inr ?_)
    simp only [EntryLife.step]
    split
    · split
      · rfl
      · exact maybeSave_live entry
    · rfl
  | saved ok =>
    refine Or.inr (Or.inr ?_)
    simp only [EntryLife.step]
    split
    · exact saveReturned_live entry _ _ ok
    · rfl
  | platformsUnloaded ok =>
    refine Or.inr (Or.inr ?_)
    simp only [EntryLife.step]
    split
    · cases ok <;> rfl
    · rfl
  | refresh _ | deviceWrite | raise | unload | shutdown | park =>
    refine Or.inr (Or.inr ?_)
    simp only [EntryLife.step]
    split <;> rfl
  | optionsChanged | stop => exact Or.inr (Or.inr rfl)

theorem write_ticks (event : EntryEvent α β) (writes : (entry.step event).2 = .tickWrite) :
    entry.holder = some .tick := by
  cases event with
  | deviceWrite =>
    simp only [EntryLife.step] at writes
    split at writes
    next ticking => exact (ticking_iff.mp ticking).1
    next => simp at writes
  | refresh _ | checkpoint _ | acquire | saved _ | unload | shutdown | platformsUnloaded _ | park
  | learn _ | raise =>
    simp only [EntryLife.step] at writes
    repeat' split at writes
    all_goals simp at writes
  | optionsChanged | stop | command _ => simp [EntryLife.step] at writes

/-- The unload was drained or a park was written, as far as the past tells. -/
def DrainedBy (past : List (EntryStep α β)) : Prop :=
  ∃ f ∈ past, f.post.phase.drained = true ∨ f.output = .parkWrite

/-- The dying instance is inert: once the unload has drained the lock, and so after every write of
the park, no tick waits or holds the lock, none writes to the device and none learns, whatever comes
in between. -/
theorem unloaded_entry_is_inert (live : ZoneLive α β) (store : Option (ZoneLive α β))
    (events : List (EntryEvent α β)) :
    ∀ past e, past ++ [e] <+: trace EntryLife.step { live, store } events → DrainedBy past →
      e.output ≠ .tickWrite ∧ e.post.live.learned = e.pre.live.learned ∧
        e.post.holder ≠ some .tick ∧ LockUse.tick ∉ e.post.waiting := by
  intro past e moment drainedBy
  have inv := history_of_moment EntryLife.step
    (fun past entry => Orderly entry ∧ (DrainedBy past → entry.phase.drained = true))
    ⟨orderly_fresh live store, by simp [DrainedBy]⟩ ?_ moment
  · obtain ⟨orderly, drained⟩ := inv
    have before := drained drainedBy
    have noTick := (orderly.inert before).1
    have own := step_of_mem _ (mem_of_moment _ moment)
    rw [own]
    have after := (orderly_step orderly e.input).inert (drained_step before e.input)
    refine ⟨fun writes => noTick (write_ticks e.input writes), ?_, after⟩
    rcases live_step e.pre e.input with ⟨intent, -, same⟩ | ⟨learned, -, ticking, -⟩ | same
    · rw [Step.of_post, same]
      rfl
    · exact absurd (ticking_iff.mp ticking).1 noTick
    · exact congrArg ZoneLive.learned same
  · rintro past entry event ⟨orderly, drained⟩
    refine ⟨orderly_step orderly event, ?_⟩
    rintro ⟨f, member, shown⟩
    rcases List.mem_append.mp member with old | new
    · exact drained_step (drained ⟨f, old, shown⟩) event
    · obtain rfl := List.mem_singleton.mp new
      rcases shown with drained | parks
      · exact drained
      · exact drained_step (park_drained event parks) event

/-- A tick waits behind another when the unload begins; the park's input change finds nobody. -/
def unloadEvents : List (EntryEvent ℕ ℕ) :=
  [.refresh true, .refresh false, .acquire, .unload, .shutdown, .deviceWrite, .checkpoint false,
    .acquire, .deviceWrite, .learn 1, .checkpoint false, .acquire, .platformsUnloaded true,
    .acquire, .saved true, .park, .refresh true, .refresh false, .acquire, .deviceWrite]

theorem unload_events_inert :
    let run := trace EntryLife.step { live := ⟨0, 0⟩ } unloadEvents
    (run.map Step.output).filter (· ≠ .silent) = [.tickWrite, .tickWrite, .parkWrite] ∧
      ∀ past e, past ++ [e] <+: run → DrainedBy past →
        e.output ≠ .tickWrite ∧ e.post.live.learned = e.pre.live.learned ∧
          e.post.holder ≠ some .tick ∧ LockUse.tick ∉ e.post.waiting :=
  ⟨by decide +kernel, unloaded_entry_is_inert ⟨0, 0⟩ none unloadEvents⟩

/-! ### Commands and the store -/

/-- The store, or the payload on its way to it, carries the user intent. -/
def CarriesIntent (entry : EntryLife α β) : Prop :=
  match entry.saving with
  | some payload => payload.intent = entry.live.intent
  | none => entry.store.map ZoneLive.intent = some entry.live.intent

/-- A full checkpoint of a tick: counted, and a save when the cadence or the flag says so. -/
def CountedCheckpoint (e : EntryStep α β) : Bool :=
  match e.input with
  | .checkpoint dirtyOnly => e.pre.ticking && !(dirtyOnly && !e.pre.dirty)
  | _ => false

def SaveSucceeds (e : EntryStep α β) : Prop := e.input ≠ .saved false

def NoCommand (e : EntryStep α β) : Prop := ∀ intent, e.input ≠ .command intent

theorem CarriesIntent.same {next : EntryLife α β} (carries : CarriesIntent entry)
    (saving : next.saving = entry.saving) (store : next.store = entry.store)
    (intent : next.live.intent = entry.live.intent) : CarriesIntent next := by
  unfold CarriesIntent at *
  rw [saving, store, intent]
  exact carries

/-- At rest, a release changes nothing. -/
theorem CarriesIntent.release (carries : CarriesIntent entry) (rests : entry.saving = none) :
    CarriesIntent entry.release :=
  carries.same rests.symm rfl rfl

theorem carries_startSave (entry : EntryLife α β) (use : LockUse) :
    CarriesIntent (entry.startSave use) := rfl

theorem carries_enter (carries : CarriesIntent entry) (use : LockUse) :
    CarriesIntent (entry.enter use) := by
  cases use with
  | finalSave | stopSave => exact carries_startSave entry _
  | tick | options | drain => exact carries

theorem carries_step (carries : CarriesIntent entry) {event : EntryEvent α β}
    (noCommand : ∀ intent, event ≠ .command intent) (succeeds : event ≠ .saved false) :
    CarriesIntent (entry.step event).1 := by
  cases event with
  | command intent => exact absurd rfl (noCommand intent)
  | acquire =>
    simp only [EntryLife.step]
    split
    · apply carries_enter
      exact carries.same rfl rfl rfl
    · exact carries
  | learn learned =>
    simp only [EntryLife.step]
    split
    · exact carries.same rfl rfl rfl
    · exact carries
  | checkpoint dirtyOnly =>
    simp only [EntryLife.step]
    split
    next ticking =>
      have rests := (ticking_iff.mp ticking).2
      split
      · exact carries.release rests
      · unfold EntryLife.maybeSave
        simp only
        split
        · exact carries_startSave _ _
        · apply CarriesIntent.release
          · exact carries.same rfl rfl rfl
          · exact rests
    next => exact carries
  | raise =>
    simp only [EntryLife.step]
    split
    next ticking => exact carries.release (ticking_iff.mp ticking).2
    next => exact carries
  | saved ok =>
    cases ok with
    | false => exact absurd rfl succeeds
    | true =>
      simp only [EntryLife.step]
      split
      next use payload _ saving =>
        unfold CarriesIntent at carries
        rw [saving] at carries
        simp only at carries
        cases use <;> simp [CarriesIntent, EntryLife.saveReturned, EntryLife.release, carries]
      next => exact carries
  | platformsUnloaded ok =>
    simp only [EntryLife.step]
    split
    · cases ok <;> exact carries
    · exact carries
  | refresh _ | deviceWrite | unload | shutdown | park =>
    simp only [EntryLife.step]
    split <;> exact carries
  | optionsChanged | stop => exact carries

/-- A turn advances the counter by the full checkpoint it was, below the cadence, or a save of the
live state begins. -/
theorem counter_step (entry : EntryLife α β) (event : EntryEvent α β) :
    let counted := CountedCheckpoint (Step.of EntryLife.step entry event)
    ((entry.step event).1.saveCounter = entry.saveCounter + (if counted then 1 else 0) ∧
      (counted = true → (entry.step event).1.saveCounter < ekfSaveEveryTicks)) ∨
    (CarriesIntent (entry.step event).1 ∧ (entry.step event).1.saveCounter = 0) := by
  cases event with
  | checkpoint dirtyOnly =>
    by_cases ticking : entry.ticking = true
    · by_cases skips : (dirtyOnly && !entry.dirty) = true
      · simp [EntryLife.step, CountedCheckpoint, ticking, skips, EntryLife.release]
      · by_cases due : ekfSaveEveryTicks ≤ entry.saveCounter + 1 ∨ entry.dirty = true
        · refine Or.inr ?_
          simp [EntryLife.step, ticking, skips, EntryLife.maybeSave, due, EntryLife.startSave,
            CarriesIntent]
        · refine Or.inl ?_
          have early := not_le.mp (not_or.mp due).1
          simp [EntryLife.step, CountedCheckpoint, ticking, skips, EntryLife.maybeSave, due,
            EntryLife.release, early]
    · simp [EntryLife.step, CountedCheckpoint, ticking]
  | acquire =>
    refine Or.inl ⟨?_, by simp [CountedCheckpoint]⟩
    simp only [EntryLife.step, CountedCheckpoint, Step.of]
    split
    next use _ _ _ => cases use <;> rfl
    next => rfl
  | saved ok =>
    refine Or.inl ⟨?_, by simp [CountedCheckpoint]⟩
    simp only [EntryLife.step, CountedCheckpoint, Step.of]
    split
    next use _ _ _ => cases use <;> cases ok <;> rfl
    next => rfl
  | platformsUnloaded ok =>
    refine Or.inl ⟨?_, by simp [CountedCheckpoint]⟩
    simp only [EntryLife.step, CountedCheckpoint, Step.of]
    split
    · cases ok <;> rfl
    · rfl
  | refresh _ | deviceWrite | learn _ | raise | unload | shutdown | park =>
    refine Or.inl ⟨?_, by simp [CountedCheckpoint]⟩
    simp only [EntryLife.step, CountedCheckpoint, Step.of]
    split <;> rfl
  | optionsChanged | stop | command _ => exact Or.inl ⟨rfl, by simp [CountedCheckpoint]⟩

theorem counter_bounded (entry : EntryLife α β) (bounded : entry.saveCounter < ekfSaveEveryTicks)
    (event : EntryEvent α β) : (entry.step event).1.saveCounter < ekfSaveEveryTicks := by
  rcases counter_step entry event with ⟨counter, below⟩ | ⟨-, fresh⟩
  · by_cases counted : CountedCheckpoint (Step.of EntryLife.step entry event) = true
    · exact below counted
    · rw [counter, if_neg counted]
      exact bounded
  · rw [fresh]
    decide

theorem counter_bounded_run (entry : EntryLife α β) (events : List (EntryEvent α β))
    (bounded : entry.saveCounter < ekfSaveEveryTicks) :
    (final EntryLife.step entry events).saveCounter < ekfSaveEveryTicks := by
  induction events generalizing entry with
  | nil => exact bounded
  | cons event events ih => exact ih _ (counter_bounded entry bounded event)

/-- Along a calm stretch the counter outruns the checkpoints, or the intent is on its way. -/
theorem calm_run (entry : EntryLife α β) (events : List (EntryEvent α β)) (n : ℕ)
    (calm : ∀ e ∈ trace EntryLife.step entry events, NoCommand e ∧ SaveSucceeds e)
    (start : n ≤ entry.saveCounter ∨ CarriesIntent entry) :
    n + (trace EntryLife.step entry events).countP CountedCheckpoint ≤
        (final EntryLife.step entry events).saveCounter ∨
      CarriesIntent (final EntryLife.step entry events) := by
  induction events generalizing entry n with
  | nil => exact start
  | cons event events ih =>
    simp only [trace, List.forall_mem_cons] at calm
    have noCommand : ∀ intent, event ≠ .command intent := calm.1.1
    have succeeds : event ≠ .saved false := calm.1.2
    rw [trace, List.countP_cons, final, Nat.add_comm (List.countP _ _), ← Nat.add_assoc]
    apply ih _ _ calm.2
    rcases start with behind | carries
    · rcases counter_step entry event with ⟨counter, -⟩ | ⟨carries, -⟩
      · refine Or.inl ?_
        rw [counter]
        exact Nat.add_le_add_right behind _
      · exact Or.inr carries
    · exact Or.inr (carries_step carries noCommand succeeds)

/-- The cadence reaches the command: what the user set before a stretch without commands and without
a failing save is in the store after thirty full checkpoints, even if a save in flight had cleared
the dirty flag. -/
theorem every_command_reaches_store (live : ZoneLive α β) (store : Option (ZoneLive α β))
    (before after : List (EntryEvent α β))
    (calm : ∀ e ∈ trace EntryLife.step (final EntryLife.step { live, store } before) after,
      NoCommand e ∧ SaveSucceeds e)
    (enough : ekfSaveEveryTicks ≤ (trace EntryLife.step
      (final EntryLife.step { live, store } before) after).countP CountedCheckpoint)
    (idle : (final EntryLife.step { live, store } (before ++ after)).saving = none) :
    (final EntryLife.step { live, store } (before ++ after)).store.map ZoneLive.intent =
      some (final EntryLife.step { live, store } (before ++ after)).live.intent := by
  rw [final_append] at idle ⊢
  set entry := final EntryLife.step { live, store } before
  have bounded : entry.saveCounter < ekfSaveEveryTicks :=
    counter_bounded_run { live, store } before (by decide : 0 < ekfSaveEveryTicks)
  have below := counter_bounded_run entry after bounded
  rcases calm_run entry after 0 calm (Or.inl (Nat.zero_le _)) with counted | carries
  · omega
  · unfold CarriesIntent at carries
    rw [idle] at carries
    exact carries

/-- A command that the flag forgets: it lands while the tick awaits its save. -/
def racingCommand : List (EntryEvent ℕ ℕ) :=
  [.command 1, .refresh false, .acquire, .checkpoint false, .command 2, .saved true]

def thirtyTicks : List (EntryEvent ℕ ℕ) :=
  (List.replicate 30 [.refresh false, .acquire, .checkpoint false]).flatten ++ [.saved true]

theorem racing_command_stored :
    let entry := final EntryLife.step { live := ⟨0, 0⟩ } (racingCommand ++ thirtyTicks)
    entry.store.map ZoneLive.intent = some entry.live.intent :=
  every_command_reaches_store ⟨0, 0⟩ none racingCommand thirtyTicks
    (by
      intro e member
      have calm : ∀ i ∈ thirtyTicks, (∀ intent, i ≠ .command intent) ∧ i ≠ .saved false := by
        simp [thirtyTicks]
      apply calm
      rw [← trace_map_input EntryLife.step (final EntryLife.step { live := ⟨0, 0⟩ } racingCommand)
        thirtyTicks]
      exact List.mem_map_of_mem member)
    (by decide +kernel) (by decide +kernel)

/-! ### The dirty flag -/

/-- No command lands while a tick awaits its save. -/
def NoRace (e : EntryStep α β) : Prop :=
  ∀ intent, e.input = .command intent → ¬ (e.pre.holder = some .tick ∧ e.pre.saving.isSome = true)

/-- A clear flag stands for a stored intent, unless no command came yet. -/
structure FlagSound (unset : Prop) (entry : EntryLife α β) : Prop where
  stored : entry.dirty = false → unset ∨
    entry.store.map ZoneLive.intent = some entry.live.intent
  payload : ∀ p, entry.saving = some p → entry.holder = some .tick ∨ entry.dirty = false →
    p.intent = entry.live.intent
  resting : entry.holder = none → entry.saving = none

variable {unset : Prop}

theorem FlagSound.same {next : EntryLife α β} (sound : FlagSound unset entry)
    (dirty : next.dirty = entry.dirty) (store : next.store = entry.store)
    (intent : next.live.intent = entry.live.intent) (saving : next.saving = entry.saving)
    (holder : next.holder = entry.holder) : FlagSound unset next := by
  constructor
  · rw [dirty, store, intent]
    exact sound.stored
  · rw [saving, holder, dirty, intent]
    exact sound.payload
  · rw [holder, saving]
    exact sound.resting

theorem FlagSound.release (sound : FlagSound unset entry) : FlagSound unset entry.release :=
  ⟨sound.stored, by simp [EntryLife.release], fun _ => rfl⟩

theorem FlagSound.startSave (sound : FlagSound unset entry) (use : LockUse) :
    FlagSound unset (entry.startSave use) := by
  refine ⟨sound.stored, fun p saving _ => ?_, by simp [EntryLife.startSave]⟩
  obtain rfl := Option.some.inj saving
  rfl

theorem FlagSound.enter (sound : FlagSound unset entry) (free : entry.holder = none)
    (use : LockUse) : FlagSound unset (entry.enter use) := by
  have rests := sound.resting free
  cases use with
  | finalSave | stopSave => exact sound.startSave _
  | options | drain => exact sound.same rfl rfl rfl rfl rfl
  | tick =>
    refine ⟨sound.stored, fun p saving _ => ?_, by simp [EntryLife.enter]⟩
    have none' : (entry.enter .tick).saving = none := rests
    rw [none'] at saving
    simp at saving

theorem FlagSound.saved (sound : FlagSound unset entry) {use : LockUse} {payload : ZoneLive α β}
    (holds : entry.holder = some use) (saving : entry.saving = some payload) (ok : Bool) :
    FlagSound unset (entry.saveReturned use payload ok).release := by
  have intent := sound.payload payload saving
  refine ⟨?_, by simp [EntryLife.release], fun _ => rfl⟩
  cases ok with
  | false => cases use <;> exact sound.stored
  | true =>
    -- the payload is what the flag then stands for
    cases use with
    | tick =>
      intro _
      refine Or.inr ?_
      simp [EntryLife.release, EntryLife.saveReturned, intent (Or.inl holds)]
    | options | drain | finalSave | stopSave =>
      intro clean
      refine Or.inr ?_
      have clear : entry.dirty = false := clean
      simp [EntryLife.release, EntryLife.saveReturned, intent (Or.inr clear)]

theorem flagSound_step (sound : FlagSound unset entry) {event : EntryEvent α β}
    (noCommand : ∀ intent, event ≠ .command intent) : FlagSound unset (entry.step event).1 := by
  cases event with
  | command intent => exact absurd rfl (noCommand intent)
  | acquire =>
    simp only [EntryLife.step]
    split
    next free _ =>
      apply FlagSound.enter
      · exact sound.same rfl rfl rfl rfl rfl
      · exact free
    next => exact sound
  | learn learned =>
    simp only [EntryLife.step]
    split
    · exact sound.same rfl rfl rfl rfl rfl
    · exact sound
  | checkpoint dirtyOnly =>
    simp only [EntryLife.step]
    split
    · split
      · exact sound.release
      · unfold EntryLife.maybeSave
        simp only
        split
        · apply FlagSound.startSave
          exact sound.same rfl rfl rfl rfl rfl
        · apply FlagSound.release
          exact sound.same rfl rfl rfl rfl rfl
    · exact sound
  | raise =>
    simp only [EntryLife.step]
    split
    · exact sound.release
    · exact sound
  | saved ok =>
    simp only [EntryLife.step]
    split
    next holds saving => exact sound.saved holds saving ok
    next => exact sound
  | platformsUnloaded ok =>
    simp only [EntryLife.step]
    split
    · cases ok <;> exact sound.same rfl rfl rfl rfl rfl
    · exact sound
  | refresh _ | unload | shutdown =>
    simp only [EntryLife.step]
    split
    · exact sound.same rfl rfl rfl rfl rfl
    · exact sound.same rfl rfl rfl rfl rfl
  | deviceWrite | park =>
    simp only [EntryLife.step]
    split <;> exact sound
  | optionsChanged | stop => exact sound.same rfl rfl rfl rfl rfl

theorem flagSound_command (sound : FlagSound unset entry) (intent : α) (other : Prop)
    (noRace : ¬ (entry.holder = some .tick ∧ entry.saving.isSome = true)) :
    FlagSound other (entry.step (.command intent)).1 := by
  refine ⟨by simp [EntryLife.step], fun p saving busy => ?_, sound.resting⟩
  have inFlight : entry.saving = some p := saving
  rcases busy with holds | clean
  · exact absurd ⟨holds, by rw [inFlight]; rfl⟩ noRace
  · simp [EntryLife.step] at clean

/-- The flag is honest: in every run in which no command lands while a tick awaits its save, a clear
flag means that the intent is in the store or was never set. -/
theorem clean_flag_means_stored (live : ZoneLive α β) (store : Option (ZoneLive α β))
    (events : List (EntryEvent α β))
    (noRace : ∀ e ∈ trace EntryLife.step { live, store } events, NoRace e)
    (clean : (final EntryLife.step { live, store } events).dirty = false) :
    (∀ e ∈ trace EntryLife.step { live, store } events, NoCommand e) ∨
      (final EntryLife.step { live, store } events).store.map ZoneLive.intent =
        some (final EntryLife.step { live, store } events).live.intent := by
  suffices sound : FlagSound (∀ e ∈ trace EntryLife.step { live, store } events, NoCommand e)
      (final EntryLife.step { live, store } events) from sound.stored clean
  apply history_invariant EntryLife.step
    (fun past entry => FlagSound (∀ e ∈ past, NoCommand e) entry) (fun _ e => NoRace e)
  · exact ⟨fun _ => Or.inl (by simp), by simp, fun _ => rfl⟩
  · intro past entry event sound race
    by_cases commands : ∃ intent, event = .command intent
    · obtain ⟨intent, rfl⟩ := commands
      exact flagSound_command sound intent _ (race intent rfl)
    · have noCommand : ∀ intent, event ≠ .command intent :=
        fun intent same => commands ⟨intent, same⟩
      have next := flagSound_step sound noCommand
      refine ⟨fun clear => (next.stored clear).imp_left fun silent => ?_, next.payload,
        next.resting⟩
      intro e member
      rcases List.mem_append.mp member with old | new
      · exact silent e old
      · obtain rfl := List.mem_singleton.mp new
        exact noCommand
  · intro past e moment
    exact noRace e (mem_of_moment _ moment)

/-- The command comes between two ticks, and the save that clears the flag has it. -/
theorem stored_between_ticks :
    let entry := final EntryLife.step { live := ⟨0, 0⟩ }
      [.refresh false, .acquire, .command 5, .checkpoint false, .saved true]
    (∀ e ∈ trace EntryLife.step { live := ⟨0, 0⟩ }
        [.refresh false, .acquire, .command 5, .checkpoint false, .saved true], NoCommand e) ∨
      entry.store.map ZoneLive.intent = some entry.live.intent := by
  apply clean_flag_means_stored (⟨0, 0⟩ : ZoneLive ℕ ℕ) none
  · simp [trace, NoRace, EntryLife.step, EntryLife.ask, EntryLife.enter, EntryLife.ticking,
      EntryLife.maybeSave, EntryLife.startSave]
  · decide +kernel

end Poise
