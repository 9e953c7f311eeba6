import Poise.Foundation.Trace

/-!
# The life of a zone entry

`coordinator.py` and the unload of `__init__.py`: ticks, option changes, the flush on a stop and the
unload share one lock, commands write the user intent at any time without it, and the save
checkpoint at the end of a tick decides what reaches the store. An event is one turn of the event
loop; a task that cannot move stays as it is, so a run is any interleaving. `asyncio.Lock` serves
its waiters in the order they came, and a refresh that meets the shutdown flag ends before it asks
for the lock.
-/
namespace Poise

def ekfSaveEveryTicks : ℕ := 30

/-- Who asks for the lock. -/
inductive LockUse where
  -- `_async_update_data`
  | tick
  -- `async_apply_options`
  | options
  -- The empty body at the end of `async_quiesce`.
  | drain
  -- `async_persist_and_cleanup`
  | finalSave
  -- `async_flush_on_stop`
  | stopSave
  deriving DecidableEq, Repr

/-- How far `async_unload_entry` has come. -/
inductive UnloadPhase where
  | loaded
  | detached
  | draining
  | quiet
  -- A platform did not unload; the entry stays as it is.
  | stuck
  | persisting
  | persisted (ok : Bool)
  deriving DecidableEq, Repr

/-- The state a payload snapshots: what the user set, and what the ticks learned. -/
structure ZoneLive (α β : Type*) where
  intent : α
  learned : β
  deriving DecidableEq, Repr

structure EntryLife (α β : Type*) where
  live : ZoneLive α β
  store : Option (ZoneLive α β) := none
  dirty : Bool := false
  saveCounter : ℕ := 0
  saveFailures : ℕ := 0
  -- The state-change subscription.
  listening : Bool := true
  shutdown : Bool := false
  holder : Option LockUse := none
  -- The payload of a `store.save` that is awaited.
  saving : Option (ZoneLive α β) := none
  waiting : List LockUse := []
  phase : UnloadPhase := .loaded
  deriving DecidableEq, Repr

inductive EntryEvent (α β : Type*) where
  -- A refresh comes up, asked for by an input change or by the schedule.
  | refresh (byInput : Bool)
  | optionsChanged
  | stop
  -- The first waiter gets the free lock.
  | acquire
  -- A setter of the user intent, from anywhere.
  | command (intent : α)
  -- Inside a tick: a write to the device, a fold of the learned state.
  | deviceWrite
  | learn (learned : β)
  -- The end of a tick; `dirtyOnly` without a room temperature.
  | checkpoint (dirtyOnly : Bool)
  | raise
  -- `store.save` returns or raises.
  | saved (ok : Bool)
  -- The stages of the unload.
  | unload
  | shutdown
  | platformsUnloaded (ok : Bool)
  | park
  deriving DecidableEq, Repr

inductive EntryAct where
  | silent
  | tickWrite
  | parkWrite
  deriving DecidableEq, Repr

namespace EntryLife

variable {α β : Type*}

def ask (entry : EntryLife α β) (use : LockUse) : EntryLife α β :=
  { entry with waiting := entry.waiting ++ [use] }

def release (entry : EntryLife α β) : EntryLife α β := { entry with holder := none, saving := none }

/-- `await self._store.save(self._save_payload())` up to its await. -/
def startSave (entry : EntryLife α β) (use : LockUse) : EntryLife α β :=
  { entry with holder := some use, saving := some entry.live }

/-- The first waiter enters and runs to its first await. -/
def enter (entry : EntryLife α β) : LockUse → EntryLife α β
  | .tick => { entry with holder := some .tick }
  | .options => entry
  | .drain => { entry with phase := .quiet }
  | .finalSave => entry.startSave .finalSave
  | .stopSave => entry.startSave .stopSave

/-- A tick that is not at its save. -/
def ticking (entry : EntryLife α β) : Bool := entry.holder = some .tick && entry.saving.isNone

/-- `_maybe_save` up to its await. -/
def maybeSave (entry : EntryLife α β) : EntryLife α β :=
  let entry := { entry with saveCounter := entry.saveCounter + 1 }
  if ekfSaveEveryTicks ≤ entry.saveCounter || entry.dirty then
    { entry with saveCounter := 0 }.startSave .tick
  else entry.release

/-- What follows `store.save`; only the tick judges the flag and counts failures. -/
def saveReturned (entry : EntryLife α β) (use : LockUse) (payload : ZoneLive α β) (ok : Bool) :
    EntryLife α β :=
  let entry := if ok then { entry with store := some payload } else entry
  match use with
  | .tick =>
    if ok then { entry with dirty := false, saveFailures := 0 }
    else { entry with saveFailures := entry.saveFailures + 1 }
  | .finalSave => { entry with phase := .persisted ok }
  | .stopSave | .options | .drain => entry

def step (entry : EntryLife α β) : EntryEvent α β → EntryLife α β × EntryAct
  | .refresh byInput =>
    if entry.shutdown || (byInput && !entry.listening) then (entry, .silent)
    else (entry.ask .tick, .silent)
  | .optionsChanged => (entry.ask .options, .silent)
  | .stop => (entry.ask .stopSave, .silent)
  | .acquire =>
    match entry.holder, entry.waiting with
    | none, use :: rest => ({ entry with waiting := rest }.enter use, .silent)
    | _, _ => (entry, .silent)
  | .command intent => ({ entry with live := { entry.live with intent }, dirty := true }, .silent)
  | .deviceWrite => if entry.ticking then (entry, .tickWrite) else (entry, .silent)
  | .learn learned =>
    if entry.ticking then ({ entry with live := { entry.live with learned } }, .silent)
    else (entry, .silent)
  | .checkpoint dirtyOnly =>
    if entry.ticking then
      if dirtyOnly && !entry.dirty then (entry.release, .silent) else (entry.maybeSave, .silent)
    else (entry, .silent)
  | .raise => if entry.ticking then (entry.release, .silent) else (entry, .silent)
  | .saved ok =>
    match entry.holder, entry.saving with
    | some use, some payload => ((entry.saveReturned use payload ok).release, .silent)
    | _, _ => (entry, .silent)
  | .unload =>
    if entry.phase = .loaded then ({ entry with phase := .detached, listening := false }, .silent)
    else (entry, .silent)
  | .shutdown =>
    if entry.phase = .detached then
      ({ entry with phase := .draining, shutdown := true }.ask .drain, .silent)
    else (entry, .silent)
  | .platformsUnloaded ok =>
    if entry.phase = .quiet then
      if ok then ({ entry with phase := .persisting }.ask .finalSave, .silent)
      else ({ entry with phase := .stuck }, .silent)
    else (entry, .silent)
  | .park =>
    match entry.phase with
    | .persisted _ => (entry, .parkWrite)
    | _ => (entry, .silent)

end EntryLife

end Poise
