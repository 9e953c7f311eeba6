import Poise.Foundation.Trace

/-!
# The trace recorder

`trace/recorder.py`: the tick only queues its line, drain tasks on the event loop hand batches to
the executor, and an executor thread appends them to a rotating file. An event is one turn of one of
these actors: the synchronous `enqueue`, a drain body resumed up to its next await, one line written
by the executor, and the two turns of `flush_on_unload`. An actor that cannot move stays as it is,
so a run is any interleaving. Nothing in the repository cancels a drain task.
-/
namespace Poise

def maxQueuedLines : Nat := 512

/-! ### The file -/

/-- The bytes of one appended line, its line break included. -/
def lineBytes (line : String) : Nat := line.utf8ByteSize + 1

def fileBytes : List String → Nat
  | [] => 0
  | line :: rest => lineBytes line + fileBytes rest

/-- The trace file and the one generation before it, as appended lines; `none` does not exist. -/
structure TraceFiles where
  current : Option (List String) := none
  previous : Option (List String) := none
  deriving DecidableEq, Repr

def TraceFiles.full (files : TraceFiles) (maxBytes : Nat) : Bool :=
  files.current.any fun lines => maxBytes ≤ fileBytes lines

/-- `self._path.replace(...)`: exactly one previous generation is kept. -/
def TraceFiles.rotate (files : TraceFiles) : TraceFiles := ⟨none, files.current⟩

def TraceFiles.makeRoom (files : TraceFiles) (maxBytes : Nat) : TraceFiles :=
  if files.full maxBytes then files.rotate else files

/-- One line of `_write`. -/
def TraceFiles.append (files : TraceFiles) (maxBytes : Nat) (line : String) : TraceFiles :=
  let files := files.makeRoom maxBytes
  { files with current := some (files.current.getD [] ++ [line]) }

/-! ### The queue and its drains -/

/-- Where one call of `_drain_queue` stands. -/
inductive DrainBody where
  -- A task that has not started: `eager_start=False`.
  | created
  -- Awaiting the executor, which has these lines of the batch still to write.
  | writing (rest : List String)
  | done
  deriving DecidableEq, Repr

inductive Flush where
  | idle
  -- `await task`
  | awaiting (task : Nat)
  -- Inside its own `_drain_queue`.
  | draining (body : Nat)
  | finished
  deriving DecidableEq, Repr

structure TraceRecorder where
  queue : List String := []
  -- `_drain`: the newest drain task, until the flush takes it.
  drain : Option Nat := none
  -- Every call of `_drain_queue` so far, oldest first.
  bodies : List DrainBody := []
  flush : Flush := .idle
  dropped : Nat := 0
  files : TraceFiles := {}
  deriving DecidableEq, Repr

/-- What an event did to queued lines. -/
inductive LineFate where
  | kept
  | dropped (line : String)
  | written (line : String)
  -- An `OSError` ended the job of the executor.
  | lost (lines : List String)
  deriving DecidableEq, Repr

inductive RecorderEvent where
  | enqueue (line : String)
  | resume (body : Nat)
  | write (body : Nat)
  -- The write fails, before or after the rotation that was due.
  | writeFails (body : Nat) (rotated : Bool)
  | flush
  | flushResumes
  deriving DecidableEq, Repr

def TraceRecorder.setBody (r : TraceRecorder) (k : Nat) (body : DrainBody) : TraceRecorder :=
  { r with bodies := r.bodies.set k body }

/-- `while self._queue:` up to the await, or the end of the body. -/
def TraceRecorder.loopHead (r : TraceRecorder) (k : Nat) : TraceRecorder :=
  if r.queue = [] then
    let r := r.setBody k .done
    if r.flush = .draining k then { r with flush := .finished } else r
  else { r.setBody k (.writing r.queue) with queue := [] }

/-- At the limit the oldest queued line makes room. -/
def TraceRecorder.dropOldest (r : TraceRecorder) : TraceRecorder × LineFate :=
  if maxQueuedLines ≤ r.queue.length then
    ({ r with queue := r.queue.tail, dropped := r.dropped + 1 },
      (r.queue.head?.map LineFate.dropped).getD .kept)
  else (r, .kept)

/-- `self._drain is None or self._drain.done()` starts a new task. -/
def TraceRecorder.ensureDrain (r : TraceRecorder) : TraceRecorder :=
  let running := r.drain.any fun k => r.bodies[k]?.any (· ≠ .done)
  if running then r
  else { r with bodies := r.bodies ++ [DrainBody.created], drain := some r.bodies.length }

def TraceRecorder.enqueue (r : TraceRecorder) (line : String) : TraceRecorder × LineFate :=
  let (r, fate) := r.dropOldest
  let r := { r with queue := r.queue ++ [line] }
  (r.ensureDrain, fate)

/-- The flush enters its own `_drain_queue`. -/
def TraceRecorder.drainInline (r : TraceRecorder) : TraceRecorder :=
  let k := r.bodies.length
  let r := { r with bodies := r.bodies ++ [DrainBody.created], flush := .draining k }
  r.loopHead k

/-- `flush_on_unload` up to its first await. -/
def TraceRecorder.startFlush (r : TraceRecorder) : TraceRecorder :=
  let task := r.drain
  let r := { r with drain := none }
  match task with
  | none => r.drainInline
  | some k => if r.bodies[k]? = some .done then r.drainInline else { r with flush := .awaiting k }

def TraceRecorder.step (maxBytes : Nat) (r : TraceRecorder) :
    RecorderEvent → TraceRecorder × LineFate
  | .enqueue line => r.enqueue line
  | .resume k =>
    match r.bodies[k]? with
    | some .created | some (.writing []) => (r.loopHead k, .kept)
    | _ => (r, .kept)
  | .write k =>
    match r.bodies[k]? with
    | some (.writing (line :: rest)) =>
      ({ r.setBody k (.writing rest) with files := r.files.append maxBytes line }, .written line)
    | _ => (r, .kept)
  | .writeFails k rotated =>
    match r.bodies[k]? with
    | some (.writing (line :: rest)) =>
      let files := if rotated then r.files.makeRoom maxBytes else r.files
      ({ r.setBody k (.writing []) with files }, .lost (line :: rest))
    | _ => (r, .kept)
  | .flush => if r.flush = .idle then (r.startFlush, .kept) else (r, .kept)
  | .flushResumes =>
    match r.flush with
    | .awaiting k => if r.bodies[k]? = some .done then (r.drainInline, .kept) else (r, .kept)
    | _ => (r, .kept)

end Poise
