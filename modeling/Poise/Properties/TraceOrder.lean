import Poise.Diagnostics.TraceRecorder

/-!
# The order of the trace

A queued line is written once and in the order of the ticks, whatever the interleaving of ticks,
drains, the executor and the unload: the recorder has one writer at a time, no queued line is left
without a drain that will see it, and the queue is bounded. The rotation keeps a contiguous end of
what was written.
-/
namespace Poise

open Trace

/-! ### What is on its way -/

def DrainBody.rest : DrainBody → List String
  | .writing rest => rest
  | .created | .done => []

def TraceRecorder.inFlight (r : TraceRecorder) : List String := r.bodies.flatMap DrainBody.rest

def TraceRecorder.pending (r : TraceRecorder) : List String := r.inFlight ++ r.queue

def Flush.busy : Flush → Bool
  | .awaiting _ | .draining _ => true
  | .idle | .finished => false

/-- The one body that may be running. -/
def TraceRecorder.writer (r : TraceRecorder) : Option Nat :=
  match r.flush with
  | .awaiting k | .draining k => some k
  | .idle | .finished => r.drain

def TraceRecorder.Running (r : TraceRecorder) (k : Nat) : Prop :=
  ∃ body, r.bodies[k]? = some body ∧ body ≠ .done

theorem flatMap_eq_nil_of_get {α β : Type*} {l : List α} {f : α → List β}
    (empty : ∀ (k : Nat) a, l[k]? = some a → f a = []) : l.flatMap f = [] := by
  rw [List.flatMap_eq_nil_iff]
  intro a member
  obtain ⟨k, at_k⟩ := List.mem_iff_getElem?.mp member
  exact empty k a at_k

/-- Only one place of the list contributes. -/
theorem flatMap_eq_of_get {α β : Type*} {l : List α} {f : α → List β} {k : Nat} {a : α}
    (here : l[k]? = some a) (others : ∀ (j : Nat) b, l[j]? = some b → j ≠ k → f b = []) :
    l.flatMap f = f a := by
  induction l generalizing k with
  | nil => simp at here
  | cons b l ih =>
    rw [List.flatMap_cons]
    cases k with
    | zero =>
      simp only [List.getElem?_cons_zero, Option.some.injEq] at here
      subst here
      have rest : l.flatMap f = [] :=
        flatMap_eq_nil_of_get fun j c at_j => others (j + 1) c (by simpa using at_j) (by omega)
      rw [rest, List.append_nil]
    | succ k =>
      have first : f b = [] := others 0 b (by simp) (by omega)
      rw [first, List.nil_append]
      apply ih (by simpa using here)
      intro j c at_j different
      exact others (j + 1) c (by simpa using at_j) (by omega)

/-! ### One writer -/

structure WellDrained (r : TraceRecorder) : Prop where
  single : ∀ k, r.Running k → r.writer = some k
  known : ∀ k, r.writer = some k → k < r.bodies.length
  -- No lost wake-up: queued lines are seen by a drain that still runs.
  awake : r.queue ≠ [] → ∃ k, r.Running k
  queued : r.queue.length ≤ maxQueuedLines
  batch : r.inFlight.length ≤ maxQueuedLines
  taken : r.flush.busy = true → r.drain = none
  inside : ∀ k, r.flush = .draining k → r.Running k

theorem wellDrained_initial (files : TraceFiles) : WellDrained { files } where
  single k := by simp [TraceRecorder.Running]
  known k := by simp [TraceRecorder.writer]
  awake := by simp
  queued := by simp
  batch := by simp [TraceRecorder.inFlight]
  taken := by simp [Flush.busy]
  inside := by simp

variable {r : TraceRecorder} {k : Nat}

theorem Running.lt (running : r.Running k) : k < r.bodies.length := by
  obtain ⟨body, here, -⟩ := running
  exact (List.getElem?_eq_some_iff.mp here).1

theorem inFlight_of_running (well : WellDrained r) {body : DrainBody}
    (here : r.bodies[k]? = some body) (runs : body ≠ .done) : r.inFlight = body.rest := by
  apply flatMap_eq_of_get here
  intro j other at_j different
  by_contra carries
  -- a second body with lines would be a second writer
  have second : r.Running j := ⟨other, at_j, by rintro rfl; exact carries rfl⟩
  have first := well.single k ⟨body, here, runs⟩
  have := well.single j second
  simp_all

theorem inFlight_of_idle (quiet : ∀ k, ¬ r.Running k) : r.inFlight = [] := by
  apply flatMap_eq_nil_of_get
  intro j body at_j
  cases body with
  | writing rest => exact absurd ⟨_, at_j, by simp⟩ (quiet j)
  | created | done => rfl

theorem running_setBody {body : DrainBody} (known : k < r.bodies.length) {j : Nat} :
    (r.setBody k body).Running j ↔ (j = k ∧ body ≠ .done) ∨ (j ≠ k ∧ r.Running j) := by
  unfold TraceRecorder.Running TraceRecorder.setBody
  by_cases same : j = k
  · subst same
    simp [known]
  · simp [List.getElem?_set_ne (Ne.symm same), same]

theorem inFlight_setBody (well : WellDrained r) (running : r.Running k) (body : DrainBody) :
    (r.setBody k body).inFlight = body.rest := by
  apply flatMap_eq_of_get (k := k)
  · simp [TraceRecorder.setBody, Running.lt running]
  · intro j other at_j different
    simp only [TraceRecorder.setBody, List.getElem?_set_ne (Ne.symm different)] at at_j
    by_contra carries
    have second : r.Running j := ⟨other, at_j, by rintro rfl; exact carries rfl⟩
    have first := well.single k running
    have := well.single j second
    simp_all

theorem only_running (well : WellDrained r) (running : r.Running k) {j : Nat}
    (other : r.Running j) : j = k := by
  have first := well.single k running
  rw [well.single j other] at first
  exact Option.some.inj first

@[simp] theorem writer_setBody (r : TraceRecorder) (k : Nat) (body : DrainBody) :
    (r.setBody k body).writer = r.writer := rfl

@[simp] theorem length_setBody (r : TraceRecorder) (k : Nat) (body : DrainBody) :
    (r.setBody k body).bodies.length = r.bodies.length := by
  simp [TraceRecorder.setBody]

theorem setBody_keeps (well : WellDrained r) (running : r.Running k) (body : DrainBody)
    (runs : body ≠ .done) (small : body.rest.length ≤ maxQueuedLines) :
    WellDrained (r.setBody k body) := by
  have known := Running.lt running
  have still : ∀ j, (r.setBody k body).Running j ↔ r.Running j := by
    intro j
    rw [running_setBody known]
    by_cases same : j = k
    · subst same
      simp [runs, running]
    · simp [same]
  constructor
  · intro j runs
    exact well.single j ((still j).mp runs)
  · intro j writes
    rw [length_setBody]
    exact well.known j writes
  · intro waiting
    exact ⟨k, (still k).mpr running⟩
  · exact well.queued
  · rw [inFlight_setBody well running]
    exact small
  · exact well.taken
  · intro j drains
    exact (still j).mpr (well.inside j drains)

theorem writing_keeps (well : WellDrained r) (running : r.Running k) :
    WellDrained { r.setBody k (.writing r.queue) with queue := [] } := by
  have kept := setBody_keeps well running (.writing r.queue) (by simp) well.queued
  exact ⟨kept.single, kept.known, by simp, by simp, kept.batch, kept.taken, kept.inside⟩

theorem done_keeps (well : WellDrained r) (running : r.Running k) (empty : r.queue = [])
    (outside : r.flush ≠ .draining k) : WellDrained (r.setBody k .done) := by
  have known := Running.lt running
  have quiet : ∀ j, ¬ (r.setBody k .done).Running j := by
    intro j runs
    rw [running_setBody known] at runs
    rcases runs with ⟨-, absurd⟩ | ⟨different, other⟩
    · exact absurd rfl
    · exact different (only_running well running other)
  constructor
  · intro j runs
    exact absurd runs (quiet j)
  · intro j writes
    rw [length_setBody]
    exact well.known j writes
  · intro waiting
    exact absurd empty waiting
  · exact well.queued
  · rw [inFlight_of_idle quiet]
    simp
  · exact well.taken
  · intro j drains
    have same := only_running well running (well.inside j drains)
    subst same
    exact absurd drains outside

theorem flushed_keeps (well : WellDrained r) (running : r.Running k) (empty : r.queue = [])
    (inside : r.flush = .draining k) :
    WellDrained { r.setBody k .done with flush := .finished } := by
  have known := Running.lt running
  have nobody : r.drain = none := well.taken (by rw [inside]; rfl)
  have quiet : ∀ j, ¬ (r.setBody k .done).Running j := by
    intro j runs
    rw [running_setBody known] at runs
    rcases runs with ⟨-, absurd⟩ | ⟨different, other⟩
    · exact absurd rfl
    · exact different (only_running well running other)
  constructor
  · intro j runs
    exact absurd runs (quiet j)
  · intro j writes
    simp [TraceRecorder.writer, TraceRecorder.setBody, nobody] at writes
  · intro waiting
    exact absurd empty waiting
  · exact well.queued
  · change (r.setBody k .done).inFlight.length ≤ maxQueuedLines
    rw [inFlight_of_idle quiet]
    simp
  · simp [Flush.busy]
  · simp

theorem loopHead_keeps (well : WellDrained r) (running : r.Running k) :
    WellDrained (r.loopHead k) := by
  unfold TraceRecorder.loopHead
  by_cases empty : r.queue = []
  · by_cases inside : r.flush = .draining k
    · simpa [empty, inside, TraceRecorder.setBody] using flushed_keeps well running empty inside
    · simpa [empty, inside, TraceRecorder.setBody] using done_keeps well running empty inside
  · simpa [empty] using writing_keeps well running

/-! ### What a turn does to the lines -/

def RecorderEvent.lines : RecorderEvent → List String
  | .enqueue line => [line]
  | _ => []

def LineFate.appended : LineFate → List String
  | .written line => [line]
  | _ => []

def LineFate.losses : LineFate → Nat
  | .dropped _ => 1
  | .lost lines => lines.length
  | _ => 0

/-- A turn keeps every line it does not write or lose, and in its place. -/
structure CarriesLines (before : List String) (i : RecorderEvent) (fate : LineFate)
    (r : TraceRecorder) : Prop where
  well : WellDrained r
  order : (fate.appended ++ r.pending).Sublist (before ++ i.lines)
  count : before.length + i.lines.length = fate.appended.length + r.pending.length + fate.losses

theorem carries_of_pending {before : List String} (well : WellDrained r) (i : RecorderEvent)
    (same : r.pending = before ++ i.lines) : CarriesLines before i .kept r := by
  refine ⟨well, ?_, ?_⟩
  · rw [same]
    exact List.Sublist.refl _
  · rw [same]
    simp [LineFate.appended, LineFate.losses]

theorem carries_self (well : WellDrained r) (i : RecorderEvent) (silent : i.lines = []) :
    CarriesLines r.pending i .kept r :=
  carries_of_pending well i (by rw [silent, List.append_nil])

theorem pending_loopHead (well : WellDrained r) {body : DrainBody} (here : r.bodies[k]? = some body)
    (runs : body ≠ .done) (written : body.rest = []) : (r.loopHead k).pending = r.pending := by
  have running : r.Running k := ⟨body, here, runs⟩
  have before : r.inFlight = [] := by rw [inFlight_of_running well here runs, written]
  have after := inFlight_setBody well running
  unfold TraceRecorder.pending
  rw [before]
  unfold TraceRecorder.loopHead
  by_cases empty : r.queue = []
  · have cleared : (r.bodies.set k .done).flatMap DrainBody.rest = [] := after .done
    simp only [empty, if_true]
    split
    · simpa [TraceRecorder.setBody, TraceRecorder.inFlight, empty] using cleared
    · simpa [TraceRecorder.setBody, TraceRecorder.inFlight, empty] using cleared
  · have taken : (r.setBody k (.writing r.queue)).inFlight = r.queue := after _
    simpa [empty, TraceRecorder.inFlight] using taken

theorem running_append {j : Nat} {queue : List String} {drain : Option Nat} {flush : Flush}
    {dropped : Nat} :
    ({ r with queue, bodies := r.bodies ++ [DrainBody.created], drain, flush, dropped } :
      TraceRecorder).Running j ↔ r.Running j ∨ j = r.bodies.length := by
  unfold TraceRecorder.Running
  rcases Nat.lt_trichotomy j r.bodies.length with before | rfl | after
  · simp [List.getElem?_append_left before, Nat.ne_of_lt before]
  · simp
  · have beyond : r.bodies[j]? = none := List.getElem?_eq_none (Nat.le_of_lt after)
    have beyond' : (r.bodies ++ [DrainBody.created])[j]? = none := by
      apply List.getElem?_eq_none
      rw [List.length_append]
      exact after
    simp [beyond, beyond', Nat.ne_of_gt after]

theorem inFlight_append (bodies : List DrainBody) :
    (bodies ++ [DrainBody.created]).flatMap DrainBody.rest = bodies.flatMap DrainBody.rest := by
  simp [DrainBody.rest]

theorem pending_of_quiet (well : WellDrained r) (quiet : ∀ j, ¬ r.Running j) : r.pending = [] := by
  have empty : r.queue = [] := by
    by_contra waiting
    obtain ⟨j, runs⟩ := well.awake waiting
    exact quiet j runs
  rw [TraceRecorder.pending, inFlight_of_idle quiet, empty, List.append_nil]

theorem drainInline_carries (well : WellDrained r) (quiet : ∀ j, ¬ r.Running j)
    (nobody : r.drain = none) (i : RecorderEvent) (silent : i.lines = []) :
    CarriesLines r.pending i .kept r.drainInline := by
  let entered : TraceRecorder :=
    { r with bodies := r.bodies ++ [DrainBody.created], flush := .draining r.bodies.length }
  have only : ∀ j, entered.Running j ↔ j = r.bodies.length := by
    intro j
    have split : entered.Running j ↔ r.Running j ∨ j = r.bodies.length := running_append
    simpa [quiet j] using split
  have inside : WellDrained entered := by
    constructor
    · intro j runs
      rw [(only j).mp runs]
      rfl
    · intro j writes
      simp only [entered, TraceRecorder.writer, Option.some.injEq] at writes
      simp [entered, ← writes]
    · intro _
      exact ⟨r.bodies.length, (only _).mpr rfl⟩
    · exact well.queued
    · have same : entered.inFlight = r.inFlight := inFlight_append r.bodies
      rw [same]
      exact well.batch
    · intro _
      exact nobody
    · intro j drains
      simp only [entered, Flush.draining.injEq] at drains
      exact (only j).mpr drains.symm
  have here : entered.bodies[r.bodies.length]? = some .created := by simp [entered]
  have runs := (only r.bodies.length).mpr rfl
  refine carries_of_pending (loopHead_keeps inside runs) i ?_
  have headed := pending_loopHead inside here (by simp) rfl
  have same : entered.pending = r.pending := by
    simp [TraceRecorder.pending, TraceRecorder.inFlight, entered, DrainBody.rest]
  rw [silent, List.append_nil, ← same]
  exact headed

/-- The flush waits for the drain that runs, or nothing runs and it drains itself. -/
theorem startFlush_cases (well : WellDrained r) (idle : r.flush = .idle) :
    ((∀ j, ¬ r.Running j) ∧ r.startFlush = { r with drain := none }.drainInline) ∨
    ∃ k, r.drain = some k ∧ (∀ j, r.Running j → j = k) ∧
      r.startFlush = { r with drain := none, flush := .awaiting k } := by
  have writes : r.writer = r.drain := by simp [TraceRecorder.writer, idle]
  unfold TraceRecorder.startFlush
  cases task : r.drain with
  | none =>
    refine Or.inl ⟨fun j runs => ?_, rfl⟩
    have := well.single j runs
    rw [writes, task] at this
    simp at this
  | some k =>
    have only : ∀ j, r.Running j → j = k := by
      intro j runs
      have := well.single j runs
      rw [writes, task] at this
      exact (Option.some.inj this).symm
    by_cases ended : r.bodies[k]? = some .done
    · refine Or.inl ⟨?_, by simp [ended]⟩
      rintro j ⟨body, here, running⟩
      have same := only j ⟨body, here, running⟩
      subst same
      simp_all
    · exact Or.inr ⟨k, rfl, only, by simp [ended]⟩

theorem drain_none_keeps (well : WellDrained r) (idle : r.flush = .idle)
    (quiet : ∀ j, ¬ r.Running j) : WellDrained { r with drain := none } := by
  refine ⟨fun j runs => absurd runs (quiet j), ?_, well.awake, well.queued, well.batch,
    fun _ => rfl, ?_⟩
  · intro j writes
    simp [TraceRecorder.writer, idle] at writes
  · intro j drains
    simp [idle] at drains

theorem startFlush_carries (well : WellDrained r) (idle : r.flush = .idle) :
    CarriesLines r.pending .flush .kept r.startFlush := by
  rcases startFlush_cases well idle with ⟨quiet, inline⟩ | ⟨k, task, only, waits⟩
  · rw [inline]
    exact drainInline_carries (drain_none_keeps well idle quiet) quiet rfl .flush rfl
  · rw [waits]
    refine carries_of_pending ?_ .flush (by simp [RecorderEvent.lines, TraceRecorder.pending,
      TraceRecorder.inFlight])
    refine ⟨?_, ?_, well.awake, well.queued, well.batch, fun _ => rfl, by simp⟩
    · intro j runs
      rw [only j runs]
      rfl
    · intro j waits
      simp only [TraceRecorder.writer, Option.some.injEq] at waits
      rw [← waits]
      exact well.known k (by simp [TraceRecorder.writer, idle, task])

theorem dropOldest_room (well : WellDrained r) :
    ∃ oldest, r.queue = oldest ++ r.dropOldest.1.queue ∧
      r.dropOldest.2.appended = [] ∧ r.dropOldest.2.losses = oldest.length ∧
      r.dropOldest.1.queue.length < maxQueuedLines := by
  have bound := well.queued
  unfold TraceRecorder.dropOldest
  by_cases overflow : maxQueuedLines ≤ r.queue.length
  · cases queue : r.queue with
    | nil =>
      rw [queue] at overflow
      simp [maxQueuedLines] at overflow
    | cons oldest rest =>
      rw [queue] at overflow bound
      refine ⟨[oldest], ?_⟩
      simp only [List.length_cons] at overflow bound
      simp only [List.length_cons, overflow, if_true, List.tail_cons, List.singleton_append,
        List.head?_cons, Option.map_some, Option.getD_some, LineFate.appended, LineFate.losses,
        List.length_nil, true_and]
      omega
  · exact ⟨[], by simp [overflow, LineFate.appended, LineFate.losses, Nat.lt_of_not_le overflow]⟩

theorem dropOldest_frame (r : TraceRecorder) :
    r.dropOldest.1 = { r with
      queue := r.dropOldest.1.queue, dropped := r.dropOldest.1.dropped } := by
  unfold TraceRecorder.dropOldest
  split <;> rfl

theorem ensureDrain_cases (r : TraceRecorder) :
    (∃ k, r.drain = some k ∧ r.Running k ∧ r.ensureDrain = r) ∨
    ((∀ k, r.drain = some k → ¬ r.Running k) ∧ r.ensureDrain =
      { r with bodies := r.bodies ++ [DrainBody.created], drain := some r.bodies.length }) := by
  unfold TraceRecorder.ensureDrain
  cases task : r.drain with
  | none => simp
  | some k =>
    cases here : r.bodies[k]? with
    | none => simp [TraceRecorder.Running, here]
    | some body =>
      by_cases ended : body = .done
      · simp [TraceRecorder.Running, here, ended]
      · simp [TraceRecorder.Running, here, ended]

theorem enqueue_frame (r : TraceRecorder) (line : String) :
    (r.enqueue line).1.flush = r.flush ∧ (r.enqueue line).1.files = r.files := by
  have made := dropOldest_frame r
  simp only [TraceRecorder.enqueue]
  rcases ensureDrain_cases { r.dropOldest.1 with queue := r.dropOldest.1.queue ++ [line] } with
    ⟨-, -, -, same⟩ | ⟨-, started⟩
  · rw [same, made]
    exact ⟨rfl, rfl⟩
  · rw [started, made]
    exact ⟨rfl, rfl⟩

/-- A line joins the queue under the protection of a running drain, or starts one. -/
theorem ensureDrain_carries (well : WellDrained r) (free : r.flush.busy = false)
    {rest : List String} (line : String) (room : rest.length < maxQueuedLines) (dropped : Nat) :
    let queued : TraceRecorder := { r with queue := rest ++ [line], dropped }
    WellDrained queued.ensureDrain ∧
      queued.ensureDrain.pending = r.inFlight ++ (rest ++ [line]) := by
  intro queued
  have writes : r.writer = r.drain := by
    unfold TraceRecorder.writer
    cases phase : r.flush <;> simp_all [Flush.busy]
  rcases ensureDrain_cases queued with ⟨k, -, running, same⟩ | ⟨ended, started⟩
  · rw [same]
    refine ⟨⟨well.single, well.known, fun _ => ⟨k, running⟩, ?_, well.batch, well.taken,
      well.inside⟩, rfl⟩
    simp only [queued, List.length_append]
    exact room
  · have nobody : ∀ j, ¬ r.Running j := by
      intro j runs
      have task := well.single j runs
      rw [writes] at task
      exact ended j task runs
    rw [started]
    refine ⟨⟨?_, ?_, ?_, ?_, ?_, ?_, ?_⟩, ?_⟩
    · intro j runs
      rw [running_append] at runs
      rcases runs with before | rfl
      · exact absurd before (nobody j)
      · cases phase : r.flush <;> simp_all [queued, TraceRecorder.writer, Flush.busy]
    · intro j drains
      cases phase : r.flush <;> simp_all [queued, TraceRecorder.writer, Flush.busy]
    · intro _
      exact ⟨r.bodies.length, running_append.mpr (Or.inr rfl)⟩
    · simp only [queued, List.length_append]
      exact room
    · have same := inFlight_append r.bodies
      unfold TraceRecorder.inFlight
      simp only [queued]
      rw [same]
      exact well.batch
    · intro busy
      simp only [queued] at busy
      rw [free] at busy
      simp at busy
    · intro j drains
      simp only [queued] at drains
      rw [drains] at free
      simp [Flush.busy] at free
    · simp [queued, TraceRecorder.pending, TraceRecorder.inFlight, DrainBody.rest]

theorem enqueue_carries (well : WellDrained r) (free : r.flush.busy = false) (line : String) :
    CarriesLines r.pending (.enqueue line) (r.enqueue line).2 (r.enqueue line).1 := by
  obtain ⟨oldest, queue, silent, losses, room⟩ := dropOldest_room well
  have made := dropOldest_frame r
  have next : (r.enqueue line).1 = ({ r with
      queue := r.dropOldest.1.queue ++ [line], dropped := r.dropOldest.1.dropped } :
        TraceRecorder).ensureDrain := by
    simp only [TraceRecorder.enqueue]
    rw [made]
  obtain ⟨kept, pending⟩ := ensureDrain_carries well free line room r.dropOldest.1.dropped
  rw [← next] at kept pending
  have before : r.pending = r.inFlight ++ (oldest ++ r.dropOldest.1.queue) := by
    rw [TraceRecorder.pending, ← queue]
  have fate : (r.enqueue line).2 = r.dropOldest.2 := rfl
  refine ⟨kept, ?_, ?_⟩
  · rw [fate, silent, pending, before, List.nil_append, List.append_assoc, List.append_assoc]
    exact (List.sublist_append_right oldest _).append_left r.inFlight
  · rw [fate, silent, pending, before, losses]
    simp only [RecorderEvent.lines, List.length_append, List.length_nil, List.length_singleton]
    omega

theorem write_carries (well : WellDrained r) {line : String} {rest : List String}
    (here : r.bodies[k]? = some (.writing (line :: rest))) (files : TraceFiles) :
    CarriesLines r.pending (.write k) (.written line)
      { r.setBody k (.writing rest) with files } := by
  have running : r.Running k := ⟨_, here, by simp⟩
  have flying : r.inFlight = line :: rest := inFlight_of_running well here (by simp)
  have after : (r.setBody k (.writing rest)).inFlight = rest := inFlight_setBody well running _
  have small : rest.length ≤ maxQueuedLines := by
    have bound := well.batch
    rw [flying, List.length_cons] at bound
    omega
  have kept := setBody_keeps well running (.writing rest) (by simp) small
  have pending : ({ r.setBody k (.writing rest) with files } : TraceRecorder).pending =
      rest ++ r.queue := congrArg (· ++ r.queue) after
  refine ⟨⟨kept.single, kept.known, kept.awake, kept.queued, kept.batch, kept.taken, kept.inside⟩,
    ?_, ?_⟩
  · rw [pending, TraceRecorder.pending, flying]
    simp [LineFate.appended]
  · rw [pending, TraceRecorder.pending, flying]
    simp only [RecorderEvent.lines, LineFate.appended, LineFate.losses, List.length_append,
      List.length_cons, List.length_nil]
    omega

theorem writeFails_carries (well : WellDrained r) {rest : List String} (rotated : Bool)
    (here : r.bodies[k]? = some (.writing rest)) (files : TraceFiles) :
    CarriesLines r.pending (.writeFails k rotated) (.lost rest)
      { r.setBody k (.writing []) with files } := by
  have running : r.Running k := ⟨_, here, by simp⟩
  have flying : r.inFlight = rest := inFlight_of_running well here (by simp)
  have after : (r.setBody k (.writing [])).inFlight = [] := inFlight_setBody well running _
  have kept := setBody_keeps well running (.writing []) (by simp) (by simp [DrainBody.rest])
  have pending : ({ r.setBody k (.writing []) with files } : TraceRecorder).pending = r.queue :=
    congrArg (· ++ r.queue) after
  refine ⟨⟨kept.single, kept.known, kept.awake, kept.queued, kept.batch, kept.taken, kept.inside⟩,
    ?_, ?_⟩
  · rw [pending, TraceRecorder.pending]
    simp [LineFate.appended, RecorderEvent.lines]
  · rw [pending, TraceRecorder.pending, flying]
    simp only [RecorderEvent.lines, LineFate.appended, LineFate.losses, List.length_append,
      List.length_nil]
    omega

theorem quiet_of_awaited (well : WellDrained r) (waits : r.flush = .awaiting k)
    (ended : r.bodies[k]? = some .done) : ∀ j, ¬ r.Running j := by
  -- the only body that could run is the one that is ended
  rintro j ⟨body, here, running⟩
  have same := well.single j ⟨body, here, running⟩
  simp only [TraceRecorder.writer, waits, Option.some.injEq] at same
  subst same
  simp_all

theorem step_carries (maxBytes : Nat) (well : WellDrained r) (i : RecorderEvent)
    (free : i.lines ≠ [] → r.flush.busy = false) :
    CarriesLines r.pending i (r.step maxBytes i).2 (r.step maxBytes i).1 := by
  cases i with
  | enqueue line => exact enqueue_carries well (free (by simp [RecorderEvent.lines])) line
  | resume k =>
    unfold TraceRecorder.step
    simp only
    split
    next here =>
      refine carries_of_pending (loopHead_keeps well ⟨_, here, by simp⟩) _ ?_
      simpa [RecorderEvent.lines] using pending_loopHead well here (by simp) rfl
    next here =>
      refine carries_of_pending (loopHead_keeps well ⟨_, here, by simp⟩) _ ?_
      simpa [RecorderEvent.lines] using pending_loopHead well here (by simp) rfl
    next => exact carries_self well _ rfl
  | write k =>
    unfold TraceRecorder.step
    simp only
    split
    next here => exact write_carries well here _
    next => exact carries_self well _ rfl
  | writeFails k rotated =>
    unfold TraceRecorder.step
    simp only
    split
    next here => exact writeFails_carries well rotated here _
    next => exact carries_self well _ rfl
  | flush =>
    unfold TraceRecorder.step
    simp only
    split
    next idle => exact startFlush_carries well idle
    next => exact carries_self well _ rfl
  | flushResumes =>
    cases waits : r.flush with
    | awaiting k =>
      simp only [TraceRecorder.step, waits]
      split
      next ended =>
        exact drainInline_carries well (quiet_of_awaited well waits ended)
          (well.taken (by rw [waits]; rfl)) _ rfl
      next => exact carries_self well _ rfl
    | idle | draining _ | finished =>
      simp only [TraceRecorder.step, waits]
      exact carries_self well _ rfl

theorem loopHead_finishes {body : DrainBody} (well : WellDrained r)
    (here : r.bodies[k]? = some body) (runs : body ≠ .done) (written : body.rest = [])
    (before : r.flush ≠ .finished) (after : (r.loopHead k).flush = .finished) :
    (r.loopHead k).pending = [] := by
  rw [pending_loopHead well here runs written, TraceRecorder.pending,
    inFlight_of_running well here runs, written, List.nil_append]
  by_contra waiting
  simp [TraceRecorder.loopHead, waiting, TraceRecorder.setBody] at after
  exact before after

theorem pending_nil_of_carries {before : List String} {i : RecorderEvent}
    (carries : CarriesLines before i .kept r) (nothing : before = []) (silent : i.lines = []) :
    r.pending = [] := by
  have total := carries.count
  rw [nothing, silent] at total
  simp only [List.length_nil, LineFate.appended, LineFate.losses, Nat.zero_add,
    Nat.add_zero] at total
  exact List.eq_nil_of_length_eq_zero total.symm

/-- The flush ends with nothing queued and nothing in flight. -/
theorem step_finishes (maxBytes : Nat) (well : WellDrained r) (i : RecorderEvent)
    (before : r.flush ≠ .finished) (after : (r.step maxBytes i).1.flush = .finished) :
    (r.step maxBytes i).1.pending = [] := by
  cases i with
  | enqueue line =>
    exact absurd ((enqueue_frame r line).1.symm.trans after) before
  | resume k =>
    unfold TraceRecorder.step at after ⊢
    simp only at after ⊢
    split at after
    next here =>
      simp only
      exact loopHead_finishes well here (by simp) rfl before after
    next here =>
      simp only
      exact loopHead_finishes well here (by simp) rfl before after
    next => exact absurd after before
  | write k =>
    unfold TraceRecorder.step at after
    simp only at after
    split at after
    · exact absurd after before
    · exact absurd after before
  | writeFails k rotated =>
    unfold TraceRecorder.step at after
    simp only at after
    split at after
    · exact absurd after before
    · exact absurd after before
  | flush =>
    simp only [TraceRecorder.step] at after ⊢
    split at after
    next idle =>
      simp only [idle, if_true]
      rcases startFlush_cases well idle with ⟨quiet, -⟩ | ⟨k, -, -, waits⟩
      · exact pending_nil_of_carries (startFlush_carries well idle) (pending_of_quiet well quiet)
          rfl
      · rw [waits] at after
        simp at after
    next => exact absurd after before
  | flushResumes =>
    cases waits : r.flush with
    | awaiting k =>
      simp only [TraceRecorder.step, waits] at after ⊢
      split at after
      next ended =>
        have quiet := quiet_of_awaited well waits ended
        simp only [ended, if_true]
        exact pending_nil_of_carries (drainInline_carries well quiet
          (well.taken (by rw [waits]; rfl)) .flushResumes rfl) (pending_of_quiet well quiet) rfl
      next =>
        rw [waits] at after
        simp at after
    | idle | draining _ | finished =>
      have still : (r.step maxBytes .flushResumes).1 = r := by simp only [TraceRecorder.step, waits]
      rw [still] at after
      exact absurd after before

/-! ### Whole runs -/

abbrev RecorderStep := Step TraceRecorder RecorderEvent LineFate

def enqueuedLines (past : List RecorderStep) : List String := past.flatMap fun e => e.input.lines

def appendedLines (past : List RecorderStep) : List String :=
  past.flatMap fun e => e.output.appended

def lineLosses : List RecorderStep → Nat
  | [] => 0
  | e :: rest => e.output.losses + lineLosses rest

theorem lineLosses_append (past : List RecorderStep) (e : RecorderStep) :
    lineLosses (past ++ [e]) = lineLosses past + e.output.losses := by
  induction past with
  | nil => simp [lineLosses]
  | cons f past ih =>
    simp only [List.cons_append, lineLosses, ih]
    omega

structure Accounted (past : List RecorderStep) (r : TraceRecorder) : Prop where
  well : WellDrained r
  order : (appendedLines past ++ r.pending).Sublist (enqueuedLines past)
  count : (enqueuedLines past).length =
    (appendedLines past).length + r.pending.length + lineLosses past

theorem accounted_initial (files : TraceFiles) : Accounted [] { files } where
  well := wellDrained_initial files
  order := by simp [appendedLines, TraceRecorder.pending, TraceRecorder.inFlight]
  count := by simp [enqueuedLines, appendedLines, lineLosses, TraceRecorder.pending,
    TraceRecorder.inFlight]

theorem accounted_step (maxBytes : Nat) {past : List RecorderStep} (i : RecorderEvent)
    (before : Accounted past r) (free : i.lines ≠ [] → r.flush.busy = false) :
    Accounted (past ++ [Step.of (TraceRecorder.step maxBytes) r i]) (r.step maxBytes i).1 := by
  have turn := step_carries maxBytes before.well i free
  refine ⟨turn.well, ?_, ?_⟩
  · simp only [enqueuedLines, appendedLines, List.flatMap_append, List.flatMap_singleton,
      Step.of_input, Step.of_output]
    rw [List.append_assoc]
    refine (turn.order.append_left _).trans ?_
    rw [← List.append_assoc]
    exact before.order.append_right _
  · have total := before.count
    have here := turn.count
    rw [lineLosses_append]
    simp only [enqueuedLines, appendedLines, List.flatMap_append, List.flatMap_singleton,
      List.length_append, Step.of_input, Step.of_output] at *
    omega

/-- Nothing is queued between the turns of the flush: no tick runs any more. -/
def QuietFlush (e : RecorderStep) : Prop := e.input.lines ≠ [] → e.pre.flush.busy = false

instance : DecidablePred QuietFlush := fun e =>
  inferInstanceAs (Decidable (e.input.lines ≠ [] → e.pre.flush.busy = false))

variable {maxBytes : Nat} {files : TraceFiles} {events : List RecorderEvent}

theorem accounted_run
    (quiet : ∀ e ∈ trace (TraceRecorder.step maxBytes) { files } events, QuietFlush e) :
    Accounted (trace (TraceRecorder.step maxBytes) { files } events)
      (final (TraceRecorder.step maxBytes) { files } events) := by
  apply history_invariant (TraceRecorder.step maxBytes) Accounted (fun _ e => QuietFlush e)
  · exact accounted_initial files
  · intro past r i before free
    exact accounted_step maxBytes i before free
  · intro past e moment
    exact quiet e (mem_of_moment _ moment)

/-- Whatever the interleaving: one writer, nothing twice, nothing out of order, nothing forgotten,
and at most two queues of lines in memory. -/
theorem recorder_keeps_order (maxBytes : Nat) (files : TraceFiles) (events : List RecorderEvent)
    (quiet : ∀ e ∈ trace (TraceRecorder.step maxBytes) { files } events, QuietFlush e) :
    let past := trace (TraceRecorder.step maxBytes) { files } events
    let r := final (TraceRecorder.step maxBytes) { files } events
    (∀ j k, r.Running j → r.Running k → j = k) ∧
    (appendedLines past ++ r.pending).Sublist (enqueuedLines past) ∧
    (enqueuedLines past).length = (appendedLines past).length + r.pending.length + lineLosses past ∧
    r.pending.length ≤ 2 * maxQueuedLines ∧
    (r.pending ≠ [] → ∃ k, r.Running k) := by
  intro past r
  have accounted := accounted_run quiet
  have well : WellDrained r := accounted.well
  refine ⟨fun j k first second => only_running well second first, accounted.order, accounted.count,
    ?_, ?_⟩
  · have queued := well.queued
    have batch := well.batch
    simp only [TraceRecorder.pending, List.length_append]
    omega
  · intro waiting
    by_contra nobody
    exact waiting (pending_of_quiet well (fun k runs => nobody ⟨k, runs⟩))

/-- Two lines, a third while the first batch is written, and an unload in the middle of it. -/
def unloadRun : List RecorderEvent :=
  [.enqueue "a", .enqueue "b", .resume 0, .write 0, .enqueue "c", .flush, .write 0, .resume 0,
    .write 0, .resume 0, .flushResumes]

theorem unload_run_is_quiet : ∀ e ∈ trace (TraceRecorder.step 3) {} unloadRun, QuietFlush e := by
  decide +kernel

theorem unload_run_in_order :
    let past := trace (TraceRecorder.step 3) {} unloadRun
    let r := final (TraceRecorder.step 3) {} unloadRun
    (∀ j k, r.Running j → r.Running k → j = k) ∧
    (appendedLines past ++ r.pending).Sublist (enqueuedLines past) ∧
    (enqueuedLines past).length = (appendedLines past).length + r.pending.length + lineLosses past ∧
    r.pending.length ≤ 2 * maxQueuedLines ∧
    (r.pending ≠ [] → ∃ k, r.Running k) :=
  recorder_keeps_order 3 {} unloadRun unload_run_is_quiet

/-- The unload waits for the lines: when its flush ends, every line that was queued is written or
counted as lost, and without a loss the file got exactly the lines of the ticks. -/
theorem flush_writes_all (maxBytes : Nat) (files : TraceFiles) (events : List RecorderEvent)
    (i : RecorderEvent)
    (quiet : ∀ e ∈ trace (TraceRecorder.step maxBytes) { files } (events ++ [i]), QuietFlush e)
    (before : (final (TraceRecorder.step maxBytes) { files } events).flush ≠ .finished)
    (after : (final (TraceRecorder.step maxBytes) { files } (events ++ [i])).flush = .finished) :
    let past := trace (TraceRecorder.step maxBytes) { files } (events ++ [i])
    (appendedLines past).Sublist (enqueuedLines past) ∧
    (enqueuedLines past).length = (appendedLines past).length + lineLosses past ∧
    (lineLosses past = 0 → appendedLines past = enqueuedLines past) := by
  intro past
  have earlier : ∀ e ∈ trace (TraceRecorder.step maxBytes) { files } events, QuietFlush e := by
    intro e member
    apply quiet e
    rw [trace_append]
    exact List.mem_append_left _ member
  have accounted := accounted_run quiet
  have ended : (final (TraceRecorder.step maxBytes) { files } (events ++ [i])).pending = [] := by
    rw [final_append] at after ⊢
    exact step_finishes maxBytes (accounted_run earlier).well i before after
  have order := accounted.order
  have count := accounted.count
  rw [ended, List.append_nil] at order
  rw [ended, List.length_nil, Nat.add_zero] at count
  refine ⟨order, count, fun lossless => ?_⟩
  apply order.eq_of_length
  rw [count, lossless, Nat.add_zero]

theorem unload_run_writes_all :
    let past := trace (TraceRecorder.step 3) {} unloadRun
    (appendedLines past).Sublist (enqueuedLines past) ∧
    (enqueuedLines past).length = (appendedLines past).length + lineLosses past ∧
    (lineLosses past = 0 → appendedLines past = enqueuedLines past) :=
  flush_writes_all 3 {} unloadRun.dropLast .flushResumes unload_run_is_quiet (by decide +kernel)
    (by decide +kernel)

end Poise
