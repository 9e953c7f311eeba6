import Poise.Control.AdoptionChannels
import Poise.Foundation.Trace

/-!
# Phantom setpoint holds

When a run of the setpoint channel adopts a reading that no user chose: the
constant reading of a static device, and the late echo of a command.
-/
namespace Poise

open Rounding Trace

abbrev SetpointMoment := Step ZoneRuntime SetpointEvent (Option ℚ)

def SetpointEvent.reading : SetpointEvent → Option ℚ
  | .observe i => i.actualSp
  | .write w => w.reading

def valveWrite (now value : ℚ) (reading : Option ℚ) : SetpointDispatch where
  now := now
  value := value
  reading := reading
  contextId := "setpoint"
  sent := true

/-! ### A static device -/

/-- Every available reading is the one value `v`. -/
def StaticReading (v : ℚ) (event : SetpointEvent) : Prop :=
  ∀ reading, event.reading = some reading → reading = v

instance (v : ℚ) (event : SetpointEvent) : Decidable (StaticReading v event) := by
  unfold StaticReading
  infer_instance

/-- The reading returns, the gates open and the echo window over, after an
observation that found none: the move guard has nothing to compare it with. -/
def forgottenReturn (v : ℚ) (e : SetpointMoment) : Bool :=
  match e.input with
  | .write _ => false
  | .observe i =>
    (i.setpointGates (e.pre.external.isOwnWrite i.contextId)).letSetpoint &&
      i.actualSp = some v && e.pre.external.prevDeviceSp.isNone &&
      0 < roundTo (v - frostFloorC) 3 &&
      (e.pre.external.lastWrittenSp.any fun written => i.adoptDeadband ≤ distance v written) &&
      e.pre.external.lastSpWriteTs.any fun writtenAt =>
        setpointAdoptEchoWindowS ≤ i.now - writtenAt

/-- The remembered readings are the device's one value, or missing. -/
structure Remembered (v : ℚ) (rt : ZoneRuntime) : Prop where
  preWrite : ∀ pre, rt.external.preWriteSp = some pre → pre = v
  prev : ∀ prev, rt.external.prevDeviceSp = some prev → prev = v

theorem adoptDeadband_pos (i : TickInput) : 0 < i.adoptDeadband :=
  lt_of_lt_of_le (by norm_num [writeDeadbandC]) (le_max_left _ _)

theorem Remembered.adopts_iff {v : ℚ} {rt : ZoneRuntime} {event : SetpointEvent}
    (remembered : Remembered v rt) (static : StaticReading v event) :
    (setpointStep rt event).2 ≠ none ↔ forgottenReturn v (Step.of setpointStep rt event) = true := by
  cases event with
  | write w => simp [setpointStep, forgottenReturn]
  | observe i =>
    -- a remembered `v` is never a deadband away from the reading `v`
    have unmoved : ¬ i.adoptDeadband ≤ distance v v := by
      rw [distance_self, not_le]
      exact adoptDeadband_pos i
    show (stageSetpointObserve rt i (rt.external.isOwnWrite i.contextId) false).2.adoptedSp ≠ none ↔
      forgottenReturn v (Step.of setpointStep rt (.observe i)) = true
    simp only [Option.ne_none_iff_exists', observe_adopts, forgottenReturn, Step.of_input,
      Step.of_pre, Bool.and_eq_true, decide_eq_true_eq, Option.isNone_iff_eq_none]
    constructor
    · rintro ⟨a, reads, opened, written, writtenAt, baseline, stamp, apart, above, inside, outside⟩
      obtain rfl : a = v := static a reads
      have elapsed : setpointAdoptEchoWindowS ≤ i.now - writtenAt := by
        by_contra within
        obtain ⟨pre, known, moved⟩ := inside (not_le.mp within)
        exact unmoved (remembered.preWrite pre known ▸ moved)
      have missing : rt.external.prevDeviceSp = none := by
        cases known : rt.external.prevDeviceSp with
        | none => rfl
        | some prev => exact absurd (remembered.prev prev known ▸ outside elapsed prev known) unmoved
      exact ⟨⟨⟨⟨⟨opened, reads⟩, missing⟩, above⟩, by simpa [baseline] using apart⟩,
        by simpa [stamp] using elapsed⟩
    · rintro ⟨⟨⟨⟨⟨opened, reads⟩, missing⟩, above⟩, leftBaseline⟩, windowElapsed⟩
      obtain ⟨written, baseline, apart⟩ := (Option.any_eq_true _ _).mp leftBaseline
      obtain ⟨writtenAt, stamp, elapsed⟩ := (Option.any_eq_true _ _).mp windowElapsed
      simp only [decide_eq_true_eq] at apart elapsed
      refine ⟨v, reads, opened, written, writtenAt, baseline, stamp, apart, above, ?_, ?_⟩
      · exact fun within => absurd within (not_lt.mpr elapsed)
      · simp [missing]

theorem Remembered.step {v : ℚ} {rt : ZoneRuntime} {event : SetpointEvent}
    (remembered : Remembered v rt) (static : StaticReading v event)
    (silent : (setpointStep rt event).2 = none) : Remembered v (setpointStep rt event).1 := by
  cases event with
  | write w =>
    obtain ⟨preWrite, prev, _⟩ := write_baselines rt w
    constructor
    · intro pre known
      exact static pre (preWrite.symm.trans known)
    · intro last known
      exact remembered.prev last (prev.symm.trans known)
  | observe i =>
    obtain ⟨preWrite, prev, _⟩ := observe_idle_baselines silent
    constructor
    · intro pre known
      exact remembered.preWrite pre (preWrite.symm.trans known)
    · intro last known
      exact static last (prev.symm.trans known)

/-- A static device is never adopted in a run exactly when no forgotten return
happens in it. -/
theorem static_device_unadopted_iff (v : ℚ) (events : List SetpointEvent)
    (static : ∀ event ∈ events, StaticReading v event) :
    (∀ e ∈ trace setpointStep {} events, e.output = none) ↔
      ∀ e ∈ trace setpointStep {} events, forgottenReturn v e = false := by
  apply forall_trace_iff setpointStep (Remembered v) (StaticReading v)
  · exact ⟨by simp, by simp⟩
  · exact static
  · intro rt event remembered still
    have adopts := remembered.adopts_iff still
    rw [Step.of_output, ← not_iff_not, ← ne_eq, adopts, Bool.not_eq_false]
  · intro rt event remembered still silent
    exact remembered.step still silent

/-- The constant reading of a running device is safe: it is remembered from tick to tick. -/
def settledOffset : List SetpointEvent :=
  [.observe (valveTick 0 (some 20)), .write (valveWrite 0 24 (some 20)),
    .observe (valveTick 60 (some 20)), .observe (valveTick 120 (some 20)), .observe (valveTick 180 (some 20))]

def droppedOffset : List SetpointEvent :=
  [.observe (valveTick 0 (some 20)), .write (valveWrite 0 24 (some 20)),
    .observe (valveTick 60 (some 20)), .observe (valveTick 120 none), .observe (valveTick 180 (some 20))]

theorem static_device_settled :
    (∀ e ∈ trace setpointStep {} settledOffset, forgottenReturn 20 e = false) ∧
      ∀ e ∈ trace setpointStep {} settledOffset, e.output = none := by
  have known : ∀ e ∈ trace setpointStep {} settledOffset, forgottenReturn 20 e = false := by
    decide +kernel
  exact ⟨known, (static_device_unadopted_iff 20 settledOffset (by decide +kernel)).mpr known⟩

/-- One missing reading forgets the settled offset, and the device's return is
adopted as a user hold. -/
theorem static_device_adopted_after_dropout :
    ¬ ∀ (v : ℚ) (events : List SetpointEvent), (∀ event ∈ events, StaticReading v event) →
      ∀ e ∈ trace setpointStep {} events, e.output = none := by
  intro claim
  have adopted : ¬ ∀ e ∈ trace setpointStep {} droppedOffset, e.output = none := by
    decide +kernel
  exact adopted (claim 20 droppedOffset (by decide +kernel))

/-! ### The late echo of a command -/

def foreignReport (e : SetpointMoment) : Bool :=
  match e.input with
  | .observe i => ! e.pre.external.isOwnWrite i.contextId
  | .write _ => true

/-- A reading within the deadband of the written value, inside the echo window of
that write. -/
def lateEcho (call : SetpointDispatch) (e : SetpointMoment) : Bool :=
  match e.input with
  | .observe i =>
    i.now - call.now < setpointAdoptEchoWindowS &&
      i.actualSp.any fun reading => distance reading call.value < i.adoptDeadband
  | .write _ => false

/-- One of the two baselines still knows the reading, or nothing can be adopted. -/
def recognised (e : SetpointMoment) : Bool :=
  match e.input with
  | .observe i =>
    ! (i.setpointGates (e.pre.external.isOwnWrite i.contextId)).letSetpoint ||
      i.actualSp.all fun reading =>
        roundTo (reading - frostFloorC) 3 ≤ 0 ||
        (e.pre.external.lastWrittenSp.any fun written =>
          distance reading written < i.adoptDeadband) ||
        e.pre.external.preWriteSp.all fun pre => distance reading pre < i.adoptDeadband
  | .write _ => true

def quietSince (between : List SetpointMoment) : Prop :=
  between.countP (·.output.isSome) ≤ 1 ∧
    ∀ f ∈ between, ∃ i, f.input = .observe i

def StampedSince (since : ℚ) (rt : ZoneRuntime) : Prop :=
  (∃ written, rt.external.lastWrittenSp = some written) ∧
    ∃ writtenAt, rt.external.lastSpWriteTs = some writtenAt ∧ since ≤ writtenAt

theorem StampedSince.write {call : SetpointDispatch} (rt : ZoneRuntime) (sent : call.sent) :
    StampedSince call.now (setpointStep rt (.write call)).1 := by
  obtain ⟨_, _, written, stamp⟩ := write_baselines rt call
  rw [sent] at written stamp
  exact ⟨⟨_, written⟩, _, stamp, le_rfl⟩

theorem StampedSince.step {since : ℚ} {rt : ZoneRuntime} {event : SetpointEvent}
    (stamped : StampedSince since rt) (later : since ≤ event.now)
    (foreign : foreignReport (Step.of setpointStep rt event)) :
    StampedSince since (setpointStep rt event).1 := by
  obtain ⟨⟨written, baseline⟩, writtenAt, stamp, after⟩ := stamped
  cases event with
  | write w =>
    obtain ⟨_, _, moved, restamped⟩ := write_baselines rt w
    cases sent : w.sent with
    | true =>
      rw [sent] at moved restamped
      exact ⟨⟨_, moved⟩, _, restamped, later⟩
    | false =>
      rw [sent] at moved restamped
      exact ⟨⟨written, moved.trans baseline⟩, writtenAt, restamped.trans stamp, after⟩
  | observe i =>
    cases adopted : (setpointStep rt (.observe i)).2 with
    | none =>
      obtain ⟨_, _, restamped, moved⟩ := observe_idle_baselines adopted
      have own : rt.external.isOwnWrite i.contextId = false := by
        simpa [foreignReport] using foreign
      exact ⟨⟨written, (moved own).trans baseline⟩, writtenAt, restamped.trans stamp, after⟩
    | some a =>
      obtain ⟨_, _, restamped, moved⟩ := observe_adopting_baselines adopted
      exact ⟨⟨_, moved⟩, _, restamped, later⟩

/-- Inside the window a late echo is adopted exactly when neither baseline knows it. -/
theorem StampedSince.unadopted_iff {call : SetpointDispatch} {rt : ZoneRuntime}
    {event : SetpointEvent} (stamped : StampedSince call.now rt)
    (echo : lateEcho call (Step.of setpointStep rt event)) :
    (setpointStep rt event).2 = none ↔ recognised (Step.of setpointStep rt event) := by
  obtain ⟨⟨written, baseline⟩, writtenAt, stamp, after⟩ := stamped
  cases event with
  | write w => simp [lateEcho] at echo
  | observe i =>
    simp only [lateEcho, Step.of_input, Bool.and_eq_true, decide_eq_true_eq] at echo
    obtain ⟨reading, reads, near⟩ := (Option.any_eq_true _ _).mp echo.2
    have within : i.now - writtenAt < setpointAdoptEchoWindowS := by linarith [echo.1]
    have adopts : (∃ a, (setpointStep rt (.observe i)).2 = some a) ↔
        (i.setpointGates (rt.external.isOwnWrite i.contextId)).letSetpoint ∧
        i.adoptDeadband ≤ distance reading written ∧ 0 < roundTo (reading - frostFloorC) 3 ∧
        ∃ pre, rt.external.preWriteSp = some pre ∧ i.adoptDeadband ≤ distance reading pre := by
      show (∃ a, (stageSetpointObserve rt i _ false).2.adoptedSp = some a) ↔ _
      simp only [observe_adopts, reads, baseline, stamp, Option.some.injEq]
      constructor
      · rintro ⟨_, rfl, opened, _, _, rfl, rfl, apart, above, inside, _⟩
        exact ⟨opened, apart, above, inside within⟩
      · intro ⟨opened, apart, above, inside⟩
        exact ⟨reading, rfl, opened, written, writtenAt, rfl, rfl, apart, above,
          fun _ => inside, fun elapsed => absurd within (not_lt.mpr elapsed)⟩
    rw [← not_iff_not, ← ne_eq, Option.ne_none_iff_exists', adopts]
    simp only [recognised, Step.of_input, Step.of_pre, reads, baseline, Option.all_some,
      Option.any_some]
    cases rt.external.preWriteSp <;> grind

def StillKnown (value : ℚ) (between : List SetpointMoment) (rt : ZoneRuntime) : Prop :=
  -- the first adoption moves the value from the echo baseline to the pre-write one
  (between.countP (·.output.isSome) = 0 → rt.external.lastWrittenSp = some value) ∧
    (between.countP (·.output.isSome) = 1 → rt.external.preWriteSp = some value)

theorem StillKnown.step {value : ℚ} {between : List SetpointMoment} {rt : ZoneRuntime}
    {i : TickInput} (known : StillKnown value between rt)
    (foreign : foreignReport (Step.of setpointStep rt (.observe i))) :
    StillKnown value (between ++ [Step.of setpointStep rt (.observe i)])
      (setpointStep rt (.observe i)).1 := by
  cases adopted : (setpointStep rt (.observe i)).2 with
  | none =>
    obtain ⟨preWrite, _, _, baseline⟩ := observe_idle_baselines adopted
    have own : rt.external.isOwnWrite i.contextId = false := by
      simpa [foreignReport] using foreign
    simpa [StillKnown, List.countP_append, adopted, preWrite, baseline own] using known
  | some a =>
    obtain ⟨preWrite, _⟩ := observe_adopting_baselines adopted
    -- the first adoption hands the command over to the pre-write baseline
    simpa [StillKnown, List.countP_append, adopted, preWrite] using known.1

theorem StillKnown.recognises {between : List SetpointMoment} {rt : ZoneRuntime}
    {call : SetpointDispatch} {event : SetpointEvent} (known : StillKnown call.value between rt)
    (once : between.countP (·.output.isSome) ≤ 1)
    (echo : lateEcho call (Step.of setpointStep rt event)) :
    recognised (Step.of setpointStep rt event) := by
  cases event with
  | write w => rfl
  | observe i =>
    simp only [lateEcho, Step.of_input, Bool.and_eq_true, decide_eq_true_eq] at echo
    obtain ⟨reading, reads, near⟩ := (Option.any_eq_true _ _).mp echo.2
    simp only [recognised, Step.of_input, Step.of_pre, reads, Option.all_some]
    cases none_or_one : between.countP (·.output.isSome) with
    | zero => simp [known.1 none_or_one, near]
    | succ n =>
      have one : between.countP (·.output.isSome) = 1 := by omega
      simp [known.2 one, near]

theorem final_stamped {since : ℚ} {rt : ZoneRuntime} {front : List SetpointEvent}
    (start : StampedSince since rt) (ordered : ∀ event ∈ front, since ≤ event.now)
    (foreign : ∀ e ∈ trace setpointStep rt front, foreignReport e) :
    StampedSince since (final setpointStep rt front) := by
  apply history_invariant setpointStep (fun _ => StampedSince since)
    (fun _ e => since ≤ e.input.now ∧ foreignReport e) start
  · intro _ _ _ stamped ok
    exact stamped.step ok.1 ok.2
  · intro past e moment
    have member := mem_of_moment setpointStep moment
    refine ⟨ordered _ ?_, foreign e member⟩
    rw [← trace_map_input setpointStep rt front]
    exact List.mem_map_of_mem member

theorem final_stillKnown {value : ℚ} {rt : ZoneRuntime} {front : List SetpointEvent}
    (start : rt.external.lastWrittenSp = some value)
    (observes : ∀ e ∈ trace setpointStep rt front, ∃ i, e.input = .observe i)
    (foreign : ∀ e ∈ trace setpointStep rt front, foreignReport e) :
    StillKnown value (trace setpointStep rt front) (final setpointStep rt front) := by
  apply history_invariant setpointStep (StillKnown value)
    (fun _ e => (∃ i, e.input = .observe i) ∧ foreignReport e)
  · exact ⟨fun _ => start, by simp⟩
  · intro past t event known ⟨⟨i, observes⟩, foreign⟩
    obtain rfl : event = .observe i := observes
    exact known.step foreign
  · intro past e moment
    have member := mem_of_moment setpointStep moment
    exact ⟨observes e member, foreign e member⟩

/-- Inside the echo window of a write its late echo stays unadopted exactly while a
baseline knows it; one adoption since the write, and no other write, keeps it known. -/
theorem late_echo_unadopted_iff (rt : ZoneRuntime) (call : SetpointDispatch) (sent : call.sent)
    (later : List SetpointEvent) (ordered : ∀ event ∈ later, call.now ≤ event.now)
    (foreign : ∀ e ∈ trace setpointStep (setpointStep rt (.write call)).1 later, foreignReport e)
    (between : List SetpointMoment) (e : SetpointMoment)
    (moment : between ++ [e] <+: trace setpointStep (setpointStep rt (.write call)).1 later)
    (echo : lateEcho call e) :
    (e.output = none ↔ recognised e) ∧ (quietSince between → e.output = none) := by
  obtain ⟨front, event, within, rfl, rfl⟩ := prefix_trace setpointStep moment
  obtain ⟨_, _, written, _⟩ := write_baselines rt call
  have stampedNow := StampedSince.write rt sent
  generalize (setpointStep rt (.write call)).1 = start at *
  have frontOrdered : ∀ event ∈ front, call.now ≤ event.now := fun event member =>
    ordered event (within.subset (List.mem_append_left _ member))
  have frontForeign : ∀ e ∈ trace setpointStep start front, foreignReport e := fun e member =>
    foreign e (moment.subset (List.mem_append_left _ member))
  have unadopted := (final_stamped stampedNow frontOrdered frontForeign).unadopted_iff echo
  refine ⟨unadopted, fun ⟨once, observes⟩ => unadopted.mpr ?_⟩
  rw [sent] at written
  exact (final_stillKnown written observes frontForeign).recognises once echo

def raise : SetpointDispatch := valveWrite 0 22 (some 20)

def raised : ZoneRuntime :=
  (setpointStep (final setpointStep {} [.observe (valveTick 0 (some 20))]) (.write raise)).1

def firstTurn : SetpointEvent := .observe (valveTick 30 (some 25))

def secondTurn : SetpointEvent := .observe (valveTick 60 (some 27))

def echoOfRaise : SetpointEvent := .observe (valveTick 90 (some 22))

def echoAfterOneTurn : SetpointMoment :=
  Step.of setpointStep (setpointStep raised firstTurn).1 echoOfRaise

theorem late_echo_after_one_turn : echoAfterOneTurn.output = none :=
  (late_echo_unadopted_iff _ raise rfl [firstTurn, echoOfRaise] (by decide +kernel)
    (by decide +kernel) [Step.of setpointStep raised firstTurn] echoAfterOneTurn List.prefix_rfl
    (by decide +kernel)).1.mpr (by decide +kernel)

/-- Two turns of the knob inside one radio latency push the command out of both
baselines: its own echo becomes a user hold. -/
theorem late_echo_adopted_after_two_turns :
    ¬ ∀ (before later : List SetpointEvent) (call : SetpointDispatch), call.sent = true →
      (before ++ .write call :: later).Pairwise (fun a b => a.now ≤ b.now) →
      (∀ e ∈ trace setpointStep {} (before ++ .write call :: later), foreignReport e = true) →
      ∀ e ∈ trace setpointStep (final setpointStep {} (before ++ [.write call])) later,
        lateEcho call e = true → e.output = none := by
  intro claim
  have adopted : ¬ ∀ e ∈ trace setpointStep raised [firstTurn, secondTurn, echoOfRaise],
      lateEcho raise e = true → e.output = none := by
    decide +kernel
  exact adopted (claim [.observe (valveTick 0 (some 20))] [firstTurn, secondTurn, echoOfRaise] raise
    rfl (by decide +kernel) (by decide +kernel))

end Poise
