import Mathlib.Algebra.Order.Field.Rat
import Mathlib.Data.List.Basic

/-!
# Zone state groups

The parts of `runtime/state.py` that the actuation channel reads and writes:
the user's holds, the echo and adoption baselines of the actuator, the write
anchors and the write census. A Python `float` that a function tests for
finiteness is a `PyFloat`; every other number is an exact rational.
-/
namespace Poise

/-- A float as the finiteness guards see it. -/
inductive PyFloat where
  | finite (value : ℚ)
  | infinite (negative : Bool)
  | nan
  deriving DecidableEq, Repr

/-! ### Constants -/

def writeDeadbandC : ℚ := 0.2

def setpointAdoptEchoWindowS : ℚ := 120

def frostFloorC : ℚ := 7

def deviceMaxC : ℚ := 30

/-! ### User intent -/

/-- Why a device reading was or was not adopted, for both channels. -/
inductive AdoptReason where
  -- Disabled, off-held or nothing to report yet.
  | noneYet
  | optOut
  | scheduleActive
  | ownEcho
  | safetyWindow
  | safetyFrozen
  | holdResumed
  | noSignal
  | deviceAligned
  | unsupported
  | ownCommandEcho
  | noBaseline
  | echoWindow
  | stablePrev
  | commandEcho
  | implausibleFrost
  | stableOffset
  | adopt
  deriving DecidableEq, Repr

/-- The hold lifecycle of `UserControlState` and its log latch. -/
structure UserControlState where
  enabled : Bool := true
  override : Option ℚ := none
  modeOverride : Option String := none
  overrideSetWall : Option ℚ := none
  -- The value asked for, before the clamp.
  overrideRequested : Option ℚ := none
  overrideExpiresAt : Option ℚ := none
  overrideExpiryIsSwitchpoint : Bool := false
  overrideReason : Option String := none
  lastAdoptLog : AdoptReason := .noneYet
  deriving DecidableEq, Repr

/-! ### Echo and adoption baselines -/

/-- The context ids of Poise's own calls: the newest sixteen. -/
structure ContextRing where
  ids : List String
  bounded : ids.length ≤ 16
  deriving DecidableEq, Repr

def ContextRing.empty : ContextRing := ⟨[], by decide⟩

def ContextRing.append (ring : ContextRing) (id : String) : ContextRing where
  ids := (ring.ids ++ [id]).drop (ring.ids.length + 1 - 16)
  bounded := by
    have bounded := ring.bounded
    simp only [List.length_drop, List.length_append, List.length_singleton]
    omega

structure ExternalOverrideRuntime where
  -- The echo baseline: the last snapped command, or the settle it led to.
  lastWrittenSp : Option ℚ := none
  prevDeviceSp : Option ℚ := none
  lastCommandedHvac : Option String := none
  prevDeviceMode : Option String := none
  lastCommandedFan : Option String := none
  lastSpWriteTs : Option ℚ := none
  lastHvacCmdTs : Option ℚ := none
  lastFanCmdTs : Option ℚ := none
  preWriteSp : Option ℚ := none
  ownWriteCtxIds : ContextRing := .empty
  lastSpCtxId : Option String := none
  -- The command in force; only the commit moves it.
  lastCmdSp : Option ℚ := none
  -- When the command in force came into force.
  cmdEpisodeTs : Option ℚ := none
  reassertsSuppressed : ℕ := 0
  lastModeNudgeTs : Option ℚ := none
  modeReassertsSuppressed : ℕ := 0
  deriving DecidableEq, Repr

/-! ### Actuator -/

structure ActuatorRuntime where
  lastTarget : Option ℚ := none
  lastWrittenMode : Option String := none
  hasActuated : Bool := false
  lastFed : Option ℚ := none
  lastFedTs : ℚ := 0
  calBaseline : Option ℚ := none
  calEntity : Option String := none
  lastCalValue : Option ℚ := none
  lastCalWriteTs : Option ℚ := none
  lastCalDispatchWallTs : Option ℚ := none
  lastCalRestoreTs : Option ℚ := none
  setpointWrites : ℕ := 0
  modeWrites : ℕ := 0
  externalTempWrites : ℕ := 0
  calibrationWrites : ℕ := 0
  selectWrites : ℕ := 0
  externalTempWritesDeadband : ℕ := 0
  deriving DecidableEq, Repr

inductive DeviceDynamics where
  | fastAir
  | slowHydronic
  | verySlow
  deriving DecidableEq, Repr

def DeviceDynamics.selfRegulating : DeviceDynamics → Bool
  -- The device has its own thermostat, so Poise only nudges it.
  | .fastAir => true
  | .slowHydronic | .verySlow => false

def DeviceDynamics.regulationPeriodS : DeviceDynamics → ℚ
  | .fastAir => 300
  | .slowHydronic | .verySlow => 0

/-- `regulation_throttled`: at most one nudge per regulation period. -/
def regulationThrottled (now : ℚ) (lastWrite : Option ℚ) (regulationPeriod : ℚ) : Bool :=
  match lastWrite with
  | none => false
  | some written => 0 < regulationPeriod && now - written < regulationPeriod

/-! ### The zone -/

structure ZoneRuntime where
  user : UserControlState := {}
  external : ExternalOverrideRuntime := {}
  actuator : ActuatorRuntime := {}
  dynamics : DeviceDynamics := .slowHydronic
  -- The store has something to save.
  dirty : Bool := false
  deriving DecidableEq, Repr

def ZoneRuntime.markActuated (rt : ZoneRuntime) : ZoneRuntime :=
  { rt with
    dirty := rt.dirty || !rt.actuator.hasActuated
    actuator := { rt.actuator with hasActuated := true } }

end Poise
