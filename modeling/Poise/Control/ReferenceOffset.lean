import Poise.Estimation.TauSettle

/-!
# Reference offset

`control/reference_offset.py`: the actuator's own sensor against the room's, as a weighted mean that
is trusted once it is warm and its steps are small, and the fold of `ha/phase_report.py` that takes
a sample while the actuator drives the room.
-/
namespace Poise

variable {K : Type*} [Field K] [LinearOrder K] [ExpSqrt K]

def offsetHorizonMin : K := 30.0

def offsetCapK : K := 2.0

def offsetNoiseMaxK : K := 0.6

def offsetWarmupMin : K := 30.0

structure OffsetEstimate (K : Type*) where
  offset : K
  -- The weighted mean of the steps between raw offsets.
  deviation : K
  minutes : K
  trusted : Bool
  raw : K

namespace OffsetEstimate

/-- `from_dict`: trust is not restored. -/
def restored (e : OffsetEstimate K) : OffsetEstimate K :=
  { e with trusted := false, raw := e.offset }

end OffsetEstimate

/-- `_clamp` to the cap on both sides. -/
def clampOffset (value : K) : K := min offsetCapK (max (-offsetCapK) value)

/-- `1 - exp(-dt/horizon)`: what the new sample takes. -/
def offsetGain (dt : K) : K :=
  if 0 < (offsetHorizonMin : K) then 1 - ExpSqrt.exp (-dt / offsetHorizonMin) else 1

def updateOffset (prev : Option (OffsetEstimate K)) (actuatorTemp roomTemp : Option K) (dtMin : K)
    (conditioning : Bool) : Option (OffsetEstimate K) :=
  match conditioning, actuatorTemp, roomTemp with
  | true, some actuator, some room =>
    let raw := actuator - room
    match prev with
    | none =>
      some
        { offset := clampOffset raw
          deviation := 0
          minutes := max 0 dtMin
          trusted := false
          raw }
    | some prev =>
      let dt := max 0 dtMin
      let alpha := offsetGain dt
      let deviation := (1 - alpha) * prev.deviation + alpha * |raw - prev.raw|
      let minutes := prev.minutes + dt
      some
        { offset := clampOffset ((1 - alpha) * prev.offset + alpha * raw)
          deviation
          minutes
          trusted := decide (offsetWarmupMin ≤ minutes) && decide (deviation ≤ offsetNoiseMaxK)
          raw }
  | _, _, _ => prev

/-! ### The fold of a tick -/

structure OffsetRuntime (K : Type*) where
  refOffset : Option (OffsetEstimate K) := none
  refLastMono : Option K := none

structure OffsetTick (K : Type*) where
  now : K
  -- The actuator's own reading, when finite.
  actuator : Option K
  room : K
  -- The actuator heats or cools.
  conditioning : Bool

/-- `_fold_reference_offset` -/
def OffsetRuntime.fold (tickMin : K) (rt : OffsetRuntime K) (t : OffsetTick K) :
    OffsetRuntime K where
  refOffset := updateOffset rt.refOffset t.actuator (some t.room)
    (cappedElapsedMin rt.refLastMono t.now tickMin) t.conditioning
  refLastMono := some t.now

end Poise
