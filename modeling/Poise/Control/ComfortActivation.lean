import Poise.Foundation.Trace
import Mathlib.Algebra.Order.Field.Basic
import Mathlib.Data.Rat.Defs

/-!
# Tier-2 activation latches

The latch of one comfort block, its serialization and its cascade
(`control/comfort_activation.py`), and the report phase that folds the two
latches of a zone once a tick (`ha/phase_report.py::_fold_tier2_activation`).
Minutes and PPD figures are an ordered field.
-/
namespace Poise

variable {K : Type*} [Field K] [LinearOrder K]

inductive TierState where
  | shadow
  | eligible
  | live
  | suspended
  deriving DecidableEq, Repr

inductive Tier2Feature where
  | fanCe
  | pmvOffset
  deriving DecidableEq, Repr

def tier2Order : List Tier2Feature := [.fanCe, .pmvOffset]

-- `TIER2_ORDER[idx - 1]`, where there is one.
def Tier2Feature.predecessor : Tier2Feature → Option Tier2Feature
  | .fanCe => none
  | .pmvOffset => some .fanCe

def dwellTargetMin : K := (24 * 60 : ℕ)

def ppdExitTolPct : K := (2 : ℕ)

structure TierActivation (K : Type*) [Zero K] where
  state : TierState := .shadow
  dwellMin : K := 0
  baselinePpd : Option K := none
  baselineSignature : Option String := none
  generation : ℤ := 0
  deriving DecidableEq

structure ComfortActivation (K : Type*) [Zero K] where
  fanCe : TierActivation K := {}
  pmvOffset : TierActivation K := {}
  generation : ℤ := 0
  deriving DecidableEq

def ComfortActivation.latch (container : ComfortActivation K) : Tier2Feature → TierActivation K
  | .fanCe => container.fanCe
  | .pmvOffset => container.pmvOffset

/-! ### One latch -/

/-- The keyword arguments of `step_tier`. -/
structure TierInputs (K : Type*) where
  ready : Bool
  entryOk : Bool
  ppd : K
  signature : String
  dtMin : K
  allowed : Bool
  nextGeneration : ℤ
  impossible : Bool := false

def worsened (act : TierActivation K) (ppd : K) : Bool :=
  match act.baselinePpd with
  | none => false
  | some baseline => decide (baseline + ppdExitTolPct < ppd)

def stepTier (act : TierActivation K) (inputs : TierInputs K) : TierActivation K :=
  if inputs.impossible then
    if act.state = .shadow then act
    else { state := .shadow, generation := act.generation }
  else
    match act.state with
    | .live =>
      if !inputs.ready || decide (act.baselineSignature ≠ some inputs.signature) ||
          worsened act inputs.ppd then
        { state := .suspended, generation := act.generation }
      else act
    | .shadow | .suspended =>
      if inputs.ready && inputs.allowed then
        { state := .eligible, generation := act.generation }
      else act
    | .eligible =>
      -- qualified dwell: it grows only when everything holds, else it is frozen
      if inputs.ready && inputs.entryOk && inputs.allowed then
        if dwellTargetMin ≤ act.dwellMin + inputs.dtMin then
          { state := .live
            dwellMin := act.dwellMin + inputs.dtMin
            baselinePpd := some inputs.ppd
            baselineSignature := some inputs.signature
            generation := inputs.nextGeneration }
        else { act with dwellMin := act.dwellMin + inputs.dtMin }
      else act

def latchDwelt (prev nxt : TierActivation K) : Bool :=
  decide (nxt.state = .eligible) && decide (prev.dwellMin < nxt.dwellMin)

/-! ### The container -/

def mayDwell (container : ComfortActivation K) (feature : Tier2Feature)
    (predecessorImpossible : Bool) : Bool :=
  if tier2Order.any fun other =>
      other != feature && (container.latch other).state == .eligible then false
  else if predecessorImpossible then true
  else
    match feature.predecessor with
    | none => true
    | some pred => (container.latch pred).state == .live

omit [LinearOrder K] in
@[simp] theorem mayDwell_fanCe (container : ComfortActivation K) (impossible : Bool) :
    mayDwell container .fanCe impossible = true ↔ container.pmvOffset.state ≠ .eligible := by
  by_cases eligible : container.pmvOffset.state = .eligible <;>
    simp [mayDwell, tier2Order, ComfortActivation.latch, Tier2Feature.predecessor, eligible]

omit [LinearOrder K] in
@[simp] theorem mayDwell_pmvOffset (container : ComfortActivation K) (impossible : Bool) :
    mayDwell container .pmvOffset impossible = true ↔
      container.fanCe.state ≠ .eligible ∧
        (impossible = true ∨ container.fanCe.state = .live) := by
  by_cases eligible : container.fanCe.state = .eligible <;>
    simp [mayDwell, tier2Order, ComfortActivation.latch, Tier2Feature.predecessor, eligible]

def dropDependent (invalidatedGeneration : ℤ) (act : TierActivation K) : TierActivation K :=
  if invalidatedGeneration < act.generation ∧ (act.state = .live ∨ act.state = .eligible) then
    { state := .suspended, generation := act.generation }
  else act

def cascadeAfterInvalidation (container : ComfortActivation K) (invalidatedGeneration : ℤ) :
    ComfortActivation K :=
  { fanCe := dropDependent invalidatedGeneration container.fanCe
    pmvOffset := dropDependent invalidatedGeneration container.pmvOffset
    generation := container.generation }

/-! ### The report phase -/

/-- What one report tick reads: the zone's configuration and readiness, the
metric gate, the PPD figure and the time booked. `signature` is
`activation_signature` under this tick's configuration, as a function of the
live predecessors. -/
structure Tier2Tick (K : Type*) where
  activeComfort : Bool
  pmvReady : Bool
  entryOk : Bool
  ppd : K
  signature : List Tier2Feature → String
  dtMin : K
  -- `fan_circ_reason == "no_fan_capability"`
  predImpossible : Bool

def fanInputs (ca0 : ComfortActivation K) (tick : Tier2Tick K) : TierInputs K :=
  { ready := tick.activeComfort
    entryOk := tick.entryOk
    ppd := tick.ppd
    signature := tick.signature []
    dtMin := tick.dtMin
    allowed := mayDwell ca0 .fanCe tick.predImpossible
    nextGeneration := ca0.generation + 1
    impossible := tick.predImpossible }

-- `_ca1`: the fan latch stepped, its dependents cascaded when it left LIVE.
def afterFan (ca0 : ComfortActivation K) (tick : Tier2Tick K) : ComfortActivation K :=
  let fanNext := stepTier ca0.fanCe (fanInputs ca0 tick)
  let t2Gen :=
    if fanNext.state = .live ∧ ca0.fanCe.state ≠ .live then ca0.generation + 1
    else ca0.generation
  let ca1 : ComfortActivation K :=
    { fanCe := fanNext, pmvOffset := ca0.pmvOffset, generation := t2Gen }
  if ca0.fanCe.state = .live ∧ fanNext.state ≠ .live then
    cascadeAfterInvalidation ca1 ca0.fanCe.generation
  else ca1

def pmvInputs (ca1 : ComfortActivation K) (tick : Tier2Tick K) : TierInputs K :=
  { ready := tick.activeComfort && tick.pmvReady
    entryOk := tick.entryOk
    ppd := tick.ppd
    signature := tick.signature (if ca1.fanCe.state = .live then [.fanCe] else [])
    dtMin := tick.dtMin
    allowed := mayDwell ca1 .pmvOffset tick.predImpossible
    nextGeneration := ca1.generation + 1 }

/-- One report tick: the new container and the feature that dwelt, if one did. -/
def foldTier2Activation (ca0 : ComfortActivation K) (tick : Tier2Tick K) :
    ComfortActivation K × Option Tier2Feature :=
  let ca1 := afterFan ca0 tick
  let pmvNext := stepTier ca1.pmvOffset (pmvInputs ca1 tick)
  let t2Gen :=
    if pmvNext.state = .live ∧ ca1.pmvOffset.state ≠ .live then ca1.generation + 1
    else ca1.generation
  ({ fanCe := ca1.fanCe, pmvOffset := pmvNext, generation := t2Gen },
    if latchDwelt ca0.fanCe (stepTier ca0.fanCe (fanInputs ca0 tick)) then some .fanCe
    else if latchDwelt ca1.pmvOffset pmvNext then some .pmvOffset
    else none)

end Poise
