import Poise.Control.OptimalStart
import Poise.Control.OverrideRuntime

/-!
# The preheat and coast plan

`advise` and `plan_preheat` of `control/optimal_start.py`, `advise_stop` of
`control/optimal_stop.py` and the preset offsets of `control/override.py`, with their stage in
`ha/phase_prepare.py`: it carries the two latches from tick to tick, and ends a schedule hold when
a preheat towards its window begins. The presence read and the timed expiries before it are stages
of their own. How the outdoor figure is rounded for display is a parameter.
-/
namespace Poise

open ExpLog

variable {K : Type*} [Field K] [LinearOrder K] [ExpLog K]

-- Coasting may only begin from the comfort base, within this much.
def coastReadyBandK : K := 0.3

/-! ### The advice of one tick -/

structure PreheatAdvice (K : Type*) where
  reachable : Bool
  leadMinutes : K
  startNow : Bool

/-- Whether to begin preheating now; the target out of reach, the horizon decides. -/
def advise (model : ThermalModel K)
    (room target tOut minutesToComfort qSolar qOcc maxLeadH : K) : PreheatAdvice K :=
  match heatupMinutes model room target tOut qSolar qOcc maxLeadH with
  | none =>
    let horizonMin := maxLeadH * 60.0
    { reachable := false
      leadMinutes := horizonMin
      startNow := decide (minutesToComfort ≤ horizonMin) }
  | some lead =>
    { reachable := true
      leadMinutes := lead
      startNow := decide (minutesToComfort ≤ lead) }

structure CoastAdvice (K : Type*) where
  reachable : Bool
  leadMinutes : K
  stopNow : Bool

/-- Whether to stop heating now; a room that cannot coast there keeps being heated. -/
def adviseStop (model : ThermalModel K)
    (room target tOut minutesToSetback qSolar maxLeadH : K) : CoastAdvice K :=
  match coastdownMinutes model room target tOut qSolar maxLeadH with
  | none => { reachable := false, leadMinutes := 0, stopNow := false }
  | some lead =>
    { reachable := true
      leadMinutes := lead
      stopNow := decide (minutesToSetback ≤ lead) }

/-! ### The plan -/

structure PreheatPlan (K : Type*) where
  base : K
  preheating : Bool
  -- For display.
  preheatOutdoor : Option K
  coasting : Bool := false

structure PlanInput (K : Type*) where
  comfortBase : K
  isComfort : Bool
  setbackOffset : K
  minutesToComfort : K
  optimalStartEnabled : Bool
  canHeat : Bool
  identified : Bool
  model : Option (ThermalModel K)
  room : K
  tOutLead : K
  heatLower : K
  heatUpper : K
  optimalStopEnabled : Bool
  minutesToSetback : K
  coastLower : Option K
  maxLeadH : K

/-- Carried from tick to tick, so that neither flaps at its deadline. -/
structure PlanLatches where
  wasPreheating : Bool := false
  wasCoasting : Bool := false
  deriving DecidableEq, Repr

namespace PlanInput

variable (i : PlanInput K)

/-- The comfort base within the norm's heating band. -/
def target : K := min (max i.comfortBase i.heatLower) i.heatUpper

/-- The model and the lower edge that a coast may use. -/
def coastable : Option (ThermalModel K × K) :=
  if i.optimalStopEnabled && i.canHeat && i.identified && decide (0 < i.minutesToSetback) then
    i.model.bind fun model => i.coastLower.map fun coastLower => (model, coastLower)
  else none

def coasts (latches : PlanLatches) (model : ThermalModel K) (coastLower : K) : Bool :=
  let advice := adviseStop model i.room coastLower i.tOutLead i.minutesToSetback 0 4.0
  let ready := decide (i.comfortBase - coastReadyBandK ≤ i.room)
  -- the lead shrinks as the room cools: a coast holds down to the lower edge
  (advice.stopNow && ready) || (latches.wasCoasting && decide (coastLower < i.room))

/-- The model that a preheat may use. -/
def preheatable : Option (ThermalModel K) :=
  if i.optimalStartEnabled && i.canHeat && i.identified then i.model else none

def preheats (latches : PlanLatches) (model : ThermalModel K) : Bool :=
  let advice := advise model i.room i.target i.tOutLead i.minutesToComfort 0 0 i.maxLeadH
  -- warming lowers the lead: a preheat holds up to the target
  advice.startNow || (latches.wasPreheating && decide (i.room < i.target))

end PlanInput

def planPreheat (round1 : K → K) (latches : PlanLatches) (i : PlanInput K) : PreheatPlan K :=
  if i.isComfort then
    match i.coastable with
    | none => { base := i.comfortBase, preheating := false, preheatOutdoor := none }
    | some (model, coastLower) =>
      if i.coasts latches model coastLower then
        { base := coastLower
          preheating := false
          preheatOutdoor := some (round1 i.tOutLead)
          coasting := true }
      else { base := i.comfortBase, preheating := false, preheatOutdoor := none }
  else
    let base := i.comfortBase + i.setbackOffset
    match i.preheatable with
    | none => { base, preheating := false, preheatOutdoor := none }
    | some model =>
      let usedOutdoor := some (round1 i.tOutLead)
      if i.preheats latches model then
        { base := i.comfortBase, preheating := true, preheatOutdoor := usedOutdoor }
      else { base, preheating := false, preheatOutdoor := usedOutdoor }

/-! ### The stage -/

structure OverrideConfig (K : Type*) where
  ecoOffset : K
  boostOffset : K
  awayOffset : K

def OverrideConfig.default : OverrideConfig K where
  ecoOffset := 2.0
  boostOffset := 1.5
  awayOffset := 4.0

def modeComfortBase (mode : OverrideMode) (base : K) (cfg : OverrideConfig K) : K :=
  match mode with
  | .eco => base - cfg.ecoOffset
  | .away => base - cfg.awayOffset
  | .boost => base + cfg.boostOffset
  | .none | .comfort => base

/-- A schedule hold towards a window ends when the preheat towards it begins. -/
def holdEndsAtPreheat (policy : HoldPolicy) (preheatStarted expiryIsSwitchpoint : Bool)
    (preheatTarget : Option K) (heldValue : K) : Bool :=
  decide (policy = .schedule) && preheatStarted && expiryIsSwitchpoint &&
    preheatTarget.any fun target => decide (heldValue < target)

structure ScheduleTick (K : Type*) where
  -- The house gate, and the preset after the timed expiries.
  home : Option Bool
  preset : OverrideMode
  comfortBase : K
  overrideCfg : OverrideConfig K
  isComfort : Bool
  setbackOffset : K
  -- A transition that does not exist disables its prediction.
  minutesToComfort : Option K
  minutesToSetback : Option K
  optimalStart : Bool
  optimalStop : Bool
  canHeat : Bool
  planningReady : Bool
  model : Option (ThermalModel K)
  room : K
  tOutLead : K
  -- The heating band of the norm.
  lo : K
  hi : K
  maxLeadH : K
  -- The setpoint hold, if there is one.
  override : Option K := none
  overridePolicy : HoldPolicy
  overrideExpiryIsSwitchpoint : Bool := false

namespace ScheduleTick

variable (t : ScheduleTick K)

def isAway : Bool := decide (t.preset = .away) || decide (t.home = some false)

def comfortTarget : K :=
  modeComfortBase (if t.isAway then .none else t.preset) t.comfortBase t.overrideCfg

def planInput : PlanInput K where
  comfortBase := t.comfortTarget
  isComfort := t.isComfort
  setbackOffset := t.setbackOffset
  minutesToComfort := t.minutesToComfort.getD 0
  optimalStartEnabled := t.optimalStart && !t.isAway && t.minutesToComfort.isSome
  canHeat := t.canHeat
  identified := t.planningReady
  model := t.model
  room := t.room
  tOutLead := t.tOutLead
  heatLower := t.lo
  heatUpper := t.hi
  optimalStopEnabled := t.optimalStop && t.minutesToSetback.isSome
  minutesToSetback := t.minutesToSetback.getD 0
  coastLower := some t.lo
  maxLeadH := t.maxLeadH

end ScheduleTick

structure SchedulePresenceResult (K : Type*) where
  plan : PreheatPlan K
  -- `end_hold("schedule_point")`
  endHold : Bool

/-- `_stage_schedule_presence` from the plan on. -/
def stageSchedulePresence (round1 : K → K) (latches : PlanLatches) (t : ScheduleTick K) :
    PlanLatches × SchedulePresenceResult K :=
  let plan := planPreheat round1 latches t.planInput
  let started := plan.preheating && !latches.wasPreheating
  let endHold := t.override.any fun held =>
    holdEndsAtPreheat t.overridePolicy started t.overrideExpiryIsSwitchpoint
      (some t.comfortTarget) held
  ({ wasPreheating := plan.preheating, wasCoasting := plan.coasting }, { plan, endHold })

end Poise
