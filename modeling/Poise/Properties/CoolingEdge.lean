import Poise.Comfort.ThermalShock
import Poise.Properties.ComfortDecisionLaws
import Mathlib.Tactic.Linarith
import Mathlib.Tactic.NormNum

/-!
# The written cooling edge and its protection

Each tick's decision keeps its cooling edge above the dew point and above the
heating edge, and the heat-day raise never lowers it. The rate limit comes last
and may undo this: it does exactly when the decided edge has jumped more than one
step above the carried one.
-/
namespace Poise

open Rounding Trace

/-! ### One decision -/

theorem heatEdge_le_coolEdge (i : DecideInput) : i.heatEdge.1 ≤ i.coolEdge :=
  le_max_right _ _

theorem heatSp_le_coolSp (i : DecideInput) : (comfortDecide i).heatSp ≤ (comfortDecide i).coolSp :=
  roundTo_mono 1 (heatEdge_le_coolEdge i)

theorem dewpoint_le_coolSp (i : DecideInput) {dewpoint : ℚ} (known : i.dewpoint = some dewpoint) :
    dewpoint + 2 - 0.05 ≤ (comfortDecide i).coolSp := by
  have above : dewpoint + 2 ≤ i.coolEdge := i.dewpoint_le_coolEdgeVia i.toAir known
  exact sub_le_roundTo above

theorem coolSp_grid (i : DecideInput) :
    roundTo (comfortDecide i).coolSp 1 = (comfortDecide i).coolSp :=
  roundTo_roundTo i.coolEdge 1

theorem coolSp_le_raise (t : CoolTick) : t.decision.coolSp ≤ t.raise.coolSpEff := by
  have grid : roundTo t.decision.coolSp 1 = t.decision.coolSp := coolSp_grid t.comfort
  simp only [CoolTick.raise, adaptiveCoolSetpoint]
  generalize t.decision.coolSp = cool at grid ⊢
  generalize min (min t.deviceMax t.hardCap) _ = cap
  have clamped : cool ≤ if cap < cool then cool else cap := by
    split
    next => exact le_rfl
    next above => exact not_lt.mp above
  split
  next => exact grid.ge
  next => exact le_roundTo grid (le_min (le_max_left _ _) clamped)

/-! ### The rate limit over runs -/

theorem rateLimit_keeps_iff {prev bound target : ℚ} (held : bound ≤ target) :
    bound ≤ rateLimit (some prev) target 0.5 ↔ bound ≤ prev + 0.5 := by
  have step : ¬ (0.5 : ℚ) ≤ 0 := by norm_num
  simp only [rateLimit, if_neg step]
  constructor
  · intro kept
    split at kept
    next => exact kept.trans (min_le_right _ _)
    next down =>
      -- upward the limit is `prev + 0.5`, downward the target itself bounds it
      have := not_lt.mp down
      linarith [min_le_left target (prev + 0.5)]
  · intro near
    split
    next => exact le_min held near
    next => exact le_max_of_le_left held

def EdgeProtected (e : Trace.Step (Option ℚ) CoolTick ℚ) : Prop :=
  e.input.decision.coolSp ≤ e.output ∧
    (∀ dewpoint ∈ e.input.comfort.dewpoint, dewpoint + 2 - 0.05 ≤ e.output) ∧
    e.input.decision.heatSp ≤ e.output

def WithinStep (e : Trace.Step (Option ℚ) CoolTick ℚ) : Prop :=
  -- The decided edge is at most half a kelvin above the carried one.
  ∀ prev ∈ e.pre, e.input.decision.coolSp ≤ prev + 0.5

instance (e : Trace.Step (Option ℚ) CoolTick ℚ) : Decidable (EdgeProtected e) :=
  inferInstanceAs (Decidable (_ ∧ _ ∧ _))

theorem edgeProtected_iff (prev : Option ℚ) (t : CoolTick) :
    EdgeProtected (Step.of coolStep prev t) ↔ WithinStep (Step.of coolStep prev t) := by
  have raised := coolSp_le_raise t
  have edge : t.decision.coolSp ≤ effCool prev t ↔ ∀ p ∈ prev, t.decision.coolSp ≤ p + 0.5 := by
    cases prev with
    | none => simpa [effCool, rateLimit] using raised
    | some p => simpa [effCool] using rateLimit_keeps_iff raised
  constructor
  · exact fun protected' => edge.mp protected'.1
  · intro near
    have kept := edge.mpr near
    refine ⟨kept, fun dewpoint known => ?_, ?_⟩
    · exact (dewpoint_le_coolSp t.comfort known).trans kept
    · exact (heatSp_le_coolSp t.comfort).trans kept

/-- Over every run, each tick's edge keeps its protection exactly when no decided edge
jumps more than half a kelvin above the edge carried from the tick before. -/
theorem coolEdge_protected_iff (start : Option ℚ) (ticks : List CoolTick) :
    (∀ e ∈ trace coolStep start ticks, EdgeProtected e) ↔
      ∀ e ∈ trace coolStep start ticks, WithinStep e := by
  have each : ∀ e ∈ trace coolStep start ticks, EdgeProtected e ↔ WithinStep e := by
    intro e member
    rw [step_of_mem _ member]
    exact edgeProtected_iff _ _
  exact ⟨fun law e member => (each e member).mp (law e member),
    fun law e member => (each e member).mpr (law e member)⟩

private def muggy (dewpoint : ℚ) : CoolTick :=
  { comfort := { tRm := 20, room := 26, tOut := 28, canCool := true, dewpoint := some dewpoint } }

/-- The dew point rises from 18 to 25 °C between two ticks: the written edge lags at
25.5 °C, below the condensation limit and below the decided edge. -/
theorem coolEdge_lags_dewpoint :
    (trace coolStep none [muggy 18, muggy 25]).map (fun e => (e.input.decision.coolSp, e.output)) =
        [(25, 25), (27, 25.5)] ∧
      ¬ ∀ e ∈ trace coolStep none [muggy 18, muggy 25], EdgeProtected e := by
  decide +kernel

end Poise
