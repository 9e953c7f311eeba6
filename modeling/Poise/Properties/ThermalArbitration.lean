import Poise.Multi.Arbitration

/-!
# Which device heats

The selected source is the best ranked of the capable devices that nothing blocks, and the reason
tells whether a better ranked one was blocked. The plan gives that device, and no other, the thermal
command; the order in which the devices are listed decides nothing.
-/
namespace Poise

open Greedy

variable {direction : Direction} {devices : List ZoneDevice}
  {runtimes : List (String × DeviceRuntime)}

/-- A capable device that nothing blocks. -/
def Eligible (direction : Direction) (runtimes : List (String × DeviceRuntime))
    (dev : ZoneDevice) : Bool :=
  dev.has .thermal direction && decide (dev.cause runtimes = none)

/-- The best ranked eligible device. -/
abbrev Preferred (direction : Direction) (runtimes : List (String × DeviceRuntime))
    (devices : List ZoneDevice) (dev : ZoneDevice) : Prop :=
  Best (thermalRank direction) (Eligible direction runtimes) devices dev

/-! ### The walk over the candidates -/

theorem firstUnblocked_eq (ranked : List ZoneDevice) (blocked : List BlockingCause) :
    firstUnblocked runtimes ranked blocked =
      (ranked.find? fun dev => decide (dev.cause runtimes = none),
        blocked ++ (ranked.takeWhile fun dev => decide (dev.cause runtimes ≠ none)).filterMap
          (·.cause runtimes)) := by
  induction ranked generalizing blocked with
  | nil => simp [firstUnblocked]
  | cons dev ranked ih =>
    cases cause : dev.cause runtimes with
    | none => simp [firstUnblocked, cause]
    | some c => simp [firstUnblocked, cause, ih]

/-- The candidates in their order. -/
def rankedCandidates (direction : Direction) (devices : List ZoneDevice) : List ZoneDevice :=
  rank (thermalRank direction) (devices.filter (·.has .thermal direction))

/-- The candidate that is picked. -/
def pickedSource (direction : Direction) (runtimes : List (String × DeviceRuntime))
    (devices : List ZoneDevice) : Option ZoneDevice :=
  (rankedCandidates direction devices).find? fun dev => decide (dev.cause runtimes = none)

theorem preferred_of_picked {dev : ZoneDevice}
    (picked : pickedSource direction runtimes devices = some dev) :
    Preferred direction runtimes devices dev := by
  have best := best_of_find picked
  obtain ⟨member, capable⟩ := List.mem_filter.mp best.member
  refine ⟨member, ?_, ?_⟩
  · rw [Eligible, capable, Bool.true_and]
    exact best.accepted
  · intro other inside eligible
    rw [Eligible, Bool.and_eq_true] at eligible
    exact best.least other (List.mem_filter.mpr ⟨inside, eligible.1⟩) eligible.2

theorem picked_of_eligible {dev : ZoneDevice} (member : dev ∈ devices)
    (eligible : Eligible direction runtimes dev = true) :
    (pickedSource direction runtimes devices).isSome = true := by
  rw [Eligible, Bool.and_eq_true] at eligible
  rw [pickedSource, List.find?_isSome]
  exact ⟨dev, mem_rank.mpr (List.mem_filter.mpr ⟨member, eligible.1⟩), eligible.2⟩

/-- Devices of one rank have one id. -/
theorem entityId_of_rank {a b : ZoneDevice}
    (same : thermalRank direction a = thermalRank direction b) : a.entityId = b.entityId := by
  have pair := toLex.injective same
  exact (Prod.mk.inj pair).2

/-- The preferred device is the picked one. -/
theorem picked_iff {id : String} :
    (pickedSource direction runtimes devices).map (·.entityId) = some id ↔
      ∃ dev, Preferred direction runtimes devices dev ∧ dev.entityId = id := by
  constructor
  · intro picked
    obtain ⟨dev, found, here⟩ := Option.map_eq_some_iff.mp picked
    exact ⟨dev, preferred_of_picked found, here⟩
  · rintro ⟨dev, preferred, rfl⟩
    obtain ⟨other, found⟩ := Option.isSome_iff_exists.mp
      (picked_of_eligible preferred.member preferred.accepted)
    have best := preferred_of_picked found
    have same : thermalRank direction other = thermalRank direction dev :=
      le_antisymm (best.least dev preferred.member preferred.accepted)
        (preferred.least other best.member best.accepted)
    rw [found, Option.map_some, entityId_of_rank same]

/-! ### The reason -/

/-- The causes met before the picked candidate. -/
def causesBefore (direction : Direction) (runtimes : List (String × DeviceRuntime))
    (devices : List ZoneDevice) : List BlockingCause :=
  ((rankedCandidates direction devices).takeWhile fun dev =>
    decide (dev.cause runtimes ≠ none)).filterMap (·.cause runtimes)

/-- What the resolver answers to a heating or cooling demand. -/
theorem thermalResolver_eq {reason : ReasonCode} (target : Option ℚ)
    (prioritised : priorityReason direction = some reason) :
    thermalResolver ⟨some direction, target⟩ devices runtimes = some
      (match pickedSource direction runtimes devices, causesBefore direction runtimes devices with
      | none, blocked => { reason := .noCapableSource, blocked }
      | some dev, [] => { reason, selectedSource := some dev.entityId }
      | some dev, blocked =>
        { reason := .failoverPrimaryUnhealthy
          selectedSource := some dev.entityId
          blocked
          fallback := some .primaryUnhealthy }) := by
  have walk := @firstUnblocked_eq runtimes (rankedCandidates direction devices) []
  rw [List.nil_append] at walk
  simp only [thermalResolver]
  split_ifs with empty
  · have nobody : rankedCandidates direction devices = [] := by
      rw [rankedCandidates, List.isEmpty_iff.mp empty]
      rfl
    simp [pickedSource, causesBefore, nobody]
  · rw [show rank (thermalRank direction) (devices.filter (·.has .thermal direction)) =
      rankedCandidates direction devices from rfl, walk]
    rw [show ((rankedCandidates direction devices).takeWhile fun dev =>
      decide (dev.cause runtimes ≠ none)).filterMap (·.cause runtimes) =
      causesBefore direction runtimes devices from rfl,
      show (rankedCandidates direction devices).find? (fun dev =>
        decide (dev.cause runtimes = none)) = pickedSource direction runtimes devices from rfl]
    cases pickedSource direction runtimes devices with
    | none => rfl
    | some dev =>
      cases causesBefore direction runtimes devices with
      | nil => simp [prioritised]
      | cons c blocked => rfl

/-- A device of one id is blocked like any other of it. -/
theorem cause_of_entityId {a b : ZoneDevice} (same : a.entityId = b.entityId) :
    a.cause runtimes = b.cause runtimes := by
  unfold ZoneDevice.cause
  rw [same]

/-- Something was blocked before the preferred device exactly when it ranks before it. -/
theorem causesBefore_ne_nil_iff {dev : ZoneDevice}
    (preferred : Preferred direction runtimes devices dev) :
    causesBefore direction runtimes devices ≠ [] ↔
      ∃ other ∈ devices, other.has .thermal direction = true ∧ other.cause runtimes ≠ none ∧
        thermalRank direction other < thermalRank direction dev := by
  have ranked := (ranked_rank (thermalRank direction)
    (devices.filter (·.has .thermal direction))).ascending
  have mem : ∀ other, other ∈ rankedCandidates direction devices ↔
      other ∈ devices ∧ other.has .thermal direction = true := fun other => by
    rw [rankedCandidates, mem_rank, List.mem_filter]
  have eligible := preferred.accepted
  rw [Eligible, Bool.and_eq_true, decide_eq_true_iff] at eligible
  have inside := (mem dev).mpr ⟨preferred.member, eligible.1⟩
  rw [show rank (thermalRank direction) (devices.filter (·.has .thermal direction)) =
    rankedCandidates direction devices from rfl] at ranked
  unfold causesBefore
  cases order : rankedCandidates direction devices with
  | nil =>
    rw [order] at inside
    exact absurd inside (by simp)
  | cons head rest =>
    rw [order] at ranked inside
    have first : ∀ other ∈ head :: rest,
        thermalRank direction head ≤ thermalRank direction other := by
      intro other member
      rcases List.mem_cons.mp member with rfl | later
      · exact le_refl _
      · exact (List.pairwise_cons.mp ranked).1 other later
    have headMember := (mem head).mp (by rw [order]; simp)
    cases cause : head.cause runtimes with
    | none =>
      -- the head itself is eligible, so nothing ranks before the preferred device
      have least := preferred.least head headMember.1
        (by rw [Eligible, headMember.2, Bool.true_and, cause]; rfl)
      simp only [List.takeWhile_cons, cause, ne_eq, not_true_eq_false, decide_false, if_false,
        Bool.false_eq_true, List.filterMap_nil, false_iff, not_exists, not_and]
      intro other member capable blocked before
      have bound := first other (by rw [← order]; exact (mem other).mpr ⟨member, capable⟩)
      exact absurd (lt_of_le_of_lt bound before) (not_lt.mpr least)
    | some c =>
      simp only [List.takeWhile_cons, cause, ne_eq, reduceCtorEq, not_false_eq_true, decide_true,
        if_true, List.filterMap_cons]
      refine iff_of_true (by simp) ⟨head, headMember.1, headMember.2, by simp [cause], ?_⟩
      refine lt_of_le_of_ne (first dev inside) fun same => ?_
      have shared : head.cause runtimes = dev.cause runtimes :=
        cause_of_entityId (entityId_of_rank same)
      rw [cause, eligible.2] at shared
      exact absurd shared nofun

/-- The resolver selects the preferred device and tells truly whether it stands in for another. -/
theorem best_source_is_selected {reason : ReasonCode} (target : Option ℚ)
    (prioritised : priorityReason direction = some reason) :
    ∃ r, thermalResolver ⟨some direction, target⟩ devices runtimes = some r ∧
      (∀ id, r.selectedSource = some id ↔
        ∃ dev, Preferred direction runtimes devices dev ∧ dev.entityId = id) ∧
      (r.reason = .noCapableSource ↔ ∀ dev ∈ devices, Eligible direction runtimes dev = false) ∧
      (r.reason = .failoverPrimaryUnhealthy ↔
        ∃ dev, Preferred direction runtimes devices dev ∧ ∃ other ∈ devices,
          other.has .thermal direction = true ∧ other.cause runtimes ≠ none ∧
            thermalRank direction other < thermalRank direction dev) := by
  refine ⟨_, thermalResolver_eq target prioritised, ?_⟩
  have ordinary : reason ≠ .noCapableSource ∧ reason ≠ .failoverPrimaryUnhealthy := by
    cases direction <;> cases prioritised <;> decide
  cases picked : pickedSource direction runtimes devices with
  | none =>
    have nobody : ∀ dev ∈ devices, Eligible direction runtimes dev = false := by
      intro dev member
      by_contra some
      have found := picked_of_eligible member (Bool.not_eq_false _ ▸ some)
      rw [picked] at found
      exact absurd found nofun
    have unpreferred : ∀ dev, ¬ Preferred direction runtimes devices dev := fun dev preferred => by
      have accepted := preferred.accepted
      rw [nobody dev preferred.member] at accepted
      exact absurd accepted nofun
    refine ⟨fun id => ?_, ?_, ?_⟩
    · simp only [reduceCtorEq, false_iff, not_exists, not_and]
      exact fun dev preferred => absurd preferred (unpreferred dev)
    · exact iff_of_true rfl nobody
    · simp only [reduceCtorEq, false_iff, not_exists, not_and]
      exact fun dev preferred => absurd preferred (unpreferred dev)
  | some dev =>
    have preferred := preferred_of_picked picked
    have ids : ∀ id, dev.entityId = id ↔
        ∃ dev, Preferred direction runtimes devices dev ∧ dev.entityId = id := fun id => by
      rw [← picked_iff, picked, Option.map_some, Option.some.injEq]
    have eligible : ¬ ∀ dev ∈ devices, Eligible direction runtimes dev = false := fun none => by
      have accepted := preferred.accepted
      rw [none dev preferred.member] at accepted
      exact absurd accepted nofun
    -- every preferred device has the rank of the picked one
    have stands : causesBefore direction runtimes devices ≠ [] ↔
        ∃ dev, Preferred direction runtimes devices dev ∧ ∃ other ∈ devices,
          other.has .thermal direction = true ∧ other.cause runtimes ≠ none ∧
            thermalRank direction other < thermalRank direction dev := by
      rw [causesBefore_ne_nil_iff preferred]
      constructor
      · exact fun before => ⟨dev, preferred, before⟩
      · rintro ⟨dev', preferred', other, member, capable, blocked, before⟩
        exact ⟨other, member, capable, blocked, lt_of_lt_of_le before
          (preferred'.least dev preferred.member preferred.accepted)⟩
    rw [← stands]
    cases causesBefore direction runtimes devices with
    | nil =>
      refine ⟨fun id => ?_, iff_of_false ordinary.1 eligible, iff_of_false ordinary.2 (by simp)⟩
      rw [← ids, Option.some.injEq]
    | cons cause blocked =>
      refine ⟨fun id => ?_, iff_of_false (by simp) eligible, iff_of_true rfl (by simp)⟩
      rw [← ids, Option.some.injEq]

/-! ### The plan -/

/-- Devices listed in another order are arbitrated alike. -/
theorem thermalResolver_perm {devices' : List ZoneDevice} (demand : ThermalDemand)
    (distinct : (devices.map (·.entityId)).Nodup) (perm : devices.Perm devices') :
    thermalResolver demand devices runtimes = thermalResolver demand devices' runtimes := by
  unfold thermalResolver
  cases demand.direction with
  | none => rfl
  | some direction =>
    have filtered := perm.filter (·.has .thermal direction)
    have apart : ∀ a ∈ devices.filter (·.has .thermal direction),
        ∀ b ∈ devices.filter (·.has .thermal direction),
        thermalRank direction a = thermalRank direction b → a = b := by
      intro a inA b inB same
      exact List.inj_on_of_nodup_map distinct (List.mem_filter.mp inA).1 (List.mem_filter.mp inB).1
        (entityId_of_rank same)
    have ranked := rank_perm apart filtered
    have empty : (devices.filter (·.has .thermal direction)).isEmpty =
        (devices'.filter (·.has .thermal direction)).isEmpty := by
      rw [Bool.eq_iff_iff, List.isEmpty_iff, List.isEmpty_iff]
      exact ⟨fun none => List.perm_nil.mp (none ▸ filtered.symm),
        fun none => List.perm_nil.mp (none ▸ filtered)⟩
    simp only [ranked, empty]

theorem entries_keyed {f : ZoneDevice → Option Command}
    (distinct : (devices.map (·.entityId)).Nodup) :
    Dict.Keyed (devices.filterMap fun dev => (f dev).map fun command => (dev.entityId, command)) ∧
      ∀ dev ∈ devices, (devices.filterMap fun dev =>
        (f dev).map fun command => (dev.entityId, command)).lookup dev.entityId = f dev := by
  have keys : ∀ (l : List ZoneDevice) (id : String), id ∉ l.map (·.entityId) →
      id ∉ (l.filterMap fun dev => (f dev).map fun command => (dev.entityId, command)).map
        Prod.fst := by
    intro l id fresh member
    obtain ⟨entry, inside, rfl⟩ := List.mem_map.mp member
    obtain ⟨dev, source, made⟩ := List.mem_filterMap.mp inside
    obtain ⟨command, -, rfl⟩ := Option.map_eq_some_iff.mp made
    exact fresh (List.mem_map_of_mem source)
  induction devices with
  | nil => simp [Dict.Keyed]
  | cons head rest ih =>
    obtain ⟨fresh, later⟩ : head.entityId ∉ rest.map (·.entityId) ∧
      (rest.map (·.entityId)).Nodup := List.nodup_cons.mp distinct
    obtain ⟨keyed, found⟩ := ih later
    have apart : ∀ dev ∈ rest, dev.entityId ≠ head.entityId := by
      intro dev member same
      apply fresh
      rw [← same]
      exact List.mem_map_of_mem member
    cases made : f head with
    | none =>
      simp only [List.filterMap_cons, made, Option.map_none]
      refine ⟨keyed, ?_⟩
      intro dev member
      rcases List.mem_cons.mp member with rfl | old
      · rw [made]
        exact Dict.lookup_of_fresh (keys rest dev.entityId fresh)
      · exact found dev old
    | some command =>
      simp only [List.filterMap_cons, made, Option.map_some]
      refine ⟨List.nodup_cons.mpr ⟨keys rest head.entityId fresh, keyed⟩, ?_⟩
      intro dev member
      rw [Dict.lookup_cons_if]
      rcases List.mem_cons.mp member with rfl | old
      · rw [if_pos rfl, made]
      · rw [if_neg (apart dev old)]
        exact found dev old

theorem lookup_assignmentPlanner {thermal : ResolveReason} {demand : ThermalDemand} {nowWall : ℚ}
    (distinct : (devices.map (·.entityId)).Nodup) {dev : ZoneDevice} (member : dev ∈ devices) :
    (assignmentPlanner thermal demand devices nowWall).lookup dev.entityId =
      plannedCommand thermal demand nowWall dev := by
  obtain ⟨keyed, found⟩ :=
    @entries_keyed devices (plannedCommand thermal demand nowWall) distinct
  rw [assignmentPlanner, Dict.lookup_update keyed, found dev member]
  exact Option.or_none

/-- In the plan of a demand exactly the preferred device gets the thermal command, every other
device its standby command, and the order of the devices decides nothing. -/
theorem plan_serves_the_preferred {reason : ReasonCode} {thermal : ResolveReason}
    {devices' : List ZoneDevice} (target : Option ℚ) (nowWall : ℚ)
    (prioritised : priorityReason direction = some reason)
    (resolved : thermalResolver ⟨some direction, target⟩ devices runtimes = some thermal)
    (distinct : (devices.map (·.entityId)).Nodup) (perm : devices.Perm devices') :
    thermalResolver ⟨some direction, target⟩ devices' runtimes = some thermal ∧
      ∀ dev ∈ devices,
        (assignmentPlanner thermal ⟨some direction, target⟩ devices' nowWall).lookup dev.entityId =
          (assignmentPlanner thermal ⟨some direction, target⟩ devices nowWall).lookup
            dev.entityId ∧
        (Preferred direction runtimes devices dev →
          ∃ cap, dev.capability .thermal direction = some cap ∧
            (assignmentPlanner thermal ⟨some direction, target⟩ devices nowWall).lookup
              dev.entityId = some (thermalCommand thermal dev cap target nowWall)) ∧
        (¬ Preferred direction runtimes devices dev →
          (assignmentPlanner thermal ⟨some direction, target⟩ devices nowWall).lookup
            dev.entityId = standbyCommand dev nowWall) := by
  have distinct' : (devices'.map (·.entityId)).Nodup := (perm.map _).nodup_iff.mp distinct
  obtain ⟨r, answered, selects, -, -⟩ :=
    @best_source_is_selected direction devices runtimes reason target prioritised
  obtain rfl := Option.some.inj (resolved.symm.trans answered)
  refine ⟨by rw [← thermalResolver_perm _ distinct perm, resolved], fun dev member => ?_⟩
  rw [lookup_assignmentPlanner distinct' (perm.mem_iff.mp member),
    lookup_assignmentPlanner distinct member]
  refine ⟨rfl, ?_, ?_⟩
  · intro preferred
    have capable : (dev.capability .thermal direction).isSome = true := by
      have accepted := preferred.accepted
      rw [Eligible, Bool.and_eq_true] at accepted
      exact accepted.1
    obtain ⟨cap, known⟩ := Option.isSome_iff_exists.mp capable
    refine ⟨cap, known, ?_⟩
    have chosen := (selects dev.entityId).mpr ⟨dev, preferred, rfl⟩
    simp [plannedCommand, chosen, known]
  · intro other
    have unchosen : ¬ some dev.entityId = thermal.selectedSource := by
      intro same
      obtain ⟨dev', preferred, id⟩ := (selects dev.entityId).mp same.symm
      obtain rfl := List.inj_on_of_nodup_map distinct preferred.member member id
      exact other preferred
    simp [plannedCommand, unchosen]

/-! ### A radiator and an air conditioner -/

def radiator : ZoneDevice where
  entityId := "climate.radiator"
  capabilities := [{ axis := .thermal, direction := .heat, modeCommand := some "heat" }]
  standbyPolicy := .holdSafeSetpoint

def airConditioner : ZoneDevice where
  entityId := "climate.ac"
  capabilities := [
    { axis := .thermal, direction := .heat, modeCommand := some "heat", priority := 200 },
    { axis := .thermal, direction := .cool, modeCommand := some "cool" }]

theorem radiator_fails_over :
    ∃ r, thermalResolver ⟨some .heat, some 21⟩ [radiator, airConditioner]
        [("climate.radiator", { health := .fault })] = some r ∧
      (∀ id, r.selectedSource = some id ↔
        ∃ dev, Preferred .heat [("climate.radiator", { health := .fault })]
          [radiator, airConditioner] dev ∧ dev.entityId = id) ∧
      (r.reason = .noCapableSource ↔ ∀ dev ∈ [radiator, airConditioner],
        Eligible .heat [("climate.radiator", { health := .fault })] dev = false) ∧
      (r.reason = .failoverPrimaryUnhealthy ↔
        ∃ dev, Preferred .heat [("climate.radiator", { health := .fault })]
          [radiator, airConditioner] dev ∧ ∃ other ∈ [radiator, airConditioner],
            other.has .thermal .heat = true ∧
              other.cause [("climate.radiator", { health := .fault })] ≠ none ∧
              thermalRank .heat other < thermalRank .heat dev) :=
  best_source_is_selected (some 21) rfl

/-- With the radiator out of order the air conditioner heats, whichever of them is listed first. -/
theorem conditioner_heats_either_way :
    let runtimes := [("climate.radiator", ({ health := .fault } : DeviceRuntime))]
    let demand : ThermalDemand := ⟨some .heat, some 21⟩
    let devices := [radiator, airConditioner]
    let thermal : ResolveReason :=
      { reason := .failoverPrimaryUnhealthy
        selectedSource := some "climate.ac"
        blocked := [.deviceUnhealthy]
        fallback := some .primaryUnhealthy }
    thermalResolver demand devices.reverse runtimes = some thermal ∧
      ∀ dev ∈ devices,
        (assignmentPlanner thermal demand devices.reverse 0).lookup dev.entityId =
          (assignmentPlanner thermal demand devices 0).lookup dev.entityId ∧
        (Preferred .heat runtimes devices dev →
          ∃ cap, dev.capability .thermal .heat = some cap ∧
            (assignmentPlanner thermal demand devices 0).lookup dev.entityId =
              some (thermalCommand thermal dev cap (some 21) 0)) ∧
        (¬ Preferred .heat runtimes devices dev →
          (assignmentPlanner thermal demand devices 0).lookup dev.entityId =
            standbyCommand dev 0) :=
  plan_serves_the_preferred (some 21) 0 rfl (by decide +kernel) (by decide +kernel)
    (List.reverse_perm _).symm

end Poise
