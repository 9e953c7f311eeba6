import Poise.Safety.SensorOutage
import Poise.Foundation.PastTime
import Mathlib.Tactic.Linarith

/-!
# When the sensor source is handed back

The safe state engages exactly after a sustained loss, and the sensor source is handed back as soon
as it does. Repetitions are spaced, and the stamp of an earlier outage never delays the first
attempt of a later one.
-/
namespace Poise

open Trace PastTime

abbrev OutageMoment := Step OutageRuntime OutageTick OutageReport

/-- A tick without a room reading. -/
def Lost (e : OutageMoment) : Prop :=
  match e.input with
  | .available _ _ => False
  | .unavailable _ _ => True

/-- `f` belongs to the outage that lasts to the end of `past`. -/
abbrev InOutage (past : List OutageMoment) (f : OutageMoment) : Prop := Within Lost Lost past f

/-- The tick calls for the release of a select. -/
def HandsBack (e : OutageMoment) (select : String) : Prop :=
  ∃ sent, OutageCall.selectInternal select sent ∈ e.output.calls

/-- A select that this zone drives reads `external`. -/
def FeedStands (rt : OutageRuntime) (r : OutageReading) (select : String) : Prop :=
  r.sensorSelect = some select ∧ r.selectState = some "external" ∧
    (r.trvExtTemp.isSome = true ∨ rt.zone.actuator.lastFed.isSome = true)

/-! ### The calls of a tick -/

/-- The select whose release is due. -/
def releaseTarget (rt : OutageRuntime) (now : ℚ) (r : OutageReading) : Option String :=
  sensorSourceHandbackTarget r.sensorSelect r.selectState r.trvExtTemp rt.zone.actuator.lastFed
    rt.lastHandbackTs (some now) selectHandbackRetryS

theorem releaseTarget_eq_some {rt : OutageRuntime} {now : ℚ} {r : OutageReading}
    {select : String} :
    releaseTarget rt now r = some select ↔
      FeedStands rt r select ∧ ∀ last, rt.lastHandbackTs = some last → 300 ≤ now - last := by
  have retry : selectHandbackRetryS = 300 := rfl
  unfold FeedStands releaseTarget sensorSourceHandbackTarget sensorSourceHandbackDue
  rw [retry, ← Bool.or_eq_true]
  cases r.sensorSelect with
  | none => simp
  | some entity =>
    cases r.trvExtTemp.isSome || rt.zone.actuator.lastFed.isSome with
    | false => simp
    | true =>
      by_cases external : r.selectState = some "external"
      · cases rt.lastHandbackTs with
        | none => simp [external]
        | some last => simp [external, ite_eq_iff, and_comm]
      · simp [external]

/-- The calls that set up the safe state. -/
def safeCalls (r : OutageReading) : List OutageCall :=
  match r.plan with
  | none => []
  | some plan => plan.calls r

theorem select_not_mem_safeCalls (r : OutageReading) (select : String) (sent : Bool) :
    OutageCall.selectInternal select sent ∉ safeCalls r := by
  unfold safeCalls
  cases r.plan with
  | none => simp
  | some plan =>
    intro member
    obtain ⟨x, -, call⟩ := List.mem_filterMap.mp member
    unfold OutageCall.of at call
    split_ifs at call
    split at call <;> simp at call

theorem release_spec (rt : OutageRuntime) (now : ℚ) (r : OutageReading) :
    (rt.release now r).1.unavailableSince = rt.unavailableSince ∧
      (rt.release now r).1.lastHandbackTs =
        (if (releaseTarget rt now r).isSome then some now else rt.lastHandbackTs) ∧
      (rt.release now r).2 =
        (releaseTarget rt now r).toList.map (OutageCall.selectInternal · r.selectSent) := by
  unfold OutageRuntime.release
  rw [← show releaseTarget rt now r = sensorSourceHandbackTarget r.sensorSelect r.selectState
    r.trvExtTemp rt.zone.actuator.lastFed rt.lastHandbackTs (some now) selectHandbackRetryS
    from rfl]
  cases releaseTarget rt now r with
  | none => exact ⟨rfl, rfl, rfl⟩
  | some select => exact ⟨rfl, rfl, rfl⟩

theorem write_spec (rt : OutageRuntime) (now : ℚ) (r : OutageReading) :
    (rt.writeUnavailableSafeState now r).1.unavailableSince = rt.unavailableSince ∧
      (rt.writeUnavailableSafeState now r).1.lastHandbackTs =
        (if (releaseTarget rt now r).isSome then some now else rt.lastHandbackTs) ∧
      (rt.writeUnavailableSafeState now r).2 =
        (releaseTarget rt now r).toList.map (OutageCall.selectInternal · r.selectSent) ++
          safeCalls r := by
  obtain ⟨since, stamp, calls⟩ := release_spec rt now r
  unfold OutageRuntime.writeUnavailableSafeState safeCalls
  cases r.plan with
  | none => exact ⟨since, stamp, by rw [List.append_nil]; exact calls⟩
  | some plan => exact ⟨since, stamp, by rw [← calls]⟩

/-! ### One tick -/

/-- The instant since which the room reading is missing, this tick included. -/
def lostSince (rt : OutageRuntime) (now : ℚ) : ℚ := rt.unavailableSince.getD now

theorem engaged_iff {seconds : ℚ} :
    unavailableSafeEngaged (some seconds) unavailableSafeAfterS = true ↔ 1800 ≤ seconds := by
  have after : unavailableSafeAfterS = 1800 := rfl
  simp [unavailableSafeEngaged, after]

theorem outageStep_eq (rt : OutageRuntime) (now : ℚ) (r : OutageReading) :
    outageStep rt (.unavailable now r) =
      if unavailableSafeEngaged (some (now - lostSince rt now)) unavailableSafeAfterS = false then
        ({ rt with unavailableSince := some (lostSince rt now) }, ⟨false, []⟩)
      else
        ((({ rt with unavailableSince := some (lostSince rt now) } :
            OutageRuntime).writeUnavailableSafeState now r).1,
          ⟨true, (({ rt with unavailableSince := some (lostSince rt now) } :
            OutageRuntime).writeUnavailableSafeState now r).2⟩) := rfl

/-- What a tick without a room reading does. -/
theorem outageStep_lost (rt : OutageRuntime) (now : ℚ) (r : OutageReading) :
    let out := outageStep rt (.unavailable now r)
    out.1.unavailableSince = some (lostSince rt now) ∧
      (out.2.engaged = true ↔ 1800 ≤ now - lostSince rt now) ∧
      (out.2.engaged = true → out.1.lastHandbackTs =
          (if (releaseTarget rt now r).isSome then some now else rt.lastHandbackTs) ∧
        out.2.calls = (releaseTarget rt now r).toList.map
          (OutageCall.selectInternal · r.selectSent) ++ safeCalls r) ∧
      (out.2.engaged = false → out.1.lastHandbackTs = rt.lastHandbackTs ∧ out.2.calls = []) := by
  intro out
  obtain ⟨since, stamp, calls⟩ :=
    write_spec { rt with unavailableSince := some (lostSince rt now) } now r
  have step := outageStep_eq rt now r
  rw [show outageStep rt (.unavailable now r) = out from rfl] at step
  by_cases long : 1800 ≤ now - lostSince rt now
  · have engaged := engaged_iff.mpr long
    rw [if_neg (by rw [engaged]; decide)] at step
    rw [step]
    exact ⟨since, iff_of_true rfl long, fun _ => ⟨stamp, calls⟩, fun h => absurd h nofun⟩
  · have rests := mt engaged_iff.mp long
    rw [if_pos (Bool.not_eq_true _ ▸ rests)] at step
    rw [step]
    exact ⟨rfl, iff_of_false nofun long, fun h => absurd h nofun, fun _ => ⟨rfl, rfl⟩⟩

/-- A tick hands a select back exactly when the safe state is engaged and the release is due. -/
theorem handsBack_iff {e : OutageMoment} {now : ℚ} {r : OutageReading}
    (step : e = Step.of outageStep e.pre e.input) (lost : e.input = .unavailable now r)
    (select : String) :
    HandsBack e select ↔ e.output.engaged = true ∧ releaseTarget e.pre now r = some select := by
  obtain ⟨-, -, writes, rests⟩ := outageStep_lost e.pre now r
  rw [lost] at step
  rw [← show e.output = (outageStep e.pre (.unavailable now r)).2 by rw [step]; rfl] at writes rests
  unfold HandsBack
  cases engaged : e.output.engaged with
  | false =>
    rw [(rests engaged).2]
    simp
  | true =>
    rw [(writes engaged).2]
    simp only [List.mem_append, List.mem_map, Option.mem_toList, true_and]
    constructor
    · rintro ⟨sent, ⟨target, due, call⟩ | safe⟩
      · rw [due, (OutageCall.selectInternal.inj call).1]
      · exact absurd safe (select_not_mem_safeCalls r select sent)
    · intro due
      exact ⟨r.selectSent, .inl ⟨select, due, rfl⟩⟩

/-! ### What the runtime remembers -/

structure Remembers (past : List OutageMoment) (rt : OutageRuntime) : Prop where
  anchor : Anchor (fun g : OutageMoment => g.input.now) Lost Lost past rt.unavailableSince
  recorded : ∀ g ∈ past, ∀ select, HandsBack g select →
    ∃ last, rt.lastHandbackTs = some last ∧ g.input.now ≤ last
  stamped : ∀ last, rt.lastHandbackTs = some last →
    ∃ g ∈ past, (∃ select, HandsBack g select) ∧ g.input.now = last

theorem remembers_step {past : List OutageMoment} {rt : OutageRuntime} {t : OutageTick}
    (later : ∀ g ∈ past, g.input.now ≤ t.now) (remembers : Remembers past rt) :
    Remembers (past ++ [Step.of outageStep rt t]) (outageStep rt t).1 := by
  obtain ⟨anchor, recorded, stamped⟩ := remembers
  set e := Step.of outageStep rt t with here
  cases t with
  | available now zone =>
    have silent : ∀ select, ¬ HandsBack e select := by
      rintro select ⟨sent, call⟩
      exact absurd call (by simp [here, outageStep])
    refine ⟨anchor_drop id id, ?_, ?_⟩
    · intro g member select back
      rcases List.mem_append.mp member with old | new
      · exact recorded g old select back
      · exact absurd (List.mem_singleton.mp new ▸ back) (silent select)
    · intro last known
      obtain ⟨g, member, back, at_⟩ := stamped last known
      exact ⟨g, List.mem_append_left _ member, back, at_⟩
  | unavailable now r =>
    have back := @handsBack_iff e now r rfl rfl
    obtain ⟨since, -, writes, rests⟩ := outageStep_lost rt now r
    have post : e.output = (outageStep rt (.unavailable now r)).2 := rfl
    rw [← post] at writes rests
    have kept : Anchor (fun g : OutageMoment => g.input.now) Lost Lost (past ++ [e])
        (outageStep rt (.unavailable now r)).1.unavailableSince := by
      rw [since]
      exact anchor.keep later trivial trivial
    by_cases attempt : e.output.engaged = true ∧ (releaseTarget rt now r).isSome = true
    · obtain ⟨engaged, due⟩ := attempt
      have stamp := (writes engaged).1
      rw [if_pos due] at stamp
      obtain ⟨select, target⟩ := Option.isSome_iff_exists.mp due
      refine ⟨kept, ?_, ?_⟩
      · intro g member _ _
        refine ⟨now, stamp, ?_⟩
        rcases List.mem_append.mp member with old | new
        · exact later g old
        · rw [List.mem_singleton.mp new]
          exact le_refl _
      · intro last known
        rw [stamp, Option.some.injEq] at known
        exact ⟨e, by simp, ⟨select, (back select).mpr ⟨engaged, target⟩⟩, known⟩
    · have stamp : (outageStep rt (.unavailable now r)).1.lastHandbackTs = rt.lastHandbackTs := by
        cases engaged : e.output.engaged with
        | false => exact (rests engaged).1
        | true => rw [(writes engaged).1, if_neg fun due => attempt ⟨engaged, due⟩]
      have silent : ∀ select, ¬ HandsBack e select := by
        intro select called
        obtain ⟨engaged, target⟩ := (back select).mp called
        exact attempt ⟨engaged, by rw [show releaseTarget rt now r = some select from target]; rfl⟩
      refine ⟨kept, ?_, ?_⟩
      · intro g member select called
        rw [stamp]
        rcases List.mem_append.mp member with old | new
        · exact recorded g old select called
        · exact absurd (List.mem_singleton.mp new ▸ called) (silent select)
      · intro last known
        rw [stamp] at known
        obtain ⟨g, member, called, at_⟩ := stamped last known
        exact ⟨g, List.mem_append_left _ member, called, at_⟩

theorem remembers_at {ts : List OutageTick} (ordered : ts.Pairwise (·.now ≤ ·.now))
    {past : List OutageMoment} {e : OutageMoment}
    (moment : past ++ [e] <+: trace outageStep {} ts) : Remembers past e.pre :=
  history_at outageStep Remembers (fun past e => ∀ g ∈ past, g.input.now ≤ e.input.now)
    ⟨anchor_nil, by simp, by simp⟩ (fun _ _ _ remembers later => remembers_step later remembers)
    (fun _ _ moment => pairwise_past outageStep ordered moment) moment

/-! ### The run -/

/-- The safe state engages exactly after half an hour without a reading. The release is called for
as soon as it engages and then every five minutes, whatever earlier outages did. -/
theorem handback_is_prompt_and_spaced {ts : List OutageTick}
    (ordered : ts.Pairwise (·.now ≤ ·.now)) {past : List OutageMoment} {e : OutageMoment}
    (moment : past ++ [e] <+: trace outageStep {} ts) {now : ℚ} {r : OutageReading}
    (lost : e.input = .unavailable now r) :
    (e.output.engaged = true ↔
        ∃ f, InOutage (past ++ [e]) f ∧ 1800 ≤ now - f.input.now) ∧
      (∀ select, HandsBack e select ↔ e.output.engaged = true ∧ FeedStands e.pre r select ∧
        ∀ g, InOutage past g → (∃ other, HandsBack g other) → 300 ≤ now - g.input.now) ∧
      ∀ select, HandsBack e select →
        ∀ g ∈ past, (∃ other, HandsBack g other) → 300 ≤ now - g.input.now := by
  obtain ⟨anchor, recorded, stamped⟩ := remembers_at ordered moment
  have step := step_of_mem outageStep (mem_of_moment outageStep moment)
  have later : ∀ g ∈ past, g.input.now ≤ now := by
    have before := pairwise_past outageStep ordered moment
    rw [lost] at before
    exact before
  have back := handsBack_iff step lost
  obtain ⟨-, long, -, -⟩ := outageStep_lost e.pre now r
  have report : e.output = (outageStep e.pre (.unavailable now r)).2 := by
    rw [step, lost]
    rfl
  rw [← report] at long
  have here : Lost e := by
    unfold Lost
    rw [lost]
    trivial
  have time : e.input.now = now := by rw [lost]; rfl
  have kept : Anchor (fun g : OutageMoment => g.input.now) Lost Lost (past ++ [e])
      (some (lostSince e.pre now)) := by
    have keeps := anchor.keep (fun g member => time.symm ▸ later g member) here here
    rwa [time] at keeps
  obtain ⟨⟨first, since, at_⟩, least⟩ := kept.some _ rfl
  have spaced : ∀ select, HandsBack e select →
      ∀ g ∈ past, (∃ other, HandsBack g other) → 300 ≤ now - g.input.now := by
    rintro select called g member ⟨other, earlier⟩
    obtain ⟨last, known, bound⟩ := recorded g member other earlier
    have wait := (releaseTarget_eq_some.mp ((back select).mp called).2).2 last known
    linarith
  refine ⟨?_, fun select => ⟨fun called => ?_, fun ⟨engaged, stands, alone⟩ => ?_⟩, spaced⟩
  · rw [long]
    constructor
    · intro waited
      exact ⟨first, since, by rw [at_]; exact waited⟩
    · rintro ⟨f, within, waited⟩
      have earliest := least f within
      linarith
  · obtain ⟨engaged, due⟩ := (back select).mp called
    exact ⟨engaged, (releaseTarget_eq_some.mp due).1,
      fun g within => spaced select called g within.mem⟩
  · refine (back select).mpr ⟨engaged, releaseTarget_eq_some.mpr ⟨stands, fun last known => ?_⟩⟩
    obtain ⟨g, member, attempt, rfl⟩ := stamped last known
    by_cases within : InOutage past g
    · exact alone g within attempt
    · -- an attempt of an earlier outage is older than this one's half hour
      have older : g.input.now ≤ lostSince e.pre now := by
        cases known : e.pre.unavailableSince with
        | none =>
          rw [lostSince, known]
          exact later g member
        | some a =>
          obtain ⟨⟨f, ⟨before, after, rfl, lostF, held⟩, rfl⟩, -⟩ := anchor.some a known
          rw [lostSince, known]
          rcases List.mem_append.mp member with early | late
          · have opening : before ++ [f] <+: trace outageStep {} ts :=
              List.IsPrefix.trans ⟨after ++ [e], by simp⟩ moment
            exact pairwise_past outageStep ordered opening g early
          · rcases List.mem_cons.mp late with rfl | inside
            · exact le_refl _
            · exact absurd (within_of_mem held inside (held g inside)) within
      have waited := long.mp engaged
      linarith

/-! ### A lost feed -/

def fedReading : OutageReading where
  actuator := some { state := "heat", hvacModes := ["off", "heat"], temperature := some 21 }
  sensorSelect := some "select.valve_source"
  selectState := some "external"
  trvExtTemp := some "number.valve_feed"

theorem lost_feed_is_handed_back :
    let run := trace outageStep {} [.unavailable 0 fedReading]
    let e := Step.of outageStep (final outageStep {} [.unavailable 0 fedReading])
      (.unavailable 1800 fedReading)
    (e.output.engaged = true ↔ ∃ f, InOutage (run ++ [e]) f ∧ 1800 ≤ 1800 - f.input.now) ∧
      (∀ select, HandsBack e select ↔ e.output.engaged = true ∧ FeedStands e.pre fedReading select ∧
        ∀ g, InOutage run g → (∃ other, HandsBack g other) → 300 ≤ 1800 - g.input.now) ∧
      ∀ select, HandsBack e select →
        ∀ g ∈ run, (∃ other, HandsBack g other) → 300 ≤ 1800 - g.input.now :=
  @handback_is_prompt_and_spaced [.unavailable 0 fedReading, .unavailable 1800 fedReading]
    (by decide +kernel) _ _ List.prefix_rfl 1800 fedReading rfl

end Poise
