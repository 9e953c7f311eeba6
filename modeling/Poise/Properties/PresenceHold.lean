import Poise.Comfort.Presence
import Poise.Foundation.PastTime
import Mathlib.Tactic.Linarith

/-!
# When an empty room falls to Eco

The stage keeps one anchor. What it answers is a fact about the whole run: the room falls to Eco
exactly when it has been surely absent over a stretch that is long enough and that lies, but for
its first tick, inside the comfort window.
-/
namespace Poise

open Trace PastTime

variable {cfg : PresenceConfig} {band : PresenceBand}

abbrev PresenceStep := Step (Option ℚ) PresenceTick PresenceLevelResult

namespace PresenceTick

/-- Every room sensor resolves and none sees anyone. -/
def Absent (t : PresenceTick) : Prop := anyPresent t.occupancy = some false

instance (t : PresenceTick) : Decidable t.Absent := inferInstanceAs (Decidable (_ = _))

/-- An absent tick whose time counts. -/
def Accrues (t : PresenceTick) : Prop := t.Absent ∧ t.isComfort = true ∧ t.preheating = false

instance (t : PresenceTick) : Decidable t.Accrues := inferInstanceAs (Decidable (_ ∧ _ ∧ _))

end PresenceTick

open PresenceTick

/-- The anchor is the time of the earliest tick of the absence that still counts. -/
abbrev AbsenceAnchor (past : List PresenceTick) (absentSince : Option ℚ) : Prop :=
  Anchor PresenceTick.now Absent Accrues past absentSince

theorem stagePresenceLevel_since (absentSince : Option ℚ) (t : PresenceTick) :
    (stagePresenceLevel cfg band absentSince t).1 =
      stepRoomAbsence absentSince (anyPresent t.occupancy) t.now (t.isComfort && !t.preheating) :=
  rfl

theorem absenceAnchor_step {past : List PresenceTick} {absentSince : Option ℚ} {t : PresenceTick}
    (later : ∀ s ∈ past, s.now ≤ t.now) (anchored : AbsenceAnchor past absentSince) :
    AbsenceAnchor (past ++ [t]) (stagePresenceLevel cfg band absentSince t).1 := by
  rw [stagePresenceLevel_since]
  by_cases absent : t.Absent
  · have resolved : anyPresent t.occupancy = some false := absent
    simp only [stepRoomAbsence, resolved, ne_eq, not_true_eq_false, if_false]
    by_cases counts : (t.isComfort && !t.preheating) = true
    · have accrues : t.Accrues := ⟨absent, by simpa using counts⟩
      have kept := anchored.keep later absent accrues
      rw [counts, if_neg (by simp)]
      cases absentSince with
      | none => exact kept
      | some since => exact kept
    · -- the clock starts again at every tick that does not count
      rw [Bool.not_eq_true] at counts
      rw [counts, if_pos rfl]
      refine anchor_set absent fun ⟨accrues, _⟩ => ?_
      rw [accrues.2.1, accrues.2.2] at counts
      exact absurd counts nofun
  · have none : stepRoomAbsence absentSince (anyPresent t.occupancy) t.now
        (t.isComfort && !t.preheating) = none := if_pos absent
    rw [none]
    exact anchor_drop absent fun holds => absent holds.1

/-- The gates of the room level, and the absence they wait for. -/
theorem level_eq_roomEco_iff (absentSince : Option ℚ) (t : PresenceTick)
    (hold : 0 < cfg.absenceAfterMin) :
    (stagePresenceLevel cfg band absentSince t).2.level = .roomEco ↔
      anyPresent t.home ≠ some false ∧ t.isComfort = true ∧ t.preheating = false ∧
        ∃ since, (stagePresenceLevel cfg band absentSince t).1 = some since ∧
          cfg.absenceAfterMin ≤ (t.now - since) / 60 := by
  have level : (stagePresenceLevel cfg band absentSince t).2.level =
      resolvePresence cfg (anyPresent t.home)
        (((stagePresenceLevel cfg band absentSince t).1.map fun since =>
          (t.now - since) / 60).getD 0) t.isComfort t.preheating := by
    simp only [stagePresenceLevel]
    cases stepRoomAbsence absentSince (anyPresent t.occupancy) t.now
      (t.isComfort && !t.preheating) <;> split <;> rfl
  rw [level]
  cases (stagePresenceLevel cfg band absentSince t).1 with
  | none =>
    have never : ¬ cfg.absenceAfterMin ≤ 0 := not_le.mpr hold
    simp only [resolvePresence, Option.map_none, Option.getD_none, never, and_false, if_false]
    split_ifs <;> simp
  | some since =>
    simp only [resolvePresence, Option.map_some, Option.getD_some, Option.some.injEq,
      exists_eq_left']
    split_ifs with away preheats eco
    · simp [away]
    · simp [preheats]
    · simp [away, preheats, eco]
    · have short : t.isComfort = true → ¬ cfg.absenceAfterMin ≤ (t.now - since) / 60 :=
        fun comfort enough => eco ⟨comfort, enough⟩
      simp only [false_iff, not_and]
      exact fun _ comfort _ => short comfort

/-- The room falls to Eco exactly after a sure absence of the hold's length, counted from a tick
after which every tick was absent, inside the comfort window and not preheating. -/
theorem eco_iff_long_absence {ticks : List PresenceTick} {past : List PresenceStep}
    {e : PresenceStep} (hold : 0 < cfg.absenceAfterMin)
    (clock : ticks.Pairwise fun s t => s.now ≤ t.now)
    (moment : past ++ [e] <+: trace (stagePresenceLevel cfg band) none ticks) :
    e.output.level = .roomEco ↔
      anyPresent e.input.home ≠ some false ∧ e.input.isComfort = true ∧
        e.input.preheating = false ∧
        ∃ f, Within Absent Accrues (past.map Step.input ++ [e.input]) f ∧
          cfg.absenceAfterMin ≤ (e.input.now - f.now) / 60 := by
  have keep : ∀ past s t, AbsenceAnchor (past.map Step.input) s →
      (∀ g ∈ past, g.input.now ≤ t.now) →
      AbsenceAnchor ((past ++ [Step.of (stagePresenceLevel cfg band) s t]).map Step.input)
        (stagePresenceLevel cfg band s t).1 := by
    intro past s t anchored ordered
    rw [List.map_append]
    refine absenceAnchor_step ?_ anchored
    intro u member
    obtain ⟨g, within, rfl⟩ := List.mem_map.mp member
    exact ordered g within
  have ok : ∀ past f, past ++ [f] <+: trace (stagePresenceLevel cfg band) none ticks →
      ∀ g ∈ past, g.input.now ≤ f.input.now := fun past f earlier => pairwise_past _ clock earlier
  have before : AbsenceAnchor (past.map Step.input) e.pre :=
    history_at (stagePresenceLevel cfg band) (fun past s => AbsenceAnchor (past.map Step.input) s)
      (fun past f => ∀ g ∈ past, g.input.now ≤ f.input.now) anchor_nil keep ok moment
  have after := keep past e.pre e.input before (ok past e moment)
  rw [List.map_append] at after
  have here := step_of_mem _ (mem_of_moment _ moment)
  have output : e.output = (stagePresenceLevel cfg band e.pre e.input).2 := by
    conv_lhs => rw [here]
    rfl
  rw [output, level_eq_roomEco_iff e.pre e.input hold]
  refine and_congr_right fun _ => and_congr_right fun _ => and_congr_right fun _ => ?_
  constructor
  · rintro ⟨since, known, long⟩
    obtain ⟨⟨f, within, rfl⟩, -⟩ := after.some since known
    exact ⟨f, within, long⟩
  · rintro ⟨f, within, long⟩
    cases known : (stagePresenceLevel cfg band e.pre e.input).1 with
    | none => exact absurd within (after.none known f)
    | some since =>
      refine ⟨since, rfl, long.trans ?_⟩
      have earliest := (after.some since known).2 f within
      linarith

/-! ### One evening -/

/-- A tick inside the comfort window, with the verdict of the one room sensor. -/
def roomTick (minute : ℚ) (seen : Bool) : PresenceTick :=
  { now := 60 * minute, occupancy := [some seen], isComfort := true }

theorem eco_after_half_an_hour :
    let band : PresenceBand := ⟨4, 30, 26⟩
    let run := trace (stagePresenceLevel {} band) none [roomTick 0 true, roomTick 10 false]
    let e := Step.of (stagePresenceLevel {} band)
      (final (stagePresenceLevel {} band) none [roomTick 0 true, roomTick 10 false])
      (roomTick 40 false)
    e.output.level = .roomEco ∧ (e.output.level = .roomEco ↔
      anyPresent e.input.home ≠ some false ∧ e.input.isComfort = true ∧
        e.input.preheating = false ∧
        ∃ f, Within Absent Accrues (run.map Step.input ++ [e.input]) f ∧
          30 ≤ (e.input.now - f.now) / 60) :=
  ⟨by decide +kernel, @eco_iff_long_absence {} ⟨4, 30, 26⟩
    [roomTick 0 true, roomTick 10 false, roomTick 40 false] _ _ (by decide +kernel)
    (by decide +kernel) List.prefix_rfl⟩

end Poise
