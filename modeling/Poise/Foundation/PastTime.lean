import Poise.Foundation.Trace
import Mathlib.Data.List.Basic
import Mathlib.Order.Defs.PartialOrder

/-!
# Past-time operators

`Since trigger hold past`: something triggered in the past and everything after it held. This is
what a latch remembers: it is set by a trigger, kept by a hold, and released by anything else.
-/
namespace PastTime

variable {α σ ω : Type*} {trigger hold : α → Prop} {past : List α} {e f : α}

/-- `f` triggered, and everything after it held. -/
def Within (trigger hold : α → Prop) (past : List α) (f : α) : Prop :=
  ∃ before after, past = before ++ f :: after ∧ trigger f ∧ ∀ g ∈ after, hold g

def Since (trigger hold : α → Prop) (past : List α) : Prop := ∃ f, Within trigger hold past f

theorem within_nil : ¬ Within trigger hold [] f := by
  rintro ⟨before, after, split, -, -⟩
  simp at split

theorem within_snoc :
    Within trigger hold (past ++ [e]) f ↔
      f = e ∧ trigger e ∨ hold e ∧ Within trigger hold past f := by
  constructor
  · rintro ⟨before, after, split, triggered, held⟩
    rcases after.eq_nil_or_concat with rfl | ⟨after, last, rfl⟩
    · left
      obtain ⟨-, same⟩ := List.append_inj' split rfl
      simp only [List.cons.injEq, and_true] at same
      exact ⟨same.symm, same ▸ triggered⟩
    · right
      rw [List.concat_eq_append, ← List.cons_append, ← List.append_assoc] at split
      obtain ⟨earlier, same⟩ := List.append_inj' split rfl
      simp only [List.cons.injEq, and_true] at same
      subst same
      exact ⟨held _ (by simp), before, after, earlier, triggered, fun g member =>
        held g (by simp [member])⟩
  · rintro (⟨rfl, triggered⟩ | ⟨holds, before, after, rfl, triggered, held⟩)
    · exact ⟨past, [], rfl, triggered, by simp⟩
    · refine ⟨before, after ++ [e], by simp, triggered, ?_⟩
      intro g member
      rcases List.mem_append.mp member with early | last
      · exact held g early
      · rw [List.mem_singleton.mp last]
        exact holds

theorem Within.mem (within : Within trigger hold past f) : f ∈ past := by
  obtain ⟨before, after, rfl, -, -⟩ := within
  simp

/-- What triggers after `f`, while all that follows holds, is within as well. -/
theorem within_of_mem {before after : List α} (held : ∀ g ∈ after, hold g) (member : e ∈ after)
    (triggered : trigger e) : Within trigger hold (before ++ f :: after) e := by
  obtain ⟨early, late, rfl⟩ := List.append_of_mem member
  exact ⟨before ++ f :: early, late, by simp, triggered, fun g inside => held g (by simp [inside])⟩

theorem since_nil : ¬ Since trigger hold ([] : List α) := fun ⟨_, within⟩ => within_nil within

theorem since_snoc :
    Since trigger hold (past ++ [e]) ↔ trigger e ∨ hold e ∧ Since trigger hold past := by
  simp only [Since, within_snoc, exists_or, exists_eq_left, exists_and_left]

/-- A latch is on exactly since its last trigger. -/
theorem latch_iff {step : σ → α → σ × ω} {on : σ → Prop} {s : σ} (off : ¬ on s)
    (law : ∀ t i, on (step t i).1 ↔ trigger i ∨ hold i ∧ on t) (inputs : List α) :
    on (Trace.final step s inputs) ↔ Since trigger hold inputs := by
  induction inputs using List.reverseRecOn with
  | nil => exact iff_of_false off since_nil
  | append_singleton inputs i ih =>
    rw [Trace.final_append, since_snoc, ← ih]
    exact law _ i

/-! ### Anchors -/

section Anchor

variable {K : Type*} [Preorder K] {time : α → K} {anchor : Option K}

/-- The anchor is the time of the earliest trigger that is still held. -/
structure Anchor (time : α → K) (trigger hold : α → Prop) (past : List α)
    (anchor : Option K) : Prop where
  none : anchor = none → ∀ f, ¬ Within trigger hold past f
  some : ∀ since, anchor = some since →
    (∃ f, Within trigger hold past f ∧ time f = since) ∧
      ∀ f, Within trigger hold past f → since ≤ time f

theorem anchor_nil : Anchor time trigger hold [] none :=
  ⟨fun _ _ => within_nil, fun _ known => absurd known nofun⟩

/-- What neither triggers nor holds drops the anchor. -/
theorem anchor_drop (silent : ¬ trigger e) (releases : ¬ hold e) :
    Anchor time trigger hold (past ++ [e]) none := by
  refine ⟨fun _ f within => ?_, fun _ known => absurd known nofun⟩
  rcases within_snoc.mp within with ⟨-, triggered⟩ | ⟨holds, -⟩
  · exact silent triggered
  · exact releases holds

/-- What triggers and holds keeps the anchor, or sets it. -/
theorem Anchor.keep (kept : Anchor time trigger hold past anchor)
    (later : ∀ f ∈ past, time f ≤ time e) (triggers : trigger e) (holds : hold e) :
    Anchor time trigger hold (past ++ [e]) (anchor.getD (time e)) := by
  refine ⟨fun none => absurd none nofun, fun since known => ?_⟩
  obtain rfl := Option.some.inj known
  cases anchor with
  | none =>
    refine ⟨⟨e, within_snoc.mpr (.inl ⟨rfl, triggers⟩), rfl⟩, fun f within => ?_⟩
    rcases within_snoc.mp within with ⟨rfl, -⟩ | ⟨-, earlier⟩
    · exact le_refl _
    · exact absurd earlier (kept.none rfl f)
  | some since =>
    obtain ⟨⟨f, within, here⟩, least⟩ := kept.some since rfl
    refine ⟨⟨f, within_snoc.mpr (.inr ⟨holds, within⟩), here⟩, fun g member => ?_⟩
    rcases within_snoc.mp member with ⟨rfl, -⟩ | ⟨-, earlier⟩
    · obtain ⟨before, after, split, -, -⟩ := within
      exact here ▸ later f (by simp [split])
    · exact least g earlier

/-- What triggers while no earlier trigger is still held sets the anchor. -/
theorem anchor_set (triggers : trigger e) (alone : ¬ (hold e ∧ Since trigger hold past)) :
    Anchor time trigger hold (past ++ [e]) (some (time e)) := by
  refine ⟨fun none => absurd none nofun, fun since known => ?_⟩
  obtain rfl := Option.some.inj known
  refine ⟨⟨e, within_snoc.mpr (.inl ⟨rfl, triggers⟩), rfl⟩, fun f within => ?_⟩
  rcases within_snoc.mp within with ⟨rfl, -⟩ | ⟨holds, earlier⟩
  · exact le_refl _
  · exact absurd ⟨holds, f, earlier⟩ alone

end Anchor

end PastTime
