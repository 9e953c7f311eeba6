import Poise.Foundation.Trace
import Mathlib.Data.List.Basic

/-!
# Excursions from a base state

A run from a base state is cut at every return to it. What lies between two returns is an
excursion. No excursion begins with another one, so a run has one cut.
-/
namespace Trace

variable {σ ι ω : Type*} {step : σ → ι → σ × ω} {base : σ}

/-- No part of these inputs leads back to the base. -/
def Away (step : σ → ι → σ × ω) (base : σ) (inputs : List ι) : Prop :=
  ∀ early, early ≠ [] → early <+: inputs → final step base early ≠ base

/-- These inputs lead back to the base, and only at their end. -/
structure Excursion (step : σ → ι → σ × ω) (base : σ) (piece : List ι) : Prop where
  nonempty : piece ≠ []
  back : final step base piece = base
  first : ∀ early, early ≠ [] → early <+: piece → final step base early = base → early = piece

/-- The excursions of a run, and what came after the last of them. -/
structure Cut (step : σ → ι → σ × ω) (base : σ) (inputs : List ι) (pieces : List (List ι))
    (tail : List ι) : Prop where
  whole : inputs = pieces.flatten ++ tail
  excursions : ∀ piece ∈ pieces, Excursion step base piece
  away : Away step base tail

theorem final_flatten {pieces : List (List ι)}
    (back : ∀ piece ∈ pieces, Excursion step base piece) :
    final step base pieces.flatten = base := by
  induction pieces with
  | nil => rfl
  | cons piece pieces ih =>
    rw [List.flatten_cons, final_append, (back piece (by simp)).back]
    exact ih fun other member => back other (by simp [member])

/-! ### The cut exists -/

theorem cut_nil : Cut step base [] [] [] where
  whole := rfl
  excursions := by simp
  away := by
    intro early nonempty within
    exact absurd (List.prefix_nil.mp within) nonempty

/-- One more input either closes an excursion or prolongs the tail. -/
theorem Cut.snoc {inputs tail : List ι} {pieces : List (List ι)} (i : ι)
    (cut : Cut step base inputs pieces tail) :
    (final step base (tail ++ [i]) = base →
        Cut step base (inputs ++ [i]) (pieces ++ [tail ++ [i]]) []) ∧
      (final step base (tail ++ [i]) ≠ base →
        Cut step base (inputs ++ [i]) pieces (tail ++ [i])) := by
  -- a part of the prolonged tail is a part of the tail or all of it
  have parts : ∀ early, early ≠ [] → early <+: tail ++ [i] → final step base early = base →
      early = tail ++ [i] := by
    intro early nonempty within back
    rcases List.prefix_concat_iff.mp within with all | part
    · exact all
    · exact absurd back (cut.away early nonempty part)
  constructor
  · intro back
    refine ⟨by simp [cut.whole], ?_, cut_nil.away⟩
    intro piece member
    rcases List.mem_append.mp member with old | new
    · exact cut.excursions piece old
    · obtain rfl := List.mem_singleton.mp new
      exact ⟨by simp, back, parts⟩
  · intro away
    refine ⟨by simp [cut.whole], cut.excursions, ?_⟩
    intro early nonempty within back
    exact away (parts early nonempty within back ▸ back)

theorem exists_cut (step : σ → ι → σ × ω) (base : σ) (inputs : List ι) :
    ∃ pieces tail, Cut step base inputs pieces tail := by
  induction inputs using List.reverseRecOn with
  | nil => exact ⟨[], [], cut_nil⟩
  | append_singleton inputs i ih =>
    obtain ⟨pieces, tail, cut⟩ := ih
    obtain ⟨closes, prolongs⟩ := cut.snoc i
    by_cases back : final step base (tail ++ [i]) = base
    · exact ⟨_, _, closes back⟩
    · exact ⟨_, _, prolongs back⟩

/-! ### The cut is unique -/

/-- Of two excursions that begin one list neither is longer. -/
theorem Excursion.eq_of_append {piece other rest rest' : List ι}
    (left : Excursion step base piece) (right : Excursion step base other)
    (same : piece ++ rest = other ++ rest') : piece = other := by
  rcases List.prefix_or_prefix_of_prefix (List.prefix_append piece rest)
    (same ▸ List.prefix_append other rest') with within | within
  · exact right.first piece left.nonempty within left.back
  · exact (left.first other right.nonempty within right.back).symm

theorem Cut.unique {inputs tail tail' : List ι} {pieces pieces' : List (List ι)}
    (cut : Cut step base inputs pieces tail) (cut' : Cut step base inputs pieces' tail') :
    pieces = pieces' ∧ tail = tail' := by
  induction pieces generalizing inputs pieces' with
  | nil =>
    cases pieces' with
    | nil => exact ⟨rfl, by simpa using cut.whole.symm.trans cut'.whole⟩
    | cons piece' pieces' =>
      have excursion := cut'.excursions piece' (by simp)
      refine absurd excursion.back (cut.away piece' excursion.nonempty ?_)
      refine ⟨pieces'.flatten ++ tail', ?_⟩
      simpa using cut'.whole.symm.trans cut.whole
  | cons piece pieces ih =>
    have excursion := cut.excursions piece (by simp)
    cases pieces' with
    | nil =>
      refine absurd excursion.back (cut'.away piece excursion.nonempty ?_)
      refine ⟨pieces.flatten ++ tail, ?_⟩
      simpa using cut.whole.symm.trans cut'.whole
    | cons piece' pieces' =>
      have both := cut.whole.symm.trans cut'.whole
      rw [List.flatten_cons, List.flatten_cons, List.append_assoc, List.append_assoc] at both
      obtain rfl := excursion.eq_of_append (cut'.excursions piece' (by simp)) both
      have here : Cut step base (pieces.flatten ++ tail) pieces tail :=
        ⟨rfl, fun other member => cut.excursions other (by simp [member]), cut.away⟩
      have there : Cut step base (pieces.flatten ++ tail) pieces' tail' :=
        ⟨List.append_cancel_left both,
          fun other member => cut'.excursions other (by simp [member]), cut'.away⟩
      obtain ⟨rfl, rfl⟩ := ih here there
      exact ⟨rfl, rfl⟩

/-! ### The record of a cut run -/

theorem trace_flatten {pieces : List (List ι)}
    (back : ∀ piece ∈ pieces, Excursion step base piece) :
    trace step base pieces.flatten = pieces.flatMap (trace step base) := by
  induction pieces with
  | nil => rfl
  | cons piece pieces ih =>
    rw [List.flatten_cons, trace_append, (back piece (by simp)).back, List.flatMap_cons]
    rw [ih fun other member => back other (by simp [member])]

/-- A cut run is recorded piece by piece. -/
theorem Cut.trace_eq {inputs tail : List ι} {pieces : List (List ι)}
    (cut : Cut step base inputs pieces tail) :
    trace step base inputs = pieces.flatMap (trace step base) ++ trace step base tail := by
  rw [cut.whole, trace_append, final_flatten cut.excursions, trace_flatten cut.excursions]

end Trace
