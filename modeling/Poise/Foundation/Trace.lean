import Mathlib.Data.List.Basic
import Mathlib.Data.List.Infix

/-!
# Runs of deterministic machines

A machine is a step function `σ → ι → σ × ω`. Its run over a list of inputs is
recorded step by step, so that a law may speak about one step, about a step and
everything that happened before it, or about two steps of one run.

`past ++ [e] <+: trace step s is` reads "`e` happened, after exactly `past`".
-/
namespace Trace

variable {σ ι ω : Type*}

structure Step (σ ι ω : Type*) where
  pre : σ
  input : ι
  output : ω
  post : σ

def Step.of (step : σ → ι → σ × ω) (s : σ) (i : ι) : Step σ ι ω :=
  ⟨s, i, (step s i).2, (step s i).1⟩

@[simp] theorem Step.of_pre (step : σ → ι → σ × ω) (s : σ) (i : ι) : (Step.of step s i).pre = s :=
  rfl

@[simp] theorem Step.of_input (step : σ → ι → σ × ω) (s : σ) (i : ι) :
    (Step.of step s i).input = i := rfl

@[simp] theorem Step.of_output (step : σ → ι → σ × ω) (s : σ) (i : ι) :
    (Step.of step s i).output = (step s i).2 := rfl

@[simp] theorem Step.of_post (step : σ → ι → σ × ω) (s : σ) (i : ι) :
    (Step.of step s i).post = (step s i).1 := rfl

def trace (step : σ → ι → σ × ω) : σ → List ι → List (Step σ ι ω)
  | _, [] => []
  | s, i :: is => Step.of step s i :: trace step (step s i).1 is

def final (step : σ → ι → σ × ω) : σ → List ι → σ
  | s, [] => s
  | s, i :: is => final step (step s i).1 is

variable (step : σ → ι → σ × ω)

theorem trace_append (s : σ) (front back : List ι) :
    trace step s (front ++ back) = trace step s front ++ trace step (final step s front) back := by
  induction front generalizing s with
  | nil => rfl
  | cons i front ih => simp only [List.cons_append, trace, final, ih]

theorem final_append (s : σ) (front back : List ι) :
    final step s (front ++ back) = final step (final step s front) back := by
  induction front generalizing s with
  | nil => rfl
  | cons i front ih => simp only [List.cons_append, final, ih]

@[simp] theorem trace_map_input (s : σ) (is : List ι) : (trace step s is).map Step.input = is := by
  induction is generalizing s with
  | nil => rfl
  | cons i is ih => simp only [trace, List.map_cons, Step.of_input, ih]

theorem map_of_input {α : Type*} (g : ι → α) (s : σ) (is : List ι) :
    (trace step s is).map (fun e => g e.input) = is.map g := by
  induction is generalizing s with
  | nil => rfl
  | cons i is ih => simp only [trace, List.map_cons, Step.of_input, ih]

theorem forall_input_iff (P : ι → Prop) (s : σ) (is : List ι) :
    (∀ e ∈ trace step s is, P e.input) ↔ ∀ i ∈ is, P i := by
  induction is generalizing s with
  | nil => simp [trace]
  | cons i is ih => simp only [trace, List.forall_mem_cons, Step.of_input, ih]

theorem prefix_trace {s : σ} {is : List ι} {past : List (Step σ ι ω)} {e : Step σ ι ω}
    (moment : past ++ [e] <+: trace step s is) :
    ∃ front i, front ++ [i] <+: is ∧ past = trace step s front ∧
      e = Step.of step (final step s front) i := by
  -- peel the run and its past off together, step by step
  induction is generalizing s past with
  | nil => simp [trace] at moment
  | cons i is ih =>
    cases past with
    | nil =>
      simp only [trace, List.nil_append, List.cons_prefix_cons] at moment
      exact ⟨[], i, by simp, rfl, moment.1⟩
    | cons f past =>
      simp only [trace, List.cons_append, List.cons_prefix_cons] at moment
      obtain ⟨rfl, later⟩ := moment
      obtain ⟨front, j, within, rfl, rfl⟩ := ih later
      exact ⟨i :: front, j, by simpa using within, rfl, rfl⟩

theorem trace_eq_append {s : σ} {is : List ι} {front back : List (Step σ ι ω)}
    (split : trace step s is = front ++ back) :
    ∃ early late, is = early ++ late ∧ front = trace step s early ∧
      back = trace step (final step s early) late := by
  induction front generalizing s is with
  | nil => exact ⟨[], is, rfl, rfl, split.symm⟩
  | cons f front ih =>
    cases is with
    | nil => simp [trace] at split
    | cons i is =>
      simp only [trace, List.cons_append, List.cons.injEq] at split
      obtain ⟨rfl, rest⟩ := split
      obtain ⟨early, late, rfl, rfl, rfl⟩ := ih rest
      exact ⟨i :: early, late, rfl, rfl, rfl⟩

/-- What happened from a step on is a run of its own. -/
theorem after_trace {s : σ} {is : List ι} {before after : List (Step σ ι ω)} {f : Step σ ι ω}
    (within : before ++ f :: after <+: trace step s is) :
    f = Step.of step f.pre f.input ∧ ∃ js, after = trace step f.post js := by
  obtain ⟨rest, split⟩ := within
  rw [List.append_assoc, List.cons_append] at split
  obtain ⟨early, late, _, _, remains⟩ := trace_eq_append step split.symm
  cases late with
  | nil => simp [trace] at remains
  | cons i late =>
    simp only [trace, List.cons.injEq] at remains
    obtain ⟨rfl, remains⟩ := remains
    obtain ⟨js, _, _, rfl, _⟩ := trace_eq_append step remains.symm
    exact ⟨rfl, js, rfl⟩

/-- What happened between two moments of a run is a run of its own. -/
theorem between_trace {s : σ} {is : List ι} {before between : List (Step σ ι ω)}
    {f e : Step σ ι ω} (moment : before ++ f :: between ++ [e] <+: trace step s is) :
    f = Step.of step f.pre f.input ∧
      ∃ js j, between = trace step f.post js ∧ e = Step.of step (final step f.post js) j := by
  obtain ⟨front, j, _, split, rfl⟩ := prefix_trace step moment
  obtain ⟨early, late, rfl, rfl, rest⟩ := trace_eq_append step split.symm
  cases late with
  | nil => simp [trace] at rest
  | cons i js =>
    simp only [trace, List.cons.injEq] at rest
    obtain ⟨rfl, rfl⟩ := rest
    refine ⟨rfl, js, j, rfl, ?_⟩
    rw [final_append]
    rfl

/-- A stretch that ends with a moment of a run is a run of its own. -/
theorem stretch_trace {s : σ} {is : List ι} {before stretch : List (Step σ ι ω)} {e : Step σ ι ω}
    (moment : before ++ stretch ++ [e] <+: trace step s is) :
    ∃ t js, js <:+: is ∧ stretch ++ [e] = trace step t js ∧ e.post = final step t js := by
  obtain ⟨front, j, within, split, rfl⟩ := prefix_trace step moment
  obtain ⟨early, late, rfl, -, rfl⟩ := trace_eq_append step split.symm
  refine ⟨final step s early, late ++ [j], ?_, ?_, ?_⟩
  · obtain ⟨rest, rfl⟩ := within
    exact ⟨early, rest, by simp⟩
  · rw [trace_append, final_append]
    rfl
  · rw [final_append, final_append]
    rfl

/-- A law of the whole past: it holds before the first step and every step whose
moment is admissible extends it, hence it holds at every moment of the run. -/
theorem history_invariant {s : σ} {is : List ι}
    (Inv : List (Step σ ι ω) → σ → Prop) (Ok : List (Step σ ι ω) → Step σ ι ω → Prop)
    (start : Inv [] s)
    (keep : ∀ past t i, Inv past t → Ok past (Step.of step t i) →
      Inv (past ++ [Step.of step t i]) (step t i).1)
    (ok : ∀ past e, past ++ [e] <+: trace step s is → Ok past e) :
    Inv (trace step s is) (final step s is) := by
  induction is using List.reverseRecOn with
  | nil => exact start
  | append_singleton is i ih =>
    rw [trace_append] at ok
    have before : Inv (trace step s is) (final step s is) :=
      ih fun past e moment => ok past e (moment.trans (List.prefix_append _ _))
    rw [trace_append, final_append]
    exact keep _ _ i before (ok _ _ (List.prefix_rfl))

theorem history_at {s : σ} {is : List ι} {past : List (Step σ ι ω)} {e : Step σ ι ω}
    (Inv : List (Step σ ι ω) → σ → Prop) (Ok : List (Step σ ι ω) → Step σ ι ω → Prop)
    (start : Inv [] s)
    (keep : ∀ past t i, Inv past t → Ok past (Step.of step t i) →
      Inv (past ++ [Step.of step t i]) (step t i).1)
    (ok : ∀ past e, past ++ [e] <+: trace step s is → Ok past e)
    (moment : past ++ [e] <+: trace step s is) : Inv past e.pre := by
  obtain ⟨front, i, within, rfl, rfl⟩ := prefix_trace step moment
  obtain ⟨rest, rfl⟩ := within
  refine history_invariant step Inv Ok start keep fun past f earlier => ok past f ?_
  rw [List.append_assoc, trace_append]
  exact earlier.trans (List.prefix_append _ _)

/-- A law of the past that every step extends holds at every moment. -/
theorem history_of_moment {s : σ} {is : List ι} {past : List (Step σ ι ω)} {e : Step σ ι ω}
    (Inv : List (Step σ ι ω) → σ → Prop) (start : Inv [] s)
    (keep : ∀ past t i, Inv past t → Inv (past ++ [Step.of step t i]) (step t i).1)
    (moment : past ++ [e] <+: trace step s is) : Inv past e.pre :=
  history_at step Inv (fun _ _ => True) start (fun past t i kept _ => keep past t i kept)
    (fun _ _ _ => trivial) moment

/-- Two laws of steps that agree under an invariant hold of the same runs, when the
invariant is kept by every step that obeys them. -/
theorem forall_trace_iff {s : σ} {is : List ι} (Inv : σ → Prop) (Dom : ι → Prop)
    (P Q : Step σ ι ω → Prop) (start : Inv s) (within : ∀ i ∈ is, Dom i)
    (agree : ∀ t i, Inv t → Dom i → (P (Step.of step t i) ↔ Q (Step.of step t i)))
    (keep : ∀ t i, Inv t → Dom i → P (Step.of step t i) → Inv (step t i).1) :
    (∀ e ∈ trace step s is, P e) ↔ ∀ e ∈ trace step s is, Q e := by
  induction is generalizing s with
  | nil => simp [trace]
  | cons i is ih =>
    have here := within i (by simp)
    have there : ∀ j ∈ is, Dom j := fun j member => within j (by simp [member])
    simp only [trace, List.mem_cons, forall_eq_or_imp]
    constructor
    · intro ⟨now, later⟩
      exact ⟨(agree s i start here).mp now, (ih (keep s i start here now) there).mp later⟩
    · intro ⟨now, later⟩
      have lawful := (agree s i start here).mpr now
      exact ⟨lawful, (ih (keep s i start here lawful) there).mpr later⟩

theorem step_of_mem {s : σ} {is : List ι} {e : Step σ ι ω} (member : e ∈ trace step s is) :
    e = Step.of step e.pre e.input := by
  induction is generalizing s with
  | nil => simp [trace] at member
  | cons i is ih =>
    simp only [trace, List.mem_cons] at member
    rcases member with rfl | later
    · rfl
    · exact ih later

theorem invariant_of_mem {s : σ} {is : List ι} {e : Step σ ι ω} (Inv : σ → Prop) (start : Inv s)
    (keep : ∀ t i, Inv t → Inv (step t i).1) (member : e ∈ trace step s is) :
    Inv e.pre ∧ Inv e.post := by
  induction is generalizing s with
  | nil => simp [trace] at member
  | cons i is ih =>
    simp only [trace, List.mem_cons] at member
    rcases member with rfl | later
    · exact ⟨start, keep s i start⟩
    · exact ih (keep s i start) later

theorem last_mem_trace (s : σ) (is : List ι) (i : ι) :
    Step.of step (final step s is) i ∈ trace step s (is ++ [i]) := by
  simp [trace_append, trace]

theorem pairwise_past {s : σ} {is : List ι} {past : List (Step σ ι ω)} {e : Step σ ι ω}
    {R : ι → ι → Prop} (ordered : is.Pairwise R)
    (moment : past ++ [e] <+: trace step s is) : ∀ f ∈ past, R f.input e.input := by
  -- the inputs of a moment are a prefix of the run's inputs
  have mapped : ((past ++ [e]).map Step.input).Pairwise R := by
    refine List.Pairwise.sublist ?_ ordered
    rw [← trace_map_input step s is]
    exact (moment.map Step.input).sublist
  simp only [List.map_append, List.map_cons, List.map_nil, List.pairwise_append] at mapped
  intro f member
  exact mapped.2.2 f.input (List.mem_map_of_mem member) e.input (by simp)

theorem mem_of_moment {s : σ} {is : List ι} {past : List (Step σ ι ω)} {e : Step σ ι ω}
    (moment : past ++ [e] <+: trace step s is) : e ∈ trace step s is :=
  moment.subset (by simp)

theorem moment_of_mem {l : List (Step σ ι ω)} {e : Step σ ι ω} (member : e ∈ l) :
    ∃ past, past ++ [e] <+: l := by
  obtain ⟨past, later, rfl⟩ := List.append_of_mem member
  exact ⟨past, later, by simp⟩

/-- A law of moments, checked along a list; `past` is what came before it. -/
def Always (P : List (Step σ ι ω) → Step σ ι ω → Prop) :
    List (Step σ ι ω) → List (Step σ ι ω) → Prop
  | _, [] => True
  | past, e :: later => P past e ∧ Always P (past ++ [e]) later

instance decidableAlways (P : List (Step σ ι ω) → Step σ ι ω → Prop)
    [decP : ∀ past e, Decidable (P past e)] :
    (past later : List (Step σ ι ω)) → Decidable (Always P past later)
  | _, [] => isTrue trivial
  | past, e :: later =>
    have := decidableAlways P (past ++ [e]) later
    inferInstanceAs (Decidable (P past e ∧ Always P (past ++ [e]) later))

theorem always_from {P : List (Step σ ι ω) → Step σ ι ω → Prop} {before l : List (Step σ ι ω)} :
    Always P before l ↔ ∀ past e, past ++ [e] <+: l → P (before ++ past) e := by
  induction l generalizing before with
  | nil => simp [Always]
  | cons f l ih =>
    rw [Always, ih]
    constructor
    · rintro ⟨now, later⟩ past e moment
      cases past with
      | nil =>
        simp only [List.nil_append, List.cons_prefix_cons] at moment
        rw [List.append_nil, moment.1]
        exact now
      | cons g past =>
        simp only [List.cons_append, List.cons_prefix_cons] at moment
        obtain ⟨rfl, rest⟩ := moment
        simpa using later past e rest
    · intro law
      refine ⟨by simpa using law [] f (by simp), fun past e moment => ?_⟩
      simpa using law (f :: past) e (by simpa using moment)

theorem always_iff {P : List (Step σ ι ω) → Step σ ι ω → Prop} {l : List (Step σ ι ω)} :
    Always P [] l ↔ ∀ past e, past ++ [e] <+: l → P past e := always_from

instance decidableMoments (P : List (Step σ ι ω) → Step σ ι ω → Prop)
    [∀ past e, Decidable (P past e)] (l : List (Step σ ι ω)) :
    Decidable (∀ past e, past ++ [e] <+: l → P past e) :=
  decidable_of_iff _ always_iff

end Trace
