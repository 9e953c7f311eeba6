import Poise.Estimation.TauTrust
import Poise.Foundation.Binary64
import Mathlib.Data.List.Forall2
import Mathlib.Data.List.Induction
import Mathlib.Tactic.Linarith

/-!
# What a trusted τ promises

A trusted record promises a window of observed time without a reset, without a sample
near a bound and within the trust ratio. Twenty-four buckets are kept, the newest still
filling: the promise holds of every record whose kept buckets span the window. All time is
added up as the record adds it, step by step with the rounding of each sum.
-/
namespace Poise

open Binary64

/-! ### Runs of folds -/

inductive TauEvent where
  | observe (tauH : Option Binary64) (dtH : Binary64) (reset : Bool)
  -- The record is saved and restored.
  | roundTrip

namespace TauEvent

def step (t : TauTrust Binary64) : TauEvent → TauTrust Binary64
  | .observe tauH dtH reset => observeTau t tauH dtH reset
  | .roundTrip => .fromDict (some t.toDict)

/-- A reset, or a sample near a bound. -/
def clears : TauEvent → Bool
  | .observe tauH _ reset => reset || nearBound tauH
  | .roundTrip => false

def sample : TauEvent → Option Binary64
  | .observe tauH _ _ => tauH
  | .roundTrip => none

def hours : TauEvent → Binary64
  | .observe _ dtH _ => tauStep dtH
  | .roundTrip => 0

end TauEvent

def tauAfter (events : List TauEvent) : TauTrust Binary64 := events.foldl TauEvent.step {}

/-- The steps added one by one. -/
def totalH (steps : List Binary64) : Binary64 := steps.foldl (· + ·) 0

/-- Observed time, each step capped. -/
def observedH (events : List TauEvent) : Binary64 := totalH (events.map TauEvent.hours)

/-- `e` happened within the last window of observed time. -/
def Recent (past : List TauEvent) (e : TauEvent) : Prop :=
  ∃ before after, past = before ++ e :: after ∧ observedH after < trustWindowH

structure StableWindow (past : List TauEvent) : Prop where
  clean : ∀ e, Recent past e → e.clears = false
  ratio : ∀ e f tau tau', Recent past e → Recent past f → e.sample = some tau →
    f.sample = some tau' → tau.value ≤ 2 * tau'.value

/-! ### The time in the buckets -/

/-- The steps in each bucket, the newest bucket first: an hour full, the next one opens. -/
def fillBucket (buckets : List (List Binary64)) (dt : Binary64) : List (List Binary64) :=
  match buckets with
  | [] => [[dt]]
  | newest :: older =>
    if tauBucketH ≤ totalH newest then [dt] :: newest :: older else (newest ++ [dt]) :: older

def bucketSteps (past : List TauEvent) : List (List Binary64) :=
  past.foldl (fun buckets e =>
    match e with
    | .observe _ dtH _ => if e.clears then [] else fillBucket buckets (tauStep dtH)
    | .roundTrip => buckets) []

/-- No bucket was dropped since the last reset, or the kept ones span the window. -/
def WindowCovered (past : List TauEvent) : Prop :=
  (bucketSteps past).length ≤ maxBuckets ∨
    trustWindowH ≤ totalH ((bucketSteps past).take maxBuckets).reverse.flatten

instance (past : List TauEvent) : Decidable (WindowCovered past) :=
  inferInstanceAs (Decidable (_ ∨ _))

/-! ### Added time -/

theorem totalH_append (front back : List Binary64) :
    totalH (front ++ back) = back.foldl (· + ·) (totalH front) := List.foldl_append

@[simp] theorem totalH_nil : totalH [] = 0 := rfl

theorem totalH_snoc (steps : List Binary64) (d : Binary64) :
    totalH (steps ++ [d]) = totalH steps + d := totalH_append steps [d]

theorem foldl_plus_mono {a b : Binary64} (le : a ≤ b) (steps : List Binary64) :
    steps.foldl (· + ·) a ≤ steps.foldl (· + ·) b := by
  induction steps generalizing a b with
  | nil => exact le
  | cons d steps ih => exact ih (plus_mono le d)

theorem totalH_nonneg {steps : List Binary64} (nonneg : ∀ d ∈ steps, 0 ≤ d) :
    0 ≤ totalH steps := by
  induction steps using List.reverseRecOn with
  | nil => exact le_rfl
  | append_singleton steps d ih =>
    rw [totalH_snoc]
    have before := ih fun x member => nonneg x (List.mem_append_left _ member)
    exact before.trans (le_plus (nonneg d (by simp)) _)

/-- Added from an earlier start on, the time is no less. -/
theorem totalH_suffix {front : List Binary64} (nonneg : ∀ d ∈ front, 0 ≤ d)
    (back : List Binary64) : totalH back ≤ totalH (front ++ back) := by
  rw [totalH_append]
  exact foldl_plus_mono (totalH_nonneg nonneg) back

/-! ### The samples since the last reset -/

/-- A sample with its time step. -/
abbrev TauSample := Binary64 × Binary64

def sampleFold (samples : List TauSample) : TauEvent → List TauSample
  | .observe (some tau) dtH reset =>
    if reset || nearBound (some tau) then [] else samples ++ [(tau, tauStep dtH)]
  | .observe none _ _ => []
  | .roundTrip => samples

theorem sampleFold_clears {e : TauEvent} (clears : e.clears = true) (samples : List TauSample) :
    sampleFold samples e = [] := by
  cases e with
  | roundTrip => cases clears
  | observe tauH dtH reset =>
    cases tauH with
    | none => rfl
    | some tau =>
      have clears : (reset || nearBound (some tau)) = true := clears
      simp [sampleFold, clears]

def sampleTime (samples : List TauSample) : Binary64 := totalH (samples.map Prod.snd)

@[simp] theorem sampleTime_nil : sampleTime [] = 0 := rfl

@[simp] theorem sampleTime_snoc (samples : List TauSample) (x : TauSample) :
    sampleTime (samples ++ [x]) = sampleTime samples + x.2 := by
  rw [sampleTime, List.map_append]
  exact totalH_snoc _ _

@[simp] theorem observedH_nil : observedH [] = 0 := rfl

@[simp] theorem observedH_snoc (events : List TauEvent) (e : TauEvent) :
    observedH (events ++ [e]) = observedH events + e.hours := by
  rw [observedH, List.map_append]
  exact totalH_snoc _ _

theorem tauStep_nonneg (dtH : Binary64) : 0 ≤ tauStep dtH :=
  le_min (le_max_left _ _) (by decide +kernel)

theorem hours_nonneg (e : TauEvent) : 0 ≤ e.hours := by
  cases e with
  | observe => exact tauStep_nonneg _
  | roundTrip => exact le_rfl

theorem observedH_nonneg (events : List TauEvent) : 0 ≤ observedH events := by
  refine totalH_nonneg fun x member => ?_
  obtain ⟨e, _, rfl⟩ := List.mem_map.mp member
  exact hours_nonneg e

/-- Later events either extend the samples by all they observed, or a reset among them
left at most that. -/
theorem samples_later (samples : List TauSample) (later : List TauEvent) :
    (∃ new, later.foldl sampleFold samples = samples ++ new ∧ sampleTime new = observedH later) ∨
      sampleTime (later.foldl sampleFold samples) ≤ observedH later := by
  induction later using List.reverseRecOn with
  | nil => exact .inl ⟨[], by simp, rfl⟩
  | append_singleton later e ih =>
    rw [List.foldl_append, List.foldl_cons, List.foldl_nil, observedH_snoc]
    have spent : 0 ≤ observedH later + e.hours :=
      (observedH_nonneg later).trans (le_plus (hours_nonneg e) _)
    cases e with
    | observe tauH dtH reset =>
      cases tauH with
      | none => exact .inr spent
      | some tau =>
        by_cases clears : (reset || nearBound (some tau)) = true
        · refine .inr ?_
          rw [sampleFold, if_pos clears]
          exact spent
        · rw [Bool.not_eq_true] at clears
          simp only [sampleFold, clears, Bool.false_eq_true, if_false, sampleTime_snoc]
          cases ih with
          | inl extended =>
            obtain ⟨new, split, time⟩ := extended
            refine .inl ⟨new ++ [(tau, tauStep dtH)], by simp [split], ?_⟩
            rw [sampleTime_snoc, time]
            rfl
          | inr bounded => exact .inr (plus_mono bounded _)
    | roundTrip =>
      have still : observedH later + TauEvent.roundTrip.hours = observedH later := plus_zero _
      rw [still]
      exact ih

/-! ### The buckets against the samples -/

/-- The bucket spans its samples. -/
def Spans (group : List TauSample) (bucket : Binary64 × Binary64) : Prop :=
  ∀ x ∈ group, bucket.1 ≤ x.1 ∧ x.1 ≤ bucket.2

theorem Spans.single (x : TauSample) : Spans [x] (x.1, x.1) := by simp [Spans]

theorem Spans.extend {group : List TauSample} {bucket : Binary64 × Binary64}
    (spans : Spans group bucket) (x : TauSample) :
    Spans (group ++ [x]) (min bucket.1 x.1, max bucket.2 x.1) := by
  intro y member
  rw [List.mem_append, List.mem_singleton] at member
  cases member with
  | inl earlier =>
    obtain ⟨low, high⟩ := spans y earlier
    exact ⟨(min_le_left _ _).trans low, high.trans (le_max_left _ _)⟩
  | inr last =>
    subst last
    exact ⟨min_le_right _ _, le_max_right _ _⟩

/-- The samples since the last reset fall into groups, the newest first, whose newest
twenty-four are the buckets of the record. -/
structure Grouped (past : List TauEvent) (t : TauTrust Binary64)
    (groups : List (List TauSample)) : Prop where
  samples : past.foldl sampleFold [] = groups.reverse.flatten
  steps : groups.map (List.map Prod.snd) = bucketSteps past
  window : List.Forall₂ Spans (groups.take maxBuckets) t.window.reverse
  cleanH : t.cleanH = sampleTime (past.foldl sampleFold [])
  bucketH : t.bucketH = totalH ((bucketSteps past).headD [])

theorem keepBuckets_reverse (window : List (Binary64 × Binary64)) :
    (TauTrust.keepBuckets window).reverse = window.reverse.take maxBuckets :=
  List.take_reverse.symm

theorem bucketSteps_append (past : List TauEvent) (e : TauEvent) :
    bucketSteps (past ++ [e]) =
      match e with
      | .observe _ dtH _ => if e.clears then [] else fillBucket (bucketSteps past) (tauStep dtH)
      | .roundTrip => bucketSteps past := by
  rw [bucketSteps, List.foldl_append]
  rfl

theorem rows_restored (window : List (Binary64 × Binary64)) :
    (window.map fun b => [b.1, b.2]).mapM TauTrust.bucketOfRow = some window := by
  induction window with
  | nil => rfl
  | cons b window ih => simp [List.mapM_cons, TauTrust.bucketOfRow, ih]

theorem roundTrip_eq {t : TauTrust Binary64} (clean : 0 ≤ t.cleanH) (bucket : 0 ≤ t.bucketH)
    (few : t.window.length ≤ maxBuckets) : TauTrust.fromDict (some t.toDict) = t := by
  have kept : TauTrust.keepBuckets t.window = t.window := by
    rw [TauTrust.keepBuckets, Nat.sub_eq_zero_of_le few, List.drop_zero]
  simp only [TauTrust.fromDict, TauTrust.toDict, Option.getD_some, rows_restored, kept,
    clean.not_gt, if_false, max_eq_right bucket]

section Grouped

variable {past : List TauEvent} {t : TauTrust Binary64} {groups : List (List TauSample)}

theorem grouped_initial : Grouped [] {} [] :=
  ⟨rfl, rfl, .nil, rfl, rfl⟩

theorem Grouped.short (grouped : Grouped past t groups) : t.window.length ≤ maxBuckets := by
  have same := grouped.window.length_eq
  rw [List.length_reverse, List.length_take] at same
  omega

theorem bucketSteps_nonneg (past : List TauEvent) :
    ∀ bucket ∈ bucketSteps past, ∀ d ∈ bucket, 0 ≤ d := by
  induction past using List.reverseRecOn with
  | nil => simp [bucketSteps]
  | append_singleton past e ih =>
    rw [bucketSteps_append]
    cases e with
    | roundTrip => exact ih
    | observe tauH dtH reset =>
      have step := tauStep_nonneg dtH
      dsimp only
      split
      next => simp
      next =>
        cases buckets : bucketSteps past with
        | nil => simpa [fillBucket] using step
        | cons newest older =>
          rw [buckets, List.forall_mem_cons] at ih
          simp only [fillBucket]
          split
          next => simpa using ⟨step, ih⟩
          next =>
            rw [List.forall_mem_cons, List.forall_mem_append]
            exact ⟨⟨ih.1, by simpa using step⟩, ih.2⟩

theorem samples_nonneg (past : List TauEvent) : ∀ x ∈ past.foldl sampleFold [], 0 ≤ x.2 := by
  induction past using List.reverseRecOn with
  | nil => simp
  | append_singleton past e ih =>
    rw [List.foldl_append, List.foldl_cons, List.foldl_nil]
    cases e with
    | roundTrip => exact ih
    | observe tauH dtH reset =>
      cases tauH with
      | none => simp [sampleFold]
      | some tau =>
        simp only [sampleFold]
        split
        next => simp
        next =>
          intro x member
          rw [List.mem_append, List.mem_singleton] at member
          cases member with
          | inl earlier => exact ih x earlier
          | inr last => exact last ▸ tauStep_nonneg dtH

theorem sampleTime_nonneg {samples : List TauSample} (steps : ∀ x ∈ samples, 0 ≤ x.2) :
    0 ≤ sampleTime samples := by
  refine totalH_nonneg fun d member => ?_
  obtain ⟨x, there, rfl⟩ := List.mem_map.mp member
  exact steps x there

theorem Grouped.roundTrip (grouped : Grouped past t groups) :
    Grouped (past ++ [.roundTrip]) (TauEvent.roundTrip.step t) groups := by
  have steps := bucketSteps_nonneg past
  have clean : 0 ≤ t.cleanH := by
    rw [grouped.cleanH]
    exact sampleTime_nonneg (samples_nonneg past)
  have bucket : 0 ≤ t.bucketH := by
    rw [grouped.bucketH]
    cases newest : bucketSteps past with
    | nil => exact le_rfl
    | cons bucket older => exact totalH_nonneg (steps bucket (by simp [newest]))
  have same : TauEvent.roundTrip.step t = t := roundTrip_eq clean bucket grouped.short
  rw [same]
  refine ⟨?_, ?_, grouped.window, ?_, ?_⟩
  · simpa [sampleFold] using grouped.samples
  · simpa [bucketSteps_append] using grouped.steps
  · simpa [sampleFold] using grouped.cleanH
  · simpa [bucketSteps_append] using grouped.bucketH

theorem Grouped.cleared {e : TauEvent} (clears : e.clears = true)
    (empty : ∀ t : TauTrust Binary64, e.step t = {}) : Grouped (past ++ [e]) (e.step t) [] := by
  cases e with
  | roundTrip => cases clears
  | observe tauH dtH reset =>
    have steps : bucketSteps (past ++ [.observe tauH dtH reset]) = [] := by
      simp [bucketSteps_append, clears]
    have samples : (past ++ [TauEvent.observe tauH dtH reset]).foldl sampleFold [] = [] := by
      rw [List.foldl_append]
      exact sampleFold_clears clears _
    rw [empty]
    exact ⟨samples, steps.symm, .nil, by rw [samples]; rfl, by rw [steps]; rfl⟩

theorem foldBucket_opens (window : List (Binary64 × Binary64)) (tau : Binary64) :
    foldBucket window true tau = window ++ [(tau, tau)] := by
  cases last : window.getLast? with
  | none =>
    rw [List.getLast?_eq_none_iff] at last
    simp [foldBucket, last]
  | some b => simp [foldBucket, last]

theorem foldBucket_extends (window : List (Binary64 × Binary64)) (b : Binary64 × Binary64)
    (tau : Binary64) :
    foldBucket (window ++ [b]) false tau = window ++ [(min b.1 tau, max b.2 tau)] := by
  simp [foldBucket]

theorem observeTau_counts {tau : Binary64} {reset : Bool}
    (counts : (reset || nearBound (some tau)) = false) (t : TauTrust Binary64) (dtH : Binary64) :
    observeTau t (some tau) dtH reset =
      { cleanH := t.cleanH + tauStep dtH
        bucketH := (if t.window.isEmpty || decide (tauBucketH ≤ t.bucketH) then 0
          else t.bucketH) + tauStep dtH
        window := TauTrust.keepBuckets
          (foldBucket t.window (t.window.isEmpty || decide (tauBucketH ≤ t.bucketH)) tau) } := by
  simp only [observeTau, counts, Bool.false_eq_true, if_false]

/-- The sample is the next one, and the time counts. -/
theorem Grouped.counted (grouped : Grouped past t groups) {tau : Binary64} {reset : Bool}
    (counts : (reset || nearBound (some tau)) = false) (dtH : Binary64) :
    (past ++ [TauEvent.observe (some tau) dtH reset]).foldl sampleFold [] =
        groups.reverse.flatten ++ [(tau, tauStep dtH)] ∧
      (observeTau t (some tau) dtH reset).cleanH =
        sampleTime (groups.reverse.flatten ++ [(tau, tauStep dtH)]) ∧
      bucketSteps (past ++ [TauEvent.observe (some tau) dtH reset]) =
        fillBucket (bucketSteps past) (tauStep dtH) := by
  have same : TauEvent.clears (.observe (some tau) dtH reset) = false := counts
  refine ⟨?_, ?_, by simp [bucketSteps_append, same]⟩
  · rw [List.foldl_append, grouped.samples]
    simp only [List.foldl_cons, List.foldl_nil, sampleFold, counts, Bool.false_eq_true, if_false]
  · rw [observeTau_counts counts, sampleTime_snoc, ← grouped.samples, grouped.cleanH]

theorem Grouped.opened (grouped : Grouped past t groups) {tau dtH : Binary64} {reset : Bool}
    (counts : (reset || nearBound (some tau)) = false)
    (full : bucketSteps past = [] ∨ tauBucketH ≤ totalH ((bucketSteps past).headD [])) :
    Grouped (past ++ [.observe (some tau) dtH reset]) (observeTau t (some tau) dtH reset)
      ([(tau, tauStep dtH)] :: groups) := by
  obtain ⟨samples, clean, steps⟩ := grouped.counted counts dtH
  have opens : (t.window.isEmpty || decide (tauBucketH ≤ t.bucketH)) = true := by
    cases full with
    | inl none =>
      have noGroups : groups = [] := by simpa [none] using grouped.steps
      have noBuckets := grouped.window
      rw [noGroups, List.take_nil, List.forall₂_nil_left_iff, List.reverse_eq_nil_iff] at noBuckets
      simp [noBuckets]
    | inr hour =>
      rw [← grouped.bucketH] at hour
      simp [hour]
  have filled : fillBucket (bucketSteps past) (tauStep dtH) =
      [tauStep dtH] :: bucketSteps past := by
    cases there : bucketSteps past with
    | nil => rfl
    | cons newest older =>
      rw [there] at full
      have hour : tauBucketH ≤ totalH newest := by simpa using full
      simp [fillBucket, hour]
  refine ⟨?_, ?_, ?_, ?_, ?_⟩
  · simp [samples]
  · simp [steps, filled, grouped.steps]
  · rw [observeTau_counts counts, opens, foldBucket_opens, keepBuckets_reverse]
    have rest := List.forall₂_take (maxBuckets - 1) grouped.window
    rw [List.take_take] at rest
    simp only [List.reverse_append, List.reverse_singleton, List.singleton_append]
    exact .cons (.single _) rest
  · rw [clean, samples]
  · rw [observeTau_counts counts, opens, steps, filled]
    rfl

/-- The newest group is in the newest bucket. -/
theorem Grouped.newest {g : List TauSample} {older : List (List TauSample)}
    (grouped : Grouped past t (g :: older)) :
    ∃ b kept, t.window = kept.reverse ++ [b] ∧ Spans g b ∧
      List.Forall₂ Spans (older.take (maxBuckets - 1)) kept := by
  have window := grouped.window
  have unfolded : (g :: older).take maxBuckets = g :: older.take (maxBuckets - 1) := rfl
  rw [unfolded] at window
  cases reversed : t.window.reverse with
  | nil =>
    rw [reversed] at window
    cases window
  | cons b kept =>
    rw [reversed] at window
    obtain ⟨spans, rest⟩ := List.forall₂_cons.mp window
    refine ⟨b, kept, ?_, spans, rest⟩
    rw [← List.reverse_reverse t.window, reversed, List.reverse_cons]

theorem Grouped.extended {g : List TauSample} {older : List (List TauSample)}
    (grouped : Grouped past t (g :: older)) {tau dtH : Binary64} {reset : Bool}
    (counts : (reset || nearBound (some tau)) = false)
    (room : totalH ((bucketSteps past).headD []) < tauBucketH) :
    Grouped (past ++ [.observe (some tau) dtH reset]) (observeTau t (some tau) dtH reset)
      ((g ++ [(tau, tauStep dtH)]) :: older) := by
  obtain ⟨samples, clean, steps⟩ := grouped.counted counts dtH
  obtain ⟨b, kept, written, spans, rest⟩ := grouped.newest
  have opens : (t.window.isEmpty || decide (tauBucketH ≤ t.bucketH)) = false := by
    rw [← grouped.bucketH] at room
    simp [written, room]
  have newest : bucketSteps past = g.map Prod.snd :: older.map (List.map Prod.snd) :=
    grouped.steps.symm
  have filled : fillBucket (bucketSteps past) (tauStep dtH) =
      (g.map Prod.snd ++ [tauStep dtH]) :: older.map (List.map Prod.snd) := by
    rw [newest] at room ⊢
    have room : totalH (g.map Prod.snd) < tauBucketH := room
    simp [fillBucket, room.not_ge]
  refine ⟨?_, ?_, ?_, ?_, ?_⟩
  · simp [samples]
  · simp [steps, filled]
  · rw [observeTau_counts counts, opens, written, foldBucket_extends, keepBuckets_reverse,
      List.reverse_append, List.reverse_singleton, List.reverse_reverse, List.singleton_append]
    -- nothing is dropped: the bucket only replaces the newest one
    have few : kept.take (maxBuckets - 1) = kept := by
      refine List.take_of_length_le ?_
      rw [← rest.length_eq, List.length_take]
      exact min_le_left _ _
    have all : (((min b.1 tau, max b.2 tau) : Binary64 × Binary64) :: kept).take maxBuckets =
        (min b.1 tau, max b.2 tau) :: kept := congrArg _ few
    rw [all]
    exact .cons (spans.extend (tau, tauStep dtH)) rest
  · rw [clean, samples]
  · have hour := grouped.bucketH
    rw [newest] at hour
    rw [observeTau_counts counts, opens, steps, filled, List.headD_cons, totalH_snoc]
    exact congrArg (· + tauStep dtH) hour

theorem Grouped.observed (grouped : Grouped past t groups) (tauH : Option Binary64)
    (dtH : Binary64) (reset : Bool) :
    ∃ groups', Grouped (past ++ [.observe tauH dtH reset]) (observeTau t tauH dtH reset)
      groups' := by
  cases tauH with
  | none =>
    exact ⟨[], Grouped.cleared (t := t) (by simp [TauEvent.clears, nearBound]) fun _ => rfl⟩
  | some tau =>
    by_cases clears : (reset || nearBound (some tau)) = true
    · refine ⟨[], Grouped.cleared clears fun t => ?_⟩
      simp [TauEvent.step, observeTau, clears]
    · rw [Bool.not_eq_true] at clears
      cases groups with
      | nil => exact ⟨_, grouped.opened clears (.inl grouped.steps.symm)⟩
      | cons g older =>
        by_cases room : totalH ((bucketSteps past).headD []) < tauBucketH
        · exact ⟨_, grouped.extended clears room⟩
        · exact ⟨_, grouped.opened clears (.inr (not_lt.mp room))⟩

end Grouped

theorem tauAfter_append (past : List TauEvent) (e : TauEvent) :
    tauAfter (past ++ [e]) = e.step (tauAfter past) := by
  simp [tauAfter]

theorem grouped_run (past : List TauEvent) : ∃ groups, Grouped past (tauAfter past) groups := by
  induction past using List.reverseRecOn with
  | nil => exact ⟨[], grouped_initial⟩
  | append_singleton past e ih =>
    obtain ⟨groups, grouped⟩ := ih
    rw [tauAfter_append]
    cases e with
    | observe tauH dtH reset => exact grouped.observed tauH dtH reset
    | roundTrip => exact ⟨groups, grouped.roundTrip⟩

/-! ### The verdict -/

theorem foldl_min_le (window : List (Binary64 × Binary64)) (m : Binary64) :
    window.foldl (fun m b => min m b.1) m ≤ m ∧
      ∀ b ∈ window, window.foldl (fun m b => min m b.1) m ≤ b.1 := by
  induction window generalizing m with
  | nil => simp
  | cons first rest ih =>
    have start := (ih (min m first.1)).1
    rw [List.foldl_cons]
    refine ⟨start.trans (min_le_left _ _), fun b member => ?_⟩
    cases List.mem_cons.mp member with
    | inl same =>
      rw [same]
      exact start.trans (min_le_right _ _)
    | inr later => exact (ih _).2 b later

theorem le_foldl_max (window : List (Binary64 × Binary64)) (m : Binary64) :
    m ≤ window.foldl (fun m b => max m b.2) m ∧
      ∀ b ∈ window, b.2 ≤ window.foldl (fun m b => max m b.2) m := by
  induction window generalizing m with
  | nil => simp
  | cons first rest ih =>
    have start := (ih (max m first.2)).1
    rw [List.foldl_cons]
    refine ⟨(le_max_left _ _).trans start, fun b member => ?_⟩
    cases List.mem_cons.mp member with
    | inl same =>
      rw [same]
      exact (le_max_right _ _).trans start
    | inr later => exact (ih _).2 b later

theorem trusted_buckets {t : TauTrust Binary64} (trusted : t.trusted = true) :
    trustWindowH ≤ t.cleanH ∧ ∃ lo hi : Binary64, 0 < lo ∧ hi / lo ≤ trustMaxRatio ∧
      ∀ b ∈ t.window, lo ≤ b.1 ∧ b.2 ≤ hi := by
  obtain ⟨clean, spread⟩ := Bool.and_eq_true_iff.mp trusted
  refine ⟨of_decide_eq_true clean, ?_⟩
  cases window : t.window with
  | nil => simp [TauTrust.spreadRatio, window] at spread
  | cons first rest =>
    rw [TauTrust.spreadRatio, window] at spread
    have least := foldl_min_le rest first.1
    have most := le_foldl_max rest first.2
    dsimp only at spread
    split at spread
    next positive =>
      refine ⟨_, _, positive, of_decide_eq_true spread, fun b member => ?_⟩
      cases List.mem_cons.mp member with
      | inl same =>
        subst same
        exact ⟨least.1, most.1⟩
      | inr later => exact ⟨least.2 b later, most.2 b later⟩
    next => simp at spread

/-- A sample with less than a window of time behind it lies in a kept group. -/
theorem sample_kept {dropped kept before later : List TauSample} {x : TauSample}
    (split : dropped ++ kept = before ++ x :: later) (steps : ∀ y ∈ later, 0 ≤ y.2)
    (recent : sampleTime later < trustWindowH)
    (covered : dropped = [] ∨ trustWindowH ≤ sampleTime kept) : x ∈ kept := by
  rw [List.append_eq_append_iff] at split
  rcases split with ⟨middle, -, same⟩ | ⟨middle, front, same⟩
  · simp [same]
  · cases middle with
    | nil =>
      rw [List.nil_append] at same
      simp [← same]
    | cons y middle =>
      rw [List.cons_append, List.cons.injEq] at same
      cases covered with
      | inl all => simp [all] at front
      | inr long =>
        have more : sampleTime kept ≤ sampleTime later := by
          rw [sampleTime, sampleTime, same.2, List.map_append]
          refine totalH_suffix (fun d member => ?_) _
          obtain ⟨y, there, rfl⟩ := List.mem_map.mp member
          exact steps y (by simp [same.2, there])
        exact absurd recent (long.trans more).not_gt

theorem spanned_left {groups : List (List TauSample)} {buckets : List (Binary64 × Binary64)}
    (spans : List.Forall₂ Spans groups buckets) :
    ∀ group ∈ groups, ∃ b ∈ buckets, Spans group b := by
  induction spans with
  | nil => simp
  | cons first _ ih =>
    rw [List.forall_mem_cons]
    refine ⟨⟨_, List.mem_cons_self, first⟩, fun group member => ?_⟩
    obtain ⟨b, inside, there⟩ := ih group member
    exact ⟨b, List.mem_cons_of_mem _ inside, there⟩

/-- A recent event was no reset, and its sample has less than a window behind it. -/
theorem recent_counts {past : List TauEvent} {e : TauEvent} (recent : Recent past e)
    (clean : trustWindowH ≤ sampleTime (past.foldl sampleFold [])) :
    e.clears = false ∧ ∀ tau, e.sample = some tau → ∃ earlier d later,
      past.foldl sampleFold [] = earlier ++ (tau, d) :: later ∧
        sampleTime later < trustWindowH := by
  obtain ⟨before, after, rfl, short⟩ := recent
  have folded : (before ++ e :: after).foldl sampleFold [] =
      after.foldl sampleFold (sampleFold (before.foldl sampleFold []) e) := by
    rw [List.foldl_append, List.foldl_cons]
  rw [folded] at clean ⊢
  obtain ⟨new, split, time⟩ :=
    (samples_later (sampleFold (before.foldl sampleFold []) e) after).resolve_right
      fun bounded => (clean.trans bounded).not_gt short
  have keeps : e.clears = false := by
    by_contra clears
    rw [Bool.not_eq_false] at clears
    rw [split, sampleFold_clears clears, List.nil_append, time] at clean
    exact clean.not_gt short
  refine ⟨keeps, fun tau sampled => ?_⟩
  cases e with
  | roundTrip => cases sampled
  | observe tauH dtH reset =>
    obtain rfl : tauH = some tau := sampled
    have keeps : (reset || nearBound (some tau)) = false := keeps
    refine ⟨before.foldl sampleFold [], tauStep dtH, new, ?_, time.trans_lt short⟩
    rw [split]
    simp only [sampleFold, keeps, Bool.false_eq_true, if_false, List.append_assoc,
      List.singleton_append]

theorem recent_kept {past : List TauEvent} {groups : List (List TauSample)}
    {t : TauTrust Binary64} (grouped : Grouped past t groups) (covered : WindowCovered past)
    (clean : trustWindowH ≤ t.cleanH) {e : TauEvent} (recent : Recent past e) {tau : Binary64}
    (sampled : e.sample = some tau) : ∃ b ∈ t.window, b.1 ≤ tau ∧ tau ≤ b.2 := by
  rw [grouped.cleanH] at clean
  obtain ⟨earlier, d, later, split, short⟩ := (recent_counts recent clean).2 tau sampled
  have steps := samples_nonneg past
  have all := grouped.samples
  rw [split] at all steps
  rw [← List.take_append_drop maxBuckets groups, List.reverse_append, List.flatten_append] at all
  have reached : (tau, d) ∈ (groups.take maxBuckets).reverse.flatten := by
    refine sample_kept all.symm (fun y member => steps y (by simp [member])) short ?_
    rw [WindowCovered, ← grouped.steps] at covered
    cases covered with
    | inl few =>
      rw [List.length_map] at few
      exact .inl (by simp [List.drop_eq_nil_of_le few])
    | inr long =>
      refine .inr (long.trans_eq ?_)
      rw [sampleTime, List.map_flatten, List.map_reverse, List.map_take]
  obtain ⟨group, member, inside⟩ := List.mem_flatten.mp reached
  obtain ⟨b, inB, spans⟩ := spanned_left grouped.window group (List.mem_reverse.mp member)
  exact ⟨b, List.mem_reverse.mp inB, spans _ inside⟩

theorem trusted_clean {past : List TauEvent} (trusted : (tauAfter past).trusted = true)
    {e : TauEvent} (recent : Recent past e) : e.clears = false := by
  obtain ⟨groups, grouped⟩ := grouped_run past
  have clean := (trusted_buckets trusted).1
  rw [grouped.cleanH] at clean
  exact (recent_counts recent clean).1

theorem one_lt_sample {e : TauEvent} {tau : Binary64} (sampled : e.sample = some tau)
    (keeps : e.clears = false) : 1 < tau := by
  cases e with
  | roundTrip => cases sampled
  | observe tauH dtH reset =>
    obtain rfl : tauH = some tau := sampled
    simp only [TauEvent.clears, nearBound, Bool.or_eq_false_iff, decide_eq_false_iff_not] at keeps
    exact not_le.mp keeps.2.2

/-- In every run of folds with any time steps and any round trips between them: a trusted
record has seen no reset and no sample near a bound in the last window of observed time,
and all samples of that time lie within the trust ratio, wherever the kept buckets span
that time. -/
theorem trusted_stable (past : List TauEvent) (covered : WindowCovered past)
    (trusted : (tauAfter past).trusted = true) : StableWindow past := by
  obtain ⟨groups, grouped⟩ := grouped_run past
  obtain ⟨clean, lo, hi, positive, spread, within⟩ := trusted_buckets trusted
  refine ⟨fun e recent => trusted_clean trusted recent, ?_⟩
  intro e f tau tau' recent recent' sampled sampled'
  obtain ⟨b, inB, -, high⟩ := recent_kept grouped covered clean recent sampled
  obtain ⟨c, inC, low, -⟩ := recent_kept grouped covered clean recent' sampled'
  have above : 1 < tau' := one_lt_sample sampled' (trusted_clean trusted recent')
  have most : tau ≤ hi := high.trans (within b inB).2
  have least : lo ≤ tau' := (within c inC).1.trans low
  have nonneg : 0 ≤ hi := by
    have positive' : 1 < tau := one_lt_sample sampled (trusted_clean trusted recent)
    exact (by decide +kernel : (0 : Binary64) ≤ 1).trans (positive'.le.trans most)
  have quotient : tau / tau' ≤ trustMaxRatio := (div_mono most nonneg positive least).trans spread
  have two : (trustMaxRatio : Binary64).value = 2 := natCast_value (by norm_num)
  refine le_two_mul_of_div_le ?_ ((le_def.mp quotient).trans_eq two)
  rw [← one_value]
  exact above.le

theorem tauAfter_join (front back : List TauEvent) :
    tauAfter (front ++ back) = back.foldl TauEvent.step (tauAfter front) := List.foldl_append

def tauTick (tau dtH : ℚ) : TauEvent := .observe (some (nearest tau)) (nearest dtH) false

/-- A steady τ over twenty-five hours. Six of its ten-minute steps add up to just less than an
hour, so a bucket takes seven. -/
def steadyTau : List TauEvent :=
  .replicate 75 (tauTick 10 (1 / 6)) ++ .replicate 75 (tauTick 10 (1 / 6))

theorem steadyTau_half :
    tauAfter (.replicate 75 (tauTick 10 (1 / 6))) =
      { cleanH := nearest (3518437208883197 / 281474976710656)
        bucketH := nearest (3752999689475413 / 4503599627370496)
        window := .replicate 11 (nearest 10, nearest 10) } := by
  decide +kernel

theorem steadyTau_trusted : (tauAfter steadyTau).trusted = true := by
  rw [steadyTau, tauAfter_join, steadyTau_half]
  decide +kernel

theorem steadyTau_covered : WindowCovered steadyTau := by
  have half : bucketSteps (.replicate 75 (tauTick 10 (1 / 6))) =
      .replicate 5 (nearest (1 / 6)) :: .replicate 10 (.replicate 7 (nearest (1 / 6))) := by
    decide +kernel
  refine .inl ?_
  rw [steadyTau, bucketSteps, List.foldl_append, ← bucketSteps, half]
  decide +kernel

theorem steadyTau_stable :
    (WindowCovered steadyTau ∧ (tauAfter steadyTau).trusted = true) ∧ StableWindow steadyTau :=
  ⟨⟨steadyTau_covered, steadyTau_trusted⟩,
    trusted_stable steadyTau steadyTau_covered steadyTau_trusted⟩

/-- τ is 10 in the first hour and 25 from then on, until just past the window, in steps of an
eighth of an hour. -/
def shiftedTau : List TauEvent :=
  .replicate 8 (tauTick 10 (1 / 8)) ++ .replicate 185 (tauTick 25 (1 / 8))

/-- Eighths of an hour add up exactly. -/
theorem totalH_eighths {n : ℕ} (small : n ≤ 2 ^ 53) :
    (totalH (.replicate n (nearest (1 / 8)))).value = n / 8 := by
  have exact (k : ℕ) (few : k ≤ 2 ^ 53) : Binary64.round (k / 8) = k / 8 := by
    refine round_eq_self (k := -3) (by omega) ?_ ?_
    · exact ⟨k, by push_cast; norm_num [div_eq_mul_inv]⟩
    · rw [abs_of_nonneg (by positivity), div_le_iff₀ (by norm_num)]
      exact (mod_cast few : (k : ℚ) ≤ 2 ^ 53).trans_eq (by norm_num)
  induction n with
  | zero => simp
  | succ n ih =>
    have step : (nearest (1 / 8)).value = 1 / 8 := by decide +kernel
    rw [List.replicate_succ', totalH_snoc, add_value, ih (by omega), step]
    have sum : (n / 8 + 1 / 8 : ℚ) = ((n + 1 : ℕ) : ℚ) / 8 := by
      push_cast
      ring
    rw [sum, exact (n + 1) small]

theorem shiftedTau_trusted : (tauAfter shiftedTau).trusted = true := by
  have split : shiftedTau =
      (.replicate 8 (tauTick 10 (1 / 8)) ++ .replicate 92 (tauTick 25 (1 / 8))) ++
        .replicate 93 (tauTick 25 (1 / 8)) := by
    rw [List.append_assoc, ← List.replicate_add]
    rfl
  have half : tauAfter (.replicate 8 (tauTick 10 (1 / 8)) ++ .replicate 92 (tauTick 25 (1 / 8))) =
      { cleanH := nearest (25 / 2)
        bucketH := nearest (1 / 2)
        window := (nearest 10, nearest 10) :: .replicate 12 (nearest 25, nearest 25) } := by
    decide +kernel
  rw [split, tauAfter_join, half]
  decide +kernel

/-- The first hour left the buckets an eighth of an hour after the newest one opened, with samples
in it that are less than a window old. -/
theorem shiftedTau_unstable :
    ¬ ∀ past : List TauEvent, (tauAfter past).trusted = true → StableWindow past := by
  intro claim
  have stable := claim shiftedTau shiftedTau_trusted
  have old : Recent shiftedTau (tauTick 10 (1 / 8)) := by
    refine ⟨.replicate 7 (tauTick 10 (1 / 8)), .replicate 185 (tauTick 25 (1 / 8)), rfl, ?_⟩
    have step : (tauTick 25 (1 / 8)).hours = nearest (1 / 8) := by decide +kernel
    rw [observedH, List.map_replicate, step, lt_def, totalH_eighths (by norm_num)]
    exact (by norm_num : ((185 : ℕ) / 8 : ℚ) < (24 : ℕ)).trans_eq (natCast_value (by norm_num)).symm
  have new : Recent shiftedTau (tauTick 25 (1 / 8)) := by
    refine ⟨.replicate 8 (tauTick 10 (1 / 8)) ++ .replicate 184 (tauTick 25 (1 / 8)), [], ?_,
      by decide +kernel⟩
    rw [shiftedTau, List.append_assoc, ← List.replicate_succ']
  have within := stable.ratio _ _ _ _ new old rfl rfl
  exact absurd within (by decide +kernel)

end Poise
