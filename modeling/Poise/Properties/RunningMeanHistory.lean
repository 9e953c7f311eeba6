import Poise.Estimation.RunningMean
import Poise.Foundation.ExponentialMean
import Mathlib.Data.List.SplitBy
import Mathlib.Algebra.Order.Field.Rat

/-!
# The running mean of a history

The tracker keeps a handful of numbers; the norm speaks of the daily means of the past. The
tracker's state is the norm's recursion over the days of the whole history, a day being a run of
samples with one ordinal, and the running mean never leaves the range of the samples.
-/
namespace Poise

variable {K : Type*} [Field K]

/-! ### What the tracker computes -/

/-- One outdoor sample and its day. -/
abbrev OutdoorSample (K : Type*) := K × ℤ

/-- The samples, cut where the day changes. -/
def sampleDays (samples : List (OutdoorSample K)) : List (List (OutdoorSample K)) :=
  samples.splitBy fun s t => s.2 == t.2

def dayTotal : List (OutdoorSample K) → K
  | [] => 0
  | s :: rest => s.1 + dayTotal rest

def dailyMean (day : List (OutdoorSample K)) : K := dayTotal day / day.length

theorem dayTotal_append (front back : List (OutdoorSample K)) :
    dayTotal (front ++ back) = dayTotal front + dayTotal back := by
  induction front with
  | nil => simp [dayTotal]
  | cons s front ih =>
    simp only [List.cons_append, dayTotal, ih]
    ring

/-- The completed days, the latest first. -/
def completedDays (samples : List (OutdoorSample K)) : List (List (OutdoorSample K)) :=
  (sampleDays samples).dropLast.reverse

section Cuts

variable {α : Type*} {r : α → α → Bool} {l : List α} {front : List (List α)} {g : List α} {x : α}

/-- A sample of the last group extends it. -/
theorem splitBy_extend (split : l.splitBy r = front ++ [g]) (some : g ≠ [])
    (same : r (g.getLast some) x = true) : (l ++ [x]).splitBy r = front ++ [g ++ [x]] := by
  obtain ⟨whole, full, runs, cuts⟩ := List.splitBy_eq_iff.mp split
  refine List.splitBy_eq_iff.mpr ⟨by simp [whole], by simpa [some] using full, ?_, ?_⟩
  · intro m member
    simp only [List.mem_append, List.mem_singleton] at member
    rcases member with early | rfl
    · exact runs m (by simp [early])
    · refine List.isChain_append.mpr ⟨runs g (by simp), List.isChain_singleton x, ?_⟩
      intro a last b first
      rw [List.getLast?_eq_some_getLast some, Option.mem_some] at last
      simp only [List.head?_cons, Option.mem_some] at first
      rw [← last, ← first]
      exact same
  · obtain ⟨early, -, next⟩ := List.isChain_append.mp cuts
    refine List.isChain_append.mpr ⟨early, List.isChain_singleton _, ?_⟩
    intro a last b first
    obtain ⟨ha, hb, apart⟩ := next a last g (by simp)
    simp only [List.head?_cons, Option.mem_some] at first
    subst first
    refine ⟨ha, by simp, ?_⟩
    rwa [List.head_append_of_ne_nil hb]

/-- Any other sample opens a group. -/
theorem splitBy_open (split : l.splitBy r = front ++ [g]) (some : g ≠ [])
    (other : r (g.getLast some) x = false) : (l ++ [x]).splitBy r = front ++ [g] ++ [[x]] := by
  obtain ⟨whole, -, -, -⟩ := List.splitBy_eq_iff.mp split
  have last : ∀ y ∈ l.getLast?, r y x = false := by
    intro y member
    rw [whole, List.flatten_append, List.flatten_singleton, List.getLast?_append_of_ne_nil _ some,
      List.getLast?_eq_some_getLast some, Option.mem_some] at member
    rwa [← member]
  rw [List.splitBy_append_cons [] last, split]
  rfl

end Cuts

/-! ### The refinement -/

/-- The tracker after a history. -/
def trackAll (samples : List (OutdoorSample K)) : RunningMeanTracker K :=
  samples.foldl (fun t s => t.observe s.1 s.2) {}

/-- What the tracker holds of a history that starts at `first`, whose completed days are `days`
(the latest first) and whose open day is `today`. -/
structure TrackerHolds (first : K) (days : List (List (OutdoorSample K)))
    (today : List (OutdoorSample K)) (t : RunningMeanTracker K) : Prop where
  alpha : t.alpha = runningMeanAlpha
  tRm : t.tRm = some
    (ExponentialMean.mean first (days.map fun day => (runningMeanAlpha, dailyMean day)))
  day : ∀ s ∈ today, t.day = some s.2
  sum : t.daySum = dayTotal today
  count : t.dayCount = today.length
  recent : t.recentDays = (days.map dailyMean).take recentDaysCap

theorem tracks_extend {first : K} {days : List (List (OutdoorSample K))}
    {today : List (OutdoorSample K)} {t : RunningMeanTracker K} {s : OutdoorSample K}
    (tracks : TrackerHolds first days today t) (same : t.day = some s.2) :
    TrackerHolds first days (today ++ [s]) (t.observe s.1 s.2) := by
  have kept : t.rollOver s.1 s.2 = t := by simp [RunningMeanTracker.rollOver, same]
  simp only [RunningMeanTracker.observe, kept]
  refine ⟨tracks.alpha, tracks.tRm, ?_, ?_, ?_, tracks.recent⟩
  · intro u member
    rcases List.mem_append.mp member with earlier | now
    · exact tracks.day u earlier
    · rw [List.mem_singleton.mp now]
      exact same
  · simp [tracks.sum, dayTotal_append, dayTotal]
  · simp [tracks.count]

theorem tracks_open {first : K} {days : List (List (OutdoorSample K))}
    {today : List (OutdoorSample K)} {t : RunningMeanTracker K} {s : OutdoorSample K} {day : ℤ}
    (tracks : TrackerHolds first days today t) (nonempty : today ≠ []) (known : t.day = some day)
    (other : s.2 ≠ day) : TrackerHolds first (today :: days) [s] (t.observe s.1 s.2) := by
  have counted : 0 < t.dayCount := by
    rw [tracks.count]
    exact List.length_pos_iff.mpr nonempty
  have mean : t.daySum / t.dayCount = dailyMean today := by
    rw [tracks.sum, tracks.count, dailyMean]
  simp only [RunningMeanTracker.observe, RunningMeanTracker.rollOver, known, ne_eq, other,
    not_false_eq_true, if_true, counted, mean, RunningMeanTracker.finalizeDay, tracks.tRm,
    tracks.alpha]
  refine ⟨rfl, ?_, ?_, ?_, ?_, ?_⟩
  · simp only [List.map_cons, ExponentialMean.mean, ExponentialMean.blend, runningMeanRecursive]
    rw [add_comm]
  · intro u member
    rw [List.mem_singleton.mp member]
  · simp [dayTotal]
  · simp
  · simp [tracks.recent, recentDaysCap, List.take_take]

theorem trackAll_snoc (samples : List (OutdoorSample K)) (s : OutdoorSample K) :
    trackAll (samples ++ [s]) = (trackAll samples).observe s.1 s.2 := by
  simp [trackAll]

/-- The tracker refines the norm's recursion on the daily means of the history. -/
theorem tracks_history {first : OutdoorSample K} (rest : List (OutdoorSample K)) :
    ∃ front today, sampleDays (first :: rest) = front ++ [today] ∧ today ≠ [] ∧
      TrackerHolds first.1 front.reverse today (trackAll (first :: rest)) := by
  induction rest using List.reverseRecOn with
  | nil =>
    refine ⟨[], [first], rfl, by simp, ?_⟩
    refine ⟨rfl, rfl, ?_, ?_, rfl, rfl⟩
    · intro s member
      rw [List.mem_singleton.mp member]
      rfl
    · simp [trackAll, RunningMeanTracker.observe, RunningMeanTracker.rollOver, dayTotal]
  | append_singleton rest s ih =>
    obtain ⟨front, today, split, nonempty, tracks⟩ := ih
    have known := tracks.day (today.getLast nonempty) (List.getLast_mem nonempty)
    rw [← List.cons_append, trackAll_snoc, sampleDays]
    by_cases same : (today.getLast nonempty).2 = s.2
    · refine ⟨front, today ++ [s], splitBy_extend split nonempty (by simpa using same), by simp, ?_⟩
      exact tracks_extend tracks (by rw [known, same])
    · refine ⟨front ++ [today], [s], splitBy_open split nonempty (by simpa using same), by simp, ?_⟩
      rw [List.reverse_append]
      exact tracks_open tracks nonempty known (fun eq => same eq.symm)

/-! ### The range of the samples -/

section Order

variable [LinearOrder K] [IsStrictOrderedRing K] {lo hi : K}

theorem dayTotal_mem {day : List (OutdoorSample K)} (range : ∀ s ∈ day, lo ≤ s.1 ∧ s.1 ≤ hi) :
    day.length * lo ≤ dayTotal day ∧ dayTotal day ≤ day.length * hi := by
  induction day with
  | nil => simp [dayTotal]
  | cons s day ih =>
    obtain ⟨low, high⟩ := range s (by simp)
    obtain ⟨lows, highs⟩ := ih fun u member => range u (by simp [member])
    simp only [dayTotal, List.length_cons, Nat.cast_succ]
    constructor <;> linarith

theorem dailyMean_mem {day : List (OutdoorSample K)} (nonempty : day ≠ [])
    (range : ∀ s ∈ day, lo ≤ s.1 ∧ s.1 ≤ hi) : lo ≤ dailyMean day ∧ dailyMean day ≤ hi := by
  have count : (0 : K) < day.length := Nat.cast_pos.mpr (List.length_pos_iff.mpr nonempty)
  obtain ⟨low, high⟩ := dayTotal_mem range
  unfold dailyMean
  rw [le_div_iff₀ count, div_le_iff₀ count]
  constructor <;> linarith

end Order

theorem runningMeanAlpha_mem : (0 : ℚ) ≤ runningMeanAlpha ∧ (runningMeanAlpha : ℚ) ≤ 1 := by
  unfold runningMeanAlpha
  norm_num

/-- After any history the tracker holds the exponentially weighted mean of the completed days, the
last week of their means and the open day; the running mean stays in the range of the samples. -/
theorem tracker_refines_norm (samples : List (OutdoorSample ℚ)) (first : OutdoorSample ℚ)
    (start : samples.head? = some first) :
    (trackAll samples).tRm = some (ExponentialMean.mean first.1
        ((completedDays samples).map fun day => (runningMeanAlpha, dailyMean day))) ∧
      (trackAll samples).recentDays = ((completedDays samples).map dailyMean).take recentDaysCap ∧
      (∃ today, (sampleDays samples).getLast? = some today ∧
        (trackAll samples).daySum = dayTotal today ∧ (trackAll samples).dayCount = today.length) ∧
      ∀ lo hi, (∀ s ∈ samples, lo ≤ s.1 ∧ s.1 ≤ hi) →
        ∀ tRm ∈ (trackAll samples).tRm, lo ≤ tRm ∧ tRm ≤ hi := by
  obtain ⟨rest, rfl⟩ : ∃ rest, samples = first :: rest := by
    cases samples with
    | nil => simp at start
    | cons s rest => exact ⟨rest, by simpa using start⟩
  obtain ⟨front, today, split, nonempty, tracks⟩ := tracks_history rest
  have completed : completedDays (first :: rest) = front.reverse := by
    rw [completedDays, split, List.dropLast_concat]
  refine ⟨by rw [completed]; exact tracks.tRm, by rw [completed]; exact tracks.recent,
    ⟨today, by simp [split], tracks.sum, tracks.count⟩, ?_⟩
  intro lo hi range tRm known
  rw [tracks.tRm, Option.mem_some] at known
  subst known
  have within : ∀ day ∈ front, day ≠ [] ∧ ∀ s ∈ day, lo ≤ s.1 ∧ s.1 ≤ hi := by
    intro day member
    have part : day ∈ sampleDays (first :: rest) := by
      rw [split]
      exact List.mem_append_left _ member
    refine ⟨List.ne_nil_of_mem_splitBy part, fun s inside => range s ?_⟩
    rw [← List.flatten_splitBy (fun s t : OutdoorSample ℚ => s.2 == t.2) (first :: rest)]
    exact List.mem_flatten.mpr ⟨day, part, inside⟩
  apply ExponentialMean.mean_mem
  · intro fold member
    obtain ⟨day, -, rfl⟩ := List.mem_map.mp member
    exact runningMeanAlpha_mem
  · exact range first (by simp)
  · intro fold member
    obtain ⟨day, old, rfl⟩ := List.mem_map.mp member
    obtain ⟨some, inside⟩ := within day (List.mem_reverse.mp old)
    exact dailyMean_mem some inside

theorem tracker_refines_norm_two_days :
    (trackAll [(4, 1), (6, 1), (10, 2)]).tRm = some (ExponentialMean.mean (4 : ℚ)
        ((completedDays [(4, 1), (6, 1), (10, 2)]).map fun day =>
          (runningMeanAlpha, dailyMean day))) :=
  (tracker_refines_norm [(4, 1), (6, 1), (10, 2)] (4, 1) rfl).1

end Poise
