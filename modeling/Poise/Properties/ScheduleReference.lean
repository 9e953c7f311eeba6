import Poise.Comfort.Schedule

/-!
# The schedule against a reference week

`ReferenceComfort` says minute by minute when a list of windows asks for comfort,
with no merging, splitting or seam. The normalized, expanded and merged week
union covers exactly the reference minutes, so the verdict of `stateAt` and its
two distances are the reference's own.
-/
namespace Poise

open Intervals

variable {windows : List ComfortWindow} {w : ComfortWindow} {d : ℕ} {x : ℤ}

def ComfortWindow.arc (w : ComfortWindow) (d : ℕ) : ℤ × ℤ :=
  -- The minutes a window covers from day `d`; an overnight window ends a day later.
  (d * dayMinutes + w.startMin,
    if w.endMin < w.startMin then (d + 1) * dayMinutes + w.endMin
    else d * dayMinutes + w.endMin)

def CoversFrom (windows : List ComfortWindow) (d : ℕ) (x : ℤ) : Prop :=
  ∃ w ∈ windows, w.days.testBit d ∧ w.startMin ≠ w.endMin ∧
    (w.arc d).1 ≤ x ∧ x < (w.arc d).2

/-- Minute `x` of the cyclic week is a comfort minute of the clamped windows. -/
def ReferenceComfort (windows : List ComfortWindow) (x : ℤ) : Prop :=
  ∃ d < 7, ∃ k : ℤ, CoversFrom (windows.map ComfortWindow.clamped) d (x + k * weekMinutes)

/-- A window that is still non-empty after clamping counts as configured. -/
def Configured (windows : List ComfortWindow) : Prop :=
  ∃ w ∈ windows, w.clamped.startMin ≠ w.clamped.endMin

/-! ### Normalization -/

/-- What clamping and dropping leave: a non-empty window inside one day. -/
structure InDay (w : ComfortWindow) : Prop where
  start_low : 0 ≤ w.startMin
  start_high : w.startMin ≤ dayMinutes
  end_low : 0 ≤ w.endMin
  end_high : w.endMin ≤ dayMinutes
  nonempty : w.startMin ≠ w.endMin

theorem InDay.extended {prev w : ComfortWindow} (old : InDay prev) (new : InDay w)
    (proper : prev.startMin < prev.endMin) :
    let merged : ComfortWindow := ⟨prev.startMin, max prev.endMin w.endMin, prev.days⟩
    InDay merged ∧ merged.startMin < merged.endMin := by
  have longer : prev.startMin < max prev.endMin w.endMin := lt_max_of_lt_left proper
  refine ⟨⟨old.start_low, old.start_high, ?_, ?_, longer.ne⟩, longer⟩
  · exact le_max_of_le_left old.end_low
  · exact max_le old.end_high new.end_high

@[simp] theorem coversFrom_nil : ¬ CoversFrom [] d x := by simp [CoversFrom]

theorem coversFrom_cons {l : List ComfortWindow} :
    CoversFrom (w :: l) d x ↔ CoversFrom [w] d x ∨ CoversFrom l d x := by
  simp [CoversFrom]

theorem coversFrom_append {l m : List ComfortWindow} :
    CoversFrom (l ++ m) d x ↔ CoversFrom l d x ∨ CoversFrom m d x := by
  induction l with
  | nil => simp
  | cons w l ih => rw [List.cons_append, coversFrom_cons, ih, coversFrom_cons (l := l), or_assoc]

theorem coversFrom_congr {l m : List ComfortWindow} (same : ∀ w, w ∈ l ↔ w ∈ m) :
    CoversFrom l d x ↔ CoversFrom m d x := by
  simp only [CoversFrom, same]

theorem coversFrom_singleton (proper : w.startMin < w.endMin) :
    CoversFrom [w] d x ↔
      w.days.testBit d ∧ d * dayMinutes + w.startMin ≤ x ∧ x < d * dayMinutes + w.endMin := by
  have sameDay : ¬ w.endMin < w.startMin := by omega
  simp [CoversFrom, ComfortWindow.arc, sameDay, proper.ne]

theorem coversFrom_merge {prev w : ComfortWindow} (mask : w.days = prev.days)
    (touching : w.startMin ≤ prev.endMin) (order : prev.startMin ≤ w.startMin)
    (prevProper : prev.startMin < prev.endMin) (proper : w.startMin < w.endMin) :
    CoversFrom [⟨prev.startMin, max prev.endMin w.endMin, prev.days⟩] d x ↔
      CoversFrom [prev] d x ∨ CoversFrom [w] d x := by
  rw [coversFrom_singleton (by simp only; omega), coversFrom_singleton prevProper,
    coversFrom_singleton proper, mask]
  simp only
  constructor
  · rintro ⟨bit, low, high⟩
    -- what lies past `prev` lies in `w`, which starts no later than `prev` ends
    by_cases inPrev : x < d * dayMinutes + prev.endMin
    · exact Or.inl ⟨bit, low, inPrev⟩
    · exact Or.inr ⟨bit, by omega, by omega⟩
  · rintro (⟨bit, low, high⟩ | ⟨bit, low, high⟩)
    · exact ⟨bit, low, by omega⟩
    · exact ⟨bit, by omega, by omega⟩

structure Stack (acc rest : List ComfortWindow) : Prop where
  proper : ∀ w ∈ acc ++ rest, InDay w ∧ w.startMin < w.endMin
  ahead : ∀ q ∈ acc, ∀ w ∈ rest, q.startMin ≤ w.startMin
  sorted : rest.Pairwise fun a b => a.startMin ≤ b.startMin

theorem mergeWindow_stack {acc rest : List ComfortWindow} (inv : Stack acc (w :: rest)) :
    Stack (mergeWindow acc w) rest ∧ mergeWindow acc w ≠ [] ∧
      ∀ d x, CoversFrom (mergeWindow acc w) d x ↔ CoversFrom acc d x ∨ CoversFrom [w] d x := by
  have order := List.pairwise_cons.mp inv.sorted
  have new := inv.proper w (by simp)
  cases acc with
  | nil =>
    refine ⟨⟨?_, ?_, order.2⟩, by simp [mergeWindow], by simp [mergeWindow]⟩
    · exact fun q member => inv.proper q (by simpa [mergeWindow] using member)
    · exact fun q member v later => by simp_all [mergeWindow]
  | cons prev older =>
    have old := inv.proper prev (by simp)
    have before := inv.ahead prev (by simp) w (by simp)
    simp only [mergeWindow]
    split
    next touching =>
      refine ⟨⟨?_, ?_, order.2⟩, by simp, fun d x => ?_⟩
      · intro q member
        simp only [List.cons_append, List.mem_cons, List.mem_append] at member
        rcases member with rfl | inOlder | inRest
        · exact old.1.extended new.1 old.2
        · exact inv.proper q (by simp [inOlder])
        · exact inv.proper q (by simp [inRest])
      · intro q member v later
        rcases List.mem_cons.mp member with rfl | inOlder
        · exact inv.ahead prev (by simp) v (by simp [later])
        · exact inv.ahead q (by simp [inOlder]) v (by simp [later])
      · rw [coversFrom_cons, coversFrom_cons (l := older),
          coversFrom_merge touching.1 touching.2 before old.2 new.2]
        tauto
    next apart =>
      refine ⟨⟨?_, ?_, order.2⟩, by simp, fun d x => ?_⟩
      · intro q member
        apply inv.proper q
        simp only [List.cons_append, List.mem_cons, List.mem_append] at member ⊢
        tauto
      · intro q member v later
        rcases List.mem_cons.mp member with rfl | stacked
        · exact order.1 v later
        · exact inv.ahead q stacked v (by simp [later])
      · rw [coversFrom_cons (w := w)]
        tauto

theorem foldl_mergeWindow {acc rest : List ComfortWindow} (inv : Stack acc rest) :
    (∀ w ∈ rest.foldl mergeWindow acc, InDay w) ∧
      (rest.foldl mergeWindow acc = [] ↔ acc = [] ∧ rest = []) ∧
      ∀ d x, CoversFrom (rest.foldl mergeWindow acc) d x ↔
        CoversFrom acc d x ∨ CoversFrom rest d x := by
  induction rest generalizing acc with
  | nil => exact ⟨fun w member => (inv.proper w (by simpa using member)).1, by simp, by simp⟩
  | cons w rest ih =>
    obtain ⟨next, filled, covers⟩ := mergeWindow_stack inv
    obtain ⟨inDay, empty, all⟩ := ih next
    refine ⟨inDay, ?_, fun d x => ?_⟩
    · rw [List.foldl_cons, empty]
      simp [filled]
    · rw [List.foldl_cons, all, covers, coversFrom_cons (l := rest), or_assoc]

theorem clampMinute_within (minute : ℤ) :
    0 ≤ clampMinute minute ∧ clampMinute minute ≤ dayMinutes := by
  unfold clampMinute dayMinutes
  omega

theorem clamped_inDay (nonempty : w.clamped.startMin ≠ w.clamped.endMin) : InDay w.clamped :=
  ⟨(clampMinute_within _).1, (clampMinute_within _).2, (clampMinute_within _).1,
    (clampMinute_within _).2, nonempty⟩

private def cleanWindows (windows : List ComfortWindow) : List ComfortWindow :=
  (windows.map ComfortWindow.clamped).filter fun w => w.endMin ≠ w.startMin

private theorem mem_cleanWindows : w ∈ cleanWindows windows ↔
    w ∈ windows.map ComfortWindow.clamped ∧ w.startMin ≠ w.endMin := by
  simp only [cleanWindows, List.mem_filter, decide_eq_true_eq]
  exact and_congr_right fun _ => ne_comm

private theorem cleanWindows_inDay (member : w ∈ cleanWindows windows) : InDay w := by
  obtain ⟨clamped, nonempty⟩ := mem_cleanWindows.mp member
  obtain ⟨raw, _, rfl⟩ := List.mem_map.mp clamped
  exact clamped_inDay nonempty

private theorem coversFrom_cleanWindows :
    CoversFrom (cleanWindows windows) d x ↔
      CoversFrom (windows.map ComfortWindow.clamped) d x := by
  simp only [CoversFrom, mem_cleanWindows]
  constructor
  · rintro ⟨w, ⟨member, _⟩, covers⟩
    exact ⟨w, member, covers⟩
  · rintro ⟨w, member, bit, nonempty, inside⟩
    exact ⟨w, ⟨member, nonempty⟩, bit, nonempty, inside⟩

private theorem cleanWindows_eq_nil : cleanWindows windows = [] ↔ ¬ Configured windows := by
  rw [List.eq_nil_iff_forall_not_mem]
  constructor
  · rintro absent ⟨w, member, nonempty⟩
    exact absent w.clamped (mem_cleanWindows.mpr ⟨List.mem_map_of_mem member, nonempty⟩)
  · intro none w member
    obtain ⟨clamped, nonempty⟩ := mem_cleanWindows.mp member
    obtain ⟨raw, inWindows, rfl⟩ := List.mem_map.mp clamped
    exact none ⟨raw, inWindows, nonempty⟩

/-- Sorting and merging the same-day windows loses no comfort minute and adds none. -/
theorem normalize_spec (windows : List ComfortWindow) :
    (∀ w ∈ normalize windows, InDay w) ∧ (normalize windows = [] ↔ ¬ Configured windows) ∧
      ∀ d x, CoversFrom (normalize windows) d x ↔
        CoversFrom (windows.map ComfortWindow.clamped) d x := by
  set clean := cleanWindows windows with cleanDef
  set sorted := (clean.filter fun w => w.endMin > w.startMin).insertionSort
    fun a b => a.startMin ≤ b.startMin with sortedDef
  set wrap := clean.filter fun w => w.endMin < w.startMin with wrapDef
  have shape : normalize windows = (sorted.foldl mergeWindow []).reverse ++ wrap := rfl
  have inSorted : ∀ w, w ∈ sorted ↔ w ∈ clean ∧ w.startMin < w.endMin := by
    intro w
    simp [sortedDef, List.mem_insertionSort]
  have inWrap : ∀ w, w ∈ wrap ↔ w ∈ clean ∧ w.endMin < w.startMin := by
    intro w
    simp [wrapDef]
  have start : Stack [] sorted := by
    refine ⟨fun w member => ?_, by simp, List.pairwise_insertionSort _ _⟩
    have proper := (inSorted w).mp (by simpa using member)
    exact ⟨cleanWindows_inDay proper.1, proper.2⟩
  obtain ⟨inDay, empty, covers⟩ := foldl_mergeWindow start
  -- every non-empty window is a same-day or an overnight one
  have split : ∀ w, w ∈ clean ↔ w ∈ sorted ++ wrap := by
    intro w
    rw [List.mem_append, inSorted, inWrap, ← and_or_left]
    refine ⟨fun member => ⟨member, ?_⟩, fun member => member.1⟩
    have := (cleanWindows_inDay member).nonempty
    omega
  refine ⟨fun w member => ?_, ?_, fun d x => ?_⟩
  · rw [shape, List.mem_append, List.mem_reverse] at member
    cases member with
    | inl merged => exact inDay w merged
    | inr night => exact cleanWindows_inDay ((inWrap w).mp night).1
  · rw [shape, List.append_eq_nil_iff, List.reverse_eq_nil_iff, empty]
    have none : clean = [] ↔ sorted = [] ∧ wrap = [] := by
      rw [← List.append_eq_nil_iff]
      simp only [List.eq_nil_iff_forall_not_mem, split]
    rw [eq_self, true_and, ← none]
    exact cleanWindows_eq_nil
  · rw [shape, coversFrom_append, coversFrom_congr (fun w => List.mem_reverse), covers]
    simp only [coversFrom_nil, false_or]
    rw [← coversFrom_append, ← coversFrom_congr split, coversFrom_cleanWindows]

/-! ### Expansion onto the week -/

theorem weekMinutes_pos : 0 < weekMinutes := by decide

theorem arc_bounds (inDay : InDay w) (early : d < 7) :
    0 ≤ (w.arc d).1 ∧ (w.arc d).1 ≤ weekMinutes ∧ (w.arc d).2 ≤ weekMinutes + dayMinutes := by
  have low := inDay.start_low
  have high := inDay.start_high
  have stop := inDay.end_high
  simp only [ComfortWindow.arc, weekMinutes, dayMinutes] at *
  split <;> omega

theorem dayIntervals_eq (w : ComfortWindow) (bit : w.days.testBit d) :
    dayIntervals w d =
      if (w.arc d).2 > weekMinutes then
        [((w.arc d).1, weekMinutes), (0, (w.arc d).2 - weekMinutes)]
      else [w.arc d] := by
  simp only [dayIntervals, bit, not_true_eq_false, if_false, ComfortWindow.arc]
  split <;> simp

/-- One window on one day: splitting a Sunday night at the end of the week moves
its tail by exactly one period. -/
theorem around_dayIntervals (inDay : InDay w) (early : d < 7) :
    Around weekMinutes (dayIntervals w d) x ↔
      ∃ k : ℤ, CoversFrom [w] d (x + k * weekMinutes) := by
  by_cases bit : w.days.testBit d
  · have whole : (∃ k : ℤ, CoversFrom [w] d (x + k * weekMinutes)) ↔
        Around weekMinutes [w.arc d] x := by
      simp [CoversFrom, Around, bit, inDay.nonempty]
    rw [whole, dayIntervals_eq w bit]
    split
    next late => exact around_split (arc_bounds inDay early).2.1 (le_of_lt late)
    next => rfl
  · simp [CoversFrom, dayIntervals, bit, Around]

theorem around_rawIntervals (inDay : ∀ w ∈ windows, InDay w) :
    Around weekMinutes (rawIntervals windows) x ↔
      ∃ d < 7, ∃ k : ℤ, CoversFrom windows d (x + k * weekMinutes) := by
  simp only [rawIntervals, around_flatMap, List.mem_range]
  constructor
  · rintro ⟨w, member, d, early, around⟩
    obtain ⟨k, v, isW, covers⟩ := (around_dayIntervals (inDay w member) early).mp around
    rw [List.mem_singleton.mp isW] at covers
    exact ⟨d, early, k, w, member, covers⟩
  · rintro ⟨d, early, k, w, member, covers⟩
    refine ⟨w, member, d, early, (around_dayIntervals (inDay w member) early).mpr ?_⟩
    exact ⟨k, w, by simp, covers⟩

theorem rawIntervals_within (inDay : ∀ w ∈ windows, InDay w) :
    ∀ p ∈ rawIntervals windows, 0 ≤ p.1 ∧ p.2 ≤ weekMinutes := by
  intro p member
  simp only [rawIntervals, List.mem_flatMap, List.mem_range] at member
  obtain ⟨w, inWindows, d, early, inside⟩ := member
  by_cases bit : w.days.testBit d
  · have bounds := arc_bounds (inDay w inWindows) early
    rw [dayIntervals_eq w bit] at inside
    split at inside
    next late =>
      simp only [List.mem_cons, List.not_mem_nil, or_false] at inside
      rcases inside with rfl | rfl <;> simp only [weekMinutes, dayMinutes] at * <;> omega
    next late =>
      rw [List.mem_singleton.mp inside]
      omega
  · simp [dayIntervals, bit] at inside

private def sortedWeek (windows : List ComfortWindow) : List (ℤ × ℤ) :=
  ((rawIntervals windows).filter fun p => decide (p.1 < p.2)).insertionSort
    fun a b => a.1 < b.1 ∨ a.1 = b.1 ∧ a.2 ≤ b.2

private theorem mem_sortedWeek {p : ℤ × ℤ} :
    p ∈ sortedWeek windows ↔ p ∈ (rawIntervals windows).filter fun p => decide (p.1 < p.2) :=
  List.mem_insertionSort _

private theorem sortedWeek_starts (windows : List ComfortWindow) :
    (sortedWeek windows).Pairwise fun a b => a.1 ≤ b.1 := by
  -- the sort orders by the pair, which refines the order of the starts
  have total : Std.Total fun a b : ℤ × ℤ => a.1 < b.1 ∨ a.1 = b.1 ∧ a.2 ≤ b.2 :=
    ⟨fun a b => by omega⟩
  have trans : IsTrans (ℤ × ℤ) fun a b => a.1 < b.1 ∨ a.1 = b.1 ∧ a.2 ≤ b.2 :=
    ⟨fun a b c => by omega⟩
  exact (List.pairwise_insertionSort _ _).imp fun order => by omega

private theorem sortedWeek_proper : ∀ p ∈ sortedWeek windows, p.1 < p.2 := by
  intro p member
  simpa using (List.mem_filter.mp (mem_sortedWeek.mp member)).2

/-- What the week union of a schedule is good for: it covers the comfort minutes,
and away from the full week each of its ends is a setback minute. -/
structure WeekUnion (comfort : ℤ → Prop) (c : List (ℤ × ℤ)) : Prop where
  covers : ∀ x, Around weekMinutes c x ↔ comfort x
  proper : ∀ p ∈ c, p.1 < p.2
  within : ∀ p ∈ c, 0 ≤ p.1 ∧ p.2 ≤ weekMinutes + weekMinutes
  stops : c ≠ [(0, weekMinutes)] → ∀ p ∈ c, ¬ comfort p.2

theorem expand_weekUnion (inDay : ∀ w ∈ windows, InDay w) :
    WeekUnion (fun x => ∃ d < 7, ∃ k : ℤ, CoversFrom windows d (x + k * weekMinutes))
      (expand windows) := by
  have shape : expand windows = joinSeam weekMinutes (mergeTouching (sortedWeek windows)) := rfl
  have separated := mergeTouching_separated (sortedWeek_starts windows) sortedWeek_proper
  have within : ∀ p ∈ mergeTouching (sortedWeek windows), 0 ≤ p.1 ∧ p.2 ≤ weekMinutes := by
    apply mergeTouching_within
    intro p member
    exact rawIntervals_within inDay p (List.mem_filter.mp (mem_sortedWeek.mp member)).1
  have covers : ∀ x, Around weekMinutes (expand windows) x ↔
      ∃ d < 7, ∃ k : ℤ, CoversFrom windows d (x + k * weekMinutes) := by
    intro x
    rw [shape, around_joinSeam _ _ separated.proper,
      around_congr (mergeTouching_covers (sortedWeek_starts windows) sortedWeek_proper),
      around_congr (covers_congr fun p => mem_sortedWeek),
      around_congr (covers_filter_proper _), around_rawIntervals inDay]
  refine ⟨covers, joinSeam_proper separated.proper,
    joinSeam_within weekMinutes_pos.le within, fun notFull p member => ?_⟩
  rw [← covers]
  have open' : mergeTouching (sortedWeek windows) ≠ [(0, weekMinutes)] := by
    intro full
    apply notFull
    rw [shape, full]
    rfl
  exact joinSeam_end_uncovered weekMinutes_pos separated within open' member

/-! ### The verdict -/

variable {comfort : ℤ → Prop} {c : List (ℤ × ℤ)} {wm : ℤ}

theorem WeekUnion.eq_nil_iff (union : WeekUnion comfort c) : c = [] ↔ ∀ x, ¬ comfort x := by
  constructor
  · rintro rfl x inside
    simpa [Around] using (union.covers x).mpr inside
  · intro never
    cases c with
    | nil => rfl
    | cons p c =>
      have proper := union.proper p (by simp)
      exact absurd ((union.covers p.1).mp (around_of_covers ⟨p, by simp, le_rfl, proper⟩)) (never _)

theorem WeekUnion.eq_full_iff (union : WeekUnion comfort c) :
    c = [(0, weekMinutes)] ↔ ∀ x, comfort x := by
  constructor
  · rintro rfl x
    rw [← union.covers, ← around_emod]
    apply around_of_covers
    simp [Int.emod_nonneg x weekMinutes_pos.ne', Int.emod_lt_of_pos x weekMinutes_pos]
  · intro always
    by_contra notFull
    cases c with
    | nil => exact union.eq_nil_iff.mp rfl 0 (always 0)
    | cons p c => exact union.stops notFull p (by simp) (always _)

/-- A minute inside an interval, at either probe, is a comfort minute, and the
interval's end is the next setback minute. -/
theorem comfortEnd_some (union : WeekUnion comfort c) (notFull : c ≠ [(0, weekMinutes)])
    {n : ℤ} (found : comfortEnd c wm = some n) :
    comfort wm ∧ IsLeast {n : ℤ | 0 ≤ n ∧ ¬ comfort (wm + n)} n := by
  obtain ⟨p, member, probed⟩ := List.exists_of_findSome?_eq_some found
  obtain ⟨probe, listed, hit⟩ := List.exists_of_findSome?_eq_some probed
  have stop := union.stops notFull p member
  simp only [← union.covers] at stop ⊢
  simp only [List.mem_cons, List.not_mem_nil, or_false] at listed
  split at hit
  next inside =>
    obtain rfl := Option.some.inj hit
    obtain ⟨k, rfl⟩ : ∃ k : ℤ, probe = wm + k * weekMinutes := by
      cases listed with
      | inl now => exact ⟨0, by simp [now]⟩
      | inr later => exact ⟨1, by simp [later]⟩
    exact ⟨⟨k, p, member, inside⟩, isLeast_to_end member inside.1 inside.2 stop⟩
  next => simp at hit

theorem comfortEnd_none (union : WeekUnion comfort c) (low : 0 ≤ wm) (high : wm < weekMinutes)
    (missed : comfortEnd c wm = none) : ¬ comfort wm := by
  rw [← union.covers]
  rintro ⟨k, p, member, left, right⟩
  have probes := List.findSome?_eq_none_iff.mp (List.findSome?_eq_none_iff.mp missed p member)
  have box := union.within p member
  simp only [weekMinutes, dayMinutes] at *
  -- an interval reaches at most one week past the end, so only two turns can hit
  have turn : k = 0 ∨ k = 1 := by omega
  cases turn with
  | inl zero =>
    subst zero
    have miss := probes wm (by simp)
    rw [if_pos ⟨by omega, by omega⟩] at miss
    simp at miss
  | inr one =>
    subst one
    have miss := probes (wm + 7 * 1440) (by simp)
    rw [if_pos ⟨by omega, by omega⟩] at miss
    simp at miss

theorem nextStart_isLeast (union : WeekUnion comfort c) (outside : ¬ comfort wm) {n : ℤ}
    (found : (c.map fun p => (p.1 - wm) % weekMinutes).min? = some n) :
    IsLeast {n : ℤ | 0 ≤ n ∧ comfort (wm + n)} n := by
  -- the least distance over all starts is attained by one of them
  rw [List.min?_eq_some_iff] at found
  obtain ⟨attained, least⟩ := found
  simp only [← union.covers] at outside ⊢
  apply isLeast_to_start weekMinutes_pos union.proper outside
  · simpa using attained
  · intro p member
    exact least _ (List.mem_map_of_mem member)

/-- The verdict at minute `wm` of the week is the one the comfort minutes ask for:
the distances are exact, and a transition is absent only when a week with no
configured window, or with one kind of minute only, has none to report. -/
structure Agrees (configured : Prop) (comfort : ℤ → Prop) (wm : ℤ) (state : ScheduleState) :
    Prop where
  unconfigured : ¬ configured →
    state.isComfort = true ∧ state.minutesToComfort = none ∧ state.minutesToSetback = none
  membership : configured → (state.isComfort = true ↔ comfort wm)
  uniform : configured → ((∀ x, comfort x) ∨ ∀ x, ¬ comfort x) →
    state.minutesToComfort = none ∧ state.minutesToSetback = none
  inComfort : configured → comfort wm → (∃ x, ¬ comfort x) →
    state.minutesToComfort = some 0 ∧
      ∃ n, state.minutesToSetback = some n ∧ IsLeast {n : ℤ | 0 ≤ n ∧ ¬ comfort (wm + n)} n
  inSetback : configured → ¬ comfort wm → (∃ x, comfort x) →
    state.minutesToSetback = some 0 ∧
      ∃ n, state.minutesToComfort = some n ∧ IsLeast {n : ℤ | 0 ≤ n ∧ comfort (wm + n)} n

theorem stateAt_of_union {schedule : ComfortSchedule} {minute weekday : ℤ}
    (union : WeekUnion comfort schedule.intervals) (valid : 0 ≤ weekday ∧ weekday ≤ 6) :
    ∃ state, schedule.stateAt minute weekday = .ok state ∧
      Agrees (schedule.windows ≠ []) comfort (weekday * dayMinutes + minute % dayMinutes) state := by
  unfold ComfortSchedule.stateAt
  rw [if_neg (not_not.mpr valid)]
  split
  next empty => exact ⟨_, rfl, by simp [empty], by simp [empty], by simp [empty],
      by simp [empty], by simp [empty]⟩
  next =>
  split
  next none =>
    have never := union.eq_nil_iff.mp none
    exact ⟨_, rfl, by simp_all, by simp [never], by simp, by simp [never], by simp [never]⟩
  next some =>
  split
  next full =>
    have always := union.eq_full_iff.mp full
    exact ⟨_, rfl, by simp_all, by simp [always], by simp, by simp [always], by simp [always]⟩
  next notFull =>
    have mixed : ¬ ((∀ x, comfort x) ∨ ∀ x, ¬ comfort x) := by
      rw [← union.eq_full_iff, ← union.eq_nil_iff]
      tauto
    have low : 0 ≤ minute % dayMinutes := Int.emod_nonneg _ (by decide)
    have high : minute % dayMinutes < dayMinutes := Int.emod_lt_of_pos _ (by decide)
    simp only
    split
    next n found =>
      obtain ⟨inside, least⟩ := comfortEnd_some union notFull found
      refine ⟨_, rfl, by simp_all, by simp [inside], fun _ => (absurd · mixed), ?_, by simp [inside]⟩
      exact fun _ _ _ => ⟨rfl, n, rfl, least⟩
    next missed =>
      have outside := comfortEnd_none union
        (by simp only [dayMinutes] at *; omega)
        (by simp only [weekMinutes, dayMinutes] at *; omega) missed
      refine ⟨_, rfl, by simp_all, by simp [outside], fun _ => (absurd · mixed), by simp [outside], ?_⟩
      intro _ _ _
      cases found : (schedule.intervals.map fun p =>
          (p.1 - (weekday * dayMinutes + minute % dayMinutes)) % weekMinutes).min? with
      | none => exact absurd (by simpa using found) some
      | some n => exact ⟨rfl, n, rfl, nextStart_isLeast union outside found⟩

/-- `state_at` reads the reference week. -/
theorem stateAt_reference (windows : List ComfortWindow) (delta : ℚ) (minute weekday : ℤ)
    (valid : 0 ≤ weekday ∧ weekday ≤ 6) :
    ∃ state, (ComfortSchedule.fromWindows windows delta).stateAt minute weekday = .ok state ∧
      Agrees (Configured windows) (ReferenceComfort windows)
        (weekday * dayMinutes + minute % dayMinutes) state := by
  obtain ⟨inDay, empty, covers⟩ := normalize_spec windows
  have union : WeekUnion (ReferenceComfort windows)
      (ComfortSchedule.fromWindows windows delta).intervals := by
    have expanded := expand_weekUnion inDay
    simp only [covers] at expanded
    exact expanded
  have configured : Configured windows ↔
      (ComfortSchedule.fromWindows windows delta).windows ≠ [] := by
    rw [← not_iff_not, ← empty, not_not]
    rfl
  rw [configured]
  exact stateAt_of_union union valid

theorem stateAt_reference_sunday_night :
    ∃ state, (ComfortSchedule.fromWindows [⟨1320, 360, 0b1100000⟩] 3).stateAt 1380 6 = .ok state ∧
      Agrees (Configured [⟨1320, 360, 0b1100000⟩]) (ReferenceComfort [⟨1320, 360, 0b1100000⟩])
        (6 * dayMinutes + 1380 % dayMinutes) state :=
  stateAt_reference [⟨1320, 360, 0b1100000⟩] 3 1380 6 (by decide)

/-- With no window at all the zone is always in comfort although no window covers
the minute, and in an all-comfort week the time to comfort is absent, not zero. -/
theorem stateAt_departs_from_reference :
    (ComfortSchedule.fromWindows [] 3).stateAt 0 0 = .ok ⟨true, none, 0, none⟩ ∧
      ¬ ReferenceComfort [] 0 ∧
      (ComfortSchedule.fromWindows [⟨0, 1440, allDays⟩] 3).stateAt 0 0 =
        .ok ⟨true, none, 0, none⟩ ∧
      ReferenceComfort [⟨0, 1440, allDays⟩] 0 := by
  refine ⟨by decide +kernel, ?_, by decide +kernel, ?_⟩
  · simp [ReferenceComfort, CoversFrom]
  · refine ⟨0, by decide, 0, ⟨0, 1440, allDays⟩, ?_, ?_⟩
    · simp only [List.map_cons, List.map_nil, List.mem_singleton]
      decide +kernel
    · decide +kernel

end Poise
