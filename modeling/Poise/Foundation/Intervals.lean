import Mathlib.Order.Bounds.Basic
import Mathlib.Data.List.Sort
import Mathlib.Data.Int.ModEq
import Mathlib.Tactic.Linarith
import Mathlib.Tactic.Ring

/-!
# Half-open intervals on a line and on a cycle

A pair `(s, e)` is the interval `[s, e)`. `mergeTouching` joins a list sorted by
its starts into separated intervals. On a cycle of period `N` the same pairs are
arcs; `joinSeam` closes the cut at `0 = N`, after which the end of an arc is
never covered and distances can be read off the arc ends and starts.
-/
namespace Intervals

section Line

variable {α : Type*} [LinearOrder α]

def Covers (l : List (α × α)) (x : α) : Prop := ∃ p ∈ l, p.1 ≤ x ∧ x < p.2

instance (l : List (α × α)) (x : α) : Decidable (Covers l x) :=
  inferInstanceAs (Decidable (∃ p ∈ l, p.1 ≤ x ∧ x < p.2))

@[simp] theorem covers_nil (x : α) : ¬ Covers ([] : List (α × α)) x := by
  simp [Covers]

@[simp] theorem covers_cons (p : α × α) (l : List (α × α)) (x : α) :
    Covers (p :: l) x ↔ (p.1 ≤ x ∧ x < p.2) ∨ Covers l x := by
  simp [Covers]

@[simp] theorem covers_append (l m : List (α × α)) (x : α) :
    Covers (l ++ m) x ↔ Covers l x ∨ Covers m x := by
  simp only [Covers, List.mem_append]
  constructor
  · rintro ⟨p, left | right, inside⟩
    · exact Or.inl ⟨p, left, inside⟩
    · exact Or.inr ⟨p, right, inside⟩
  · rintro (⟨p, left, inside⟩ | ⟨p, right, inside⟩)
    · exact ⟨p, Or.inl left, inside⟩
    · exact ⟨p, Or.inr right, inside⟩

theorem covers_congr {l m : List (α × α)} (same : ∀ p, p ∈ l ↔ p ∈ m) (x : α) :
    Covers l x ↔ Covers m x := by
  simp only [Covers, same]

theorem covers_reverse (l : List (α × α)) (x : α) : Covers l.reverse x ↔ Covers l x :=
  covers_congr (fun _ => List.mem_reverse) x

theorem covers_filter_proper (l : List (α × α)) (x : α) :
    Covers (l.filter fun p => decide (p.1 < p.2)) x ↔ Covers l x := by
  simp only [Covers, List.mem_filter, decide_eq_true_eq]
  constructor
  · rintro ⟨p, ⟨member, _⟩, inside⟩
    exact ⟨p, member, inside⟩
  · rintro ⟨p, member, inside⟩
    exact ⟨p, ⟨member, lt_of_le_of_lt inside.1 inside.2⟩, inside⟩

/-- Proper intervals in order, with a gap after each. -/
structure Separated (l : List (α × α)) : Prop where
  gap : l.Pairwise fun a b => a.2 < b.1
  proper : ∀ p ∈ l, p.1 < p.2

theorem Separated.end_uncovered {l : List (α × α)} (sep : Separated l) {p : α × α} (member : p ∈ l) :
    ¬ Covers l p.2 := by
  rintro ⟨q, hq, low, high⟩
  obtain ⟨front, back, rfl⟩ := List.append_of_mem member
  simp only [List.mem_append, List.mem_cons] at hq
  have order := sep.gap
  rw [List.pairwise_append, List.pairwise_cons] at order
  rcases hq with before | rfl | after
  · have apart := order.2.2 q before p (by simp)
    exact absurd (lt_trans high apart) (not_lt.mpr (sep.proper p member).le)
  · exact lt_irrefl _ high
  · exact absurd (order.2.1.1 q after) (not_lt.mpr low)

def absorb (merged : List (α × α)) (p : α × α) : List (α × α) :=
  -- One iteration of the merge: a touching interval extends the newest one, which heads the
  -- list.
  match merged with
  | [] => [p]
  | last :: rest => if p.1 ≤ last.2 then (last.1, max last.2 p.2) :: rest else p :: last :: rest

/-- Join touching and overlapping intervals of a list sorted by start. -/
def mergeTouching (l : List (α × α)) : List (α × α) := (l.foldl absorb []).reverse

/-- What the merge loop keeps: newest first, gaps between, and no start after `s`. -/
structure Stacked (acc : List (α × α)) (s : α) : Prop where
  gap : acc.Pairwise fun a b => b.2 < a.1
  proper : ∀ p ∈ acc, p.1 < p.2
  starts : ∀ p ∈ acc, p.1 ≤ s

theorem absorb_stacked {acc : List (α × α)} {p : α × α} (inv : Stacked acc p.1)
    (proper : p.1 < p.2) : Stacked (absorb acc p) p.1 := by
  cases acc with
  | nil => exact ⟨by simp [absorb], by simpa [absorb] using proper, by simp [absorb]⟩
  | cons last rest =>
    have tail := List.pairwise_cons.mp inv.gap
    have lastProper := inv.proper last (by simp)
    simp only [absorb]
    split
    next touching =>
      refine ⟨List.pairwise_cons.mpr ⟨tail.1, tail.2⟩, ?_, ?_⟩
      · intro q member
        rcases List.mem_cons.mp member with rfl | old
        · exact lt_of_lt_of_le lastProper (le_max_left _ _)
        · exact inv.proper q (List.mem_cons_of_mem _ old)
      · intro q member
        rcases List.mem_cons.mp member with rfl | old
        · exact inv.starts last (by simp)
        · exact inv.starts q (List.mem_cons_of_mem _ old)
    next apart =>
      have after : last.2 < p.1 := not_le.mp apart
      refine ⟨List.pairwise_cons.mpr ⟨?_, inv.gap⟩, ?_, ?_⟩
      · intro q member
        rcases List.mem_cons.mp member with rfl | old
        · exact after
        · exact lt_trans (tail.1 q old) (lt_trans lastProper after)
      · intro q member
        rcases List.mem_cons.mp member with rfl | old
        · exact proper
        · exact inv.proper q old
      · intro q member
        rcases List.mem_cons.mp member with rfl | old
        · exact le_rfl
        · exact inv.starts q old

theorem absorb_covers {acc : List (α × α)} {p : α × α} (inv : Stacked acc p.1) (x : α) :
    Covers (absorb acc p) x ↔ Covers acc x ∨ (p.1 ≤ x ∧ x < p.2) := by
  cases acc with
  | nil => simp [absorb]
  | cons last rest =>
    have older := inv.starts last (by simp)
    simp only [absorb]
    split
    next touching =>
      simp only [covers_cons, lt_max_iff]
      constructor
      · rintro (⟨low, high | high⟩ | rest)
        · exact Or.inl (Or.inl ⟨low, high⟩)
        · by_cases inLast : x < last.2
          · exact Or.inl (Or.inl ⟨low, inLast⟩)
          · exact Or.inr ⟨le_trans touching (not_lt.mp inLast), high⟩
        · exact Or.inl (Or.inr rest)
      · rintro ((⟨low, high⟩ | rest) | ⟨low, high⟩)
        · exact Or.inl ⟨low, Or.inl high⟩
        · exact Or.inr rest
        · exact Or.inl ⟨le_trans older low, Or.inr high⟩
    next => simp only [covers_cons]; tauto

theorem foldl_absorb {l acc : List (α × α)} (sorted : l.Pairwise fun a b => a.1 ≤ b.1)
    (proper : ∀ p ∈ l, p.1 < p.2) (gap : acc.Pairwise fun a b => b.2 < a.1)
    (accProper : ∀ p ∈ acc, p.1 < p.2) (before : ∀ p ∈ l, ∀ q ∈ acc, q.1 ≤ p.1) :
    (l.foldl absorb acc).Pairwise (fun a b => b.2 < a.1) ∧
      (∀ p ∈ l.foldl absorb acc, p.1 < p.2) ∧
      ∀ x, Covers (l.foldl absorb acc) x ↔ Covers acc x ∨ Covers l x := by
  induction l generalizing acc with
  | nil => exact ⟨gap, accProper, by simp⟩
  | cons p l ih =>
    have order := List.pairwise_cons.mp sorted
    have inv : Stacked acc p.1 := ⟨gap, accProper, before p (by simp)⟩
    have next := absorb_stacked inv (proper p (by simp))
    obtain ⟨gap', proper', covers'⟩ := ih order.2
      (fun q member => proper q (List.mem_cons_of_mem _ member)) next.gap next.proper
      (fun q member r inAcc => le_trans (next.starts r inAcc) (order.1 q member))
    refine ⟨gap', proper', fun x => ?_⟩
    rw [List.foldl_cons, covers' x, absorb_covers inv, covers_cons, or_assoc]

variable {l : List (α × α)}

theorem mergeTouching_separated (sorted : l.Pairwise fun a b => a.1 ≤ b.1)
    (proper : ∀ p ∈ l, p.1 < p.2) : Separated (mergeTouching l) := by
  obtain ⟨gap, allProper, _⟩ := foldl_absorb sorted proper List.Pairwise.nil (by simp) (by simp)
  refine ⟨?_, fun p member => allProper p (List.mem_reverse.mp member)⟩
  rw [mergeTouching, List.pairwise_reverse]
  exact gap

theorem mergeTouching_covers (sorted : l.Pairwise fun a b => a.1 ≤ b.1)
    (proper : ∀ p ∈ l, p.1 < p.2) (x : α) : Covers (mergeTouching l) x ↔ Covers l x := by
  obtain ⟨_, _, covers⟩ := foldl_absorb sorted proper List.Pairwise.nil (by simp) (by simp)
  rw [mergeTouching, covers_reverse, covers x]
  simp

theorem mergeTouching_within {low high : α} (within : ∀ p ∈ l, low ≤ p.1 ∧ p.2 ≤ high) :
    ∀ p ∈ mergeTouching l, low ≤ p.1 ∧ p.2 ≤ high := by
  suffices kept : ∀ acc : List (α × α), (∀ p ∈ acc, low ≤ p.1 ∧ p.2 ≤ high) →
      ∀ p ∈ l.foldl absorb acc, low ≤ p.1 ∧ p.2 ≤ high by
    intro p member
    exact kept [] (by simp) p (List.mem_reverse.mp member)
  induction l with
  | nil => exact fun acc inside => inside
  | cons q l ih =>
    intro acc inside
    have new := within q (by simp)
    apply ih (fun p member => within p (List.mem_cons_of_mem _ member))
    cases acc with
    | nil => simpa [absorb] using new
    | cons last rest =>
      have old := inside last (by simp)
      simp only [absorb]
      split
      next => simpa [old, new] using fun a b member => inside (a, b) (by simp [member])
      next => simpa [old, new] using fun a b member => inside (a, b) (by simp [member])

end Line

section Cycle

variable {N : ℤ} {c d l : List (ℤ × ℤ)} {w : ℤ}

/-- `w` lies on an arc of `c` modulo the period. -/
def Around (N : ℤ) (c : List (ℤ × ℤ)) (w : ℤ) : Prop := ∃ k : ℤ, Covers c (w + k * N)

theorem around_add_period (j : ℤ) : Around N c (w + j * N) ↔ Around N c w := by
  constructor
  · rintro ⟨k, covered⟩
    exact ⟨j + k, by rwa [add_mul, ← add_assoc]⟩
  · rintro ⟨k, covered⟩
    exact ⟨k - j, by rwa [sub_mul, add_assoc, add_sub_cancel]⟩

theorem around_of_covers (covered : Covers c w) : Around N c w := ⟨0, by simpa using covered⟩

theorem around_congr (same : ∀ x, Covers c x ↔ Covers d x) : Around N c w ↔ Around N d w := by
  simp only [Around, same]

theorem around_flatMap {β : Type*} (l : List β) (f : β → List (ℤ × ℤ)) :
    Around N (l.flatMap f) w ↔ ∃ b ∈ l, Around N (f b) w := by
  simp only [Around, Covers, List.mem_flatMap]
  constructor
  · rintro ⟨k, p, ⟨b, member, inside⟩, covers⟩
    exact ⟨b, member, k, p, inside, covers⟩
  · rintro ⟨b, member, k, p, inside, covers⟩
    exact ⟨k, p, ⟨b, member, inside⟩, covers⟩

theorem around_emod : Around N c (w % N) ↔ Around N c w := by
  have shift : w % N = w + -(w / N) * N := by rw [Int.emod_def]; ring
  rw [shift, around_add_period]

theorem around_iff_covers (within : ∀ p ∈ l, 0 ≤ p.1 ∧ p.2 ≤ N) (low : 0 ≤ w) (high : w < N) :
    Around N l w ↔ Covers l w := by
  refine ⟨?_, around_of_covers⟩
  rintro ⟨k, p, member, left, right⟩
  obtain ⟨start, stop⟩ := within p member
  have above : -1 < k := by by_contra below; nlinarith
  have below : k < 1 := by by_contra above'; nlinarith
  have zero : k = 0 := by omega
  subst zero
  exact ⟨p, member, by simpa using left, by simpa using right⟩

theorem around_split {start stop : ℤ} (before : start ≤ N) (after : N ≤ stop) :
    Around N [(start, N), (0, stop - N)] w ↔ Around N [(start, stop)] w := by
  -- the piece behind the cut is met one turn later
  simp only [Around, covers_cons, covers_nil, or_false]
  constructor
  · rintro ⟨k, ⟨low, high⟩ | ⟨low, high⟩⟩
    · exact ⟨k, low, by omega⟩
    · have shift : w + (k + 1) * N = w + k * N + N := by ring
      exact ⟨k + 1, by omega, by omega⟩
  · rintro ⟨k, low, high⟩
    by_cases early : w + k * N < N
    · exact ⟨k, Or.inl ⟨low, early⟩⟩
    · have shift : w + (k - 1) * N = w + k * N - N := by ring
      exact ⟨k - 1, Or.inr ⟨by omega, by omega⟩⟩

/-- From a point on an arc, the arc end is the next uncovered point. -/
theorem isLeast_to_end {p : ℤ × ℤ} (member : p ∈ c) {k : ℤ} (low : p.1 ≤ w + k * N)
    (high : w + k * N < p.2) (stop : ¬ Around N c p.2) :
    IsLeast {n : ℤ | 0 ≤ n ∧ ¬ Around N c (w + n)} (p.2 - (w + k * N)) := by
  refine ⟨⟨by omega, ?_⟩, ?_⟩
  · have back : w + (p.2 - (w + k * N)) = p.2 + -k * N := by ring
    rwa [back, around_add_period]
  · rintro n ⟨nonneg, uncovered⟩
    by_contra early
    refine uncovered ⟨k, p, member, ?_, ?_⟩ <;> linarith

/-- From an uncovered point, the nearest arc start ahead is the next covered point. -/
theorem isLeast_to_start (period : 0 < N) (proper : ∀ p ∈ c, p.1 < p.2)
    (outside : ¬ Around N c w) {n : ℤ} (attained : ∃ p ∈ c, (p.1 - w) % N = n)
    (least : ∀ p ∈ c, n ≤ (p.1 - w) % N) :
    IsLeast {m : ℤ | 0 ≤ m ∧ Around N c (w + m)} n := by
  constructor
  · obtain ⟨p, member, rfl⟩ := attained
    refine ⟨Int.emod_nonneg _ period.ne', (p.1 - w) / N, p, member, ?_, ?_⟩ <;>
      have parts := Int.emod_add_mul_ediv (p.1 - w) N <;>
      have bounds := proper p member <;> linarith
  · rintro m ⟨nonneg, k, p, member, low, high⟩
    by_contra early
    have bound := least p member
    have small := Int.emod_lt_of_pos (p.1 - w) period
    have parts := Int.emod_add_mul_ediv (p.1 - w) N
    set q := (p.1 - w) / N
    -- the arc that covers `w + m` started before a later copy of `w`
    have turn : q < k := by by_contra before; nlinarith
    have reach : N * (q + 1) ≤ N * k := by
      exact mul_le_mul_of_nonneg_left (by omega) period.le
    refine outside ⟨q + 1, p, member, ?_, ?_⟩ <;> linarith

/-- Join the arc that ends at the cut with the arc that starts there. -/
def joinSeam (N : ℤ) (merged : List (ℤ × ℤ)) : List (ℤ × ℤ) :=
  match merged.head?, merged.getLast? with
  | some first, some last =>
    if 2 ≤ merged.length ∧ first.1 = 0 ∧ last.2 = N then
      merged.tail.dropLast ++ [(last.1, N + first.2)]
    else merged
  | _, _ => merged

theorem joinSeam_cases (N : ℤ) (l : List (ℤ × ℤ)) :
    (∃ first mid last, l = first :: (mid ++ [last]) ∧ first.1 = 0 ∧ last.2 = N ∧
      joinSeam N l = mid ++ [(last.1, N + first.2)]) ∨
    (joinSeam N l = l ∧ ∀ first mid last, l = first :: (mid ++ [last]) →
      ¬ (first.1 = 0 ∧ last.2 = N)) := by
  cases l with
  | nil => exact Or.inr ⟨rfl, by simp⟩
  | cons first tail =>
    rcases List.eq_nil_or_concat' tail with rfl | ⟨mid, last, rfl⟩
    · exact Or.inr ⟨by simp [joinSeam], by simp⟩
    · have open' : joinSeam N (first :: (mid ++ [last])) =
          if first.1 = 0 ∧ last.2 = N then mid ++ [(last.1, N + first.2)]
          else first :: (mid ++ [last]) := by
        simp [joinSeam, List.getLast?_cons]
      by_cases seam : first.1 = 0 ∧ last.2 = N
      · exact Or.inl ⟨first, mid, last, rfl, seam.1, seam.2, by rw [open', if_pos seam]⟩
      · refine Or.inr ⟨by rw [open', if_neg seam], ?_⟩
        intro first' mid' last' equal
        simp only [List.cons.injEq] at equal
        obtain ⟨rfl, equal⟩ := equal
        obtain ⟨_, same⟩ := List.append_inj' equal rfl
        cases same
        exact seam

theorem around_joinSeam (N : ℤ) (l : List (ℤ × ℤ)) (proper : ∀ p ∈ l, p.1 < p.2) :
    Around N (joinSeam N l) w ↔ Around N l w := by
  rcases joinSeam_cases N l with ⟨first, mid, last, rfl, start, stop, joined⟩ | ⟨kept, _⟩
  · rw [joined]
    have firstProper := proper first (by simp)
    have lastProper := proper last (by simp)
    constructor
    · rintro ⟨k, covered⟩
      simp only [covers_append, covers_cons, covers_nil, or_false] at covered
      rcases covered with inMid | ⟨low, high⟩
      · exact ⟨k, by simp [inMid]⟩
      -- the joined arc runs over the cut: behind it the first arc covers, one turn back
      · by_cases beforeCut : w + k * N < N
        · exact ⟨k, by simp [stop, low, beforeCut]⟩
        · refine ⟨k - 1, ?_⟩
          have shift : w + (k - 1) * N = w + k * N - N := by ring
          rw [shift]
          exact ⟨first, by simp, by omega, by omega⟩
    · rintro ⟨k, covered⟩
      simp only [covers_append, covers_cons, covers_nil, or_false] at covered
      rcases covered with ⟨low, high⟩ | inMid | ⟨low, high⟩
      · refine ⟨k + 1, ?_⟩
        have shift : w + (k + 1) * N = w + k * N + N := by ring
        rw [shift]
        exact ⟨(last.1, N + first.2), by simp, by simp only; omega, by simp only; omega⟩
      · exact ⟨k, by simp [inMid]⟩
      · refine ⟨k, ?_⟩
        exact ⟨(last.1, N + first.2), by simp, low, by simp only; omega⟩
  · rw [kept]

theorem joinSeam_proper (proper : ∀ p ∈ l, p.1 < p.2) : ∀ p ∈ joinSeam N l, p.1 < p.2 := by
  rcases joinSeam_cases N l with ⟨first, mid, last, rfl, start, stop, joined⟩ | ⟨kept, _⟩
  · rw [joined]
    intro p member
    have firstProper := proper first (by simp)
    have lastProper := proper last (by simp)
    rcases List.mem_append.mp member with inMid | isWrap
    · exact proper p (by simp [inMid])
    · rw [List.mem_singleton.mp isWrap]
      simp only
      omega
  · rwa [kept]

theorem joinSeam_within (period : 0 ≤ N) (within : ∀ p ∈ l, 0 ≤ p.1 ∧ p.2 ≤ N) :
    ∀ p ∈ joinSeam N l, 0 ≤ p.1 ∧ p.2 ≤ N + N := by
  intro p member
  rcases joinSeam_cases N l with ⟨first, mid, last, rfl, start, stop, joined⟩ | ⟨kept, _⟩
  · rw [joined] at member
    cases List.mem_append.mp member with
    | inl inMid =>
      have bounds := within p (by simp [inMid])
      omega
    | inr isWrap =>
      rw [List.mem_singleton.mp isWrap]
      have firstBounds := within first (by simp)
      have lastBounds := within last (by simp)
      simp only
      omega
  · rw [kept] at member
    have bounds := within p member
    omega

/-- Away from the all-covering list, no arc end is on the cycle once the seam is closed. -/
theorem joinSeam_end_uncovered (period : 0 < N) (sep : Separated l)
    (within : ∀ p ∈ l, 0 ≤ p.1 ∧ p.2 ≤ N) (notFull : l ≠ [(0, N)]) {p : ℤ × ℤ}
    (member : p ∈ joinSeam N l) : ¬ Around N (joinSeam N l) p.2 := by
  rw [around_joinSeam N l sep.proper]
  have inner : ∀ q ∈ l, q.2 < N → ¬ Around N l q.2 := by
    intro q hq before
    rw [around_iff_covers within (by have := within q hq; have := sep.proper q hq; omega) before]
    exact sep.end_uncovered hq
  rcases joinSeam_cases N l with ⟨first, mid, last, rfl, start, stop, joined⟩ | ⟨kept, unjoined⟩
  · rw [joined] at member
    have order := sep.gap
    rw [List.pairwise_cons, List.pairwise_append] at order
    have lastWithin := within last (by simp)
    have lastProper := sep.proper last (by simp)
    rcases List.mem_append.mp member with inMid | isWrap
    · have apart := order.2.2.2 p inMid last (by simp)
      exact inner p (by simp [inMid]) (by omega)
    · rw [List.mem_singleton.mp isWrap]
      have apart := order.1 last (by simp)
      have shift : N + first.2 = first.2 + 1 * N := by ring
      simp only
      rw [shift, around_add_period]
      exact inner first (by simp) (by omega)
  · rw [kept] at member
    rcases lt_or_eq_of_le (within p member).2 with before | atCut
    · exact inner p member before
    · -- the arc reaches the cut, so nothing may start there
      have shift : p.2 = 0 + 1 * N := by omega
      rw [shift, around_add_period, around_iff_covers within le_rfl period]
      rintro ⟨q, hq, low, high⟩
      have zero : q.1 = 0 := by have := within q hq; omega
      obtain ⟨front, back, rfl⟩ := List.append_of_mem hq
      have order := sep.gap
      rw [List.pairwise_append, List.pairwise_cons] at order
      cases front with
      | cons f front =>
        have apart := order.2.2 f (by simp) q (by simp)
        have fProper := sep.proper f (by simp)
        have fWithin := within f (by simp)
        omega
      | nil =>
        rcases List.eq_nil_or_concat' back with rfl | ⟨mid, last, rfl⟩
        · have same : p = q := by simpa using member
          subst same
          exact notFull (by simp [Prod.ext_iff, zero, atCut])
        · refine unjoined q mid last (by simp) ⟨zero, ?_⟩
          have lastWithin := within last (by simp)
          have lastProper := sep.proper last (by simp)
          simp only [List.nil_append, List.mem_cons, List.mem_append, List.not_mem_nil,
            or_false] at member
          rcases member with rfl | inMid | rfl
          · have apart := order.2.1.1 last (by simp)
            omega
          · have chain := order.2.1.2
            rw [List.pairwise_append] at chain
            have apart := chain.2.2 p inMid last (by simp)
            omega
          · exact atCut

end Cycle

end Intervals
