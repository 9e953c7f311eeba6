import Mathlib.Algebra.BigOperators.Group.List.Basic
import Mathlib.Algebra.Order.Group.Defs
import Mathlib.Data.List.Sort
import Mathlib.Tactic.Abel

/-!
# Greedy choice from a ranking

A stable ranking by a key, and the shortest prefix whose weights cover a need.
-/
namespace Greedy

/-! ### Ranking -/

section Ranking

variable {α κ : Type*} [LinearOrder κ] {key : α → κ} {xs order : List α}

/-- A stable ranking: ties keep the order of the input. -/
structure Ranked (key : α → κ) (xs order : List α) : Prop where
  perm : order.Perm xs
  ascending : order.Pairwise fun a b => key a ≤ key b
  ties : ∀ k, order.filter (fun a => key a = k) = xs.filter fun a => key a = k

def rank (key : α → κ) (xs : List α) : List α := xs.insertionSort fun a b => key a ≤ key b

theorem rank_ties (key : α → κ) (xs : List α) (k : κ) :
    (rank key xs).filter (fun a => key a = k) = xs.filter fun a => key a = k := by
  have equal : (xs.filter fun a => key a = k).Pairwise fun a b => key a ≤ key b := by
    refine List.pairwise_of_forall_mem_list fun a mem b mem' => ?_
    simp only [List.mem_filter, decide_eq_true_eq] at mem mem'
    exact (mem.2.trans mem'.2.symm).le
  -- The tied ones survive the sort as a sublist, and there are as many of them.
  have kept := (List.sublist_insertionSort equal List.filter_sublist).filter fun a => key a = k
  simp only [List.filter_filter, Bool.and_self] at kept
  have many := ((List.perm_insertionSort (fun a b => key a ≤ key b) xs).filter
    fun a => key a = k).length_eq
  exact (kept.eq_of_length many.symm).symm

theorem ranked_rank (key : α → κ) (xs : List α) : Ranked key xs (rank key xs) where
  perm := List.perm_insertionSort _ xs
  ascending := List.pairwise_insertionSort _ xs
  ties := rank_ties key xs

theorem mem_rank {x : α} : x ∈ rank key xs ↔ x ∈ xs := (ranked_rank key xs).perm.mem_iff

/-- A key that tells the elements apart ranks every order of them alike. -/
theorem rank_perm {ys : List α} (distinct : ∀ a ∈ xs, ∀ b ∈ xs, key a = key b → a = b)
    (perm : xs.Perm ys) : rank key xs = rank key ys := by
  have left := ranked_rank key xs
  have right := ranked_rank key ys
  refine List.Perm.eq_of_pairwise ?_ left.ascending right.ascending
    (left.perm.trans (perm.trans right.perm.symm))
  intro a b inLeft inRight below above
  exact distinct a (left.perm.mem_iff.mp inLeft) b
    (perm.mem_iff.mpr (right.perm.mem_iff.mp inRight)) (le_antisymm below above)

/-- `x` is acceptable and no acceptable element ranks before it. -/
structure Best (key : α → κ) (p : α → Bool) (xs : List α) (x : α) : Prop where
  member : x ∈ xs
  accepted : p x = true
  least : ∀ y ∈ xs, p y = true → key x ≤ key y

/-- The first acceptable element of the ranking is the best one. -/
theorem best_of_find {p : α → Bool} {x : α} (found : (rank key xs).find? p = some x) :
    Best key p xs x := by
  obtain ⟨accepted, front, back, split, refused⟩ := List.find?_eq_some_iff_append.mp found
  have member : x ∈ rank key xs := by
    rw [split]
    simp
  refine ⟨mem_rank.mp member, accepted, ?_⟩
  intro y inside acceptable
  have ranked := (ranked_rank key xs).ascending
  rw [split, List.pairwise_append, List.pairwise_cons] at ranked
  have inside : y ∈ rank key xs := mem_rank.mpr inside
  rw [split] at inside
  rcases List.mem_append.mp inside with early | later
  · have no := refused y early
    rw [acceptable] at no
    exact absurd no nofun
  · rcases List.mem_cons.mp later with rfl | behind
    · exact le_refl _
    · exact ranked.2.1.1 y behind

end Ranking

/-! ### Covering -/

section Covering

variable {α K : Type*} [AddCommGroup K] [LinearOrder K]
variable {weight : α → K} {need : K} {x : α} {xs : List α} {n m : ℕ}

def total (weight : α → K) (xs : List α) : K := (xs.map weight).sum

/-- The first `n` are the shortest prefix that covers the need, or all. -/
structure Covers (weight : α → K) (need : K) (xs : List α) (n : ℕ) : Prop where
  within : n ≤ xs.length
  short : ∀ k < n, total weight (xs.take k) < need
  covered : need ≤ total weight (xs.take n) ∨ n = xs.length

theorem Covers.none (met : need ≤ 0) : Covers weight need xs 0 where
  within := Nat.zero_le _
  short := fun _ early => absurd early (Nat.not_lt_zero _)
  covered := Or.inl met

theorem covers_nil : Covers weight need [] 0 where
  within := le_rfl
  short := fun _ early => absurd early (Nat.not_lt_zero _)
  covered := Or.inr rfl

/-- An open need takes the next one and its weight off the need. -/
theorem Covers.cons [IsOrderedAddMonoid K] (unmet : 0 < need)
    (covers : Covers weight (need - weight x) xs n) :
    Covers weight need (x :: xs) (n + 1) where
  within := Nat.succ_le_succ covers.within
  short := by
    intro k early
    cases k with
    | zero => exact unmet
    | succ k =>
      have rest := covers.short k (Nat.lt_of_succ_lt_succ early)
      simpa [total, lt_sub_iff_add_lt'] using rest
  covered := by
    rcases covers.covered with covered | all
    · left
      rw [sub_le_iff_le_add'] at covered
      simpa [total] using covered
    · exact Or.inr (congrArg (· + 1) all)

theorem Covers.le (left : Covers weight need xs n) (right : Covers weight need xs m) : n ≤ m := by
  by_contra early
  rw [not_le] at early
  rcases right.covered with covered | all
  · exact absurd covered (left.short m early).not_ge
  · exact absurd left.within (all ▸ early).not_ge

/-- One prefix only. -/
theorem Covers.unique (left : Covers weight need xs n) (right : Covers weight need xs m) :
    n = m :=
  le_antisymm (left.le right) (right.le left)

end Covering

end Greedy
