import Mathlib.Data.List.DropRight

/-!
# Trimming and cutting

Lists without their blank ends, and lists cut at their first separator.
-/
namespace Text

variable {α : Type*} {blank : α → Bool} {xs ys : List α} {x sep : α}

/-! ### Trimming -/

def trim (blank : α → Bool) (xs : List α) : List α := (xs.dropWhile blank).rdropWhile blank

/-- Neither end is blank. -/
structure Trimmed (blank : α → Bool) (xs : List α) : Prop where
  head : ∀ x ∈ xs.head?, blank x = false
  last : ∀ x ∈ xs.getLast?, blank x = false

theorem trimmed_trim (blank : α → Bool) (xs : List α) : Trimmed blank (trim blank xs) where
  head := by
    intro x first
    -- What is trimmed from the right keeps its head.
    have kept : (xs.dropWhile blank).head? = some x :=
      List.singleton_prefix_iff_head?_eq_some.mp
        ((List.singleton_prefix_iff_head?_eq_some.mpr first).trans (List.rdropWhile_prefix blank _))
    have dropped := List.head?_dropWhile_not blank xs
    rwa [kept] at dropped
  last := by
    intro x final
    have nonempty : trim blank xs ≠ [] := by
      intro empty
      simp [empty] at final
    rw [List.getLast?_eq_some_getLast nonempty] at final
    obtain rfl := Option.some.inj final
    exact Bool.eq_false_iff.mpr (List.rdropWhile_last_not blank _ nonempty)

theorem Trimmed.trim_eq (trimmed : Trimmed blank xs) : trim blank xs = xs := by
  have dropped : xs.dropWhile blank = xs := by
    cases xs with
    | nil => rfl
    | cons x xs => simp [trimmed.head x rfl]
  rw [trim, dropped, List.rdropWhile_eq_self_iff]
  intro nonempty
  simp [trimmed.last _ (List.getLast?_eq_some_getLast nonempty)]

theorem trim_eq_self_iff : trim blank xs = xs ↔ Trimmed blank xs :=
  ⟨fun same => same ▸ trimmed_trim blank xs, Trimmed.trim_eq⟩

@[simp] theorem trim_trim (blank : α → Bool) (xs : List α) :
    trim blank (trim blank xs) = trim blank xs := (trimmed_trim blank xs).trim_eq

theorem trim_subset (blank : α → Bool) (xs : List α) : trim blank xs ⊆ xs :=
  fun _ mem => List.dropWhile_subset _ ((List.rdropWhile_prefix blank _).subset mem)

/-- Only blanks are lost. -/
theorem mem_trim_iff (visible : blank x = false) : x ∈ trim blank xs ↔ x ∈ xs := by
  have kept {ys : List α} : x ∈ ys → x ∈ ys.dropWhile blank := by
    intro mem
    rw [← @List.takeWhile_append_dropWhile _ blank ys, List.mem_append] at mem
    refine mem.resolve_left fun dropped => ?_
    exact absurd (List.mem_takeWhile_imp dropped) (by simp [visible])
  refine ⟨fun mem => trim_subset blank xs mem, fun mem => ?_⟩
  rw [trim, List.rdropWhile, List.mem_reverse]
  exact kept (List.mem_reverse.mpr (kept mem))

theorem Trimmed.append_cons (left : Trimmed blank xs) (visible : blank x = false)
    (right : Trimmed blank ys) : Trimmed blank (xs ++ x :: ys) where
  head := by
    cases xs with
    | nil => simpa using visible
    | cons y xs => exact left.head
  last := by
    cases ys with
    | nil => simpa using visible
    | cons y ys => simpa using right.last

/-! ### Cutting at the first separator -/

variable [DecidableEq α]

def before (sep : α) (xs : List α) : List α := xs.takeWhile fun x => x ≠ sep

def after (sep : α) (xs : List α) : List α := (xs.dropWhile fun x => x ≠ sep).tail

theorem sep_notMem_before (sep : α) (xs : List α) : sep ∉ before sep xs := by
  intro mem
  simpa using List.mem_takeWhile_imp mem

theorem ne_sep_of_fresh (fresh : sep ∉ xs) : ∀ x ∈ xs, decide (x ≠ sep) = true :=
  fun _ mem => decide_eq_true (ne_of_mem_of_not_mem mem fresh)

theorem before_append_cons (fresh : sep ∉ xs) : before sep (xs ++ sep :: ys) = xs := by
  rw [before, List.takeWhile_append_of_pos (ne_sep_of_fresh fresh)]
  simp

theorem after_append_cons (fresh : sep ∉ xs) : after sep (xs ++ sep :: ys) = ys := by
  rw [after, List.dropWhile_append_of_pos (ne_sep_of_fresh fresh)]
  simp

end Text
