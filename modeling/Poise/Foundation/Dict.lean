import Mathlib.Data.List.Basic

/-!
# Insertion-ordered dictionaries

A dictionary as the list of its entries. Setting a key that is there keeps its place.
-/
namespace Dict

variable {κ ν : Type*} [DecidableEq κ]

def set (key : κ) (value : ν) : List (κ × ν) → List (κ × ν)
  | [] => [(key, value)]
  | entry :: rest =>
    if entry.1 = key then (key, value) :: rest else entry :: set key value rest

def update (dict entries : List (κ × ν)) : List (κ × ν) :=
  entries.foldl (fun dict entry => set entry.1 entry.2 dict) dict

def pop (key : κ) (dict : List (κ × ν)) : List (κ × ν) := dict.filter fun entry => entry.1 ≠ key

/-- What the last entry for a key says. -/
def lastValue (key : κ) : List (κ × ν) → Option ν
  | [] => none
  | entry :: rest => (lastValue key rest).or (if entry.1 = key then some entry.2 else none)

/-- No key twice. -/
def Keyed (dict : List (κ × ν)) : Prop := (dict.map Prod.fst).Nodup

variable {key k : κ} {value : ν} {dict entries : List (κ × ν)}

@[simp] theorem update_nil (dict : List (κ × ν)) : update dict [] = dict := rfl

@[simp] theorem update_cons (dict : List (κ × ν)) (entry : κ × ν) (entries : List (κ × ν)) :
    update dict (entry :: entries) = update (set entry.1 entry.2 dict) entries := rfl

/-! ### Keys -/

theorem mem_keys_set :
    k ∈ (set key value dict).map Prod.fst ↔ k = key ∨ k ∈ dict.map Prod.fst := by
  induction dict with
  | nil => simp [set]
  | cons entry rest ih =>
    rw [set]
    split
    next same => simp [same]
    next other => simp only [List.map_cons, List.mem_cons, ih, or_left_comm]

theorem Keyed.set (keyed : Keyed dict) : Keyed (set key value dict) := by
  induction dict with
  | nil => simp [Keyed, Dict.set]
  | cons entry rest ih =>
    obtain ⟨fresh, keyedRest⟩ := List.nodup_cons.mp keyed
    rw [Dict.set]
    split
    next same => exact List.nodup_cons.mpr ⟨same ▸ fresh, keyedRest⟩
    next other =>
      refine List.nodup_cons.mpr ⟨?_, ih keyedRest⟩
      rw [mem_keys_set]
      exact not_or.mpr ⟨other, fresh⟩

theorem Keyed.update (keyed : Keyed dict) : Keyed (update dict entries) := by
  induction entries generalizing dict with
  | nil => exact keyed
  | cons entry entries ih => exact ih keyed.set

/-! ### What an update leaves -/

theorem set_of_fresh (fresh : key ∉ dict.map Prod.fst) :
    set key value dict = dict ++ [(key, value)] := by
  induction dict with
  | nil => rfl
  | cons entry rest ih =>
    simp only [List.map_cons, List.mem_cons, not_or] at fresh
    rw [set, if_neg (Ne.symm fresh.1), ih fresh.2, List.cons_append]

/-- New keys come behind, in their order. -/
theorem update_of_keyed (keyed : Keyed (dict ++ entries)) :
    update dict entries = dict ++ entries := by
  induction entries generalizing dict with
  | nil => simp
  | cons entry entries ih =>
    have fresh : entry.1 ∉ dict.map Prod.fst := by
      rw [Keyed, List.map_append, List.nodup_append] at keyed
      intro mem
      exact keyed.2.2 _ mem _ (List.mem_map_of_mem List.mem_cons_self) rfl
    rw [update_cons, set_of_fresh fresh, ih (by simpa using keyed)]
    simp

/-- The first entry takes the last value for its key, and the others pass it by. -/
theorem update_head (rest : List (κ × ν)) :
    update ((key, value) :: rest) entries =
      (key, (lastValue key entries).getD value) :: update rest (pop key entries) := by
  induction entries generalizing value rest with
  | nil => rfl
  | cons entry entries ih =>
    by_cases same : entry.1 = key
    · have popped : pop key (entry :: entries) = pop key entries := by simp [pop, same]
      have replaced : set entry.1 entry.2 ((key, value) :: rest) = (key, entry.2) :: rest := by
        simp [set, same]
      rw [update_cons, replaced, ih, popped, lastValue, if_pos same]
      cases lastValue key entries <;> rfl
    · have popped : pop key (entry :: entries) = entry :: pop key entries := by simp [pop, same]
      have passed : set entry.1 entry.2 ((key, value) :: rest) =
          (key, value) :: set entry.1 entry.2 rest := by
        simp [set, Ne.symm same]
      rw [update_cons, passed, ih, popped, lastValue, if_neg same, Option.or_none, update_cons]

theorem pop_of_fresh (fresh : key ∉ dict.map Prod.fst) : pop key dict = dict := by
  rw [pop, List.filter_eq_self]
  intro entry mem
  exact decide_eq_true fun same => fresh (same ▸ List.mem_map_of_mem mem)

/-! ### What is at a key -/

theorem lookup_cons_if (entry : κ × ν) (dict : List (κ × ν)) :
    (entry :: dict).lookup k = if k = entry.1 then some entry.2 else dict.lookup k := by
  rw [List.lookup_cons, beq_eq_decide]
  by_cases here : k = entry.1 <;> simp [here]

theorem lookup_set :
    (set key value dict).lookup k = if k = key then some value else dict.lookup k := by
  induction dict with
  | nil => simp [set, lookup_cons_if]
  | cons entry rest ih =>
    rw [set, lookup_cons_if entry]
    split
    next same =>
      rw [lookup_cons_if, same]
      by_cases here : k = key <;> simp only [here, if_true, if_false]
    next other =>
      rw [lookup_cons_if, ih]
      by_cases here : k = entry.1
      · simp only [here, if_true, if_neg other]
      · simp only [here, if_false]

theorem lookup_of_fresh (fresh : key ∉ dict.map Prod.fst) : dict.lookup key = none := by
  rw [List.lookup_eq_none_iff]
  intro entry mem
  have apart : key ≠ entry.1 := fun same => fresh (List.mem_map.mpr ⟨entry, mem, same.symm⟩)
  exact bne_iff_ne.mpr apart

theorem lookup_update (keyed : Keyed entries) :
    (update dict entries).lookup k = (entries.lookup k).or (dict.lookup k) := by
  induction entries generalizing dict with
  | nil => rfl
  | cons entry entries ih =>
    obtain ⟨fresh, tail⟩ := List.nodup_cons.mp keyed
    rw [update_cons, ih tail, lookup_set, lookup_cons_if]
    by_cases here : k = entry.1
    · rw [if_pos here, if_pos here, here, lookup_of_fresh fresh]
      rfl
    · rw [if_neg here, if_neg here]

theorem lookup_filter (keep : κ → Bool) :
    (dict.filter fun entry => keep entry.1).lookup k = if keep k then dict.lookup k else none := by
  induction dict with
  | nil => simp
  | cons entry rest ih =>
    cases kept : keep entry.1 with
    | false =>
      rw [List.filter_cons_of_neg (by simp [kept]), ih, lookup_cons_if]
      by_cases here : k = entry.1
      · simp [here, kept]
      · rw [if_neg here]
    | true =>
      rw [List.filter_cons_of_pos (by simp [kept]), lookup_cons_if, lookup_cons_if, ih]
      by_cases here : k = entry.1
      · simp [here, kept]
      · rw [if_neg here, if_neg here]

theorem set_of_lookup (found : dict.lookup key = some value) : set key value dict = dict := by
  induction dict with
  | nil => cases found
  | cons entry rest ih =>
    rw [lookup_cons_if] at found
    rw [set]
    by_cases here : key = entry.1
    · rw [if_pos here] at found
      rw [if_pos here.symm, here, ← Option.some.inj found]
    · rw [if_neg here] at found
      rw [if_neg (Ne.symm here), ih found]

end Dict
