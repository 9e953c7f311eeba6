import Poise.Foundation.Dict

/-!
# Mappings

A dictionary that holds each key once, and what its operations leave at a key. A merge of two
mappings that share no key is undone by restricting it to the keys of each.
-/

@[ext] structure Mapping (κ ν : Type*) where
  entries : List (κ × ν)
  keyed : Dict.Keyed entries

namespace Mapping

variable {κ ν : Type*}

instance : Membership κ (Mapping κ ν) := ⟨fun m key => key ∈ m.entries.map Prod.fst⟩

theorem mem_def {m : Mapping κ ν} {key : κ} : key ∈ m ↔ key ∈ m.entries.map Prod.fst := Iff.rfl

def restrict (keep : κ → Bool) (m : Mapping κ ν) : Mapping κ ν where
  entries := m.entries.filter fun entry => keep entry.1
  keyed := m.keyed.sublist (List.filter_sublist.map _)

theorem restrict_entries (keep : κ → Bool) (m : Mapping κ ν) :
    (m.restrict keep).entries = m.entries.filter fun entry => keep entry.1 := rfl

theorem filter_entries_of_all {m : Mapping κ ν} {keep : κ → Bool} (within : ∀ k ∈ m, keep k) :
    (m.entries.filter fun entry => keep entry.1) = m.entries :=
  List.filter_eq_self.mpr fun _ inside => within _ (List.mem_map_of_mem inside)

theorem filter_entries_of_none {m : Mapping κ ν} {keep : κ → Bool}
    (outside : ∀ k ∈ m, ¬ keep k) : (m.entries.filter fun entry => keep entry.1) = [] :=
  List.filter_eq_nil_iff.mpr fun _ inside => outside _ (List.mem_map_of_mem inside)

variable [DecidableEq κ]

def get (m : Mapping κ ν) (key : κ) : Option ν := m.entries.lookup key

def set (m : Mapping κ ν) (key : κ) (value : ν) : Mapping κ ν where
  entries := Dict.set key value m.entries
  keyed := m.keyed.set

/-- The second mapping over the first. -/
def merge (m n : Mapping κ ν) : Mapping κ ν where
  entries := Dict.update m.entries n.entries
  keyed := m.keyed.update

/-- Take the values of `source` for those of the keys that it has. -/
def overwrite (keys : List κ) (source m : Mapping κ ν) : Mapping κ ν :=
  keys.foldl (fun m key => (source.get key).elim m (m.set key)) m

/-- Apply `f` to the values of those of the keys that are there. -/
def adjust (keys : List κ) (f : ν → ν) (m : Mapping κ ν) : Mapping κ ν :=
  keys.foldl (fun m key => (m.get key).elim m fun value => m.set key (f value)) m

variable {m n source : Mapping κ ν} {key k : κ} {value : ν} {keys : List κ} {f : ν → ν}
  {keep : κ → Bool}

/-! ### What is at a key -/

theorem mem_iff_get : key ∈ m ↔ (m.get key).isSome := by
  rw [mem_def, get, List.lookup_isSome_iff]
  simp

theorem get_set : (m.set key value).get k = if k = key then some value else m.get k :=
  Dict.lookup_set

theorem get_merge : (m.merge n).get k = (n.get k).or (m.get k) := Dict.lookup_update n.keyed

theorem get_restrict : (m.restrict keep).get k = if keep k then m.get k else none :=
  Dict.lookup_filter keep

theorem get_overwrite : (overwrite keys source m).get k =
    if k ∈ keys then (source.get k).or (m.get k) else m.get k := by
  induction keys generalizing m with
  | nil => simp [overwrite]
  | cons key rest ih =>
    have step : overwrite (key :: rest) source m =
        overwrite rest source ((source.get key).elim m (m.set key)) := rfl
    have here : ((source.get key).elim m (m.set key)).get k =
        if k = key then (source.get k).or (m.get k) else m.get k := by
      by_cases same : k = key
      · subst same
        cases found : source.get k <;> simp [get_set]
      · cases found : source.get key <;> simp [get_set, same]
    rw [step, ih, here]
    by_cases same : k = key <;> by_cases later : k ∈ rest <;> simp [same, later]
    all_goals cases source.get key <;> simp

theorem get_adjust (once : keys.Nodup) :
    (adjust keys f m).get k = if k ∈ keys then (m.get k).map f else m.get k := by
  induction keys generalizing m with
  | nil => simp [adjust]
  | cons key rest ih =>
    obtain ⟨fresh, tail⟩ := List.nodup_cons.mp once
    have step : adjust (key :: rest) f m =
        adjust rest f ((m.get key).elim m fun value => m.set key (f value)) := rfl
    have here : ((m.get key).elim m fun value => m.set key (f value)).get k =
        if k = key then (m.get k).map f else m.get k := by
      by_cases same : k = key
      · subst same
        cases found : m.get k <;> simp [get_set, found]
      · cases found : m.get key <;> simp [get_set, same]
    rw [step, ih tail, here]
    by_cases same : k = key
    · subst same
      simp [fresh]
    · simp [same]

/-! ### What changes nothing -/

theorem set_of_get (found : m.get key = some value) : m.set key value = m :=
  Mapping.ext (Dict.set_of_lookup found)

theorem overwrite_of_agree (agree : ∀ k ∈ keys, ∀ v, source.get k = some v → m.get k = some v) :
    overwrite keys source m = m := by
  induction keys with
  | nil => rfl
  | cons key rest ih =>
    have here : (source.get key).elim m (m.set key) = m := by
      cases found : source.get key with
      | none => rfl
      | some v => exact set_of_get (agree key List.mem_cons_self v found)
    rw [overwrite, List.foldl_cons, here]
    exact ih fun k inside => agree k (List.mem_cons_of_mem _ inside)

theorem adjust_of_fixed (fixed : ∀ k ∈ keys, ∀ v, m.get k = some v → f v = v) :
    adjust keys f m = m := by
  induction keys with
  | nil => rfl
  | cons key rest ih =>
    have here : ((m.get key).elim m fun value => m.set key (f value)) = m := by
      cases found : m.get key with
      | none => rfl
      | some v =>
        have same := fixed key List.mem_cons_self v found
        exact set_of_get (found.trans (congrArg some same.symm))
    rw [adjust, List.foldl_cons, here]
    exact ih fun k inside => fixed k (List.mem_cons_of_mem _ inside)

/-! ### Splitting a merge -/

theorem merge_entries (disjoint : ∀ k ∈ n, k ∉ m) :
    (m.merge n).entries = m.entries ++ n.entries := by
  refine Dict.update_of_keyed ?_
  rw [Dict.Keyed, List.map_append, List.nodup_append]
  refine ⟨m.keyed, n.keyed, fun k inside k' inside' same => ?_⟩
  exact disjoint k (same ▸ inside') inside

theorem restrict_merge_left (within : ∀ k ∈ m, keep k) (outside : ∀ k ∈ n, ¬ keep k) :
    (m.merge n).restrict keep = m := by
  have disjoint : ∀ k ∈ n, k ∉ m := fun k inside inside' => outside k inside (within k inside')
  refine Mapping.ext ?_
  rw [restrict_entries, merge_entries disjoint, List.filter_append, filter_entries_of_all within,
    filter_entries_of_none outside, List.append_nil]

theorem restrict_merge_right (outside : ∀ k ∈ m, ¬ keep k) (within : ∀ k ∈ n, keep k) :
    (m.merge n).restrict keep = n := by
  have disjoint : ∀ k ∈ n, k ∉ m := fun k inside inside' => outside k inside' (within k inside)
  refine Mapping.ext ?_
  rw [restrict_entries, merge_entries disjoint, List.filter_append, filter_entries_of_none outside,
    filter_entries_of_all within, List.nil_append]

end Mapping
