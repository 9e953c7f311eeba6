import Poise.Persistence.Migration

/-!
# Config migration

What the two mappings of a migrated room entry hold at each key, and that migrating them again
changes nothing. A room reads the same settings before and after, but for a structural key
that both mappings had: there the copy in the options no longer shadows the data.
-/
namespace Poise

open Mapping

variable {data options : ConfigData} {key : String}

/-! ### Lists of entities -/

@[simp] theorem asList_asList (value : ConfigValue) : asList (asList value) = asList value := by
  cases value with
  | tuple items => rfl
  | json v => cases v <;> rfl

/-- Reading through `as_entity_list` does not see the migration. -/
theorem asEntityList_asList (repr : Json → String) (value : ConfigValue) :
    asEntityList repr (asList value) = asEntityList repr value := by
  cases value with
  | tuple items => rfl
  | json v =>
    cases v with
    | str s =>
      by_cases empty : s = ""
      · simp [asList, asEntityList, empty]
      · simp [asList, asEntityList, empty, Json.truthy, Json.toStr]
    | _ => rfl

/-- What the migration makes of the value at a key. -/
def normalised (key : String) (value : ConfigValue) : ConfigValue :=
  if key ∈ multiEntityKeys then asList value else value

theorem normalised_of_multi (multi : key ∈ multiEntityKeys) : normalised key = asList :=
  funext fun _ => if_pos multi

theorem normalised_of_single (single : key ∉ multiEntityKeys) : normalised key = id :=
  funext fun _ => if_neg single

theorem get_adjust_asList (config : ConfigData) (key : String) :
    (config.adjust multiEntityKeys asList).get key = (config.get key).map (normalised key) := by
  rw [get_adjust (by decide)]
  by_cases multi : key ∈ multiEntityKeys
  · rw [if_pos multi, normalised_of_multi multi]
  · rw [if_neg multi, normalised_of_single multi, Option.map_id, id]

/-! ### The split -/

theorem get_newData (room : isSystemEntry data = false) :
    (migrateRoomEntry data options).1.get key =
      if key ∈ structuralKeys then ((data.get key).or (options.get key)).map (normalised key)
      else none := by
  simp only [migrateRoomEntry, room, Bool.false_eq_true, if_false, get_adjust_asList, get_restrict,
    get_overwrite, get_merge, List.contains_iff_mem]
  by_cases structural : key ∈ structuralKeys
  · simp only [structural, if_true]
    cases data.get key <;> simp
  · simp [structural]

theorem get_newOptions (room : isSystemEntry data = false) :
    (migrateRoomEntry data options).2.get key =
      if key ∈ structuralKeys then none
      else ((options.get key).or (data.get key)).map (normalised key) := by
  simp only [migrateRoomEntry, room, Bool.false_eq_true, if_false, get_adjust_asList, get_restrict,
    get_overwrite, get_merge, Bool.not_eq_true', List.contains_eq_mem, decide_eq_false_iff_not]
  by_cases structural : key ∈ structuralKeys <;> simp [structural]

theorem mem_newData (room : isSystemEntry data = false) :
    key ∈ (migrateRoomEntry data options).1 ↔
      key ∈ structuralKeys ∧ (key ∈ data ∨ key ∈ options) := by
  simp only [mem_iff_get, get_newData room]
  by_cases structural : key ∈ structuralKeys <;> simp [structural]

theorem mem_newOptions (room : isSystemEntry data = false) :
    key ∈ (migrateRoomEntry data options).2 ↔
      key ∉ structuralKeys ∧ (key ∈ data ∨ key ∈ options) := by
  simp only [mem_iff_get, get_newOptions room]
  by_cases structural : key ∈ structuralKeys <;> simp [structural, or_comm]

/-! ### Migrating again -/

/-- Two mappings as the split leaves them. -/
structure Split (data options : ConfigData) : Prop where
  structural : ∀ key ∈ data, key ∈ structuralKeys
  tunable : ∀ key ∈ options, key ∉ structuralKeys
  listsInData : ∀ key ∈ multiEntityKeys, ∀ value, data.get key = some value → asList value = value
  listsInOptions : ∀ key ∈ multiEntityKeys, ∀ value,
    options.get key = some value → asList value = value

theorem asList_of_get_adjust {config : ConfigData} {value : ConfigValue}
    (multi : key ∈ multiEntityKeys)
    (found : (config.adjust multiEntityKeys asList).get key = some value) :
    asList value = value := by
  rw [get_adjust (by decide), if_pos multi] at found
  obtain ⟨stored, -, rfl⟩ := Option.map_eq_some_iff.mp found
  exact asList_asList stored

theorem split_migrateRoomEntry (options : ConfigData) (room : isSystemEntry data = false) :
    Split (migrateRoomEntry data options).1 (migrateRoomEntry data options).2 := by
  have structural (key : String) (inside : key ∈ (migrateRoomEntry data options).1) :=
    ((mem_newData room).mp inside).1
  have tunable (key : String) (inside : key ∈ (migrateRoomEntry data options).2) :=
    ((mem_newOptions room).mp inside).1
  rw [migrateRoomEntry, room] at structural tunable ⊢
  exact ⟨structural, tunable, fun _ multi _ => asList_of_get_adjust multi,
    fun _ multi _ => asList_of_get_adjust multi⟩

theorem Split.migrateRoomEntry_eq (split : Split data options) :
    migrateRoomEntry data options = (data, options) := by
  have owned : Mapping.overwrite structuralKeys data (data.merge options) =
      data.merge options := by
    refine overwrite_of_agree fun key structural value found => ?_
    have absent : options.get key = none := by
      by_contra there
      exact split.tunable key (mem_iff_get.mpr (Option.isSome_iff_ne_none.mpr there)) structural
    rw [get_merge, absent, found, Option.none_or]
  have left : (data.merge options).restrict (fun key => structuralKeys.contains key) = data :=
    restrict_merge_left (fun key inside => List.contains_iff_mem.mpr (split.structural key inside))
      fun key inside kept => split.tunable key inside (List.contains_iff_mem.mp kept)
  have right : (data.merge options).restrict (fun key => !structuralKeys.contains key) =
      options := by
    refine restrict_merge_right (fun key inside => ?_) fun key inside => ?_
    · simp [split.structural key inside]
    · simp [split.tunable key inside]
  rw [migrateRoomEntry]
  split
  next => rfl
  next =>
    simp only [owned, left, right, adjust_of_fixed split.listsInData,
      adjust_of_fixed split.listsInOptions]

/-! ### What the room reads -/

theorem setting_congr {repr : Json → String} {config config' : ConfigData}
    (same : config'.get key = (config.get key).map (normalised key)) :
    setting repr config' key = setting repr config key := by
  rw [setting, setting, same]
  by_cases multi : key ∈ multiEntityKeys
  · simp only [List.contains_iff_mem.mpr multi, if_true, normalised_of_multi multi]
    cases config.get key with
    | none => rfl
    | some value => exact congrArg Setting.entities (asEntityList_asList repr value)
  · rw [normalised_of_single multi, Option.map_id, id]

theorem get_merge_migrated (room : isSystemEntry data = false) :
    ((migrateRoomEntry data options).1.merge (migrateRoomEntry data options).2).get key =
      (if key ∈ structuralKeys then (data.get key).or (options.get key)
        else (options.get key).or (data.get key)).map (normalised key) := by
  rw [get_merge, get_newData room, get_newOptions room]
  by_cases structural : key ∈ structuralKeys <;> simp [structural]

/-- The migration of a room entry: running it again changes nothing, the structural keys are in
the data and the others in the options, none is lost or invented, and the room reads what it
read. A structural key of both mappings reads as in the data. -/
theorem migrate_room_entry_meaning (repr : Json → String) (data options : ConfigData)
    (room : isSystemEntry data = false) :
    let migrated := migrateRoomEntry data options
    migrateRoomEntry migrated.1 migrated.2 = migrated ∧
      (∀ key ∈ migrated.1, key ∈ structuralKeys) ∧
      (∀ key ∈ migrated.2, key ∉ structuralKeys) ∧
      (∀ key, key ∈ migrated.1 ∨ key ∈ migrated.2 ↔ key ∈ data ∨ key ∈ options) ∧
      (∀ key ∈ structuralKeys, key ∈ data → key ∈ options →
        setting repr (migrated.1.merge migrated.2) key = setting repr data key) ∧
      ∀ key, ¬ (key ∈ structuralKeys ∧ key ∈ data ∧ key ∈ options) →
        setting repr (migrated.1.merge migrated.2) key =
          setting repr (data.merge options) key := by
  have split := split_migrateRoomEntry options room
  refine ⟨split.migrateRoomEntry_eq, split.structural, split.tunable, fun key => ?_,
    fun key structural inside _ => ?_, fun key free => ?_⟩
  · rw [mem_newData room, mem_newOptions room]
    tauto
  · refine setting_congr ?_
    obtain ⟨value, found⟩ := Option.isSome_iff_exists.mp (mem_iff_get.mp inside)
    rw [get_merge_migrated room, if_pos structural, found, Option.some_or]
  · refine setting_congr ?_
    rw [get_merge_migrated room, get_merge]
    split
    next structural =>
      -- one of the two mappings lacks the key, so their order does not matter
      rw [mem_iff_get, mem_iff_get] at free
      cases inData : data.get key <;> cases inOptions : options.get key <;> simp_all
    next => rfl

private def wired : ConfigData where
  entries := [("comfort_base", .json (.int 21)),
    ("window_sensor", .json (.str "binary_sensor.door"))]
  keyed := by simp [Dict.Keyed]

private def shadowing : ConfigData where
  entries := [("window_sensor", .json (.list [.str "binary_sensor.window"]))]
  keyed := by simp [Dict.Keyed]

/-- The window of the data is read again, after the options had shadowed it. -/
theorem migrate_room_entry_shadowed_window :
    let migrated := migrateRoomEntry wired shadowing
    migrateRoomEntry migrated.1 migrated.2 = migrated ∧
      setting (fun _ => "") (wired.merge shadowing) "window_sensor" =
        .entities ["binary_sensor.window"] ∧
      setting (fun _ => "") (migrated.1.merge migrated.2) "window_sensor" =
        .entities ["binary_sensor.door"] := by
  obtain ⟨again, -, -, -, owned, -⟩ :=
    migrate_room_entry_meaning (fun _ => "") wired shadowing (by decide)
  exact ⟨again, rfl, owned "window_sensor" (by decide) (by simp [Mapping.mem_def, wired])
    (by simp [Mapping.mem_def, shadowing])⟩

end Poise
