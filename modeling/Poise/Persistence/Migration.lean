import Poise.Foundation.Mapping
import Poise.Persistence.Json

/-!
# Config entry migration

`migration.py`: the split of a room entry into structural data and tunable options, with the
entity pickers as lists. `runtime/config.py` reads options over data, and the pickers through
`as_entity_list`. How Python prints a value that is no string is a parameter.
-/
namespace Poise

/-- A configured value: what the store can hold, or a tuple that only the running code can. -/
inductive ConfigValue where
  | json (v : Json)
  | tuple (items : List Json)
  deriving Repr

abbrev ConfigData := Mapping String ConfigValue

/-- The inputs that need a reload. -/
def structuralKeys : List String :=
  ["entry_type", "name", "temp_sensor", "actuator", "outdoor_sensor", "humidity_sensor",
    "outdoor_humidity_sensor", "window_sensor", "weather_entity", "trm_sensor", "mrt_sensor",
    "irradiance_sensor", "trv_external_temp_input", "controls_boiler", "compressor_group",
    "declared_power", "design_flow_temp", "source_policy"]

/-- The pickers of several entities. -/
def multiEntityKeys : List String := ["window_sensor", "presence_home", "occupancy_sensor"]

/-- A single entity id becomes a list. -/
def asList : ConfigValue → ConfigValue
  | .json (.str s) => .json (.list (if s = "" then [] else [.str s]))
  | value => value

/-- The entry of the hub, not of a room. -/
def isSystemEntry (data : ConfigData) : Bool :=
  match data.get "entry_type" with
  | some (.json (.str entryType)) => entryType = "system"
  | _ => false

/-- The new data and options. -/
def migrateRoomEntry (data options : ConfigData) : ConfigData × ConfigData :=
  if isSystemEntry data then (data, options)
  else
    -- options win, but not for the structural keys
    let merged := Mapping.overwrite structuralKeys data (data.merge options)
    let newData := merged.restrict fun key => structuralKeys.contains key
    let newOptions := merged.restrict fun key => !structuralKeys.contains key
    (newData.adjust multiEntityKeys asList, newOptions.adjust multiEntityKeys asList)

/-! ### Reading -/

def asEntityList (repr : Json → String) : ConfigValue → List String
  | .json (.str s) => if s = "" then [] else [s]
  | .json (.list items) | .tuple items => (items.filter Json.truthy).map (Json.toStr repr)
  | _ => []

/-- What the coordinator reads at a key. -/
inductive Setting where
  | value (v : Option ConfigValue)
  | entities (ids : List String)

/-- A missing picker reads as `None` does. -/
def setting (repr : Json → String) (config : ConfigData) (key : String) : Setting :=
  if multiEntityKeys.contains key then
    .entities (asEntityList repr ((config.get key).getD (.json .null)))
  else .value (config.get key)

end Poise
