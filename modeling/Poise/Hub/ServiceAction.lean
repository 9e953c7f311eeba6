import Poise.Foundation.Dict
import Poise.Foundation.Text
import Poise.Persistence.Json

/-!
# Boiler actions

The stored boiler action of `control/hub_aggregate.py`, in its legacy text form
`entity_id/domain.service[/attr:value...]` and in the mapping form of the options editor, and
the fields that pre-fill the editor. How Python prints a value that is no string is a parameter.
-/
namespace Poise

open Text

/-! ### Strings -/

namespace PyStr

/-- `str.isspace` of one character. -/
def isSpace (c : Char) : Bool :=
  let n := c.toNat
  (9 ≤ n && n ≤ 13) || (28 ≤ n && n ≤ 32) || n == 0x85 || n == 0xA0 || n == 0x1680 ||
    (0x2000 ≤ n && n ≤ 0x200A) || n == 0x2028 || n == 0x2029 || n == 0x202F || n == 0x205F ||
    n == 0x3000

def strip (s : String) : String := .ofList (trim isSpace s.toList)

/-- `sep in s`. -/
def has (sep : Char) (s : String) : Bool := s.toList.contains sep

/-- `s.split(sep)`. -/
def split (sep : Char) (s : String) : List String := (s.toList.splitOn sep).map .ofList

/-- The two halves of `s.split(sep, 1)`. -/
def upTo (sep : Char) (s : String) : String := .ofList (before sep s.toList)

def past (sep : Char) (s : String) : String := .ofList (after sep s.toList)

end PyStr

open PyStr

/-! ### Parsing -/

/-- A parsed service call. -/
structure ServiceAction where
  domain : String
  service : String
  data : List (String × String)
  deriving DecidableEq, Repr

/-- The entries of a mapping, as strings. -/
def strEntries (repr : Json → String) (extra : JsonObject) : List (String × String) :=
  extra.map fun entry => (entry.1, entry.2.toStr repr)

/-- The structured form. -/
def parseActionFields (repr : Json → String) (spec : JsonObject) : Option ServiceAction :=
  match spec.get "entity_id", spec.get "action" with
  | .str entityId, .str action =>
    let entityId := strip entityId
    let action := strip action
    if !has '.' entityId || !has '.' action then none
    else
      let domain := strip (upTo '.' action)
      let service := strip (past '.' action)
      if domain = "" ∨ service = "" then none
      else
        let data := [("entity_id", entityId)]
        match spec.get "data" with
        | .dict extra => some ⟨domain, service, Dict.update data (strEntries repr extra)⟩
        -- A non-mapping is a mistake, not an absent extra.
        | extra => if extra.truthy then none else some ⟨domain, service, data⟩
  | _, _ => none

def textParts (spec : String) : List String := ((PyStr.split '/' spec).map strip).filter (· ≠ "")

/-- The `key:value` parts. -/
def textExtras (parts : List String) : List (String × String) :=
  (parts.filter (has ':')).map fun extra => (strip (upTo ':' extra), strip (past ':' extra))

/-- The legacy text form. -/
def parseActionText (spec : String) : Option ServiceAction :=
  match textParts spec with
  | entityId :: call :: extras =>
    if !has '.' entityId || !has '.' call then none
    else
      some ⟨strip (upTo '.' call), strip (past '.' call),
        Dict.update [("entity_id", entityId)] (textExtras extras)⟩
  | _ => none

def parseServiceAction (repr : Json → String) (spec : Json) : Option ServiceAction :=
  if !spec.truthy then none
  else
    match spec with
    | .dict entries => parseActionFields repr entries
    | .str text => parseActionText text
    | _ => none

/-! ### The editor's fields -/

def ServiceAction.fields (action : ServiceAction) : JsonObject :=
  let data := Dict.pop "entity_id" action.data
  [("entity_id", .str ((action.data.lookup "entity_id").getD "")),
    ("action", .str (action.domain ++ "." ++ action.service))] ++
    if data.isEmpty then [] else [("data", .dict (data.map fun entry => (entry.1, .str entry.2)))]

def serviceActionFields (repr : Json → String) (spec : Json) : Option JsonObject :=
  (parseServiceAction repr spec).map ServiceAction.fields

end Poise
