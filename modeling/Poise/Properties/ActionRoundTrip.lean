import Poise.Hub.ServiceAction

/-!
# The boiler action through the editor's fields

A parsed action has a trimmed call, its domain without a dot, and `entity_id` as its first
entry. Its fields parse back unless a part of the call is empty or the entity id, which the
extra data may have replaced, is not one that the mapping form accepts as it stands.
-/
namespace Poise

open Text PyStr

/-! ### Strings -/

namespace PyStr

variable {s d c : String} {sep : Char}

theorem strip_eq_self_iff : strip s = s ↔ Trimmed isSpace s.toList := by
  rw [strip, ← trim_eq_self_iff, ← String.toList_inj, String.toList_ofList]

@[simp] theorem strip_strip (s : String) : strip (strip s) = strip s := by
  simp [strip]

theorem has_strip (visible : isSpace sep = false) : has sep (strip s) = has sep s := by
  rw [Bool.eq_iff_iff]
  simp only [has, strip, String.toList_ofList, List.contains_iff_mem, mem_trim_iff visible]

theorem has_upTo (sep : Char) (s : String) : has sep (upTo sep s) = false := by
  simpa [has, upTo] using sep_notMem_before sep s.toList

/-- `domain.service` is as trimmed as its parts. -/
theorem strip_joined (domain : strip d = d) (service : strip s = s) :
    strip (d ++ "." ++ s) = d ++ "." ++ s := by
  rw [strip_eq_self_iff] at domain service ⊢
  simpa using domain.append_cons (x := '.') (by decide) service

theorem has_joined (d s : String) : has '.' (d ++ "." ++ s) = true := by
  simp [has]

theorem upTo_joined (dotless : has '.' d = false) : upTo '.' (d ++ "." ++ s) = d := by
  have fresh : '.' ∉ d.toList := by simpa [has] using dotless
  rw [← String.toList_inj]
  simpa [upTo] using before_append_cons fresh

theorem past_joined (dotless : has '.' d = false) : past '.' (d ++ "." ++ s) = s := by
  have fresh : '.' ∉ d.toList := by simpa [has] using dotless
  rw [← String.toList_inj]
  simpa [past] using after_append_cons fresh

end PyStr

/-! ### Parsed actions -/

variable {repr : Json → String} {spec : Json} {action : ServiceAction}

/-- What both parsers establish. -/
structure ServiceAction.Parsed (action : ServiceAction) (entityId : String)
    (rest : List (String × String)) : Prop where
  domain : strip action.domain = action.domain
  service : strip action.service = action.service
  dotless : has '.' action.domain = false
  data : action.data = ("entity_id", entityId) :: rest
  keyed : Dict.Keyed (("entity_id", entityId) :: rest)

/-- The action that a stripped entity id, a call and the extra entries make. -/
def builtAction (entityId call : String) (extras : List (String × String)) : ServiceAction :=
  ⟨strip (upTo '.' call), strip (past '.' call), Dict.update [("entity_id", entityId)] extras⟩

theorem builtAction_parsed (entityId call : String) (extras : List (String × String)) :
    (builtAction entityId call extras).Parsed
      ((Dict.lastValue "entity_id" extras).getD entityId)
      (Dict.update [] (Dict.pop "entity_id" extras)) where
  domain := strip_strip _
  service := strip_strip _
  dotless := (has_strip (by decide)).trans (has_upTo _ _)
  data := Dict.update_head []
  keyed := by
    rw [← Dict.update_head]
    exact Dict.Keyed.update (by simp [Dict.Keyed])

/-- The extra entries of a stored action. -/
def ownEntries (repr : Json → String) : Json → List (String × String)
  | .str text => textExtras ((textParts text).drop 2)
  | .dict entries =>
    match JsonObject.get entries "data" with
    | .dict extra => strEntries repr extra
    | _ => []
  | _ => []

theorem parseActionFields_eq_some {entries : JsonObject}
    (accepted : parseActionFields repr entries = some action) :
    ∃ entityId call, strip entityId = entityId ∧ has '.' entityId = true ∧
      action = builtAction entityId call (ownEntries repr (.dict entries)) ∧
      action.domain ≠ "" ∧ action.service ≠ "" := by
  unfold parseActionFields at accepted
  split at accepted
  next entityId call _ _ =>
    dsimp only at accepted
    split_ifs at accepted with dots blank
    rw [not_or] at blank
    simp only [Bool.or_eq_true, Bool.not_eq_true', not_or, Bool.not_eq_false] at dots
    refine ⟨strip entityId, strip call, strip_strip _, dots.1, ?_⟩
    cases data : JsonObject.get entries "data" with
    | dict extra =>
      rw [data] at accepted
      obtain rfl := Option.some.inj accepted
      exact ⟨by simp [builtAction, ownEntries, data], blank⟩
    | _ =>
      simp only [data] at accepted
      split_ifs at accepted
      obtain rfl := Option.some.inj accepted
      exact ⟨by simp [builtAction, ownEntries, data], blank⟩
  next => cases accepted

theorem parseActionText_eq_some {text : String} (accepted : parseActionText text = some action) :
    ∃ entityId call, (textParts text)[1]? = some call ∧
      strip entityId = entityId ∧ has '.' entityId = true ∧
      action = builtAction entityId call (ownEntries repr (.str text)) := by
  unfold parseActionText at accepted
  split at accepted
  next entityId call extras parts =>
    split_ifs at accepted with dots
    obtain rfl := Option.some.inj accepted
    simp only [Bool.or_eq_true, Bool.not_eq_true', not_or, Bool.not_eq_false] at dots
    have listed : entityId ∈ textParts text := by simp [parts]
    obtain ⟨raw, -, rfl⟩ := List.mem_map.mp (List.mem_filter.mp listed).1
    exact ⟨strip raw, call, by simp [parts], strip_strip _, dots.1,
      by simp [builtAction, ownEntries, parts]⟩
  next => cases accepted

/-! ### The fields parse back -/

theorem strEntries_str (repr : Json → String) (rest : List (String × String)) :
    strEntries repr (rest.map fun entry => (entry.1, .str entry.2)) = rest := by
  rw [strEntries, List.map_map]
  exact List.map_id rest

theorem ServiceAction.Parsed.fields_eq {entityId : String} {rest : List (String × String)}
    (parsed : action.Parsed entityId rest) :
    action.fields = [("entity_id", .str entityId),
      ("action", .str (action.domain ++ "." ++ action.service))] ++
      if rest.isEmpty then []
      else [("data", .dict (rest.map fun entry => (entry.1, .str entry.2)))] := by
  have fresh : "entity_id" ∉ rest.map Prod.fst := (List.nodup_cons.mp parsed.keyed).1
  have popped : Dict.pop "entity_id" action.data = rest := by
    rw [parsed.data, ← Dict.pop_of_fresh fresh]
    simp [Dict.pop]
  rw [ServiceAction.fields, popped, parsed.data]
  simp

/-- The fields hold their three entries under their keys. -/
theorem ServiceAction.Parsed.get_fields {entityId : String} {rest : List (String × String)}
    (parsed : action.Parsed entityId rest) :
    action.fields.get "entity_id" = .str entityId ∧
      action.fields.get "action" = .str (action.domain ++ "." ++ action.service) ∧
      action.fields.get "data" =
        if rest.isEmpty then .null else .dict (rest.map fun entry => (entry.1, .str entry.2)) := by
  rw [parsed.fields_eq]
  refine ⟨rfl, rfl, ?_⟩
  cases rest <;> rfl

/-- Parsing the fields again strips the entity id and tests it and the call. -/
theorem ServiceAction.Parsed.reparse {entityId : String} {rest : List (String × String)}
    (parsed : action.Parsed entityId rest) :
    parseServiceAction repr (.dict action.fields) =
      if has '.' entityId = false ∨ action.domain = "" ∨ action.service = "" then none
      else some ⟨action.domain, action.service, ("entity_id", strip entityId) :: rest⟩ := by
  obtain ⟨entity, call, data⟩ := parsed.get_fields
  have joined := strip_joined parsed.domain parsed.service
  have stripped : has '.' (strip entityId) = has '.' entityId := has_strip (by decide)
  have nonempty : (Json.dict action.fields).truthy = true := by
    rw [parsed.fields_eq]
    rfl
  simp only [parseServiceAction, nonempty, parseActionFields, entity, call, joined, has_joined,
    upTo_joined parsed.dotless, past_joined parsed.dotless, parsed.domain, parsed.service, stripped]
  cases dotted : has '.' entityId with
  | false => simp
  | true =>
    by_cases blank : action.domain = "" ∨ action.service = ""
    · simp [blank]
    · simp only [blank, Bool.not_true, Bool.or_self, Bool.false_eq_true, Bool.true_eq_false,
        or_self, if_false]
      rw [data]
      cases rest with
      | nil => rfl
      | cons entry rest =>
        have merged : Dict.update [("entity_id", strip entityId)] (entry :: rest) =
            ("entity_id", strip entityId) :: entry :: rest := by
          exact Dict.update_of_keyed (by simpa [Dict.Keyed] using parsed.keyed)
        simp only [List.isEmpty_cons, Bool.false_eq_true, if_false, strEntries_str, merged]

/-! ### The round trip -/

/-- Equality of two actions; a Python dict has no order. -/
structure ServiceAction.Same (left right : ServiceAction) : Prop where
  domain : left.domain = right.domain
  service : left.service = right.service
  data : ∀ key, left.data.lookup key = right.data.lookup key

/-- Neither part of a text's call is blank. -/
def CallNamed : Json → Prop
  | .str text => ∀ call ∈ (textParts text)[1]?,
    strip (upTo '.' call) ≠ "" ∧ strip (past '.' call) ≠ ""
  | _ => True

/-- An `entity_id` among the extra entries is one that the mapping form keeps. -/
def EntityKept (repr : Json → String) (spec : Json) : Prop :=
  ∀ entityId ∈ Dict.lastValue "entity_id" (ownEntries repr spec),
    has '.' entityId = true ∧ strip entityId = entityId

/-- Every accepted action is built from a good entity id; only the extra entries can spoil it. -/
theorem parseServiceAction_parsed (accepted : parseServiceAction repr spec = some action) :
    ∃ entityId rest, action.Parsed entityId rest ∧
      (EntityKept repr spec ↔ has '.' entityId = true ∧ strip entityId = entityId) ∧
      (CallNamed spec ↔ action.domain ≠ "" ∧ action.service ≠ "") := by
  unfold parseServiceAction at accepted
  split_ifs at accepted
  have kept {base : String} (trimmed : strip base = base) (dotted : has '.' base = true) :
      EntityKept repr spec ↔
        has '.' ((Dict.lastValue "entity_id" (ownEntries repr spec)).getD base) = true ∧
        strip ((Dict.lastValue "entity_id" (ownEntries repr spec)).getD base) =
          (Dict.lastValue "entity_id" (ownEntries repr spec)).getD base := by
    rw [EntityKept]
    cases Dict.lastValue "entity_id" (ownEntries repr spec) with
    | none => simp [trimmed, dotted]
    | some value => simp
  split at accepted
  next entries =>
    obtain ⟨base, call, trimmed, dotted, rfl, named⟩ := parseActionFields_eq_some accepted
    exact ⟨_, _, builtAction_parsed base call _, kept trimmed dotted, by simp [CallNamed, named]⟩
  next text =>
    obtain ⟨base, call, listed, trimmed, dotted, rfl⟩ := @parseActionText_eq_some repr _ _ accepted
    exact ⟨_, _, builtAction_parsed base call _, kept trimmed dotted,
      by simp [CallNamed, listed, builtAction]⟩
  next => cases accepted

/-- Saving the unchanged fields keeps an action exactly when its call is named and its entity
id is kept. -/
theorem serviceActionFields_roundTrip_iff
    (accepted : parseServiceAction repr spec = some action) :
    (∃ fields again, serviceActionFields repr spec = some fields ∧
      parseServiceAction repr (.dict fields) = some again ∧ again.Same action) ↔
      CallNamed spec ∧ EntityKept repr spec := by
  obtain ⟨entityId, rest, parsed, kept, named⟩ := parseServiceAction_parsed accepted
  rw [kept, named]
  simp only [serviceActionFields, accepted, Option.map_some, Option.some.injEq,
    exists_and_left, exists_eq_left', parsed.reparse]
  constructor
  · rintro ⟨again, reparsed, same⟩
    split_ifs at reparsed with refused
    simp only [not_or, Bool.not_eq_false] at refused
    obtain rfl := Option.some.inj reparsed
    have value := same.data "entity_id"
    rw [parsed.data] at value
    exact ⟨refused.2, refused.1, by simpa using value⟩
  · rintro ⟨⟨domain, service⟩, dotted, trimmed⟩
    refine ⟨_, if_neg (by simp [domain, service, dotted]), rfl, rfl, fun key => ?_⟩
    rw [trimmed, parsed.data]

-- An empty service passes the text form but not the mapping form; an extra entry may take the
-- dot from the entity id.
theorem emptyService_lost :
    parseServiceAction (fun _ => "") (.str "switch.boiler/switch.") =
        some ⟨"switch", "", [("entity_id", "switch.boiler")]⟩ ∧
      (serviceActionFields (fun _ => "") (.str "switch.boiler/switch.")).bind
        (fun fields => parseServiceAction (fun _ => "") (.dict fields)) = none ∧
      parseServiceAction (fun _ => "") (.str "switch.b/switch.on/entity_id:boiler") =
        some ⟨"switch", "on", [("entity_id", "boiler")]⟩ ∧
      (serviceActionFields (fun _ => "") (.str "switch.b/switch.on/entity_id:boiler")).bind
        (fun fields => parseServiceAction (fun _ => "") (.dict fields)) = none := by
  decide +kernel

/-- A heating mode in the text form. -/
theorem heatMode_roundTrip :
    ∃ fields again,
      serviceActionFields (fun _ => "") (.str "climate.b/climate.set_hvac_mode/hvac_mode:heat") =
        some fields ∧
      parseServiceAction (fun _ => "") (.dict fields) = some again ∧
      again.Same
        ⟨"climate", "set_hvac_mode", [("entity_id", "climate.b"), ("hvac_mode", "heat")]⟩ := by
  have listed : (textParts "climate.b/climate.set_hvac_mode/hvac_mode:heat")[1]? =
      some "climate.set_hvac_mode" := by decide +kernel
  have own : Dict.lastValue "entity_id" (ownEntries (fun _ => "")
      (.str "climate.b/climate.set_hvac_mode/hvac_mode:heat")) = none := by decide +kernel
  refine (serviceActionFields_roundTrip_iff (by decide +kernel)).mpr ⟨?_, ?_⟩
  · intro call mem
    obtain rfl := Option.some.inj (listed.symm.trans mem)
    decide +kernel
  · intro entityId mem
    rw [own] at mem
    cases mem

end Poise
