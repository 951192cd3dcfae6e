import ApiDocs.Proofs.Json.RoundTrip
import ApiDocs.Proofs.Schema.Violations
import ApiDocs.Record.Codec

/-!
# The entries of written records

A record, a member and a parameter are each written as an object whose keys are distinct and among
those of its kind. No number is written.
-/

namespace ApiDocs

open Json (Numberless NumberlessItems NumberlessEntries numberlessItems_iff numberlessEntries_iff)

/-- The entries of a parameter that say what it is. -/
def Parameter.ownEntries (p : Parameter) : List (String × Json) :=
  [("name", .string p.name), ("type", .string p.type), ("description", .string p.description)] ++
    optionalEntry "required" (p.required.map .bool)

def Parameter.listEntries (p : Parameter) : List (String × Json) :=
  optionalEntry "possibleValues"
      (p.possibleValues.map fun values => .array (values.map PossibleValue.toJson)) ++
    optionalEntry "properties" (p.properties.map fun properties => .array (properties.map toJson))

def Member.ownEntries (m : Member) : List (String × Json) :=
  [("name", .string m.name)] ++
    optionalEntry "signature" (m.signature.map .string) ++
    optionalEntry "signatureParameters" (m.signatureParameters.map stringsJson) ++
    [("description", .string m.description)]

def Member.listEntries (m : Member) : List (String × Json) :=
  optionalEntry "platforms"
      (m.platforms.map fun platforms => stringsJson (platforms.map Platform.name)) ++
    listEntry "parameters" (m.parameters.map Parameter.toJson) ++
    listEntry "returns" (m.returns.map Parameter.toJson)

/-- The entries of a record that it always has. -/
def Api.ownEntries (api : Api) : List (String × Json) :=
  [("name", .string api.name), ("slug", .string api.slug), ("type", .string api.kind.name),
    ("version", .string api.version), ("description", .string api.description),
    ("process", api.process.toJson), ("websiteUrl", .string api.websiteUrl),
    ("repoUrl", .string api.repoUrl)]

theorem parametersJson_eq_map (parameters : List Parameter) :
    parametersJson parameters = parameters.map Parameter.toJson := by
  induction parameters with
  | nil => rfl
  | cons p rest ih => rw [parametersJson, ih, List.map_cons]

theorem Parameter.toJson_eq (p : Parameter) :
    p.toJson = .object (p.ownEntries ++ p.listEntries) := by
  obtain ⟨name, type, description, required, values, properties⟩ := p
  rw [toJson, List.append_assoc]
  cases properties with
  | none => rfl
  | some properties => rw [propertiesEntry, parametersJson_eq_map]; rfl

theorem Member.toJson_eq (m : Member) : m.toJson = .object (m.ownEntries ++ m.listEntries) := by
  rw [toJson, ownEntries, listEntries, parametersJson_eq_map, parametersJson_eq_map]
  simp only [List.append_assoc]

theorem Api.toJson_eq (api : Api) :
    api.toJson = .object (api.ownEntries ++ api.collectionEntries) :=
  rfl

theorem keys_optionalEntry (key : String) (value : Option Json) :
    (Dict.keys (optionalEntry key value)).Sublist [key] := by
  cases value with
  | none => exact List.nil_sublist _
  | some value => exact List.Sublist.refl _

theorem keys_optionalEntry_eq (key : String) (value : Option Json) :
    Dict.keys (optionalEntry key value) = if value.isSome then [key] else [] := by
  cases value <;> rfl

theorem keys_listEntry (key : String) (items : List Json) :
    (Dict.keys (listEntry key items)).Sublist [key] := by
  cases items with
  | nil => exact List.nil_sublist _
  | cons item rest => exact List.Sublist.refl _

theorem Parameter.keys_listEntries (p : Parameter) :
    (Dict.keys p.listEntries).Sublist ["possibleValues", "properties"] := by
  rw [listEntries, Dict.keys_append]
  exact (keys_optionalEntry _ _).append (keys_optionalEntry _ _)

theorem Parameter.keys_entries (p : Parameter) :
    (Dict.keys (p.ownEntries ++ p.listEntries)).Sublist
      ["name", "type", "description", "required", "possibleValues", "properties"] := by
  rw [Dict.keys_append, ownEntries, Dict.keys_append]
  exact ((List.Sublist.refl _).append (keys_optionalEntry _ _)).append p.keys_listEntries

theorem Member.keys_listEntries (m : Member) :
    (Dict.keys m.listEntries).Sublist ["platforms", "parameters", "returns"] := by
  rw [listEntries, Dict.keys_append, Dict.keys_append]
  exact ((keys_optionalEntry _ _).append (keys_listEntry _ _)).append (keys_listEntry _ _)

theorem Member.keys_entries (m : Member) :
    (Dict.keys (m.ownEntries ++ m.listEntries)).Sublist
      ["name", "signature", "signatureParameters", "description", "platforms", "parameters",
        "returns"] := by
  rw [Dict.keys_append, ownEntries, Dict.keys_append, Dict.keys_append, Dict.keys_append]
  exact ((((List.Sublist.refl _).append (keys_optionalEntry _ _)).append
    (keys_optionalEntry _ _)).append (List.Sublist.refl _)).append m.keys_listEntries

theorem Api.keys_collectionEntries (api : Api) :
    (Dict.keys api.collectionEntries).Sublist (Collection.all.map Collection.key) := by
  rw [collectionEntries]
  induction Collection.all with
  | nil => exact List.nil_sublist _
  | cons collection rest ih =>
    rw [List.flatMap_cons, Dict.keys_append]
    exact (keys_listEntry _ _).append ih

theorem Api.keys_entries (api : Api) :
    (Dict.keys (api.ownEntries ++ api.collectionEntries)).Sublist
      (["name", "slug", "type", "version", "description", "process", "websiteUrl", "repoUrl"] ++
        Collection.all.map Collection.key) := by
  rw [Dict.keys_append]
  exact (List.Sublist.refl _).append api.keys_collectionEntries

theorem Parameter.nodup_keys_entries (p : Parameter) :
    (Dict.keys (p.ownEntries ++ p.listEntries)).Nodup :=
  p.keys_entries.nodup (by decide)

theorem Member.nodup_keys_entries (m : Member) :
    (Dict.keys (m.ownEntries ++ m.listEntries)).Nodup :=
  m.keys_entries.nodup (by decide)

theorem Api.nodup_keys_entries (api : Api) :
    (Dict.keys (api.ownEntries ++ api.collectionEntries)).Nodup :=
  api.keys_entries.nodup (by decide)

theorem get?_optionalEntry (key k : String) (value : Option Json) :
    Dict.get? key (optionalEntry k value) = if key = k then value else none := by
  cases value with
  | none => simp [optionalEntry, Dict.get?]
  | some v => exact Dict.get?_cons key k v []

theorem get?_listEntry (key k : String) (items : List Json) :
    Dict.get? key (listEntry k items) =
      if key = k ∧ items ≠ [] then some (.array items) else none := by
  cases items with
  | nil => simp [listEntry, Dict.get?]
  | cons item rest =>
    rw [listEntry, Dict.get?_cons]
    · by_cases h : key = k <;> simp [h, Dict.get?]
    · exact List.cons_ne_nil _ _

theorem numberlessEntries_append {entries more : List (String × Json)} :
    NumberlessEntries (entries ++ more) ↔ NumberlessEntries entries ∧ NumberlessEntries more := by
  simp only [numberlessEntries_iff, List.forall_mem_append]

theorem numberless_optionalEntry {key : String} {value : Option Json}
    (h : ∀ v ∈ value, v.Numberless) : NumberlessEntries (optionalEntry key value) := by
  cases value with
  | none => trivial
  | some v => exact ⟨h v rfl, trivial⟩

theorem numberless_listEntry {key : String} {items : List Json} (h : NumberlessItems items) :
    NumberlessEntries (listEntry key items) := by
  cases items with
  | nil => trivial
  | cons item rest => exact ⟨h, trivial⟩

theorem numberless_stringsJson (names : List String) : (stringsJson names).Numberless := by
  refine numberlessItems_iff.mpr fun item hi => ?_
  obtain ⟨name, -, rfl⟩ := List.mem_map.mp hi
  trivial

theorem numberless_possibleValues (values : List PossibleValue) :
    (Json.array (values.map PossibleValue.toJson)).Numberless := by
  refine numberlessItems_iff.mpr fun item hi => ?_
  obtain ⟨v, -, rfl⟩ := List.mem_map.mp hi
  exact ⟨trivial, trivial, trivial⟩

mutual

theorem Parameter.numberless_toJson : ∀ p : Parameter, p.toJson.Numberless
  | ⟨name, type, description, required, values, properties⟩ => by
    refine numberlessEntries_append.mpr ⟨numberlessEntries_append.mpr
      ⟨numberlessEntries_append.mpr ⟨⟨trivial, trivial, trivial, trivial⟩, ?_⟩, ?_⟩, ?_⟩
    · refine numberless_optionalEntry fun v hv => ?_
      obtain ⟨b, -, rfl⟩ := Option.map_eq_some_iff.mp hv
      trivial
    · refine numberless_optionalEntry fun v hv => ?_
      obtain ⟨values, -, rfl⟩ := Option.map_eq_some_iff.mp hv
      exact numberless_possibleValues values
    · exact numberless_propertiesEntry properties

theorem numberless_propertiesEntry :
    ∀ properties : Option (List Parameter), NumberlessEntries (propertiesEntry properties)
  | none => trivial
  | some properties => ⟨numberless_parametersJson properties, trivial⟩

theorem numberless_parametersJson :
    ∀ parameters : List Parameter, NumberlessItems (parametersJson parameters)
  | [] => trivial
  | p :: rest => ⟨p.numberless_toJson, numberless_parametersJson rest⟩

end

theorem Member.numberless_toJson (m : Member) : m.toJson.Numberless := by
  simp only [toJson, Json.Numberless, numberlessEntries_append]
  refine ⟨⟨⟨⟨⟨⟨⟨trivial, trivial⟩, ?_⟩, ?_⟩, ⟨trivial, trivial⟩⟩, ?_⟩, ?_⟩, ?_⟩
  · refine numberless_optionalEntry fun v hv => ?_
    obtain ⟨signature, -, rfl⟩ := Option.map_eq_some_iff.mp hv
    trivial
  · refine numberless_optionalEntry fun v hv => ?_
    obtain ⟨names, -, rfl⟩ := Option.map_eq_some_iff.mp hv
    exact numberless_stringsJson names
  · refine numberless_optionalEntry fun v hv => ?_
    obtain ⟨platforms, -, rfl⟩ := Option.map_eq_some_iff.mp hv
    exact numberless_stringsJson _
  · exact numberless_listEntry (numberless_parametersJson m.parameters)
  · exact numberless_listEntry (numberless_parametersJson m.returns)

theorem Api.numberless_collectionEntries (api : Api) : NumberlessEntries api.collectionEntries := by
  refine numberlessEntries_iff.mpr fun entry he => ?_
  obtain ⟨collection, -, he⟩ := List.mem_flatMap.mp he
  refine numberlessEntries_iff.mp (numberless_listEntry ?_) entry he
  refine numberlessItems_iff.mpr fun item hi => ?_
  obtain ⟨m, -, rfl⟩ := List.mem_map.mp hi
  exact m.numberless_toJson

theorem Api.numberless_toJson (api : Api) : api.toJson.Numberless := by
  refine numberlessEntries_append.mpr ⟨?_, api.numberless_collectionEntries⟩
  exact ⟨trivial, trivial, trivial, trivial, trivial, ⟨trivial, trivial, trivial⟩, trivial,
    trivial, trivial⟩

end ApiDocs
