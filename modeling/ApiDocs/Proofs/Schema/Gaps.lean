import ApiDocs.Proofs.Record.Entries
import ApiDocs.Proofs.Record.Shape

/-!
# Violations of shaped records

The schema of records finds nothing in a record whose members are shaped but its gaps.
-/

namespace ApiDocs

namespace Schema

theorem violations_filled (s : String) : filled.violations (.string s) = blank s := by
  change (if s.length < 1 then [Violation.tooShort (.string s) 1] else []) = blank s
  rw [blank]
  simp only [Nat.lt_one_iff, String.length_eq_zero_iff]

theorem violations_filled_of_ne {s : String} (h : s ≠ "") : filled.violations (.string s) = [] := by
  rw [violations_filled, blank_eq_nil]
  exact h

theorem violations_text_zero (s : String) : (text 0).violations (.string s) = [] :=
  rfl

theorem violations_slug (s : String) : (formed .slug).violations (.string s) = slugGap s := by
  change (if decide (Slug.IsSlug s) then [] else [Violation.unmatched (.string s) _]) = slugGap s
  rw [slugGap]
  simp only [decide_eq_true_eq]

theorem violations_listOf (definition : Definition) (items : List Json) :
    (listOf definition).violations (.array items) =
      items.flatMap (reference definition).violations := by
  have hs : (listOf definition).resolved = list (reference definition) 0 false := rfl
  rw [violations_array hs]
  simp [checkLength]

variable {fields : List (String × Schema)} {key : String}

theorem fieldViolations_of_get? {field : Schema} (h : Dict.get? key fields = some field)
    (value : Json) : fieldViolations fields (key, value) = field.violations value := by
  rw [fieldViolations, h]
  rfl

theorem flatMap_optionalEntry {field : Schema} (h : Dict.get? key fields = some field)
    (value : Option Json) :
    (optionalEntry key value).flatMap (fieldViolations fields) =
      value.toList.flatMap field.violations := by
  cases value with
  | none => rfl
  | some v => simp [optionalEntry, fieldViolations_of_get? h]

theorem flatMap_listEntry {definition : Definition}
    (h : Dict.get? key fields = some (listOf definition)) (items : List Json) :
    (listEntry key items).flatMap (fieldViolations fields) =
      items.flatMap (reference definition).violations := by
  cases items with
  | nil => rfl
  | cons item rest =>
    change [(key, Json.array (item :: rest))].flatMap (fieldViolations fields) = _
    rw [List.flatMap_singleton, fieldViolations_of_get? h, violations_listOf]

end Schema

open Schema (fieldViolations fieldViolations_of_get? flatMap_optionalEntry flatMap_listEntry
  violations_filled violations_filled_of_ne violations_listOf violations_object)

theorem PossibleValue.violations_toJson {v : PossibleValue} (h : v.value ≠ "") :
    (Schema.reference .possibleValue).violations v.toJson = [] := by
  have hs : (Schema.reference .possibleValue).resolved =
      .object [("value", .filled), ("description", .text 0)] ["value", "description"] true := rfl
  refine List.perm_nil.mp ((violations_object hs ?_ ?_ ?_).trans ?_)
  · simp [Dict.keys]
  · exact fun _ => List.Subset.refl _
  · exact List.Subset.refl _
  · rw [List.flatMap_cons, fieldViolations_of_get? rfl, violations_filled_of_ne h]
    rfl

namespace Parameter

/-- The definition of parameters of a kind. -/
def definition (tracked : Bool) : Definition :=
  if tracked then .argument else .payload

def fields (tracked : Bool) : List (String × Schema) :=
  [("name", .filled), ("type", .filled), ("description", .text 0)] ++
    (if tracked then [("required", .flag)] else []) ++
    [("possibleValues", .listOf .possibleValue), ("properties", .listOf (definition tracked))]

/-- The keys that parameters of a kind always have. -/
def requiredKeys (tracked : Bool) : List String :=
  ["name", "type", "description"] ++ if tracked then ["required"] else []

theorem resolved_definition (tracked : Bool) :
    (Schema.reference (definition tracked)).resolved =
      .object (fields tracked) (requiredKeys tracked) true := by
  cases tracked <;> rfl

theorem get?_fields (tracked : Bool) :
    Dict.get? "possibleValues" (fields tracked) = some (.listOf .possibleValue) ∧
      Dict.get? "properties" (fields tracked) = some (.listOf (definition tracked)) := by
  cases tracked <;> exact ⟨rfl, rfl⟩

theorem keys_fields (tracked : Bool) :
    Dict.keys (fields tracked) =
      requiredKeys tracked ++ ["possibleValues", "properties"] := by
  cases tracked <;> rfl

variable {tracked : Bool} {p : Parameter}

theorem keys_ownEntries (h : p.required.isSome = tracked) :
    Dict.keys p.ownEntries = requiredKeys tracked := by
  rw [ownEntries, Dict.keys_append, keys_optionalEntry_eq, Option.isSome_map, h]
  cases tracked <;> rfl

theorem violations_ownEntries (h : p.Shaped tracked) :
    p.ownEntries.flatMap (fieldViolations (fields tracked)) = blank p.type := by
  have hr : (optionalEntry "required" (p.required.map .bool)).flatMap
      (fieldViolations (fields tracked)) = [] := by
    have hs := h.required_isSome
    cases hq : p.required with
    | none => rfl
    | some b =>
      rw [hq] at hs
      subst hs
      rfl
  rw [ownEntries, List.flatMap_append, hr, List.flatMap_cons, List.flatMap_cons,
    List.flatMap_singleton, fieldViolations_of_get? rfl, violations_filled_of_ne h.name_ne,
    fieldViolations_of_get? rfl, violations_filled, fieldViolations_of_get? rfl,
    Schema.violations_text_zero, List.nil_append, List.append_nil, List.append_nil]

theorem violations_listEntries (h : p.Shaped tracked) :
    p.listEntries.flatMap (fieldViolations (fields tracked)) =
      (p.properties.getD []).flatMap fun q =>
        (Schema.reference (definition tracked)).violations q.toJson := by
  obtain ⟨hv, hq⟩ := get?_fields tracked
  have hp : (p.possibleValues.map fun values =>
      Json.array (values.map PossibleValue.toJson)).toList.flatMap
        (Schema.listOf .possibleValue).violations = [] := by
    rw [List.flatMap_eq_nil_iff]
    intro value hm
    obtain ⟨values, hs, rfl⟩ := Option.map_eq_some_iff.mp (Option.mem_toList.mp hm)
    rw [violations_listOf, List.flatMap_map, List.flatMap_eq_nil_iff]
    exact fun v hm => PossibleValue.violations_toJson (h.value_ne values hs v hm)
  rw [listEntries, List.flatMap_append, flatMap_optionalEntry hv, flatMap_optionalEntry hq, hp]
  cases p.properties with
  | none => rfl
  | some properties => simp [violations_listOf, List.flatMap_map]

/-- A shaped parameter lacks at most its type, apart from what its properties lack. -/
theorem violations_entries (h : p.Shaped tracked) :
    ((Schema.reference (definition tracked)).violations p.toJson).Perm
      (blank p.type ++ (p.properties.getD []).flatMap fun q =>
        (Schema.reference (definition tracked)).violations q.toJson) := by
  have hk := keys_ownEntries h.required_isSome
  rw [toJson_eq, ← violations_ownEntries h, ← violations_listEntries h, ← List.flatMap_append]
  refine violations_object (resolved_definition tracked) p.nodup_keys_entries ?_ ?_
  · intro _
    rw [Dict.keys_append, hk, keys_fields]
    exact ((List.Sublist.refl _).append p.keys_listEntries).subset
  · rw [Dict.keys_append, hk]
    exact List.subset_append_left _ _

end Parameter

variable {tracked : Bool}

mutual

/-- Shaped parameters lack at most types, at any depth. -/
theorem Parameter.violations_toJson : ∀ p : Parameter, (∀ q ∈ p.nested, q.Shaped tracked) →
    ((Schema.reference (Parameter.definition tracked)).violations p.toJson).Perm
      (p.nested.flatMap fun q => blank q.type)
  | ⟨name, type, description, required, values, properties⟩, h => by
    rw [Parameter.nested, List.forall_mem_cons] at h
    rw [Parameter.nested, List.flatMap_cons]
    exact (Parameter.violations_entries h.1).trans
      ((violations_properties properties h.2).append_left _)

theorem violations_properties : ∀ properties : Option (List Parameter),
    (∀ q ∈ nestedProperties properties, q.Shaped tracked) →
    ((properties.getD []).flatMap fun q =>
      (Schema.reference (Parameter.definition tracked)).violations q.toJson).Perm
      ((nestedProperties properties).flatMap fun q => blank q.type)
  | none, _ => .nil
  | some properties, h => violations_parameters properties h

theorem violations_parameters : ∀ parameters : List Parameter, AllShaped tracked parameters →
    (parameters.flatMap fun q =>
      (Schema.reference (Parameter.definition tracked)).violations q.toJson).Perm
      ((nestedParameters parameters).flatMap fun q => blank q.type)
  | [], _ => .nil
  | p :: rest, h => by
    rw [AllShaped, nestedParameters, List.forall_mem_append] at h
    rw [List.flatMap_cons, nestedParameters, List.flatMap_append]
    exact (p.violations_toJson h.1).append (violations_parameters rest h.2)

end

namespace MemberKind

/-- The definition of members of a kind. -/
def definition : MemberKind → Definition
  | method => .method
  | event => .event
  | property => .property

def fields : MemberKind → List (String × Schema)
  | method =>
    [("name", .filled), ("signature", .formed .parenthesized),
      ("signatureParameters", .list .filled 0 false), ("description", .filled),
      ("platforms", .reference .platforms), ("parameters", .listOf .argument)]
  | event =>
    [("name", .filled), ("description", .filled), ("platforms", .reference .platforms),
      ("returns", .listOf .payload)]
  | property =>
    [("name", .filled), ("description", .filled), ("platforms", .reference .platforms)]

/-- The keys that members of a kind always have. -/
def requiredKeys : MemberKind → List String
  | method => ["name", "signature", "signatureParameters", "description"]
  | _ => ["name", "description"]

theorem resolved_definition (kind : MemberKind) :
    (Schema.reference kind.definition).resolved = .object kind.fields kind.requiredKeys true := by
  cases kind <;> rfl

end MemberKind

theorem allDistinct_strings {names : List String} (h : names.Nodup) :
    Json.allDistinct (names.map .string) := by
  induction names with
  | nil => rfl
  | cons name rest ih =>
    rw [List.nodup_cons] at h
    rw [List.map_cons, Json.allDistinct, ih h.2, Bool.and_true, List.all_eq_true]
    intro value hv
    obtain ⟨other, ho, rfl⟩ := List.mem_map.mp hv
    have hne : name ≠ other := fun he => h.1 (he ▸ ho)
    simp [Json.same, hne]

theorem violations_platforms {platforms : List Platform} (hn : platforms ≠ [])
    (hd : platforms.Nodup) :
    (Schema.reference .platforms).violations (stringsJson (platforms.map Platform.name)) = [] := by
  have hs : (Schema.reference .platforms).resolved =
      .list (.choice ["macOS", "Windows", "Linux"] false) 1 true := rfl
  rw [stringsJson, Schema.violations_array hs, List.flatMap_eq_nil_iff.mpr]
  · have hi : Function.Injective Platform.name := by
      intro a b
      cases a <;> cases b <;> simp [Platform.name]
    have ha := allDistinct_strings (hd.map hi)
    have hl : ¬ platforms.length < 1 := by
      rw [Nat.lt_one_iff, List.length_eq_zero_iff]
      exact hn
    have hm : ((platforms.map Platform.name).map Json.string).map Json.sorted =
        (platforms.map Platform.name).map Json.string := by
      simp [Json.sorted]
    rw [hm, Schema.checkLength, ha]
    simp [hl]
  · intro item hi
    simp only [List.map_map, List.mem_map] at hi
    obtain ⟨platform, -, rfl⟩ := hi
    cases platform <;> rfl

theorem violations_names {names : List String} (h : "" ∉ names) :
    (Schema.list .filled 0 false).violations (stringsJson names) = [] := by
  have hs : (Schema.list .filled 0 false).resolved = .list .filled 0 false := rfl
  rw [stringsJson, Schema.violations_array hs, List.flatMap_map, List.flatMap_eq_nil_iff.mpr]
  · simp [Schema.checkLength]
  · intro name hm
    exact violations_filled_of_ne fun he => h (he ▸ hm)

theorem violations_signature {s : String} (h : isParenthesized s.toList) :
    (Schema.formed .parenthesized).violations (.string s) = [] := by
  change (if isParenthesized s.toList then [] else [Violation.unmatched (.string s) _]) = []
  rw [if_pos h]

namespace Member

variable {kind : MemberKind} {m : Member}

theorem keys_ownEntries (h : m.Shaped kind) : Dict.keys m.ownEntries = kind.requiredKeys := by
  simp only [ownEntries, Dict.keys_append, keys_optionalEntry_eq, Option.isSome_map,
    h.signature_isSome, h.names_isSome]
  cases kind <;> rfl

theorem keys_entries_shaped (h : m.Shaped kind) :
    (kind.requiredKeys ++ Dict.keys m.listEntries).Sublist (Dict.keys kind.fields) := by
  have hp := keys_optionalEntry "platforms"
    (m.platforms.map fun platforms => stringsJson (platforms.map Platform.name))
  have ha := keys_listEntry "parameters" (m.parameters.map Parameter.toJson)
  have hr := keys_listEntry "returns" (m.returns.map Parameter.toJson)
  rw [listEntries, Dict.keys_append, Dict.keys_append]
  cases kind with
  | method =>
    rw [h.returns_eq_nil (by decide)]
    exact (List.Sublist.refl _).append ((hp.append ha).append (List.Sublist.refl _))
  | property =>
    rw [h.returns_eq_nil (by decide), h.parameters_eq_nil (by decide)]
    exact (List.Sublist.refl _).append
      ((hp.append (List.Sublist.refl _)).append (List.Sublist.refl _))
  | event =>
    rw [h.parameters_eq_nil (by decide)]
    exact (List.Sublist.refl _).append ((hp.append (List.Sublist.refl _)).append hr)

theorem violations_ownEntries (h : m.Shaped kind) :
    m.ownEntries.flatMap (fieldViolations kind.fields) = blank m.description := by
  have hn : fieldViolations kind.fields ("name", .string m.name) = [] := by
    have hf : Dict.get? "name" kind.fields = some .filled := by cases kind <;> rfl
    rw [fieldViolations_of_get? hf, violations_filled_of_ne h.name_ne]
  have hd : fieldViolations kind.fields ("description", .string m.description) =
      blank m.description := by
    have hf : Dict.get? "description" kind.fields = some .filled := by cases kind <;> rfl
    rw [fieldViolations_of_get? hf, violations_filled]
  have hs : (optionalEntry "signature" (m.signature.map .string)).flatMap
      (fieldViolations kind.fields) = [] := by
    cases hq : m.signature with
    | none => rfl
    | some s =>
      cases kind with
      | method =>
        rw [flatMap_optionalEntry rfl]
        simp [violations_signature (h.signature_parenthesized s hq)]
      | _ => rfl
  have hp : (optionalEntry "signatureParameters" (m.signatureParameters.map stringsJson)).flatMap
      (fieldViolations kind.fields) = [] := by
    cases hq : m.signatureParameters with
    | none => rfl
    | some names =>
      cases kind with
      | method =>
        rw [flatMap_optionalEntry rfl]
        simp [violations_names (h.names_ne names hq)]
      | _ => rfl
  rw [ownEntries, List.flatMap_append, List.flatMap_append, List.flatMap_append, hs, hp,
    List.flatMap_singleton, List.flatMap_singleton, hn, hd, List.nil_append, List.nil_append,
    List.nil_append]

theorem violations_listEntries (h : m.Shaped kind) :
    (m.listEntries.flatMap (fieldViolations kind.fields)).Perm
      ((nestedParameters (m.parameters ++ m.returns)).flatMap fun p => blank p.type) := by
  have hf : Dict.get? "platforms" kind.fields = some (.reference .platforms) := by
    cases kind <;> rfl
  have hp : (optionalEntry "platforms" (m.platforms.map fun platforms =>
      stringsJson (platforms.map Platform.name))).flatMap (fieldViolations kind.fields) = [] := by
    rw [flatMap_optionalEntry hf, List.flatMap_eq_nil_iff]
    intro value hv
    obtain ⟨platforms, hs, rfl⟩ := Option.map_eq_some_iff.mp (Option.mem_toList.mp hv)
    exact violations_platforms (h.platforms_ne _ hs) (h.platforms_nodup _ hs)
  have hs := h.nested_shaped
  rw [listEntries, List.flatMap_append, List.flatMap_append, hp, List.nil_append]
  cases kind with
  | method =>
    have ha : Dict.get? "parameters" MemberKind.method.fields =
        some (.listOf (Parameter.definition true)) := rfl
    rw [h.returns_eq_nil (by decide), List.append_nil] at hs ⊢
    rw [flatMap_listEntry ha, List.flatMap_map, List.map_nil, listEntry, List.flatMap_nil,
      List.append_nil]
    exact violations_parameters _ hs
  | property =>
    rw [h.returns_eq_nil (by decide), h.parameters_eq_nil (by decide)]
    exact .nil
  | event =>
    have hr : Dict.get? "returns" MemberKind.event.fields =
        some (.listOf (Parameter.definition false)) := rfl
    rw [h.parameters_eq_nil (by decide), List.nil_append] at hs ⊢
    rw [flatMap_listEntry hr, List.flatMap_map, List.map_nil, listEntry, List.flatMap_nil,
      List.nil_append]
    exact violations_parameters _ hs

/-- A shaped member lacks at most its description, and types inside it. -/
theorem violations_toJson (h : m.Shaped kind) :
    ((Schema.reference kind.definition).violations m.toJson).Perm m.gaps := by
  have hk := keys_ownEntries h
  rw [toJson_eq]
  refine (violations_object kind.resolved_definition m.nodup_keys_entries ?_ ?_).trans ?_
  · intro _
    rw [Dict.keys_append, hk]
    exact (keys_entries_shaped h).subset
  · rw [Dict.keys_append, hk]
    exact List.subset_append_left _ _
  · rw [List.flatMap_append, violations_ownEntries h]
    exact (violations_listEntries h).append_left _

end Member

/-- The fields that every record has. -/
def Api.ownFields : List (String × Schema) :=
  [("name", .filled), ("slug", .formed .slug), ("type", .choice ["Module", "Class"] false),
    ("version", .filled), ("description", .filled),
    ("process", .record [("main", .flag), ("renderer", .flag)] ["main", "renderer"]),
    ("websiteUrl", .filled), ("repoUrl", .filled)]

def Api.fields : List (String × Schema) :=
  ownFields ++ [("methods", .listOf .method),
      ("staticMethods", .listOf .method), ("instanceMethods", .listOf .method),
      ("instanceProperties", .listOf .property), ("events", .listOf .event),
      ("instanceEvents", .listOf .event)]

theorem Api.violations_collectionEntries {api : Api}
    (h : ∀ collection, ∀ m ∈ api.collection collection, m.Shaped collection.memberKind) :
    (api.collectionEntries.flatMap (fieldViolations fields)).Perm
      (Collection.all.flatMap fun collection =>
        (api.collection collection).flatMap Member.gaps) := by
  rw [collectionEntries, List.flatMap_assoc]
  refine List.Perm.flatMap_left _ fun collection _ => ?_
  have hf : Dict.get? collection.key fields =
      some (.listOf collection.memberKind.definition) := by
    cases collection <;> rfl
  rw [flatMap_listEntry hf, List.flatMap_map]
  exact List.Perm.flatMap_left _ fun m hm => Member.violations_toJson (h collection m hm)

theorem Api.violations_ownEntries {api : Api} (hw : api.websiteUrl ≠ "") (hr : api.repoUrl ≠ "") :
    api.ownEntries.flatMap (fieldViolations fields) =
      blank api.name ++ slugGap api.slug ++ blank api.version ++ blank api.description := by
  have hn : fieldViolations fields ("name", .string api.name) = blank api.name :=
    violations_filled _
  have hs : fieldViolations fields ("slug", .string api.slug) = slugGap api.slug :=
    Schema.violations_slug _
  have hk : fieldViolations fields ("type", .string api.kind.name) = [] := by
    cases api.kind <;> rfl
  have hv : fieldViolations fields ("version", .string api.version) = blank api.version :=
    violations_filled _
  have hd : fieldViolations fields ("description", .string api.description) =
      blank api.description :=
    violations_filled _
  have hp : fieldViolations fields ("process", api.process.toJson) = [] := rfl
  have hw : fieldViolations fields ("websiteUrl", .string api.websiteUrl) = [] :=
    violations_filled_of_ne hw
  have hr : fieldViolations fields ("repoUrl", .string api.repoUrl) = [] :=
    violations_filled_of_ne hr
  simp only [ownEntries, List.flatMap_cons, List.flatMap_nil, hn, hs, hk, hv, hd, hp, hw, hr,
    List.append_nil, List.nil_append, List.append_assoc]

/-- In a record of shaped members and with addresses nothing is wrong but its gaps. -/
theorem Api.violations_toJson {api : Api} (hw : api.websiteUrl ≠ "") (hr : api.repoUrl ≠ "")
    (h : ∀ collection, ∀ m ∈ api.collection collection, m.Shaped collection.memberKind) :
    (Schema.api.violations api.toJson).Perm api.gaps := by
  have hs : Schema.api.resolved = .object fields (Dict.keys ownFields) true := rfl
  rw [toJson_eq]
  refine (violations_object hs api.nodup_keys_entries ?_ ?_).trans ?_
  · intro _
    exact api.keys_entries.subset
  · rw [Dict.keys_append]
    exact List.subset_append_left _ _
  · rw [List.flatMap_append, violations_ownEntries hw hr, gaps]
    exact (violations_collectionEntries h).append_left _

end ApiDocs
