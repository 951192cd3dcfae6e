import ApiDocs.Proofs.Record.Entries
import ApiDocs.Schema.Registry

/-!
# Baselines of written records

Records written over several lines are a baseline: the form of summaries asks only for what every
record has, and what else a record has is passed over. What is read back are the summaries of the
records.
-/

namespace ApiDocs

open Json (sorted sortedEntries)

def ApiSummary.fields : List (String × Schema) :=
  [("name", .text 0), ("slug", .text 0), ("type", .reference .apiKind), ("version", .text 0)]

namespace Api

/-- The entries of a record as they are read back. -/
def readEntries (api : Api) : List (String × Json) :=
  Dict.ofList (sortedEntries (api.ownEntries ++ api.collectionEntries))

variable (api : Api)

theorem sorted_toJson : api.toJson.sorted = .object api.readEntries := by
  rw [toJson_eq, sorted, readEntries]

theorem readEntries_perm :
    api.readEntries.Perm (sortedEntries (api.ownEntries ++ api.collectionEntries)) :=
  Dict.ofList_perm (by rw [Json.keys_sortedEntries]; exact api.nodup_keys_entries)

theorem nodup_keys_readEntries : (Dict.keys api.readEntries).Nodup :=
  Dict.nodup_keys_ofList (by rw [Json.keys_sortedEntries]; exact api.nodup_keys_entries)

theorem get?_readEntries (key : String) {value : Json}
    (h : Dict.get? key api.ownEntries = some value) :
    Dict.get? key api.readEntries = some value.sorted := by
  rw [readEntries, Json.get?_sorted api.nodup_keys_entries, Dict.get?_append, h]
  rfl

theorem fieldViolations_ownEntries : ∀ entry ∈ api.ownEntries,
    Schema.fieldViolations ApiSummary.fields (entry.1, entry.2.sorted) = [] := by
  rw [ownEntries]
  simp only [List.forall_mem_cons]
  refine ⟨rfl, rfl, ?_, rfl, rfl, rfl, rfl, rfl, by simp⟩
  cases api.kind <;> rfl

theorem fieldViolations_collectionEntries : ∀ entry ∈ api.collectionEntries,
    Schema.fieldViolations ApiSummary.fields (entry.1, entry.2.sorted) = [] := by
  intro entry he
  have hk : ∀ key ∈ Collection.all.map Collection.key, key ∉ Dict.keys ApiSummary.fields := by
    decide
  have hm : entry.1 ∈ Collection.all.map Collection.key :=
    api.keys_collectionEntries.subset (List.mem_map_of_mem he)
  rw [Schema.fieldViolations, Dict.get?_eq_none.mpr (hk _ hm)]
  rfl

/-- What a record has besides a summary is passed over, and its summary has the form asked for. -/
theorem violations_readEntries :
    (Schema.reference .apiSummary).violations (.object api.readEntries) = [] := by
  have hr : ["name", "slug", "type", "version"] ⊆ Dict.keys api.readEntries := by
    intro key hkey
    rw [Dict.keys, (api.readEntries_perm.map Prod.fst).mem_iff, ← Dict.keys,
      Json.keys_sortedEntries, Dict.keys_append]
    refine List.mem_append_left _ ?_
    simp only [List.mem_cons, List.not_mem_nil, or_false] at hkey
    rcases hkey with rfl | rfl | rfl | rfl <;> simp [ownEntries, Dict.keys]
  have hs : (Schema.reference .apiSummary).resolved =
      .object ApiSummary.fields ["name", "slug", "type", "version"] false := rfl
  have hp := Schema.violations_object hs api.nodup_keys_readEntries (fun hc => by cases hc) hr
  refine List.perm_nil.mp (hp.trans ?_)
  rw [List.flatMap_eq_nil_iff.mpr]
  intro entry he
  rw [api.readEntries_perm.mem_iff, Json.sortedEntries_eq_map] at he
  obtain ⟨written, hw, rfl⟩ := List.mem_map.mp he
  rcases List.mem_append.mp hw with hw | hw
  · exact api.fieldViolations_ownEntries written hw
  · exact api.fieldViolations_collectionEntries written hw

theorem decode_readEntries : ApiSummary.decode (.object api.readEntries) = .ok api.summary := by
  have hk : ApiKind.decode (.string api.kind.name) = .ok api.kind := by
    cases api.kind <;> rfl
  rw [ApiSummary.decode]
  simp only [Json.field?]
  rw [api.get?_readEntries "name" rfl, api.get?_readEntries "slug" rfl,
    api.get?_readEntries "type" rfl, api.get?_readEntries "version" rfl]
  simp only [sorted, hk]
  rfl

end Api

def readRecords (records : List Api) : Json :=
  .array (records.map fun api => .object api.readEntries)

variable (records : List Api)

theorem sorted_records :
    (Json.array (records.map Api.toJson)).sorted = readRecords records := by
  rw [sorted, Json.sortedItems_eq_map, List.map_map, readRecords]
  exact congrArg Json.array (List.map_congr_left fun api _ => api.sorted_toJson)

theorem numberless_records : (Json.array (records.map Api.toJson)).Numberless := by
  refine Json.numberlessItems_iff.mpr fun item hi => ?_
  obtain ⟨api, -, rfl⟩ := List.mem_map.mp hi
  exact api.numberless_toJson

theorem validate_readRecords :
    validate SchemaName.baseline.text (readRecords records) = .ok () := by
  have hv : Schema.summaries.violations (readRecords records) = [] := by
    rw [readRecords, Schema.violations_array rfl, List.flatMap_map,
      List.flatMap_eq_nil_iff.mpr fun api _ => api.violations_readEntries]
    rfl
  have hn : SchemaName.ofText? SchemaName.baseline.text = some .baseline := by decide
  rw [validate, hn]
  dsimp only [SchemaName.schema]
  rw [hv]

theorem decodeAll_readRecords :
    ApiSummary.decodeAll (readRecords records) = .ok (records.map Api.summary) := by
  rw [ApiSummary.decodeAll, readRecords, Json.decodeList]
  induction records with
  | nil => rfl
  | cons api rest ih =>
    rw [List.map_cons, List.mapM_cons, api.decode_readEntries, ih]
    rfl

variable {records}

/-- Records that were written are read back as their summaries. -/
theorem readBaseline_pretty
    (h : (Json.array (records.map Api.toJson)).nesting < Json.maxDepth) :
    readBaseline (Json.array (records.map Api.toJson)).pretty = .ok (records.map Api.summary) := by
  rw [readBaseline, Json.parse_pretty (numberless_records records) h, sorted_records]
  change (do
    validate SchemaName.baseline.text (readRecords records)
    (ApiSummary.decodeAll (readRecords records)).mapError .undecoded) = _
  rw [validate_readRecords, decodeAll_readRecords]
  rfl

/-- A module with a method whose parameter has a property and a description with control
characters. -/
def sampleRecord : Api where
  name := "tray"
  slug := "tray"
  kind := .moduleApi
  version := "1.0.0"
  description := "Add \"icons\"\nto the\ttray. ☃"
  process := ⟨true, false⟩
  websiteUrl := ""
  repoUrl := ""
  members := [(.methods,
    { name := "setIcon"
      signature := some "(options)"
      signatureParameters := some ["options"]
      description := ""
      platforms := some [.macOS]
      parameters :=
        [⟨"options", "Object", "", some true, none,
          some [⟨"size", "Integer", "", some false, some [], none⟩]⟩]
      returns := [] })]

theorem readBaseline_sampleRecord :
    (Json.array ([sampleRecord, sampleRecord].map Api.toJson)).nesting < Json.maxDepth ∧
      readBaseline (Json.array ([sampleRecord, sampleRecord].map Api.toJson)).pretty =
        .ok [⟨"tray", "tray", .moduleApi, "1.0.0"⟩, ⟨"tray", "tray", .moduleApi, "1.0.0"⟩] := by
  have h : (Json.array ([sampleRecord, sampleRecord].map Api.toJson)).nesting < Json.maxDepth := by
    decide
  exact ⟨h, readBaseline_pretty h⟩

end ApiDocs
