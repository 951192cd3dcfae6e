import ApiDocs.Proofs.Dict
import ApiDocs.Schema.Check

/-!
# Violations of lists and objects

The violations of an object whose keys are distinct, allowed and complete are those of the values of
its fields. The order of its entries decides only in which order they are listed.
-/

namespace ApiDocs

namespace Json

theorem sortedItems_eq_map (items : List Json) : sortedItems items = items.map sorted := by
  induction items with
  | nil => rfl
  | cons item rest ih => rw [sortedItems, ih, List.map_cons]

theorem sortedEntries_eq_map (entries : List (String × Json)) :
    sortedEntries entries = entries.map fun entry => (entry.1, entry.2.sorted) := by
  induction entries with
  | nil => rfl
  | cons entry rest ih => rw [sortedEntries, ih, List.map_cons]

theorem keys_sortedEntries (entries : List (String × Json)) :
    Dict.keys (sortedEntries entries) = Dict.keys entries := by
  rw [sortedEntries_eq_map, Dict.keys_map]

theorem get?_sorted {entries : List (String × Json)} (h : (Dict.keys entries).Nodup)
    (key : String) :
    Dict.get? key (Dict.ofList (sortedEntries entries)) = (Dict.get? key entries).map sorted := by
  rw [Dict.get?_ofList (by rwa [keys_sortedEntries]), sortedEntries_eq_map, Dict.get?_map]

end Json

namespace Schema

open Json (sorted sortedItems sortedEntries)

/-- The violations of a value against the field of a key, none where there is no such field. -/
def fieldViolations (fields : List (String × Schema)) (entry : String × Json) : List Violation :=
  ((Dict.get? entry.1 fields).map fun field => field.violations entry.2).getD []

theorem checkItems_eq_flatMap (item : Schema) (items : List Json) :
    checkItems item items = items.flatMap item.check := by
  induction items with
  | nil => rfl
  | cons value rest ih => rw [checkItems, ih, List.flatMap_cons]

theorem checkEntries_sortedEntries (fields : List (String × Schema))
    (entries : List (String × Json)) :
    checkEntries fields (sortedEntries entries) = entries.flatMap (fieldViolations fields) := by
  induction entries with
  | nil => rfl
  | cons entry rest ih =>
    rw [sortedEntries, checkEntries, ih, List.flatMap_cons, fieldViolations]
    cases Dict.get? entry.1 fields <;> rfl

theorem checkEntries_perm (fields : List (String × Schema)) {entries more : List (String × Json)}
    (h : entries.Perm more) : (checkEntries fields entries).Perm (checkEntries fields more) := by
  induction h with
  | nil => rfl
  | cons entry _ ih => exact ih.append_left _
  | swap entry next rest =>
    simp only [checkEntries, ← List.append_assoc]
    exact List.perm_append_comm.append_right _
  | trans _ _ first second => exact first.trans second

theorem violations_array {schema item : Schema} {least : Nat} {distinct : Bool}
    (hs : schema.resolved = list item least distinct) (items : List Json) :
    schema.violations (.array items) =
      items.flatMap item.violations ++ checkLength (items.map sorted) least distinct := by
  rw [violations, sorted, Json.sortedItems_eq_map, check, hs]
  dsimp only
  rw [checkItems_eq_flatMap, List.flatMap_map]
  rfl

/-- No entry without field, no field without entry: nothing is wrong with the keys. -/
theorem checkKeys_eq_nil {fields : List (String × Schema)} {required : List String}
    {closed : Bool} {entries : List (String × Json)}
    (hk : closed → Dict.keys entries ⊆ Dict.keys fields) (hr : required ⊆ Dict.keys entries) :
    checkKeys fields required closed entries = [] := by
  have hm : (required.filter fun key => (Dict.get? key entries).isNone) = [] := by
    rw [List.filter_eq_nil_iff]
    intro key hkey
    rw [Option.isNone_iff_eq_none, Dict.get?_eq_none]
    exact not_not_intro (hr hkey)
  rw [checkKeys, hm]
  cases closed with
  | false => rfl
  | true =>
    have hu : unexpectedKeys fields entries = [] := by
      rw [unexpectedKeys, List.filter_eq_nil_iff]
      intro key hkey
      rw [Option.isNone_iff_eq_none, Dict.get?_eq_none]
      exact not_not_intro (hk rfl hkey)
    rw [hu]
    rfl

theorem violations_object {schema : Schema} {fields : List (String × Schema)}
    {required : List String} {closed : Bool} (hs : schema.resolved = object fields required closed)
    {entries : List (String × Json)} (hn : (Dict.keys entries).Nodup)
    (hk : closed → Dict.keys entries ⊆ Dict.keys fields) (hr : required ⊆ Dict.keys entries) :
    (schema.violations (.object entries)).Perm (entries.flatMap (fieldViolations fields)) := by
  have hp : (Dict.ofList (sortedEntries entries)).Perm (sortedEntries entries) :=
    Dict.ofList_perm (by rwa [Json.keys_sortedEntries])
  have hkeys : ∀ key, key ∈ Dict.keys (Dict.ofList (sortedEntries entries)) ↔
      key ∈ Dict.keys entries := by
    intro key
    rw [Dict.keys, (hp.map Prod.fst).mem_iff, ← Dict.keys, Json.keys_sortedEntries]
  rw [violations, sorted, check, hs]
  dsimp only
  rw [checkKeys_eq_nil (fun hc key hkey => hk hc ((hkeys key).mp hkey))
    (fun key hkey => (hkeys key).mpr (hr hkey)), List.append_nil, ← checkEntries_sortedEntries]
  exact checkEntries_perm fields hp

end Schema

end ApiDocs
