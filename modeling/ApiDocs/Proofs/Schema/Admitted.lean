import ApiDocs.Proofs.Schema.Gaps

/-!
# What the schema admits

A value without violations against the definition of a method, an event or a property is the written
form of a member, up to lists of parameters that are empty. Reading such a value loses nothing:
every key that the schema allows is read, at every depth, and written back as it was.
-/

namespace ApiDocs

open Json (Decoded decodeString decodeBool decodeList decodeOption field? require sorted sortedItems
  sortedEntries)

namespace Schema

variable {α : Type} {schema field item : Schema} {decode : Json → Decoded α} {encode : α → Json}
  {fields : List (String × Schema)} {required : List String} {entries : List (String × Json)}
  {key : String} {v : Json}

/-- Whether a value is read without loss where the schema finds nothing wrong with it. Values are
read with the entries of their objects in the order of the keys. -/
def ReadsBack (schema : Schema) (decode : Json → Decoded α) (encode : α → Json) (v : Json) : Prop :=
  schema.violations v = [] → ∃ a, decode v.sorted = .ok a ∧ (encode a).sorted = v.sorted

theorem readsBack_text (least : Nat) (v : Json) :
    (text least).ReadsBack decodeString .string v := by
  intro h
  cases v with
  | string s => exact ⟨s, rfl, rfl⟩
  | _ => exact absurd h (List.cons_ne_nil _ _)

theorem readsBack_formed (form : TextForm) (v : Json) :
    (formed form).ReadsBack decodeString .string v := by
  intro h
  cases v with
  | string s => exact ⟨s, rfl, rfl⟩
  | _ => exact absurd h (List.cons_ne_nil _ _)

theorem readsBack_flag (v : Json) : flag.ReadsBack decodeBool .bool v := by
  intro h
  cases v with
  | bool b => exact ⟨b, rfl, rfl⟩
  | _ => exact absurd h (List.cons_ne_nil _ _)

theorem readsBack_platform (v : Json) :
    (choice ["macOS", "Windows", "Linux"] false).ReadsBack Platform.decode
      (fun platform => .string platform.name) v := by
  intro h
  cases v with
  | string s =>
    have hs : s ∈ ["macOS", "Windows", "Linux"] := by
      change (if ["macOS", "Windows", "Linux"].contains s then [] else _) = [] at h
      split at h
      · rename_i hc
        exact List.contains_iff_mem.mp hc
      · exact absurd h (List.cons_ne_nil _ _)
    simp only [List.mem_cons, List.not_mem_nil, or_false] at hs
    rcases hs with rfl | rfl | rfl
    · exact ⟨.macOS, rfl, rfl⟩
    · exact ⟨.windows, rfl, rfl⟩
    · exact ⟨.linux, rfl, rfl⟩
  | _ => exact absurd h (List.cons_ne_nil _ _)

theorem exists_mapM_decode {items : List Json}
    (h : ∀ x ∈ items, ∃ a, decode x.sorted = .ok a ∧ (encode a).sorted = x.sorted) :
    ∃ as, (items.map sorted).mapM decode = .ok as ∧
      (as.map encode).map sorted = items.map sorted := by
  induction items with
  | nil => exact ⟨[], rfl, rfl⟩
  | cons x rest ih =>
    obtain ⟨⟨a, ha, hea⟩, hr⟩ := List.forall_mem_cons.mp h
    obtain ⟨as, has, heas⟩ := ih hr
    refine ⟨a :: as, ?_, ?_⟩
    · rw [List.map_cons, List.mapM_cons, ha, has]
      rfl
    · rw [List.map_cons, List.map_cons, List.map_cons, hea, heas]

/-- A list is read without loss where its items are. -/
theorem readsBack_list {least : Nat} {distinct : Bool}
    (hs : schema.resolved = list item least distinct)
    (hi : ∀ items, v = .array items → ∀ x ∈ items, item.ReadsBack decode encode x) :
    schema.ReadsBack (decodeList decode) (fun as => .array (as.map encode)) v := by
  intro h
  cases v with
  | array items =>
    rw [violations_array hs] at h
    have hc := List.flatMap_eq_nil_iff.mp (List.append_eq_nil_iff.mp h).1
    obtain ⟨as, has, heas⟩ := exists_mapM_decode fun x hx => hi items rfl x hx (hc x hx)
    refine ⟨as, ?_, ?_⟩
    · rw [sorted, Json.sortedItems_eq_map, decodeList, has]
    · rw [sorted, Json.sortedItems_eq_map, heas, sorted, Json.sortedItems_eq_map]
  | object entries =>
    rw [violations, sorted, check, hs] at h
    exact absurd h (List.cons_ne_nil _ _)
  | _ =>
    simp only [violations, sorted, check, hs, checkScalar] at h
    exact absurd h (List.cons_ne_nil _ _)

/-- What the schema of a closed object leaves of its entries, in the order of their keys: no key but
those of its fields, all that have to be there, and values with which nothing is wrong. -/
structure Fits (fields : List (String × Schema)) (required : List String)
    (entries : List (String × Json)) : Prop where
  known : ∀ key, Dict.get? key fields = none →
    Dict.get? key (Dict.ofList (sortedEntries entries)) = none
  present : ∀ key ∈ required, (Dict.get? key (Dict.ofList (sortedEntries entries))).isSome
  clean : ∀ key field, Dict.get? key fields = some field →
    ∀ value ∈ Dict.get? key (Dict.ofList (sortedEntries entries)),
      ∃ x, (key, x) ∈ entries ∧ value = x.sorted ∧ field.violations x = []

theorem exists_of_get?_sorted {value : Json}
    (h : Dict.get? key (Dict.ofList (sortedEntries entries)) = some value) :
    ∃ x, (key, x) ∈ entries ∧ value = x.sorted := by
  have hm := Dict.mem_of_mem_ofList (Dict.mem_of_get? h)
  rw [Json.sortedEntries_eq_map] at hm
  obtain ⟨⟨k, x⟩, hx, he⟩ := List.mem_map.mp hm
  cases he
  exact ⟨x, hx, rfl⟩

theorem checkEntries_eq_nil_iff {table : List (String × Json)} :
    checkEntries fields table = [] ↔
      ∀ entry ∈ table, ∀ field, Dict.get? entry.1 fields = some field →
        field.check entry.2 = [] := by
  induction table with
  | nil => simp [checkEntries]
  | cons first rest ih =>
    obtain ⟨key, x⟩ := first
    rw [checkEntries, List.append_eq_nil_iff, ih, List.forall_mem_cons]
    cases Dict.get? key fields <;> simp

/-- Nothing is wrong with the keys where a closed object has no others than its fields and every
object those that it has to have. -/
theorem checkKeys_eq_nil_iff {closed : Bool} {table : List (String × Json)} :
    checkKeys fields required closed table = [] ↔
      (closed = true → ∀ key, Dict.get? key fields = none → Dict.get? key table = none) ∧
        ∀ key ∈ required, (Dict.get? key table).isSome := by
  have hu : unexpectedKeys fields table = [] ↔
      ∀ key, Dict.get? key fields = none → Dict.get? key table = none := by
    simp only [unexpectedKeys, List.filter_eq_nil_iff, Option.isNone_iff_eq_none,
      Dict.get?_eq_none]
    exact ⟨fun h key hk hm => h key hm hk, fun h key hm hk => h key hk hm⟩
  have hr : (required.filter fun key => (Dict.get? key table).isNone) = [] ↔
      ∀ key ∈ required, (Dict.get? key table).isSome := by
    simp only [List.filter_eq_nil_iff, Option.isNone_iff_eq_none, Option.isSome_iff_ne_none,
      ne_eq]
  rw [checkKeys, List.append_eq_nil_iff, List.map_eq_nil_iff, hr, ← hu]
  refine and_congr_left fun _ => ?_
  cases closed <;> cases unexpectedKeys fields table <;> simp

/-- Entries that need not be there may be left out. -/
theorem check_filter {table : List (String × Json)}
    (hs : schema.resolved = object fields required true)
    (hn : (Dict.keys table).Nodup) (h : schema.check (.object table) = [])
    {p : String × Json → Bool} (hp : ∀ key ∈ required, ∀ x, p (key, x) = true) :
    schema.check (.object (table.filter p)) = [] := by
  rw [check, hs] at h ⊢
  obtain ⟨hv, hk⟩ := List.append_eq_nil_iff.mp h
  obtain ⟨hknown, hpresent⟩ := checkKeys_eq_nil_iff.mp hk
  refine List.append_eq_nil_iff.mpr
    ⟨checkEntries_eq_nil_iff.mpr fun entry he => ?_, checkKeys_eq_nil_iff.mpr ⟨?_, ?_⟩⟩
  · exact checkEntries_eq_nil_iff.mp hv entry (List.mem_of_mem_filter he)
  · intro hc key hkey
    rw [Dict.get?_filter hn, hknown hc key hkey]
    rfl
  · intro key hkey
    obtain ⟨x, hx⟩ := Option.isSome_iff_exists.mp (hpresent key hkey)
    rw [Dict.get?_filter hn, hx, Option.filter_some, hp key hkey x]
    rfl

/-- A value that the schema of a closed object admits is an object that fits. -/
theorem exists_fits (hs : schema.resolved = object fields required true)
    (h : schema.violations v = []) :
    ∃ entries, v = .object entries ∧ Fits fields required entries := by
  cases v with
  | object entries =>
    rw [violations, sorted, check, hs] at h
    obtain ⟨hv, hk⟩ := List.append_eq_nil_iff.mp h
    obtain ⟨hknown, hpresent⟩ := checkKeys_eq_nil_iff.mp hk
    refine ⟨entries, rfl, hknown rfl, hpresent, fun key field hf value hg => ?_⟩
    obtain ⟨x, hx, rfl⟩ := exists_of_get?_sorted hg
    exact ⟨x, hx, rfl, checkEntries_eq_nil_iff.mp hv _ (Dict.mem_of_get? hg) field hf⟩
  | array items =>
    rw [violations, sorted, check, hs] at h
    exact absurd h (List.cons_ne_nil _ _)
  | _ =>
    simp only [violations, sorted, check, hs, checkScalar] at h
    exact absurd h (List.cons_ne_nil _ _)

/-- What may be null for its reader is read without loss where the schema admits no null. -/
theorem ReadsBack.option (h : schema.ReadsBack decode encode v) (hn : schema.violations .null ≠ [])
    (hv : schema.violations v = []) :
    ∃ a, decodeOption decode v.sorted = .ok (some a) ∧ (encode a).sorted = v.sorted := by
  obtain ⟨a, ha, he⟩ := h hv
  refine ⟨a, ?_, he⟩
  cases v with
  | null => exact absurd hv hn
  | _ =>
    rw [sorted] at ha ⊢
    · simp only [decodeOption, ha]
      rfl
    all_goals exact nofun

namespace Fits

variable (h : Fits fields required entries)

include h

/-- A field that is there is read as its schema lets it be read. -/
theorem readField {β : Type} {decode : Json → Decoded β} {f : α → β}
    (hf : ∀ field, Dict.get? key fields = some field → ∀ x, (key, x) ∈ entries →
      field.violations x = [] →
        ∃ a, decode x.sorted = .ok (f a) ∧ (encode a).sorted = x.sorted) :
    ∃ o : Option α, field? (Dict.ofList (sortedEntries entries)) key decode = .ok (o.map f) ∧
      Dict.get? key (Dict.ofList (sortedEntries entries)) = o.map fun a => (encode a).sorted := by
  cases hg : Dict.get? key (Dict.ofList (sortedEntries entries)) with
  | none => exact ⟨none, by rw [field?, hg]; rfl, rfl⟩
  | some value =>
    cases hk : Dict.get? key fields with
    | none => exact absurd (hg.symm.trans (h.known key hk)) nofun
    | some field =>
      obtain ⟨x, hx, rfl, hv⟩ := h.clean key field hk value hg
      obtain ⟨a, ha, he⟩ := hf field hk x hx hv
      refine ⟨some a, ?_, by rw [Option.map_some, he]⟩
      rw [field?, hg]
      simp only [ha]
      rfl

/-- A field that may be left out is read without loss. -/
theorem givenField (key : String) (hf : ∀ field, Dict.get? key fields = some field →
      ∀ x, (key, x) ∈ entries → field.ReadsBack decode encode x) :
    ∃ o : Option α, field? (Dict.ofList (sortedEntries entries)) key decode = .ok o ∧
      Dict.get? key (Dict.ofList (sortedEntries entries)) = o.map fun a => (encode a).sorted := by
  obtain ⟨o, ho, hg⟩ := h.readField (f := id) hf
  exact ⟨o, by rwa [Option.map_id, id] at ho, hg⟩

/-- A field that has to be there is read without loss. -/
theorem requiredField (key : String) (hr : key ∈ required)
    (hf : ∀ field, Dict.get? key fields = some field →
      ∀ x, (key, x) ∈ entries → field.ReadsBack decode encode x) :
    ∃ a : α, field? (Dict.ofList (sortedEntries entries)) key decode = .ok (some a) ∧
      Dict.get? key (Dict.ofList (sortedEntries entries)) = some (encode a).sorted := by
  obtain ⟨o, ho, hg⟩ := h.givenField key hf
  cases o with
  | none => exact absurd (h.present key hr) (by rw [hg]; exact Bool.false_ne_true)
  | some a => exact ⟨a, ho, hg⟩

/-- A field that may be left out or null for its reader is read without loss. -/
theorem optionalField (key : String) (hf : ∀ field, Dict.get? key fields = some field →
      field.violations .null ≠ [] ∧ ∀ x, (key, x) ∈ entries → field.ReadsBack decode encode x) :
    ∃ o : Option α,
      field? (Dict.ofList (sortedEntries entries)) key (decodeOption decode) = .ok (o.map some) ∧
      Dict.get? key (Dict.ofList (sortedEntries entries)) = o.map fun a => (encode a).sorted :=
  h.readField fun field hk x hx => ((hf field hk).2 x hx).option (hf field hk).1

/-- What is written with the same look-up as an object that fits, less some entries, is the rest of
that object. -/
theorem sorted_eq_filter {written : List (String × Json)} {keys : List String}
    (hn : (Dict.keys written).Nodup) (hw : Dict.keys written ⊆ keys) (hk : Dict.keys fields ⊆ keys)
    {p : String × Json → Bool}
    (hg : ∀ key ∈ keys, (Dict.get? key written).map sorted =
      (Dict.get? key (Dict.ofList (sortedEntries entries))).filter fun value => p (key, value)) :
    (Json.object written).sorted =
      .object ((Dict.ofList (sortedEntries entries)).filter p) := by
  have ho := Dict.ordered_ofList (sortedEntries entries)
  rw [sorted, Json.object.injEq]
  refine (Dict.ordered_ofList _).ext (List.Pairwise.filter p ho) fun key => ?_
  rw [Json.get?_sorted hn, Dict.get?_filter ho.nodup_keys]
  by_cases hm : key ∈ keys
  · exact hg key hm
  · rw [Dict.get?_eq_none.mpr fun h => hm (hw h),
      h.known key (Dict.get?_eq_none.mpr fun h => hm (hk h))]
    rfl

/-- What is written with the same look-up as an object that fits is that object. -/
theorem sorted_eq {written : List (String × Json)} {keys : List String}
    (hn : (Dict.keys written).Nodup) (hw : Dict.keys written ⊆ keys) (hk : Dict.keys fields ⊆ keys)
    (hg : ∀ key ∈ keys, (Dict.get? key written).map sorted =
      Dict.get? key (Dict.ofList (sortedEntries entries))) :
    (Json.object written).sorted = (Json.object entries).sorted := by
  rw [h.sorted_eq_filter (p := fun _ => true) hn hw hk fun key hm => ?_, sorted, List.filter_true]
  rw [hg key hm]
  cases Dict.get? key (Dict.ofList (sortedEntries entries)) <;> rfl

end Fits

end Schema

open Schema (ReadsBack readsBack_text readsBack_formed readsBack_flag readsBack_platform
  readsBack_list exists_fits)

theorem PossibleValue.readsBack (v : Json) :
    (Schema.reference .possibleValue).ReadsBack decode toJson v := by
  intro h
  obtain ⟨entries, rfl, hf⟩ := exists_fits rfl h
  obtain ⟨value, hv, gv⟩ := hf.requiredField "value" (by decide)
    fun field hk x _ => by cases hk; exact readsBack_text 1 x
  obtain ⟨description, hd, gd⟩ := hf.requiredField "description" (by decide)
    fun field hk x _ => by cases hk; exact readsBack_text 0 x
  refine ⟨⟨value, description⟩, ?_,
    hf.sorted_eq ?_ (List.Subset.refl _) (List.Subset.refl _) ?_⟩
  · rw [sorted, decode, hd, hv]
    rfl
  · simp [Dict.keys]
  · simp [Dict.keys, Dict.get?_cons, gv, gd]

theorem decodeParameters_eq (items : List Json) :
    decodeParameters items = items.mapM Parameter.decode := by
  induction items with
  | nil => rw [decodeParameters]; rfl
  | cons x rest ih => rw [decodeParameters, ih, List.mapM_cons]

theorem decodeProperties_eq (v : Json) :
    decodeProperties v = decodeOption (decodeList Parameter.decode) v := by
  unfold decodeProperties
  cases v with
  | array items => exact congrArg (Except.map some) (decodeParameters_eq items)
  | _ => rfl

theorem decodeParameterList_eq : decodeParameterList = decodeList Parameter.decode := by
  funext v
  cases v with
  | array items => exact decodeParameters_eq items
  | _ => rfl

namespace Parameter

/-- A parameter is read from an object key by key. -/
theorem decode_object (entries : List (String × Json)) :
    decode (.object entries) = do
      let description ← field? entries "description" decodeString
      let name ← field? entries "name" decodeString
      let possibleValues ← field? entries "possibleValues"
        (decodeOption (decodeList PossibleValue.decode))
      let properties ← field? entries "properties" (decodeOption (decodeList decode))
      let required ← field? entries "required" (decodeOption decodeBool)
      let type ← field? entries "type" decodeString
      return {
        name := ← require "name" name
        type := ← require "type" type
        description := ← require "description" description
        required := required.join
        possibleValues := possibleValues.join
        properties := properties.join } := by
  rw [decode]
  refine bind_congr fun description => bind_congr fun name => bind_congr fun possibleValues => ?_
  split
  · rename_i value hg
    have hq : field? entries "properties" (decodeOption (decodeList decode)) =
        (decodeOption (decodeList decode) value).map some := by
      rw [field?, hg]
    dsimp only
    rw [decodeProperties_eq, hq]
    cases decodeOption (decodeList decode) value <;> rfl
  · rename_i hg
    have hq : field? entries "properties" (decodeOption (decodeList decode)) = .ok none := by
      rw [field?, hg]
    rw [hq]
    rfl

/-- What is written of a parameter under each key. -/
theorem get?_entries (p : Parameter) :
    Dict.get? "name" (p.ownEntries ++ p.listEntries) = some (.string p.name) ∧
    Dict.get? "type" (p.ownEntries ++ p.listEntries) = some (.string p.type) ∧
    Dict.get? "description" (p.ownEntries ++ p.listEntries) = some (.string p.description) ∧
    Dict.get? "required" (p.ownEntries ++ p.listEntries) = p.required.map .bool ∧
    Dict.get? "possibleValues" (p.ownEntries ++ p.listEntries) =
      p.possibleValues.map (fun values => .array (values.map PossibleValue.toJson)) ∧
    Dict.get? "properties" (p.ownEntries ++ p.listEntries) =
      p.properties.map (fun properties => .array (properties.map toJson)) := by
  simp [ownEntries, listEntries, Dict.get?_append, Dict.get?_cons, get?_optionalEntry]

/-- What the schema admits as a parameter of a kind is the written form of a parameter. -/
theorem readsBack (tracked : Bool) (v : Json) :
    (Schema.reference (definition tracked)).ReadsBack decode toJson v := by
  intro h
  obtain ⟨entries, he, hf⟩ := exists_fits (resolved_definition tracked) h
  have hfields := get?_fields tracked
  obtain ⟨name, hn, gn⟩ := hf.requiredField "name" (by cases tracked <;> decide)
    fun field hk x _ => by cases tracked <;> cases hk <;> exact readsBack_text 1 x
  obtain ⟨type, ht, gt⟩ := hf.requiredField "type" (by cases tracked <;> decide)
    fun field hk x _ => by cases tracked <;> cases hk <;> exact readsBack_text 1 x
  obtain ⟨description, hd, gd⟩ := hf.requiredField "description"
    (by cases tracked <;> decide)
    fun field hk x _ => by cases tracked <;> cases hk <;> exact readsBack_text 0 x
  obtain ⟨required, hr, gr⟩ := hf.optionalField "required" fun field hk => by
    cases tracked <;> cases hk
    exact ⟨List.cons_ne_nil _ _, fun x _ => readsBack_flag x⟩
  obtain ⟨values, hv, gv⟩ := hf.optionalField "possibleValues" fun field hk => by
    obtain rfl := Option.some.inj (hk.symm.trans hfields.1)
    exact ⟨List.cons_ne_nil _ _, fun x _ => readsBack_list rfl fun _ _ y _ =>
      PossibleValue.readsBack y⟩
  obtain ⟨properties, hp, gp⟩ := hf.optionalField "properties" fun field hk => by
    obtain rfl := Option.some.inj (hk.symm.trans hfields.2)
    exact ⟨List.cons_ne_nil _ _, fun x hx => readsBack_list rfl fun items hi y hy =>
      readsBack tracked y⟩
  refine ⟨⟨name, type, description, required, values, properties⟩, ?_, ?_⟩
  · rw [he, sorted, decode_object, hd, hn, hv, hp, hr, ht]
    cases required <;> cases values <;> cases properties <;> rfl
  · rw [he, toJson_eq]
    refine hf.sorted_eq (nodup_keys_entries _) (keys_entries _).subset
      (by cases tracked <;> decide) ?_
    obtain ⟨en, et, ed, er, ev, ep⟩ := get?_entries
      ⟨name, type, description, required, values, properties⟩
    simp only [List.forall_mem_cons, en, et, ed, er, ev, ep, gn, gt, gd, gr, gv, gp,
      Option.map_some, Option.map_map]
    simp [Function.comp_def]
termination_by sizeOf v
decreasing_by
  have hxs := List.sizeOf_lt_of_mem hx
  have hys := List.sizeOf_lt_of_mem hy
  subst he hi
  simp only [Prod.mk.sizeOf_spec, Json.array.sizeOf_spec, Json.object.sizeOf_spec] at hxs ⊢
  omega

end Parameter

theorem readsBack_platforms (v : Json) :
    (Schema.reference .platforms).ReadsBack (decodeList Platform.decode)
      (fun platforms => stringsJson (platforms.map Platform.name)) v := by
  intro h
  have hl : (Schema.reference .platforms).ReadsBack (decodeList Platform.decode)
      (fun platforms => .array (platforms.map fun p => .string p.name)) v :=
    readsBack_list rfl fun _ _ x _ => readsBack_platform x
  obtain ⟨platforms, hd, he⟩ := hl h
  refine ⟨platforms, hd, ?_⟩
  simp only [stringsJson, List.map_map]
  exact he

namespace Member

/-- Whether an entry of a member is a list of parameters or of a payload with nothing in it. -/
def isBlankList : String × Json → Bool
  | (key, .array []) => key == "parameters" || key == "returns"
  | _ => false

/-- A written member without the lists of parameters that are empty. -/
def withoutBlankLists : Json → Json
  | .object entries => .object (entries.filter (!isBlankList ·))
  | value => value

theorem isBlankList_of_ne {key : String} (hp : key ≠ "parameters") (hr : key ≠ "returns")
    (value : Json) : isBlankList (key, value) = false := by
  unfold isBlankList
  split
  · rename_i h
    cases h
    simp [hp, hr]
  · rfl

theorem filter_isBlankList {key : String} (hp : key ≠ "parameters") (hr : key ≠ "returns")
    (o : Option Json) : (o.filter fun value => !isBlankList (key, value)) = o := by
  cases o with
  | none => rfl
  | some value =>
    rw [Option.filter_some, isBlankList_of_ne hp hr]
    rfl

/-- What is written of a member under each key. -/
theorem get?_entries (m : Member) :
    Dict.get? "name" (m.ownEntries ++ m.listEntries) = some (.string m.name) ∧
    Dict.get? "signature" (m.ownEntries ++ m.listEntries) = m.signature.map .string ∧
    Dict.get? "signatureParameters" (m.ownEntries ++ m.listEntries) =
      m.signatureParameters.map stringsJson ∧
    Dict.get? "description" (m.ownEntries ++ m.listEntries) = some (.string m.description) ∧
    Dict.get? "platforms" (m.ownEntries ++ m.listEntries) =
      m.platforms.map (fun platforms => stringsJson (platforms.map Platform.name)) ∧
    Dict.get? "parameters" (m.ownEntries ++ m.listEntries) =
      (if m.parameters = [] then none else some (.array (m.parameters.map Parameter.toJson))) ∧
    Dict.get? "returns" (m.ownEntries ++ m.listEntries) =
      (if m.returns = [] then none else some (.array (m.returns.map Parameter.toJson))) := by
  simp [ownEntries, listEntries, Dict.get?_append, Dict.get?_cons, get?_optionalEntry,
    get?_listEntry]

/-- A list of parameters is written unless there is nothing in it. -/
theorem written_eq_filter {key : String} (hk : key = "parameters" ∨ key = "returns")
    (o : Option (List Parameter)) :
    (if o.getD [] = [] then none
      else some (Json.array ((o.getD []).map Parameter.toJson))).map sorted =
      (o.map fun parameters => (Json.array (parameters.map Parameter.toJson)).sorted).filter
        fun value => !isBlankList (key, value) := by
  cases o with
  | none => rfl
  | some parameters =>
    cases parameters with
    | nil => rcases hk with rfl | rfl <;> rfl
    | cons p rest => rfl

/-- What the schema admits as a member of a kind is read as a member. That member is written as it
was, and admitted again. -/
theorem decode_of_violations_eq_nil {kind : MemberKind} {v : Json}
    (h : (Schema.reference kind.definition).violations v = []) :
    ∃ m, decode v.sorted = .ok m ∧ m.toJson.sorted = withoutBlankLists v.sorted ∧
      (Schema.reference kind.definition).violations m.toJson = [] := by
  obtain ⟨entries, he, hf⟩ := exists_fits kind.resolved_definition h
  obtain ⟨name, hn, gn⟩ := hf.requiredField "name" (by cases kind <;> decide)
    fun field hk x _ => by cases kind <;> cases hk <;> exact readsBack_text 1 x
  obtain ⟨description, hd, gd⟩ := hf.requiredField "description"
    (by cases kind <;> decide)
    fun field hk x _ => by cases kind <;> cases hk <;> exact readsBack_text 1 x
  obtain ⟨signature, hs, gs⟩ := hf.optionalField "signature" fun field hk => by
    cases kind <;> cases hk
    exact ⟨List.cons_ne_nil _ _, fun x _ => readsBack_formed _ x⟩
  obtain ⟨names, hm, gm⟩ := hf.optionalField "signatureParameters" fun field hk => by
    cases kind <;> cases hk
    exact ⟨List.cons_ne_nil _ _, fun x _ => readsBack_list rfl fun _ _ y _ => readsBack_text 1 y⟩
  obtain ⟨platforms, hp, gp⟩ := hf.optionalField "platforms" fun field hk => by
    cases kind <;> cases hk <;>
      exact ⟨List.cons_ne_nil _ _, fun x _ => readsBack_platforms x⟩
  obtain ⟨parameters, ha, ga⟩ := hf.givenField "parameters" fun field hk x _ => by
    cases kind <;> cases hk
    exact readsBack_list rfl fun _ _ y _ => Parameter.readsBack true y
  obtain ⟨returns, hr, gr⟩ := hf.givenField "returns" fun field hk x _ => by
    cases kind <;> cases hk
    exact readsBack_list rfl fun _ _ y _ => Parameter.readsBack false y
  have hw : (Member.toJson ⟨name, signature, names, description, platforms, parameters.getD [],
      returns.getD []⟩).sorted = withoutBlankLists v.sorted := by
    obtain ⟨en, es, em, ed, ep, ea, er⟩ := get?_entries
      ⟨name, signature, names, description, platforms, parameters.getD [], returns.getD []⟩
    rw [he, toJson_eq]
    refine hf.sorted_eq_filter (nodup_keys_entries _) (keys_entries _).subset
      (by cases kind <;> decide) ?_
    simp only [List.forall_mem_cons, en, es, em, ed, ep, ea, er, gn, gs, gm, gd, gp, ga, gr]
    refine ⟨rfl, ?_, ?_, rfl, ?_, written_eq_filter (.inl rfl) parameters,
      written_eq_filter (.inr rfl) returns, by simp⟩
    all_goals
      rw [filter_isBlankList (by decide) (by decide), Option.map_map]
      rfl
  refine ⟨_, ?_, hw, ?_⟩
  · rw [he, sorted, decode, hd, hn, decodeParameterList_eq, ha, hp, hr, hs, hm]
    cases platforms <;> cases signature <;> cases names <;> rfl
  · rw [Schema.violations, hw, he]
    rw [he] at h
    refine Schema.check_filter kind.resolved_definition (Dict.ordered_ofList _).nodup_keys h ?_
    intro key hkey x
    rw [isBlankList_of_ne, Bool.not_false]
    all_goals
      rintro rfl
      cases kind <;> revert hkey <;> decide

/-- A method as the schema has it, with nested properties and without possible values. -/
def setIconJson : Json :=
  .object
    [("parameters", .array
        [.object
          [("properties", .array
              [.object
                [("name", .string "size"), ("type", .string "Integer"),
                  ("possibleValues", .array []), ("required", .bool false),
                  ("description", .string "")]]),
            ("name", .string "icon"), ("type", .string "Object"), ("required", .bool true),
            ("description", .string "The icon.")]]),
      ("name", .string "setIcon"), ("signature", .string "(icon)"),
      ("signatureParameters", .array [.string "icon"]), ("description", .string "Sets the icon."),
      ("platforms", .array [.string "Linux", .string "macOS"])]

/-- An event as the schema has it, with an empty list of what it returns. -/
def clickJson : Json :=
  .object
    [("returns", .array []), ("name", .string "click"), ("description", .string "Emitted.")]

theorem decode_setIcon_click :
    ((Schema.reference MemberKind.method.definition).violations setIconJson = [] ∧
      ∃ m, decode setIconJson.sorted = .ok m ∧ m.toJson.sorted = setIconJson.sorted ∧
        (Schema.reference MemberKind.method.definition).violations m.toJson = []) ∧
    (Schema.reference MemberKind.event.definition).violations clickJson = [] ∧
      ∃ m, decode clickJson.sorted = .ok m ∧
        m.toJson.sorted =
          .object [("description", .string "Emitted."), ("name", .string "click")] := by
  have hs : (Schema.reference MemberKind.method.definition).violations setIconJson = [] := rfl
  have hc : (Schema.reference MemberKind.event.definition).violations clickJson = [] := rfl
  obtain ⟨m, hd, he, -⟩ := decode_of_violations_eq_nil hc
  exact ⟨⟨hs, decode_of_violations_eq_nil hs⟩, hc, m, hd, he⟩

end Member

end ApiDocs
