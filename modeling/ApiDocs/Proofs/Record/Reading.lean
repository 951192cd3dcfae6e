import ApiDocs.Proofs.Schema.Admitted

/-!
# Members read back

A member is read back from its written form, with every part that it has and none that it lacks: an
empty list stays apart from a missing one at every depth. So a second reading finds what the first
one found, whatever the value was that was read first.
-/

namespace ApiDocs

open Json (Decoded decodeString decodeBool decodeList decodeOption field? require sorted
  sortedEntries)

section Fields

variable {α : Type} {decode : Json → Decoded α} {encode : α → Json}
  {entries : List (String × Json)} {key : String}

/-- Whether a thing is read back from its written form, the entries of each object being put in the
order of their keys. -/
def Restored (decode : Json → Decoded α) (encode : α → Json) (a : α) : Prop :=
  decode (encode a).sorted = .ok a

theorem restored_list {as : List α} (h : ∀ a ∈ as, Restored decode encode a) :
    Restored (decodeList decode) (fun as => .array (as.map encode)) as := by
  rw [Restored, sorted, Json.sortedItems_eq_map, decodeList]
  induction as with
  | nil => rfl
  | cons a rest ih =>
    obtain ⟨ha, hr⟩ := List.forall_mem_cons.mp h
    rw [List.map_cons, List.map_cons, List.mapM_cons, show decode (encode a).sorted = .ok a from ha,
      ih hr]
    rfl

/-- A field of a written object is read back where its value is, and found missing where it is not
written. -/
theorem field?_written (hn : (Dict.keys entries).Nodup) {o : Option α}
    (hw : Dict.get? key entries = o.map encode) (h : ∀ a ∈ o, Restored decode encode a) :
    field? (Dict.ofList (sortedEntries entries)) key decode = .ok o := by
  rw [field?, Json.get?_sorted hn, hw]
  cases o with
  | none => rfl
  | some a => exact congrArg (Except.map some) (h a rfl)

/-- Where null stands for a missing value, a written value is not null. -/
theorem field?_written_option (hn : (Dict.keys entries).Nodup) {o : Option α}
    (hw : Dict.get? key entries = o.map encode) (hne : ∀ a, (encode a).sorted ≠ .null)
    (h : ∀ a ∈ o, Restored decode encode a) :
    field? (Dict.ofList (sortedEntries entries)) key (decodeOption decode) = .ok (o.map some) := by
  rw [field?, Json.get?_sorted hn, hw]
  cases o with
  | none => rfl
  | some a =>
    have ho : decodeOption decode (encode a).sorted = (decode (encode a).sorted).map some := by
      rw [decodeOption]
      exact hne a
    change (decodeOption decode (encode a).sorted).map some = _
    rw [ho, show decode (encode a).sorted = .ok a from h a rfl]
    rfl

/-- A list that is written only when something is in it is read back, a missing one as empty. -/
theorem field?_written_list (hn : (Dict.keys entries).Nodup) {as : List α}
    (hw : Dict.get? key entries = if as = [] then none else some (.array (as.map encode)))
    (h : ∀ a ∈ as, Restored decode encode a) :
    ∃ o, field? (Dict.ofList (sortedEntries entries)) key (decodeList decode) = .ok o ∧
      o.getD [] = as := by
  obtain ⟨o, ho, rfl⟩ : ∃ o : Option (List α),
      Dict.get? key entries = o.map (fun as => .array (as.map encode)) ∧ o.getD [] = as := by
    by_cases he : as = []
    · exact ⟨none, by rw [hw, if_pos he]; rfl, he.symm⟩
    · exact ⟨some as, by rw [hw, if_neg he]; rfl, rfl⟩
  refine ⟨o, field?_written hn ho fun written hm => ?_, rfl⟩
  rw [Option.mem_def.mp hm] at h
  exact restored_list h

end Fields

theorem restored_string (s : String) : Restored decodeString .string s :=
  rfl

theorem restored_bool (b : Bool) : Restored decodeBool .bool b :=
  rfl

theorem restored_strings (names : List String) :
    Restored (decodeList decodeString) stringsJson names :=
  restored_list fun name _ => restored_string name

theorem PossibleValue.restored (v : PossibleValue) : Restored decode toJson v :=
  rfl

namespace Parameter

theorem sizeOf_properties_lt {p : Parameter} {properties : List Parameter}
    (h : properties ∈ p.properties) : sizeOf properties < sizeOf p := by
  obtain ⟨name, type, description, required, values, _⟩ := p
  cases h
  simp only [mk.sizeOf_spec, Option.some.sizeOf_spec]
  omega

/-- A parameter is read back with what stands inside it. The recursion goes into its properties,
which are parameters again. -/
theorem restored (p : Parameter) : Restored decode toJson p := by
  have hn := p.nodup_keys_entries
  obtain ⟨en, et, ed, er, ev, ep⟩ := p.get?_entries
  have hname := field?_written hn (o := some p.name) en fun s _ => restored_string s
  have htype := field?_written hn (o := some p.type) et fun s _ => restored_string s
  have hdesc := field?_written hn (o := some p.description) ed fun s _ => restored_string s
  have hreq := field?_written_option hn er (fun b => nofun) fun b _ => restored_bool b
  have hval := field?_written_option hn ev (fun values => nofun) fun values _ =>
    restored_list fun v _ => v.restored
  have hprop := field?_written_option hn ep (fun properties => nofun) fun properties hp =>
    restored_list fun q hq => restored q
  rw [Restored, toJson_eq, sorted, decode_object, hdesc, hname, hval, hprop, hreq, htype]
  obtain ⟨name, type, description, required, values, properties⟩ := p
  cases required <;> cases values <;> cases properties <;> rfl
termination_by sizeOf p
decreasing_by exact Nat.lt_trans (List.sizeOf_lt_of_mem hq) (sizeOf_properties_lt hp)

end Parameter

theorem Platform.restored (platform : Platform) :
    Restored decode (fun platform => .string platform.name) platform := by
  cases platform <;> rfl

theorem restored_platforms (platforms : List Platform) :
    Restored (decodeList Platform.decode)
      (fun platforms => stringsJson (platforms.map Platform.name)) platforms := by
  have h : Restored (decodeList Platform.decode)
      (fun platforms => .array (platforms.map fun platform => .string platform.name)) platforms :=
    restored_list fun platform _ => platform.restored
  rw [Restored, stringsJson, List.map_map]
  exact h

namespace Member

theorem restored (m : Member) : Restored decode toJson m := by
  have hn := m.nodup_keys_entries
  obtain ⟨en, es, em, ed, ep, ea, er⟩ := m.get?_entries
  have hname := field?_written hn (o := some m.name) en fun s _ => restored_string s
  have hsign := field?_written_option hn es (fun s => nofun) fun s _ => restored_string s
  have hnames := field?_written_option hn em (fun names => nofun) fun names _ =>
    restored_strings names
  have hdesc := field?_written hn (o := some m.description) ed fun s _ => restored_string s
  have hplat := field?_written_option hn ep (fun platforms => nofun) fun platforms _ =>
    restored_platforms platforms
  obtain ⟨parameters, hparam, hp⟩ := field?_written_list hn ea fun p _ => p.restored
  obtain ⟨returns, hret, hr⟩ := field?_written_list hn er fun p _ => p.restored
  rw [Restored, toJson_eq, sorted, decode, hdesc, hname, decodeParameterList_eq, hparam, hplat,
    hret, hsign, hnames]
  obtain ⟨name, signature, names, description, platforms, _, _⟩ := m
  subst hp hr
  cases signature <;> cases names <;> cases platforms <;> rfl

theorem restored_all (members : List Member) :
    Restored (decodeList decode) (fun members => .array (members.map toJson)) members :=
  restored_list fun m _ => m.restored

/-- Members and lists of members are read back from their written forms. So writing what a value was
read as and reading it again gives what was read at first, and where the value could not be read
there is nothing to write. -/
theorem decode_toJson :
    (∀ m : Member, decode m.toJson.sorted = .ok m) ∧
    (∀ members : List Member,
      decodeList decode (Json.array (members.map toJson)).sorted = .ok members) ∧
    (∀ value : Json, (do let m ← decode value; decode m.toJson.sorted) = decode value) ∧
    ∀ value : Json,
      (do
        let members ← decodeList decode value
        decodeList decode (Json.array (members.map toJson)).sorted) = decodeList decode value := by
  refine ⟨restored, restored_all, fun value => ?_, fun value => ?_⟩
  · cases decode value with
    | error e => rfl
    | ok m => exact m.restored
  · cases decodeList decode value with
    | error e => rfl
    | ok members => exact restored_all members

/-- A parameter may be written as the list of its fields, a missing part as null, and a key that no
part has is passed over. -/
example :
    decode (.object
      [("description", .string ""), ("name", .string "exit"), ("note", .bool true),
        ("parameters", .array
          [.array [.string "code", .string "Integer", .string "", .null, .array []]]),
        ("signature", .null)]) =
      .ok ⟨"exit", none, none, "", none, [⟨"code", "Integer", "", none, some [], none⟩], []⟩ := by
  cbv

end Member

end ApiDocs
