import ApiDocs.Json.Basic
import ApiDocs.Numeric.Shortest
import ApiDocs.Text.Quoted

/-!
# Decoding JSON values

A value is decoded into a type of its own, or the decoder says what it found and what it expected. A
record may be an object or the list of its fields in order. The fields of an object are decoded in
the order of their keys, and a field that is missing counts after all that are there.
-/

namespace ApiDocs.Json

/-- Why a value is not of the expected form. -/
inductive DecodeError where
  | invalidType (found : Json) (expected : String)
  | invalidValue (found : Json) (expected : String)
  | invalidLength (length : Nat) (expected : String)
  | missingField (name : String)
  | unknownVariant (name : String) (known : List String)

def description : Json → String
  | null => "null"
  | bool b => s!"boolean `{b}`"
  | integer n => s!"integer `{n}`"
  | real x => s!"floating point `{x.pointedText}`"
  | string s => "string " ++ Text.quoted s
  | array _ => "sequence"
  | object _ => "map"

def listedNames (names : List String) : String :=
  ", ".intercalate (names.map fun name => s!"`{name}`")

/-- What is known instead of an unknown name. -/
def knownNames : List String → String
  | [one] => s!"`{one}`"
  | [one, other] => s!"`{one}` or `{other}`"
  | names => s!"one of {listedNames names}"

def DecodeError.message : DecodeError → String
  | invalidType found expected => s!"invalid type: {found.description}, expected {expected}"
  | invalidValue found expected => s!"invalid value: {found.description}, expected {expected}"
  | invalidLength length expected => s!"invalid length {length}, expected {expected}"
  | missingField name => s!"missing field `{name}`"
  | unknownVariant name known =>
    s!"unknown variant `{name}`, expected {knownNames known}"

/-- A value decoded into a type, or why it is not of the expected form. -/
abbrev Decoded (α : Type) :=
  Except DecodeError α

def decodeString : Json → Decoded String
  | string s => .ok s
  | value => .error (.invalidType value "a string")

def decodeBool : Json → Decoded Bool
  | bool b => .ok b
  | value => .error (.invalidType value "a boolean")

def decodeList {α : Type} (decode : Json → Decoded α) : Json → Decoded (List α)
  | array items => items.mapM decode
  | value => .error (.invalidType value "a sequence")

def decodeOption {α : Type} (decode : Json → Decoded α) : Json → Decoded (Option α)
  | null => .ok none
  | value => (decode value).map some

/-- Decodes one of several names; it may also be the key of an object whose value is null. -/
def decodeName {α : Type} (known : List String) (ofName? : String → Option α) :
    Json → Decoded α
  | string name =>
    match ofName? name with
    | some value => .ok value
    | none => .error (.unknownVariant name known)
  | object [(name, content)] =>
    match ofName? name, content with
    | some value, null => .ok value
    | some _, content => .error (.invalidType content "unit")
    | none, _ => .error (.unknownVariant name known)
  | object entries => .error (.invalidValue (object entries) "map with a single key")
  | value => .error (.invalidType value "string or map")

def field? {α : Type} (entries : List (String × Json)) (key : String) (decode : Json → Decoded α) :
    Decoded (Option α) :=
  match Dict.get? key entries with
  | some value => (decode value).map some
  | none => .ok none

def require {α : Type} (key : String) : Option α → Decoded α
  | some value => .ok value
  | none => .error (.missingField key)

/-- The shape of a record: its name and the number of its fields. -/
structure RecordShape where
  name : String
  size : Nat

/-- The item of a list at the place of a field, when it is there. -/
def item? {α : Type} (items : List Json) (index : Nat) (decode : Json → Decoded α) :
    Decoded (Option α) :=
  match items[index]? with
  | some value => (decode value).map some
  | none => .ok none

def item {α : Type} (shape : RecordShape) (items : List Json) (index : Nat)
    (decode : Json → Decoded α) : Decoded α :=
  match items[index]? with
  | some value => decode value
  | none => .error (.invalidLength index s!"struct {shape.name} with {shape.size} elements")

/-- Refuses a list with more items than the record has fields. -/
def noMore (shape : RecordShape) (items : List Json) : Decoded Unit :=
  if shape.size < items.length then
    .error (.invalidLength items.length "fewer elements in array")
  else .ok ()

def notRecord {α : Type} (shape : RecordShape) (value : Json) : Decoded α :=
  .error (.invalidType value s!"struct {shape.name}")

theorem sizeOf_lookup {key : String} {value : Json} :
    {entries : List (String × Json)} → Dict.get? key entries = some value →
      sizeOf value < sizeOf entries
  | [], h => by simp [Dict.get?] at h
  | (k, v) :: rest, h => by
    simp only [Dict.get?, List.lookup_cons] at h
    split at h
    · cases h
      simp +arith
    · have := sizeOf_lookup h
      simp only [List.cons.sizeOf_spec, Prod.mk.sizeOf_spec]
      omega

theorem sizeOf_getElem? {value : Json} {items : List Json} {index : Nat}
    (h : items[index]? = some value) : sizeOf value < sizeOf items :=
  List.sizeOf_lt_of_mem (List.mem_of_getElem? h)

end ApiDocs.Json
