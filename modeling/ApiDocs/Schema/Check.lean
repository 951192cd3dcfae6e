import ApiDocs.Schema.Basic

/-!
# Checking values against schemas

A check lists every place where a value departs from its schema. The entries of an object are
checked in the order of their keys, then those that are not allowed and those that are missing are
named.
-/

namespace ApiDocs

/-- A departure of a value from its schema. -/
inductive Violation where
  | wrongType (value : Json) (expected : String)
  | tooShort (value : Json) (least : Nat)
  | tooFew (value : Json) (least : Nat)
  | repeated (value : Json)
  | unmatched (value : Json) (pattern : String)
  | notAmong (value : Json) (names : List String)
  | missing (key : String)
  | unexpected (keys : List String)

namespace Violation

/-- A number of things, with the plural of their name where it is not one. -/
def counted (n : Nat) (one : String) : String :=
  if n = 1 then s!"{n} {one}" else s!"{n} {one}s"

def unexpectedKeys (keys : List String) : String :=
  let quoted := ", ".intercalate (keys.map fun key => s!"'{key}'")
  if keys.length = 1 then s!"{quoted} was unexpected" else s!"{quoted} were unexpected"

def message : Violation → String
  | wrongType value expected => s!"{value.compact} is not of type \"{expected}\""
  | tooShort value least => value.compact ++ " is shorter than " ++ counted least "character"
  | tooFew value least => value.compact ++ " has less than " ++ counted least "item"
  | repeated value => s!"{value.compact} has non-unique elements"
  | unmatched value pattern => s!"{value.compact} does not match \"{pattern}\""
  | notAmong value names =>
    s!"{value.compact} is not one of {(Json.array (names.map .string)).compact}"
  | missing key => s!"{String.ofList (Json.quoted key)} is a required property"
  | unexpected keys => s!"Additional properties are not allowed ({unexpectedKeys keys})"

end Violation

namespace Schema

def checkScalar (value : Json) : Schema → List Violation
  | text least =>
    match value with
    | .string s => if s.length < least then [.tooShort value least] else []
    | _ => [.wrongType value "string"]
  | formed form =>
    match value with
    | .string s => if form.matches s then [] else [.unmatched value form.pattern]
    | _ => [.wrongType value "string"]
  | flag =>
    match value with
    | .bool _ => []
    | _ => [.wrongType value "boolean"]
  | choice names typed =>
    match value with
    | .string s => if names.contains s then [] else [.notAmong value names]
    | _ => .notAmong value names :: if typed then [.wrongType value "string"] else []
  | list _ _ _ => [.wrongType value "array"]
  | object _ _ _ => [.wrongType value "object"]
  | reference _ => []

def checkLength (items : List Json) (least : Nat) (distinct : Bool) : List Violation :=
  (if items.length < least then [.tooFew (.array items) least] else []) ++
    if distinct && !Json.allDistinct items then [.repeated (.array items)] else []

/-- The keys of an object that has no such fields. -/
def unexpectedKeys (fields : List (String × Schema)) (entries : List (String × Json)) :
    List String :=
  (entries.map Prod.fst).filter fun key => (Dict.get? key fields).isNone

def checkKeys (fields : List (String × Schema)) (required : List String) (closed : Bool)
    (entries : List (String × Json)) : List Violation :=
  let unexpected := unexpectedKeys fields entries
  (if closed && !unexpected.isEmpty then [.unexpected unexpected] else []) ++
    (required.filter fun key => (Dict.get? key entries).isNone).map .missing

mutual

def check (schema : Schema) : Json → List Violation
  | .array items =>
    match schema.resolved with
    | list item least distinct => checkItems item items ++ checkLength items least distinct
    | schema => checkScalar (.array items) schema
  | .object entries =>
    match schema.resolved with
    | object fields required closed =>
      checkEntries fields entries ++ checkKeys fields required closed entries
    | schema => checkScalar (.object entries) schema
  | value => checkScalar value schema.resolved

def checkItems (item : Schema) : List Json → List Violation
  | [] => []
  | value :: rest => check item value ++ checkItems item rest

/-- The violations of the values of an object; those without a field of their key have none. -/
def checkEntries (fields : List (String × Schema)) : List (String × Json) → List Violation
  | [] => []
  | (key, value) :: rest =>
    (match Dict.get? key fields with
      | some field => check field value
      | none => []) ++
      checkEntries fields rest

end

/-- The violations of a value whose objects are put in the order of their keys. -/
def violations (schema : Schema) (value : Json) : List Violation :=
  check schema value.sorted

end Schema

end ApiDocs
