import ApiDocs.Document.Bullet
import ApiDocs.Document.Defect
import ApiDocs.Record.Member

/-!
# Parameters in documents

Each item of a list documents a parameter. A list inside the item documents properties when the type
is structured and the description does not announce possible values, and possible values otherwise.
An item that cannot be read is left out and gives a defect.
-/

namespace ApiDocs

/-- How it is decided whether a parameter is required. -/
inductive Requirement where
  /-- Nothing is said. -/
  | untracked
  /-- Parameters with these names may be left out, and those marked so. -/
  | tracked (optional : List String)
deriving DecidableEq, Repr

namespace Requirement

def required (requirement : Requirement) (name : String) (marked : Bool) : Option Bool :=
  match requirement with
  | untracked => none
  | tracked optional => some !(marked || optional.contains name)

/-- The rule for properties, which only their own marks make optional. -/
def nested : Requirement → Requirement
  | untracked => untracked
  | tracked _ => tracked []

end Requirement

/-- Types whose nested list documents properties. -/
def structuredTypes : List String :=
  ["Object", "Event", "Function"]

def describesProperties (type description : String) : Bool :=
  structuredTypes.contains type &&
    !Text.holds "possible values".toList (Text.asciiLower description.toList)

def PossibleValue.ofLead : List Inline → PossibleValue
  | .code code :: rest =>
    ⟨trimmed code, String.ofList (afterDash (richText rest).toList)⟩
  | lead =>
    let text := (plainText lead).toList
    match Text.cut? " - ".toList text with
    | some (value, rest) => ⟨String.ofList (Text.trim value), String.ofList (Text.trim rest)⟩
    | none => ⟨String.ofList (Text.trim text), ""⟩

def possibleValues (member parameter : String) :
    List (List Block) → List PossibleValue × List Defect
  | [] => ([], [])
  | item :: rest =>
    let (values, defects) := possibleValues member parameter rest
    let lead := Block.lead item
    let value := PossibleValue.ofLead lead
    if value.value = "" then
      (values, .unparsablePossibleValue member parameter (plainText lead) :: defects)
    else (value :: values, defects)

/-- The parameter of a bullet without what a nested list says. -/
def Bullet.parameter (bullet : Bullet) (requirement : Requirement) : Parameter :=
  let (description, marked) := Bullet.description bullet.rest
  { name := bullet.name
    type := bullet.type
    description
    required := requirement.required bullet.name marked
    possibleValues := none
    properties := none }

def BulletFault.defect (member : String) : BulletFault → Defect
  | noName text => .unparsableParameter member text
  | noType name => .missingType member name

mutual

/-- The parameter with what the first list among the blocks of its item says. -/
def nestedDocs (member : String) (requirement : Requirement) (parameter : Parameter) :
    List Block → Parameter × List Defect
  | [] => (parameter, [])
  | .list _ items :: _ =>
    if describesProperties parameter.type parameter.description then
      let (properties, defects) :=
        parametersOf s!"{member}.{parameter.name}" requirement.nested items
      ({ parameter with properties := some properties }, defects)
    else
      let (values, defects) := possibleValues member parameter.name items
      ({ parameter with possibleValues := some values }, defects)
  | _ :: rest => nestedDocs member requirement parameter rest

/-- The parameters that a list documents, and the defects met. -/
def parametersOf (member : String) (requirement : Requirement) :
    List (List Block) → List Parameter × List Defect
  | [] => ([], [])
  | item :: rest =>
    let (parameters, defects) := parametersOf member requirement rest
    match Bullet.ofItem item with
    | .error fault => (parameters, fault.defect member :: defects)
    | .ok bullet =>
      let (parameter, found) := nestedDocs member requirement (bullet.parameter requirement) item
      (parameter :: parameters, found ++ defects)

end

end ApiDocs
