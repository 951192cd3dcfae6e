import ApiDocs.Json.Decode
import ApiDocs.Record.Api

/-!
# Records as JSON

How records, members and summaries are written as JSON and read back. What a member does not have is
left out, and so are empty lists of parameters and empty collections.
-/

namespace ApiDocs

open Json

/-- An entry whose value may be left out. -/
def optionalEntry (key : String) (value : Option Json) : List (String × Json) :=
  (value.map fun value => (key, value)).toList

/-- An entry whose value is left out when it is an empty list. -/
def listEntry (key : String) : List Json → List (String × Json)
  | [] => []
  | items => [(key, .array items)]

def stringsJson (names : List String) : Json :=
  .array (names.map .string)

def PossibleValue.toJson (v : PossibleValue) : Json :=
  .object [("value", .string v.value), ("description", .string v.description)]

mutual

def Parameter.toJson : Parameter → Json
  | ⟨name, type, description, required, possibleValues, properties⟩ =>
    .object
      ([("name", .string name), ("type", .string type), ("description", .string description)] ++
        optionalEntry "required" (required.map .bool) ++
        optionalEntry "possibleValues"
          (possibleValues.map fun values => .array (values.map PossibleValue.toJson)) ++
        propertiesEntry properties)

def propertiesEntry : Option (List Parameter) → List (String × Json)
  | none => []
  | some properties => [("properties", .array (parametersJson properties))]

def parametersJson : List Parameter → List Json
  | [] => []
  | parameter :: rest => parameter.toJson :: parametersJson rest

end

def Member.toJson (m : Member) : Json :=
  .object
    ([("name", .string m.name)] ++
      optionalEntry "signature" (m.signature.map .string) ++
      optionalEntry "signatureParameters" (m.signatureParameters.map stringsJson) ++
      [("description", .string m.description)] ++
      optionalEntry "platforms"
        (m.platforms.map fun platforms => stringsJson (platforms.map Platform.name)) ++
      listEntry "parameters" (parametersJson m.parameters) ++
      listEntry "returns" (parametersJson m.returns))

def Process.toJson (p : Process) : Json :=
  .object [("main", .bool p.main), ("renderer", .bool p.renderer)]

/-- The entries of the collections of a record. -/
def Api.collectionEntries (api : Api) : List (String × Json) :=
  Collection.all.flatMap fun collection =>
    listEntry collection.key ((api.collection collection).map Member.toJson)

def Api.toJson (api : Api) : Json :=
  .object
    ([("name", .string api.name), ("slug", .string api.slug), ("type", .string api.kind.name),
        ("version", .string api.version), ("description", .string api.description),
        ("process", api.process.toJson), ("websiteUrl", .string api.websiteUrl),
        ("repoUrl", .string api.repoUrl)] ++
      api.collectionEntries)

def ApiSummary.toJson (s : ApiSummary) : Json :=
  .object
    [("name", .string s.name), ("slug", .string s.slug), ("type", .string s.kind.name),
      ("version", .string s.version)]

def Platform.decode : Json → Decoded Platform :=
  decodeName ["macOS", "Windows", "Linux"] ofName?

def ApiKind.decode : Json → Decoded ApiKind :=
  decodeName ["Module", "Class"] ofName?

def PossibleValue.shape : RecordShape :=
  ⟨"PossibleValue", 2⟩

def PossibleValue.decode : Json → Decoded PossibleValue
  | .object entries => do
    let description ← field? entries "description" decodeString
    let value ← field? entries "value" decodeString
    return { value := ← require "value" value, description := ← require "description" description }
  | .array items => do
    let value ← item shape items 0 decodeString
    let description ← item shape items 1 decodeString
    noMore shape items
    return { value, description }
  | value => notRecord shape value

def Parameter.shape : RecordShape :=
  ⟨"Parameter", 6⟩

def decodePossibleValues : Json → Decoded (Option (List PossibleValue)) :=
  decodeOption (decodeList PossibleValue.decode)

mutual

def Parameter.decode : Json → Decoded Parameter
  | .object entries => do
    let description ← field? entries "description" decodeString
    let name ← field? entries "name" decodeString
    let possibleValues ← field? entries "possibleValues" decodePossibleValues
    let properties ←
      match h : Dict.get? "properties" entries with
      | some value =>
        have := sizeOf_lookup h
        decodeProperties value
      | none => pure none
    let required ← field? entries "required" (decodeOption decodeBool)
    let type ← field? entries "type" decodeString
    return {
      name := ← require "name" name
      type := ← require "type" type
      description := ← require "description" description
      required := required.join
      possibleValues := possibleValues.join
      properties }
  | .array items => do
    let name ← item Parameter.shape items 0 decodeString
    let type ← item Parameter.shape items 1 decodeString
    let description ← item Parameter.shape items 2 decodeString
    let required ← item? items 3 (decodeOption decodeBool)
    let possibleValues ← item? items 4 decodePossibleValues
    let properties ←
      match h : items[5]? with
      | some value =>
        have := sizeOf_getElem? h
        decodeProperties value
      | none => pure none
    noMore Parameter.shape items
    return {
      name, type, description, required := required.join, possibleValues := possibleValues.join
      properties }
  | value => notRecord Parameter.shape value
termination_by value => sizeOf value

def decodeProperties : Json → Decoded (Option (List Parameter))
  | .null => .ok none
  | .array items => (decodeParameters items).map some
  | value => .error (.invalidType value "a sequence")
termination_by value => sizeOf value

/-- Reads each item of a list as a parameter. -/
def decodeParameters : List Json → Decoded (List Parameter)
  | [] => .ok []
  | value :: rest => do
    let parameter ← Parameter.decode value
    return parameter :: (← decodeParameters rest)
termination_by items => sizeOf items

end

def Member.shape : RecordShape :=
  ⟨"Member", 7⟩

def decodeParameterList : Json → Decoded (List Parameter)
  | .array items => decodeParameters items
  | value => .error (.invalidType value "a sequence")

def Member.decode : Json → Decoded Member
  | .object entries => do
    let description ← field? entries "description" decodeString
    let name ← field? entries "name" decodeString
    let parameters ← field? entries "parameters" decodeParameterList
    let platforms ← field? entries "platforms" (decodeOption (decodeList Platform.decode))
    let returns ← field? entries "returns" decodeParameterList
    let signature ← field? entries "signature" (decodeOption decodeString)
    let signatureParameters ←
      field? entries "signatureParameters" (decodeOption (decodeList decodeString))
    return {
      name := ← require "name" name
      signature := signature.join
      signatureParameters := signatureParameters.join
      description := ← require "description" description
      platforms := platforms.join
      parameters := parameters.getD []
      returns := returns.getD [] }
  | .array items => do
    let name ← item shape items 0 decodeString
    let signature ← item? items 1 (decodeOption decodeString)
    let signatureParameters ← item? items 2 (decodeOption (decodeList decodeString))
    let description ← item shape items 3 decodeString
    let platforms ← item? items 4 (decodeOption (decodeList Platform.decode))
    let parameters ← item? items 5 decodeParameterList
    let returns ← item? items 6 decodeParameterList
    noMore shape items
    return {
      name, signature := signature.join, signatureParameters := signatureParameters.join
      description, platforms := platforms.join
      parameters := parameters.getD [], returns := returns.getD [] }
  | value => notRecord shape value

def ApiSummary.shape : RecordShape :=
  ⟨"ApiSummary", 4⟩

def ApiSummary.decode : Json → Decoded ApiSummary
  | .object entries => do
    let name ← field? entries "name" decodeString
    let slug ← field? entries "slug" decodeString
    let kind ← field? entries "type" ApiKind.decode
    let version ← field? entries "version" decodeString
    return {
      name := ← require "name" name
      slug := ← require "slug" slug
      kind := ← require "type" kind
      version := ← require "version" version }
  | .array items => do
    let name ← item shape items 0 decodeString
    let slug ← item shape items 1 decodeString
    let kind ← item shape items 2 ApiKind.decode
    let version ← item shape items 3 decodeString
    noMore shape items
    return { name, slug, kind, version }
  | value => notRecord shape value

def ApiSummary.decodeAll : Json → Decoded (List ApiSummary) :=
  decodeList decode

end ApiDocs
