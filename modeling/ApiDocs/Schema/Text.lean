import ApiDocs.Schema.Basic

/-!
# Schemas as JSON

The written form of schemas. The schema of records keeps its definitions under one key and dialect,
that of summaries under another.
-/

namespace ApiDocs

/-- How a schema writes its dialect and refers to its definitions. -/
structure SchemaDialect where
  uri : String
  definitionsKey : String

/-- The dialect of the schema of records. -/
def SchemaDialect.draft7 : SchemaDialect :=
  ⟨"http://json-schema.org/draft-07/schema#", "definitions"⟩

/-- The dialect of the schema of summaries. -/
def SchemaDialect.draft2020 : SchemaDialect :=
  ⟨"https://json-schema.org/draft/2020-12/schema", "$defs"⟩

namespace Definition

def name : Definition → String
  | platforms => "platforms"
  | method => "method"
  | event => "event"
  | property => "property"
  | possibleValue => "possibleValue"
  | argument => "argument"
  | payload => "payload"
  | apiSummary => "ApiSummary"
  | apiKind => "ApiType"

def note? : Definition → Option String
  | apiSummary =>
    some ("The part of a persisted API record a translation check needs. Extra fields in\n" ++
      "the persisted file are ignored.")
  | apiKind => some "Whether a documented surface is a module or a class."
  | _ => none

end Definition

namespace Schema

def entryIf (condition : Bool) (key : String) (value : Json) : List (String × Json) :=
  if condition then [(key, value)] else []

def typeEntry (name : String) : String × Json :=
  ("type", .string name)

def namesJson (names : List String) : Json :=
  .array (names.map .string)

mutual

/-- The entries that write a schema. -/
def entries (dialect : SchemaDialect) : Schema → List (String × Json)
  | text least => typeEntry "string" :: entryIf (0 < least) "minLength" (.integer least)
  | formed form => [typeEntry "string", ("pattern", .string form.pattern)]
  | flag => [typeEntry "boolean"]
  | choice names typed =>
    ("enum", namesJson names) :: if typed then [typeEntry "string"] else []
  | list item least distinct =>
    [typeEntry "array", ("items", .object (item.entries dialect))] ++
      entryIf (0 < least) "minItems" (.integer least) ++
      entryIf distinct "uniqueItems" (.bool true)
  | object fields required closed =>
    [typeEntry "object", ("properties", .object (fieldEntries dialect fields)),
        ("required", namesJson required)] ++
      entryIf closed "additionalProperties" (.bool false)
  | reference definition =>
    [("$ref", .string s!"#/{dialect.definitionsKey}/{definition.name}")]

def fieldEntries (dialect : SchemaDialect) : List (String × Schema) → List (String × Json)
  | [] => []
  | (key, schema) :: rest =>
    (key, .object (schema.entries dialect)) :: fieldEntries dialect rest

end

def definitionEntry (dialect : SchemaDialect) (definition : Definition) : String × Json :=
  let note := definition.note?.map fun note => ("description", Json.string note)
  (definition.name, .object (note.toList ++ definition.schema.entries dialect))

def document (schema : Schema) (dialect : SchemaDialect) (title : String) (note : Option String)
    (definitions : List Definition) : Json :=
  .object
    ([("$schema", .string dialect.uri), ("title", .string title)] ++
      (note.map fun note => ("description", Json.string note)).toList ++
      schema.entries dialect ++
      [(dialect.definitionsKey, .object (definitions.map (definitionEntry dialect)))])

end Schema

end ApiDocs
