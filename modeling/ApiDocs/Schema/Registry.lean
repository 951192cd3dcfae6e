import ApiDocs.Json.Reader
import ApiDocs.Record.Codec
import ApiDocs.Schema.Check
import ApiDocs.Schema.Text

/-!
# Named schemas and baselines

The schemas that values are checked against, by name. A baseline is a text that lists summaries; it
is checked before it is read.
-/

namespace ApiDocs

inductive SchemaName where
  | api
  | baseline
deriving DecidableEq, Repr

namespace SchemaName

def all : List SchemaName :=
  [api, baseline]

def text : SchemaName → String
  | api => "api"
  | baseline => "baseline"

def ofText? (s : String) : Option SchemaName :=
  all.find? fun name => name.text == s

def schema : SchemaName → Schema
  | api => .api
  | baseline => .summaries

/-- The written form of the schema of a name. -/
def document : SchemaName → Json
  | api =>
    Schema.api.document .draft7 "Api"
      (some "One documented module or class extracted from markdown API docs.")
      [.platforms, .method, .event, .property, .possibleValue, .argument, .payload]
  | baseline =>
    Schema.summaries.document .draft2020 "Array_of_ApiSummary" none [.apiSummary, .apiKind]

end SchemaName

inductive SchemaError where
  | notFound (name : String)
  | invalid (violations : List Violation)
  | unreadable (error : Json.SyntaxError)
  | undecoded (error : Json.DecodeError)

/-- The wording of the cause, without what it is the cause of. -/
def SchemaError.cause? : SchemaError → Option String
  | unreadable error => some error.message
  | undecoded error => some error.message
  | _ => none

def SchemaError.message : SchemaError → String
  | notFound name => s!"schema not found: {name}"
  | invalid violations =>
    "validation failed: " ++ "; ".intercalate (violations.map fun v => v.message)
  | unreadable error => s!"invalid JSON: {error.message}"
  | undecoded error => s!"invalid JSON: {error.message}"

/-- Checks a value against the schema of a name. -/
def validate (name : String) (value : Json) : Except SchemaError Unit :=
  match SchemaName.ofText? name with
  | none => .error (.notFound name)
  | some name =>
    match name.schema.violations value with
    | [] => .ok ()
    | violations => .error (.invalid violations)

def readBaseline (text : String) : Except SchemaError (List ApiSummary) := do
  let value ← (Json.parse text).mapError .unreadable
  validate SchemaName.baseline.text value
  (ApiSummary.decodeAll value).mapError .undecoded

/-- Lists the violations of a record. -/
abbrev Validator :=
  Json → List String

def Validator.acceptAll : Validator :=
  fun _ => []

def Validator.api : Validator :=
  fun record => (Schema.api.violations record).map Violation.message

end ApiDocs
