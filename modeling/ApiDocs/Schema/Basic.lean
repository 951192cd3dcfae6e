import ApiDocs.Json.Printer
import ApiDocs.Slug

/-!
# Schemas

A schema says which JSON values have a form: strings, truth values, one of some names, lists and
objects. An object lists its fields; a closed one has no others. Parts that occur in several places
or inside themselves are definitions, which a schema refers to by name.
-/

namespace ApiDocs

/-- The forms of text that a schema can ask for. -/
inductive TextForm where
  | slug
  | parenthesized
deriving DecidableEq, Repr

def TextForm.pattern : TextForm → String
  | slug => "^[a-z0-9]+(-[a-z0-9]+)*$"
  | parenthesized => "^\\(.*\\)$"

/-- Whether a text stands between parentheses on one line. -/
def isParenthesized (s : List Char) : Bool :=
  2 ≤ s.length && s.head? == some '(' && s.getLast? == some ')' && !s.contains '\n'

def TextForm.matches : TextForm → String → Bool
  | slug, s => decide (Slug.IsSlug s)
  | parenthesized, s => isParenthesized s.toList

/-- The parts of schemas that have names. -/
inductive Definition where
  | platforms
  | method
  | event
  | property
  | possibleValue
  | argument
  | payload
  | apiSummary
  | apiKind
deriving DecidableEq, Repr

inductive Schema where
  /-- A string with at least so many characters. -/
  | text (least : Nat)
  | formed (form : TextForm)
  | flag
  /-- One of some names; `typed` asks for a string first. -/
  | choice (names : List String) (typed : Bool)
  | list (items : Schema) (least : Nat) (distinct : Bool)
  /-- An object with fields, some of which have to be there. -/
  | object (fields : List (String × Schema)) (required : List String) (closed : Bool)
  | reference (definition : Definition)
deriving Repr

namespace Schema

def filled : Schema :=
  text 1

def listOf (definition : Definition) : Schema :=
  list (reference definition) 0 false

/-- The object form with exactly the given fields. -/
def record (fields : List (String × Schema)) (required : List String) : Schema :=
  object fields required true

def api : Schema :=
  record
    [("name", filled), ("slug", formed .slug), ("type", choice ["Module", "Class"] false),
      ("version", filled), ("description", filled),
      ("process", record [("main", flag), ("renderer", flag)] ["main", "renderer"]),
      ("websiteUrl", filled), ("repoUrl", filled), ("methods", listOf .method),
      ("staticMethods", listOf .method), ("instanceMethods", listOf .method),
      ("instanceProperties", listOf .property), ("events", listOf .event),
      ("instanceEvents", listOf .event)]
    ["name", "slug", "type", "version", "description", "process", "websiteUrl", "repoUrl"]

def summaries : Schema :=
  listOf .apiSummary

end Schema

def Definition.schema : Definition → Schema
  | platforms => .list (.choice ["macOS", "Windows", "Linux"] false) 1 true
  | method =>
    .record
      [("name", .filled), ("signature", .formed .parenthesized),
        ("signatureParameters", .list .filled 0 false), ("description", .filled),
        ("platforms", .reference .platforms), ("parameters", .listOf .argument)]
      ["name", "signature", "signatureParameters", "description"]
  | event =>
    .record
      [("name", .filled), ("description", .filled), ("platforms", .reference .platforms),
        ("returns", .listOf .payload)]
      ["name", "description"]
  | property =>
    .record
      [("name", .filled), ("description", .filled), ("platforms", .reference .platforms)]
      ["name", "description"]
  | possibleValue =>
    .record [("value", .filled), ("description", .text 0)] ["value", "description"]
  | argument =>
    .record
      [("name", .filled), ("type", .filled), ("description", .text 0), ("required", .flag),
        ("possibleValues", .listOf .possibleValue), ("properties", .listOf .argument)]
      ["name", "type", "description", "required"]
  | payload =>
    .record
      [("name", .filled), ("type", .filled), ("description", .text 0),
        ("possibleValues", .listOf .possibleValue), ("properties", .listOf .payload)]
      ["name", "type", "description"]
  | apiSummary =>
    .object
      [("name", .text 0), ("slug", .text 0), ("type", .reference .apiKind), ("version", .text 0)]
      ["name", "slug", "type", "version"] false
  | apiKind => .choice ["Module", "Class"] true

/-- The form itself, a reference being followed. -/
def Schema.resolved : Schema → Schema
  | reference definition => definition.schema
  | schema => schema

end ApiDocs
