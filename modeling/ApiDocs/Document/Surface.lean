import ApiDocs.Document.Defect
import ApiDocs.Document.Outline
import ApiDocs.Slug

/-!
# Surfaces of documents

A document declares a module by its top heading and classes by headings such as `Class: Tray`. A
class inside a class is not declared by itself. Where a class has the name of the module, it stands
for the module and takes over its members. The sections right under a declaration whose titles are
labels hold its members.
-/

namespace ApiDocs

/-- A module or class that a document declares. -/
structure Surface where
  name : String
  kind : ApiKind
  body : List Block
  /-- The blocks under the top heading of the document, for what the body does not say. -/
  preamble : List Block
  /-- Whether the class stands for the module of its name. -/
  merged : Bool
  sections : List (Collection × Section)
  defects : List Defect
deriving Repr

def className? (title : String) : Option String :=
  match Text.after? "Class:" (Text.trim title.toList) with
  | some rest => (Text.words rest).head?.map String.ofList
  | none => none

/-- Whether a heading is the name of a module as it stands. -/
def isIdentifier (title : String) : Bool :=
  title != "" && title.toList.all fun c => Unicode.isAlphanumeric c || c == '_' || c == '$'

/-- The name of a module: its heading where that is one, else the stem of the file in camel form. -/
def moduleName (title stem : String) : String :=
  if isIdentifier title then title else camel stem

namespace Section

/-- The sections right under a heading that hold members. -/
def labeled (s : Section) : List (Collection × Section) :=
  s.children.filterMap fun child =>
    (Collection.ofLabel? child.titleText).map fun collection => (collection, child)

structure ClassHeading where
  name : String
  place : Placed

def classHeading? (path : List Nat) (s : Section) : Option ClassHeading :=
  (className? s.titleText).map fun name => ⟨name, ⟨path, s⟩⟩

mutual

/-- The classes that a section and those below it declare, in the order of the document. -/
def classesAt (path : List Nat) : Section → List ClassHeading
  | ⟨level, title, body, children⟩ =>
    match classHeading? path ⟨level, title, body, children⟩ with
    | some found => [found]
    | none => classesAll path 0 children

/-- The classes that the sections of a list declare, `n` siblings standing before it. -/
def classesAll (path : List Nat) (n : Nat) : List Section → List ClassHeading
  | [] => []
  | child :: rest => classesAt (path ++ [n]) child ++ classesAll path (n + 1) rest

end

def classes (root : Section) : List ClassHeading :=
  classesAll [] 0 root.children

end Section

namespace Surface

def undeclared (root : Section) (stem : String) : Surface :=
  ⟨camel stem, .moduleApi, root.body, [], false, [], [.missingDeclaration]⟩

def ofModule (name : String) (top : Section) : Surface :=
  ⟨name, .moduleApi, top.body, [], false, top.labeled, []⟩

/-- The surface of a class in a document with the given top heading; `merged` says that the class
stands for the module. -/
def ofClass (top : Placed) (merged : Bool) (found : Section.ClassHeading) : Surface :=
  { name := found.name
    kind := .classApi
    body := found.place.entry.body
    preamble := if found.place.path = top.path then [] else top.entry.body
    merged
    sections := found.place.entry.labeled ++ if merged then top.entry.labeled else []
    defects := [] }

/-- The surfaces of a document: the module, unless a class stands for it or heads the document, then
the classes. -/
def ofOutline (root : Section) (stem : String) : List Surface :=
  match root.top? with
  | none => [undeclared root stem]
  | some top =>
    let name := moduleName top.entry.titleText stem
    let classes := root.classes
    let headed := (className? top.entry.titleText).isNone
    let standsIn := fun (found : Section.ClassHeading) => headed && found.name == name
    let module :=
      if headed && !classes.any (fun found => found.name == name) then
        [ofModule name top.entry]
      else []
    module ++ classes.map fun found => ofClass top (standsIn found) found

end Surface

end ApiDocs
