import ApiDocs.Document.Lint

/-!
# Localized documents

A localized document goes with the first summary whose slug, given or derived, is the stem of its
file. Its top heading has to hold the name of that API.
-/

namespace ApiDocs

structure LocalizedCheck where
  canonical : String
  name : String
  expected : String
  errors : List String
deriving DecidableEq, Repr

namespace Block

def headingText? (level : Nat) : Block → Option String
  | heading l title => if l = level then some (plainText title) else none
  | _ => none

/-- The text of the first heading of level one, else of level two, else nothing. -/
def topHeading (blocks : List Block) : String :=
  ((blocks.findSome? (headingText? 1)) <|> blocks.findSome? (headingText? 2)).getD ""

end Block

namespace LocalizedCheck

/-- The error where a heading does not hold the expected name. -/
def headingError (expected name : String) : String :=
  s!"expected '{expected}' Heading but found '{name}'"

def ofBlocks (canonical : String) (blocks : List Block) (aliases : Aliases) : LocalizedCheck :=
  let name := Block.topHeading blocks
  let expected := aliases.expectedName canonical
  { canonical
    name
    expected
    errors :=
      if Text.holds expected.toList name.toList then [] else [headingError expected name] }

def ofText (canonical markdown : String) (aliases : Aliases) : LocalizedCheck :=
  ofBlocks canonical (Block.ofText markdown) aliases

def valid (check : LocalizedCheck) : Bool :=
  check.errors.isEmpty

def report (check : LocalizedCheck) : String :=
  ApiDocs.report check.canonical check.errors

end LocalizedCheck

/-- The summary that a document goes with. -/
def counterpart? (baseline : List ApiSummary) (stem : String) : Option ApiSummary :=
  baseline.find? fun summary => summary.slug == stem || Slug.ofName summary.name == stem

/-- Checks the documents that go with a summary. -/
def checkLocalized (docs : List SourceDoc) (baseline : List ApiSummary) (aliases : Aliases) :
    List LocalizedCheck :=
  docs.filterMap fun doc =>
    (counterpart? baseline doc.stem).map fun summary =>
      .ofText summary.name doc.markdown aliases

end ApiDocs
