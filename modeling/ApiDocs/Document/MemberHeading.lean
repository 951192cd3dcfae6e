import ApiDocs.Markup.Flat
import ApiDocs.Record.Kind
import ApiDocs.Text.Basic

/-!
# Headings of members

A method is headed by its signature after its name, a property by its name, an event by its quoted
name after a word. The name is what follows the last point of a path. Emphasis in a heading names
the platforms of the member.
-/

namespace ApiDocs

/-- The name and signature that a heading gives; only methods have a signature. -/
structure MemberHeading where
  name : String
  signature : String
deriving DecidableEq, Repr

namespace MemberHeading

/-- The first code span of a heading, else its flat text. -/
def codeOrText (title : List Inline) : String :=
  let code? : Inline → Option String
    | .code s => some (trimmed s)
    | _ => none
  (title.findSome? code?).getD (plainText title)

def lastSegment (path : List Char) : List Char :=
  Text.trim (path.reverse.takeWhile (· != '.')).reverse

def named? (name signature : List Char) : Option MemberHeading :=
  if name.isEmpty then none else some ⟨String.ofList name, String.ofList signature⟩

/-- Reads `app.quit(code)`: the name before the first opening parenthesis, the signature from there
to the last closing one. -/
def ofMethod? (text : List Char) : Option MemberHeading :=
  let path := text.takeWhile (· != '(')
  let rest := text.dropWhile (· != '(')
  match (rest.reverse.dropWhile (· != ')')).reverse with
  | [] => none
  | signature => named? (lastSegment path) signature

/-- The name of an event: what stands between quotes, else the first word. -/
def eventName? (s : List Char) : Option (List Char) :=
  match s with
  | '\'' :: rest => (Text.cut? ['\''] rest).map Prod.fst
  | '"' :: rest => (Text.cut? ['"'] rest).map Prod.fst
  | s => (Text.words s).head?

def ofEvent? (text : List Char) : Option MemberHeading := do
  let rest ← Text.after? "Event:" (Text.trim text)
  let name ← eventName? (Text.trim rest)
  named? (Text.trim name) []

def ofTitle? (kind : MemberKind) (title : List Inline) : Option MemberHeading :=
  match kind with
  | .method => ofMethod? (codeOrText title).toList
  | .property => named? (lastSegment (codeOrText title).toList) []
  | .event => ofEvent? (plainText title).toList

end MemberHeading

/-- The platforms that emphasis in a heading names, in order of first mention. -/
def headingPlatforms (title : List Inline) : Option (List Platform) :=
  let platforms : Inline → List Platform
    | .emphasis content => (Platform.ofMarker? (plainText content)).getD []
    | _ => []
  match Platform.distinct (title.flatMap platforms) with
  | [] => none
  | found => some found

end ApiDocs
