import ApiDocs.Document.MemberHeading
import ApiDocs.Document.Outline
import ApiDocs.Document.Parameters
import ApiDocs.Document.Signature

/-!
# Members in documents

A section inside a labeled section documents a member. Its description is the first paragraph that
is no notice, the arguments of a method are its first list, and the payload of an event is the list
right after the notice of what it returns.
-/

namespace ApiDocs

def isProcessNotice (content : List Inline) : Bool :=
  "Process:".toList.isPrefixOf (plainText content).toList

def isReturnsNotice (content : List Inline) : Bool :=
  "Returns:".toList.isPrefixOf (plainText content).toList

namespace Block

/-- The text of a paragraph that is no notice. -/
def prose? : Block → Option String
  | paragraph content =>
    if isReturnsNotice content || isProcessNotice content then none else some (richText content)
  | _ => none

def memberDescription (body : List Block) : String :=
  (body.findSome? prose?).getD ""

def isReturnsParagraph : Block → Bool
  | paragraph content => isReturnsNotice content
  | _ => false

/-- The items of the list right after the first paragraph that announces a payload. -/
def payloadItems? (body : List Block) : Option (List (List Block)) :=
  match body.dropWhile fun block => !block.isReturnsParagraph with
  | _ :: next :: _ => next.items?
  | _ => none

end Block

namespace Section

def plainMember (s : Section) (name : String) : Member :=
  { name
    signature := none
    signatureParameters := none
    description := Block.memberDescription s.body
    platforms := headingPlatforms s.title
    parameters := []
    returns := [] }

/-- The arguments of a method with a signature; without names in it no list is read. -/
def arguments (s : Section) (member signature : String) : List Parameter × List Defect :=
  if (Signature.names signature).isEmpty then ([], [])
  else
    match Block.firstItems? s.body with
    | some items => parametersOf member (.tracked (Signature.optionalNames signature)) items
    | none => ([], [])

def method (s : Section) (heading : MemberHeading) (owner : String) : Member × List Defect :=
  let path := s!"{owner}.{heading.name}"
  let (parameters, defects) := s.arguments path heading.signature
  let member :=
    { s.plainMember heading.name with
      signature := some heading.signature
      signatureParameters := some (Signature.names heading.signature)
      parameters }
  (member,
    defects ++
      if member.lacksParameterDocs then [.undocumentedParameters path heading.signature] else [])

def event (s : Section) (heading : MemberHeading) (owner : String) : Member × List Defect :=
  match Block.payloadItems? s.body with
  | some items =>
    let (returns, defects) := parametersOf s!"{owner}.{heading.name}" .untracked items
    ({ s.plainMember heading.name with returns }, defects)
  | none => (s.plainMember heading.name, [])

/-- The member of a collection that a section documents, and the defects met. `owner` is the name of
the module or class. -/
def member (collection : Collection) (owner : String) (s : Section) :
    Option Member × List Defect :=
  match MemberHeading.ofTitle? collection.memberKind s.title with
  | none => (none, [.unparsableHeading collection s.titleText])
  | some heading =>
    let (member, defects) :=
      match collection.memberKind with
      | .method => s.method heading owner
      | .event => s.event heading owner
      | .property => (s.plainMember heading.name, [])
    (some member, defects)

end Section

end ApiDocs
