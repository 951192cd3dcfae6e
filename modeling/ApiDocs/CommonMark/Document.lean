import ApiDocs.CommonMark.Block
import ApiDocs.CommonMark.Inline
import ApiDocs.Markup.Tree

/-!
# CommonMark documents

The events of a document and the blocks they write down. In a tight list the text of an item has no
paragraph around it.
-/

namespace ApiDocs.CommonMark

/-- The empty text that the number signs closing a heading leave behind, unless a link or a tag with
such an end stands before them. -/
def closingText (content : List Symbol) (closed : Bool) : List Event :=
  match content.getLast? with
  | some (.char ')') | some (.char '>') => []
  | _ => if closed then [.text ""] else []

mutual

/-- The events of a block; `bare` says that a paragraph stands in an item of a tight list. -/
def Node.events (definitions : List Definition) (bare : Bool) : Node → List Event
  | .paragraph content =>
    let text := inlineEvents definitions content
    if bare then text else Emphasis.wrapped .paragraph text
  | .heading level content closed =>
    Emphasis.wrapped (.heading level)
      (inlineEvents definitions content ++ closingText content closed)
  | .rule => [.rule]
  | .code text =>
    Emphasis.wrapped .codeBlock (if text.isEmpty then [] else [.text (String.ofList text)])
  | .html => Emphasis.wrapped .htmlBlock []
  | .quote children => Emphasis.wrapped .quote (nodesEvents definitions false children)
  | .list ordered tight items =>
    Emphasis.wrapped (.list ordered) (itemsEvents definitions tight items)

def nodesEvents (definitions : List Definition) (bare : Bool) : List Node → List Event
  | [] => []
  | node :: rest => node.events definitions bare ++ nodesEvents definitions bare rest

def itemsEvents (definitions : List Definition) (tight : Bool) : List (List Node) → List Event
  | [] => []
  | item :: rest =>
    Emphasis.wrapped .item (nodesEvents definitions tight item) ++
      itemsEvents definitions tight rest

end

def events (s : String) : List Event :=
  let outlined := Outlined.ofText s.toList
  nodesEvents outlined.definitions false outlined.nodes

end ApiDocs.CommonMark

namespace ApiDocs

def Block.ofText (s : String) : List Block :=
  Block.ofEvents (CommonMark.events s)

end ApiDocs
