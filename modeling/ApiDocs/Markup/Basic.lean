/-!
# Marked-up documents

A document is a list of blocks: headings, paragraphs, lists, quotes and blocks of code. Text inside
a block is a list of inlines. Text that stands in a list item without a paragraph of its own is a
paragraph all the same, so an item that has text at its front starts with one.
-/

namespace ApiDocs

inductive Inline where
  | text (s : String)
  | code (s : String)
  | emphasis (content : List Inline)
  | strong (content : List Inline)
  | link (url : String) (content : List Inline)
  | html (s : String)
  | lineBreak
deriving Inhabited, Repr, BEq

/-- A block of a document; an item of a list is itself a list of blocks. -/
inductive Block where
  | heading (level : Nat) (content : List Inline)
  | paragraph (content : List Inline)
  | list (ordered : Bool) (items : List (List Block))
  | quote (blocks : List Block)
  | code (s : String)
deriving Inhabited, Repr, BEq

namespace Block

/-- The inlines of the paragraph at the front of a list item. -/
def lead : List Block → List Inline
  | paragraph content :: _ => content
  | _ => []

def items? : Block → Option (List (List Block))
  | list _ items => some items
  | _ => none

def firstItems? (blocks : List Block) : Option (List (List Block)) :=
  blocks.findSome? items?

end Block

end ApiDocs
