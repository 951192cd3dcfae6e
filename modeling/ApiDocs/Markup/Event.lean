/-!
# Documents as events

A document written down as a sequence of events: each part with content is opened by its tag and
closed again, and everything else is one event. Text may come in several pieces. Text of a tight
list item stands in its item without a paragraph.
-/

namespace ApiDocs

/-- A part of a document that has content. -/
inductive Tag where
  | paragraph
  | heading (level : Nat)
  | quote
  | codeBlock
  | htmlBlock
  | list (ordered : Bool)
  | item
  | emphasis
  | strong
  | link (url : String)
  | image
deriving DecidableEq, Repr

inductive Event where
  | opening (tag : Tag)
  | closing
  | text (s : String)
  | code (s : String)
  | html (s : String)
  | softBreak
  | hardBreak
  | rule
deriving DecidableEq, Repr

end ApiDocs
