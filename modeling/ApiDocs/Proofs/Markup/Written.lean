import ApiDocs.Markup.Basic
import ApiDocs.Markup.Event

/-!
# Documents written as events

Which sequences of events write down a document. A part with content stands between its opening and
its closing. A text may come in pieces, a line may break in two ways, and a paragraph right in a
list item may go without its opening and closing unless it is empty or follows another such
paragraph, with which it would be one.
-/

namespace ApiDocs

/-- The events of a part between its opening and its closing. -/
def enclosed (tag : Tag) (events : List Event) : List Event :=
  .opening tag :: (events ++ [.closing])

mutual

/-- Whether events write an inline. -/
inductive Inline.Written : Inline → List Event → Prop
  | text (pieces : List String) (h : pieces ≠ []) :
    Written (.text (String.join pieces)) (pieces.map .text)
  | code (s : String) : Written (.code s) [.code s]
  | emphasis {content : List Inline} {events : List Event} (h : AllWritten content events) :
    Written (.emphasis content) (enclosed .emphasis events)
  | strong {content : List Inline} {events : List Event} (h : AllWritten content events) :
    Written (.strong content) (enclosed .strong events)
  | link (url : String) {content : List Inline} {events : List Event}
    (h : AllWritten content events) : Written (.link url content) (enclosed (.link url) events)
  | html (s : String) : Written (.html s) [.html s]
  | softBreak : Written .lineBreak [.softBreak]
  | hardBreak : Written .lineBreak [.hardBreak]

/-- Whether events write inlines in turn. -/
inductive Inline.AllWritten : List Inline → List Event → Prop
  | nil : AllWritten [] []
  | cons {inline : Inline} {content : List Inline} {events rest : List Event}
    (h : Written inline events) (hr : AllWritten content rest) :
    AllWritten (inline :: content) (events ++ rest)

end

mutual

inductive Block.Written : Block → List Event → Prop
  | heading (level : Nat) {content : List Inline} {events : List Event}
    (h : Inline.AllWritten content events) :
    Written (.heading level content) (enclosed (.heading level) events)
  | paragraph {content : List Inline} {events : List Event} (h : Inline.AllWritten content events) :
    Written (.paragraph content) (enclosed .paragraph events)
  | list (ordered : Bool) {items : List (List Block)} {events : List Event}
    (h : ItemsWritten items events) :
    Written (.list ordered items) (enclosed (.list ordered) events)
  | quote {blocks : List Block} {events : List Event} (h : AllWritten blocks events) :
    Written (.quote blocks) (enclosed .quote events)
  | code (pieces : List String) :
    Written (.code (String.join pieces)) (enclosed .codeBlock (pieces.map .text))

inductive Block.AllWritten : List Block → List Event → Prop
  | nil : AllWritten [] []
  | cons {block : Block} {blocks : List Block} {events rest : List Event}
    (h : Written block events) (hr : AllWritten blocks rest) :
    AllWritten (block :: blocks) (events ++ rest)

inductive Block.ItemsWritten : List (List Block) → List Event → Prop
  | nil : ItemsWritten [] []
  | cons {blocks : List Block} {items : List (List Block)} {events rest : List Event}
    (h : ItemWritten false blocks events) (hr : ItemsWritten items rest) :
    ItemsWritten (blocks :: items) (enclosed .item events ++ rest)

inductive Block.ItemWritten : Bool → List Block → List Event → Prop
  | nil (afterBare : Bool) : ItemWritten afterBare [] []
  | block (afterBare : Bool) {block : Block} {blocks : List Block} {events rest : List Event}
    (h : Written block events) (hr : ItemWritten false blocks rest) :
    ItemWritten afterBare (block :: blocks) (events ++ rest)
  | bare {content : List Inline} {blocks : List Block} {events rest : List Event}
    (hc : content ≠ []) (h : Inline.AllWritten content events)
    (hr : ItemWritten true blocks rest) :
    ItemWritten false (.paragraph content :: blocks) (events ++ rest)

end

mutual

theorem Inline.exists_written : ∀ inline : Inline, ∃ events, inline.Written events
  | .text s => ⟨[.text s], by simpa using Written.text [s] (List.cons_ne_nil s [])⟩
  | .code s => ⟨_, .code s⟩
  | .emphasis content => (exists_allWritten content).imp' _ fun _ => .emphasis
  | .strong content => (exists_allWritten content).imp' _ fun _ => .strong
  | .link url content => (exists_allWritten content).imp' _ fun _ => .link url
  | .html s => ⟨_, .html s⟩
  | .lineBreak => ⟨_, .softBreak⟩

theorem Inline.exists_allWritten : ∀ content : List Inline, ∃ events, AllWritten content events
  | [] => ⟨_, .nil⟩
  | inline :: content => by
    obtain ⟨events, h⟩ := exists_written inline
    obtain ⟨rest, hr⟩ := exists_allWritten content
    exact ⟨_, .cons h hr⟩

end

mutual

theorem Block.exists_written : ∀ block : Block, ∃ events, block.Written events
  | .heading level content => (Inline.exists_allWritten content).imp' _ fun _ => .heading level
  | .paragraph content => (Inline.exists_allWritten content).imp' _ fun _ => .paragraph
  | .list ordered items => (exists_itemsWritten items).imp' _ fun _ => .list ordered
  | .quote blocks => (exists_allWritten blocks).imp' _ fun _ => .quote
  | .code s => ⟨_, by simpa using Written.code [s]⟩

theorem Block.exists_allWritten : ∀ blocks : List Block, ∃ events, AllWritten blocks events
  | [] => ⟨_, .nil⟩
  | block :: blocks => by
    obtain ⟨events, h⟩ := exists_written block
    obtain ⟨rest, hr⟩ := exists_allWritten blocks
    exact ⟨_, .cons h hr⟩

theorem Block.exists_itemsWritten : ∀ items : List (List Block), ∃ events,
    ItemsWritten items events
  | [] => ⟨_, .nil⟩
  | blocks :: items => by
    obtain ⟨events, h⟩ := exists_itemWritten blocks
    obtain ⟨rest, hr⟩ := exists_itemsWritten items
    exact ⟨_, .cons h hr⟩

theorem Block.exists_itemWritten : ∀ blocks : List Block, ∃ events,
    ItemWritten false blocks events
  | [] => ⟨_, .nil false⟩
  | block :: blocks => by
    obtain ⟨events, h⟩ := exists_written block
    obtain ⟨rest, hr⟩ := exists_itemWritten blocks
    exact ⟨_, .block false h hr⟩

end

def Inline.isText : Inline → Bool
  | .text _ => true
  | _ => false

mutual

/-- Whether no two texts stand next to each other inside an inline, at any depth. -/
def Inline.Parted : Inline → Prop
  | .emphasis content => AllParted content
  | .strong content => AllParted content
  | .link _ content => AllParted content
  | _ => True

def Inline.AllParted : List Inline → Prop
  | [] => True
  | inline :: rest =>
    inline.Parted ∧ (inline.isText → ∀ next ∈ rest.head?, ¬ next.isText) ∧ AllParted rest

end

mutual

def Block.Parted : Block → Prop
  | .heading _ content => Inline.AllParted content
  | .paragraph content => Inline.AllParted content
  | .list _ items => ItemsParted items
  | .quote blocks => AllParted blocks
  | .code _ => True

def Block.AllParted : List Block → Prop
  | [] => True
  | block :: rest => block.Parted ∧ AllParted rest

def Block.ItemsParted : List (List Block) → Prop
  | [] => True
  | blocks :: rest => AllParted blocks ∧ ItemsParted rest

end

end ApiDocs
