import ApiDocs.Markup.Basic
import ApiDocs.Markup.Flat

/-!
# Outlines

The headings of a document nest by their levels: a section holds the blocks under its heading and
the sections of lower rank up to the next heading that is not. The document itself is a section of
level zero without a title.
-/

namespace ApiDocs

/-- A heading with what stands under it. -/
structure Section where
  level : Nat
  title : List Inline
  body : List Block
  children : List Section
deriving Repr, BEq

namespace Section

def headed (level : Nat) (title : List Inline) : Section :=
  ⟨level, title, [], []⟩

def titleText (s : Section) : String :=
  plainText s.title

def withBlock (s : Section) (block : Block) : Section :=
  { s with body := s.body ++ [block] }

def withChild (s child : Section) : Section :=
  { s with children := s.children ++ [child] }

end Section

/-- The sections that are open after some blocks, from the innermost to the document. -/
structure OpenSections where
  current : Section
  parents : List Section

namespace OpenSections

def start : OpenSections :=
  ⟨.headed 0 [], []⟩

/-- Closes sections until one has a level below the given one; the document stays open. -/
def closeTo (level : Nat) (current : Section) : List Section → OpenSections
  | [] => ⟨current, []⟩
  | parent :: rest =>
    if level ≤ current.level then closeTo level (parent.withChild current) rest
    else ⟨current, parent :: rest⟩

def push (opened : OpenSections) : Block → OpenSections
  | .heading level title =>
    let kept := closeTo level opened.current opened.parents
    ⟨.headed level title, kept.current :: kept.parents⟩
  | block => { opened with current := opened.current.withBlock block }

def finish (opened : OpenSections) : Section :=
  opened.parents.foldl (fun child parent => parent.withChild child) opened.current

end OpenSections

/-- The outline of a list of blocks. -/
def Section.ofBlocks (blocks : List Block) : Section :=
  (blocks.foldl OpenSections.push OpenSections.start).finish

/-- A section and its place: the number of each section on the way to it among its siblings. -/
structure Placed where
  path : List Nat
  entry : Section

namespace Section

mutual

def placed (path : List Nat) : Section → List Placed
  | ⟨level, title, body, children⟩ =>
    ⟨path, ⟨level, title, body, children⟩⟩ :: placedAll path 0 children

/-- The sections of a list, `n` siblings standing before it, and all below them. -/
def placedAll (path : List Nat) (n : Nat) : List Section → List Placed
  | [] => []
  | child :: rest => placed (path ++ [n]) child ++ placedAll path (n + 1) rest

end

/-- The heading that a document is named by: the first of level one, else the first of level two. -/
def top? (root : Section) : Option Placed :=
  let all := root.placed []
  let first (level : Nat) := all.find? fun p => p.entry.level == level
  first 1 <|> first 2

end Section

end ApiDocs
