/-!
# Lines of a document

A line ends with a line feed, a carriage return, both in this order, or the end of the document. A
cursor stands in a line, counts columns so that a tab reaches to the next multiple of four, and can
take a part of a tab's width.
-/

namespace ApiDocs.CommonMark

/-- A line and the characters that end it. -/
structure Line where
  text : List Char
  ending : List Char
deriving DecidableEq, Repr

def Line.lengthen (c : Char) : List Line → List Line
  | [] => [⟨[c], []⟩]
  | line :: rest => { line with text := c :: line.text } :: rest

def Line.ofText : List Char → List Line
  | [] => []
  | '\r' :: '\n' :: rest => ⟨[], ['\r', '\n']⟩ :: ofText rest
  | '\r' :: rest => ⟨[], ['\r']⟩ :: ofText rest
  | '\n' :: rest => ⟨[], ['\n']⟩ :: ofText rest
  | c :: rest => lengthen c (ofText rest)

def Line.whole (line : Line) : List Char :=
  line.text ++ line.ending

def isBlank (c : Char) : Bool :=
  c == ' ' || c == '\t' || c == '\x0b' || c == '\x0c'

def isBlankLine (s : List Char) : Bool :=
  s.all isBlank

def isAsciiWord (c : Char) : Bool :=
  c.isAlpha || c.isDigit

/-- A place in a line: the text after it, its column, and the columns of the tab before it that are
not used up. -/
structure Cursor where
  rest : List Char
  column : Nat
  pending : Nat
deriving DecidableEq, Repr

namespace Cursor

def ofLine (line : Line) : Cursor :=
  ⟨line.text, 0, 0⟩

/-- Takes up to `n` columns of spaces and tabs; how many there were, and the place after them. -/
def spacesFrom (n column : Nat) : List Char → Nat × Cursor
  | ' ' :: rest =>
    if n = 0 then (0, ⟨' ' :: rest, column, 0⟩)
    else
      let (taken, cursor) := spacesFrom (n - 1) (column + 1) rest
      (taken + 1, cursor)
  | '\t' :: rest =>
    let width := 4 - column % 4
    if n = 0 then (0, ⟨'\t' :: rest, column, 0⟩)
    else if n < width then (n, ⟨rest, column + width, width - n⟩)
    else
      let (taken, cursor) := spacesFrom (n - width) (column + width) rest
      (taken + width, cursor)
  | rest => (0, ⟨rest, column, 0⟩)

def spaces (n : Nat) (cursor : Cursor) : Nat × Cursor :=
  if n ≤ cursor.pending then (n, { cursor with pending := cursor.pending - n })
  else
    let (taken, next) := spacesFrom (n - cursor.pending) cursor.column cursor.rest
    (taken + cursor.pending, next)

theorem spacesFrom_length (n column : Nat) (s : List Char) :
    (spacesFrom n column s).2.rest.length ≤ s.length := by
  fun_induction spacesFrom n column s with
  | case2 _ column rest _ _ _ h ih => simp only [h] at ih; simp only [List.length_cons]; omega
  | case5 _ _ _ _ _ _ _ _ h ih => simp only [h] at ih; simp only [List.length_cons]; omega
  | _ => simp

theorem spaces_length (n : Nat) (cursor : Cursor) :
    (cursor.spaces n).2.rest.length ≤ cursor.rest.length := by
  unfold spaces
  split
  · exact Nat.le_refl _
  · exact spacesFrom_length _ _ _

theorem length_of_spaces {n taken : Nat} {cursor next : Cursor}
    (h : cursor.spaces n = (taken, next)) : next.rest.length ≤ cursor.rest.length := by
  have := spaces_length n cursor
  rwa [h] at this

def atEnd (cursor : Cursor) : Bool :=
  cursor.rest.isEmpty

def advance (n : Nat) (cursor : Cursor) : Cursor :=
  ⟨cursor.rest.drop n, cursor.column + n, 0⟩

theorem advance_length {n : Nat} {cursor : Cursor} (hn : 0 < n) (h : cursor.rest ≠ []) :
    (cursor.advance n).rest.length < cursor.rest.length := by
  have := List.length_pos_iff.2 h
  simp only [advance, List.length_drop]
  omega

end Cursor

end ApiDocs.CommonMark
