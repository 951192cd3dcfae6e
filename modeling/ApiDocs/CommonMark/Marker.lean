import ApiDocs.CommonMark.Html
import ApiDocs.CommonMark.Line

/-!
# Marks at the start of a line

What a line starts with decides which block it starts: a rule, a heading, a fence, a list item, a
quote or HTML. The same marks say whether a line ends the paragraph before it.
-/

namespace ApiDocs.CommonMark

/-- Whether a line is a rule: three or more of one mark, with spaces and tabs between. -/
def isRule : List Char → Bool
  | [] => false
  | c :: rest =>
    (c == '*' || c == '-' || c == '_') &&
      rest.all (fun d => d == c || d == ' ' || d == '\t') && 2 ≤ rest.count c

/-- The level of the heading that a line starts by number signs, and the text after them. -/
def headingMark? (s : List Char) : Option (Nat × List Char) :=
  let level := (s.takeWhile (· == '#')).length
  let rest := s.dropWhile (· == '#')
  if level = 0 ∨ 6 < level then none
  else
    match rest with
    | [] => some (level, [])
    | c :: _ => if isBlank c then some (level, rest) else none

def underline? : List Char → Option Nat
  | [] => none
  | c :: rest =>
    if (c == '=' || c == '-') && isBlankLine (rest.dropWhile (· == c)) then
      some (if c == '=' then 1 else 2)
    else none

/-- The mark and length of the fence that a line opens. What follows a fence of backticks holds
none. -/
def fence? : List Char → Option (Char × Nat)
  | [] => none
  | c :: rest =>
    let length := (rest.takeWhile (· == c)).length + 1
    if (c == '`' || c == '~') && 3 ≤ length &&
        !(c == '`' && (rest.dropWhile (· == c)).contains '`') then some (c, length)
    else none

def closesFence (mark : Char) (length : Nat) (s : List Char) : Bool :=
  length ≤ (s.takeWhile (· == mark)).length && (s.dropWhile (· == mark)).all (· == ' ')

/-- The mark of a list item and what it counts from. -/
structure ItemMark where
  mark : Char
  ordered : Bool
  number : Nat
deriving DecidableEq, Repr

def itemMark? (s : List Char) : Option (ItemMark × Nat) :=
  match s with
  | [] => none
  | c :: _ =>
    if c == '-' || c == '+' || c == '*' then some (⟨c, false, 0⟩, 1)
    else
      let digits := s.takeWhile Char.isDigit
      match s.drop digits.length with
      | d :: _ =>
        if digits ≠ [] ∧ digits.length ≤ 9 ∧ (d = '.' ∨ d = ')') then
          some (⟨d, true, (String.ofList digits).toNat?.getD 0⟩, digits.length + 1)
        else none
      | [] => none

/-- The list item that starts at the cursor, the columns from the cursor to its content, and the
cursor after the mark and the space that belongs to it. -/
def item? (cursor : Cursor) : Option (ItemMark × Nat × Cursor) :=
  match itemMark? cursor.rest with
  | none => none
  | some (mark, length) =>
    let behind := cursor.advance length
    let (space, behind) := behind.spaces 1
    if isRule cursor.rest || (space = 0 && !behind.atEnd) then none
    else if isBlankLine behind.rest then some (mark, length + 1, behind)
    else
      let (more, content) := behind.spaces 4
      if more < 4 then some (mark, length + 1 + more, content)
      else some (mark, length + 1, behind)

theorem itemMark?_pos {s : List Char} {mark : ItemMark} {length : Nat}
    (h : itemMark? s = some (mark, length)) : 0 < length ∧ s ≠ [] := by
  unfold itemMark? at h
  split at h
  · simp at h
  · split at h
    · simp_all
      omega
    · dsimp only at h
      split at h
      · split at h <;> simp_all
        omega
      · simp at h

theorem item?_length {cursor : Cursor} {mark : ItemMark} {width : Nat} {content : Cursor}
    (h : item? cursor = some (mark, width, content)) :
    content.rest.length < cursor.rest.length := by
  unfold item? at h
  split at h
  · simp at h
  · rename_i mark' length hm
    obtain ⟨hpos, hne⟩ := itemMark?_pos hm
    have ha := Cursor.advance_length hpos hne
    have hs := Cursor.spaces_length 1 (cursor.advance length)
    have ht := Cursor.spaces_length 4 ((cursor.advance length).spaces 1).2
    dsimp only at h
    split at h
    · simp at h
    · split at h
      · simp only [Option.some.injEq, Prod.mk.injEq] at h
        rw [← h.2.2]
        omega
      · split at h
        · simp only [Option.some.injEq, Prod.mk.injEq] at h
          rw [← h.2.2]
          omega
        · simp only [Option.some.injEq, Prod.mk.injEq] at h
          rw [← h.2.2]
          omega

/-- Whether the line that starts with this list item ends a paragraph. Where all that is open goes
on, a numbered item has to count from one, and an item has to have content. -/
def itemEndsParagraph (inside : Bool) (s : List Char) : Bool :=
  match itemMark? s with
  | none => false
  | some (mark, length) =>
    let rest := s.drop length
    let spaced :=
      match rest with
      | [] => true
      | c :: _ => c == ' ' || c == '\t'
    spaced && (!inside ||
      (!mark.ordered || mark.number = 1) && !isBlankLine rest)

def quote? (cursor : Cursor) : Option Cursor :=
  match cursor.rest with
  | '>' :: _ => some ((cursor.advance 1).spaces 1).2
  | _ => none

theorem quote?_length {cursor content : Cursor} (h : quote? cursor = some content) :
    content.rest.length < cursor.rest.length := by
  unfold quote? at h
  split at h
  · rename_i rest hr
    have ha := Cursor.advance_length (n := 1) (by omega) (by simp [hr] : cursor.rest ≠ [])
    have hs := Cursor.spaces_length 1 (cursor.advance 1)
    simp only [Option.some.injEq] at h
    rw [← h]
    omega
  · simp at h

/-- Whether a line ends the paragraph before it; `inside` says that all that is open goes on in
it. -/
def endsParagraph (inside : Bool) (s : List Char) : Bool :=
  s.isEmpty || isRule s || (headingMark? s).isSome || (fence? s).isSome || s.head? == some '>' ||
    itemEndsParagraph inside s || Html.endsParagraph s

end ApiDocs.CommonMark
