import ApiDocs.Toml.Quote
import ApiDocs.Toml.Scalar
import ApiDocs.Toml.Table

/-!
# Reading TOML documents

A document is a sequence of lines, each a header, an assignment, or empty, with a comment behind it
or not. A reader takes the text left to read and gives what it read with the text behind that, or
nothing where the text is not well formed. Arrays and inline tables nest less than 80 deep, and a
key has fewer than 80 names.
-/

namespace ApiDocs.Toml

open ApiDocs.Text (Rest Unread length_dropWhile_le)

def isNameChar (c : Char) : Bool :=
  c.isAlphanum || c == '_' || c == '-'

def skipBlanks (s : List Char) : List Char :=
  s.dropWhile isBlank

theorem skipBlanks_length (s : List Char) : (skipBlanks s).length ≤ s.length :=
  length_dropWhile_le isBlank s

/-- The text without blanks, line ends and comments at its front; `comment` says that the text
starts inside a comment. -/
def skipFiller (comment : Bool) : List Char → List Char
  | [] => []
  | '\r' :: '\n' :: rest => skipFiller false rest
  | c :: rest =>
    if c = '\n' then skipFiller false rest
    else if comment then if isLineChar c then skipFiller true rest else c :: rest
    else if isBlank c then skipFiller false rest
    else if c = '#' then skipFiller true rest
    else c :: rest

theorem skipFiller_length (comment : Bool) (s : List Char) :
    (skipFiller comment s).length ≤ s.length := by
  fun_induction skipFiller comment s <;> simp_all <;> omega

def name? (s : List Char) : Option (String × Rest s) :=
  match h : lineString? s with
  | some (read, rest) => some (String.ofList read, ⟨rest, lineString?_length h⟩)
  | none =>
    match s with
    | [] => none
    | c :: rest =>
      if isNameChar c then
        some (String.ofList (c :: rest.takeWhile isNameChar),
          ⟨rest.dropWhile isNameChar, by
            have := length_dropWhile_le isNameChar rest
            simp only [List.length_cons]
            omega⟩)
      else none

/-- Reads names with points between them, and the blanks around them. -/
def keyPath? (s : List Char) : Option (KeyPath × Rest s) :=
  have hs := skipBlanks_length s
  match name? (skipBlanks s) with
  | none => none
  | some (name, ⟨rest, hn⟩) =>
    have hr := skipBlanks_length rest
    match h : skipBlanks rest with
    | '.' :: more =>
      match keyPath? more with
      | some (⟨tables, last⟩, ⟨rest, hk⟩) => some (⟨name :: tables, last⟩, ⟨rest, by grind⟩)
      | none => none
    | rest => some (⟨[], name⟩, ⟨rest, by grind⟩)
termination_by s.length
decreasing_by grind

/-- The number of names, and of brackets inside each other, at which reading stops. -/
def maxDepth : Nat :=
  80

def key? (s : List Char) : Option (KeyPath × Rest s) :=
  (keyPath? s).filter fun (key, _) => key.length < maxDepth

def simple? (s : List Char) : Option (Value × Rest s) :=
  match h : string? s with
  | some (read, rest) => some (.text (String.ofList read), ⟨rest, string?_length h⟩)
  | none => scalar s

theorem length_le_of_eq {s t u : List Char} (ht : t.length ≤ s.length) (h : t = u) :
    u.length ≤ s.length :=
  h ▸ ht

theorem length_lt_of_cons {s t rest : List Char} {c : Char} (ht : t.length ≤ s.length)
    (h : t = c :: rest) : rest.length < s.length := by
  rw [h] at ht
  exact ht

/-- The same where more was read before that character. -/
theorem length_lt_of_cons_of_lt {s t u v rest : List Char} {c : Char} (ht : t.length ≤ s.length)
    (hu : u.length < t.length) (hv : v.length ≤ u.length) (h : v = c :: rest) :
    rest.length < s.length :=
  length_lt_of_cons (Nat.le_trans hv (Nat.le_of_lt (Nat.lt_of_lt_of_le hu ht))) h

/-- What is left behind a key, an equals sign, a value and one more character is shorter than what
it was read from. -/
theorem length_lt_of_assignment {s t u v w rest : List Char} {c d : Char} (key : Rest s)
    (hk : key.val = c :: t) (hu : u.length ≤ t.length) (hv : v.length < u.length)
    (hw : w.length ≤ v.length) (h : w = d :: rest) : rest.length < s.length :=
  Nat.lt_trans (length_lt_of_cons_of_lt hu hv hw h)
    (length_lt_of_cons (Nat.le_of_lt key.property) hk)

theorem length_lt_of_key {s t u : List Char} {c : Char} (key : Rest s) (hk : key.val = c :: t)
    (hu : u.length ≤ t.length) : u.length < s.length :=
  Nat.lt_of_le_of_lt hu (length_lt_of_cons (Nat.le_of_lt key.property) hk)

mutual

/-- Reads a value, at most `depth - 1` brackets deep. -/
def value? (depth : Nat) (s : List Char) : Option (Value × Rest s) :=
  match s with
  | '[' :: rest =>
    if depth ≤ 1 then none
    else
      match items? (depth - 1) rest with
      | some (read, ⟨rest, h⟩) => some (.array read, ⟨rest, by grind⟩)
      | none => none
  | '\x7b' :: rest =>
    if depth ≤ 1 then none
    else
      have hs := skipBlanks_length rest
      match h : skipBlanks rest with
      | '\x7d' :: rest => some (.table [], ⟨rest, by grind⟩)
      | _ =>
        match assignments? (depth - 1) rest with
        | some (read, ⟨rest, h⟩) =>
          (inlineTable? read).map fun table => (table, ⟨rest, by grind⟩)
        | none => none
  | s => simple? s
termination_by (s.length, 0)
decreasing_by all_goals (simp_wf; grind)

def items? (depth : Nat) (s : List Char) : Option (List Value × Rest s) :=
  have hs := skipFiller_length false s
  match h : skipFiller false s with
  | ']' :: rest => some ([], ⟨rest, length_lt_of_cons hs h⟩)
  | start =>
    have ht := length_le_of_eq hs h
    match value? depth start with
    | none => none
    | some (item, ⟨rest, hv⟩) =>
      have hr := skipFiller_length false rest
      match h' : skipFiller false rest with
      | ']' :: rest => some ([item], ⟨rest, length_lt_of_cons_of_lt ht hv hr h'⟩)
      | ',' :: rest =>
        have hb := length_lt_of_cons_of_lt ht hv hr h'
        match items? depth rest with
        | some (more, ⟨rest, hn⟩) => some (item :: more, ⟨rest, Nat.lt_trans hn hb⟩)
        | none => none
      | _ => none
termination_by (s.length, 1)
decreasing_by all_goals grind

def assignments? (depth : Nat) (s : List Char) : Option (List (KeyPath × Value) × Rest s) :=
  match key? s with
  | none => none
  | some (key, unread) =>
    match hk : unread.val with
    | '=' :: rest =>
      have hs := skipBlanks_length rest
      have : (skipBlanks rest).length < s.length := length_lt_of_key unread hk hs
      match value? depth (skipBlanks rest) with
      | none => none
      | some (read, ⟨rest, hv⟩) =>
        have hr := skipBlanks_length rest
        match h : skipBlanks rest with
        | '\x7d' :: rest =>
          some ([(key, read)], ⟨rest, length_lt_of_assignment unread hk hs hv hr h⟩)
        | ',' :: rest =>
          have hc := length_lt_of_assignment unread hk hs hv hr h
          match assignments? depth rest with
          | some (more, ⟨rest, hn⟩) => some ((key, read) :: more, ⟨rest, Nat.lt_trans hn hc⟩)
          | none => none
        | _ => none
    | _ => none
termination_by (s.length, 1)
decreasing_by
  · exact Prod.Lex.left _ _ this
  · exact Prod.Lex.left _ _ hc

end

def skipComment (s : List Char) : List Char :=
  match skipBlanks s with
  | '#' :: comment => comment.dropWhile isLineChar
  | rest => rest

theorem skipComment_length (s : List Char) : (skipComment s).length ≤ s.length := by
  have hs := skipBlanks_length s
  unfold skipComment
  split
  · rename_i comment h
    have := length_dropWhile_le isLineChar comment
    rw [h, List.length_cons] at hs
    omega
  · exact hs

/-- The text behind the end of a line, before which blanks and a comment may stand. -/
def lineEnd? (s : List Char) : Option (Unread s) :=
  have hs := skipComment_length s
  match h : skipComment s with
  | [] => some ⟨[], by simp⟩
  | '\n' :: rest => some ⟨rest, by grind⟩
  | '\r' :: '\n' :: rest => some ⟨rest, by grind⟩
  | _ => none

theorem length_lt_of_header {s t : List Char} {c d : Char} (key : Rest s) (hk : key.val = c :: t)
    (unread : Unread t) : unread.val.length < (d :: s).length :=
  Nat.lt_succ_of_le (Nat.le_trans unread.property
    (Nat.le_of_lt (length_lt_of_cons (Nat.le_of_lt key.property) hk)))

theorem length_lt_of_item {s t : List Char} {b c d e : Char} (key : Rest s)
    (hk : key.val = b :: c :: t) (unread : Unread t) : unread.val.length < (d :: e :: s).length :=
  Nat.lt_trans (length_lt_of_header key hk ⟨unread.val, Nat.le_succ_of_le unread.property⟩)
    (Nat.lt_add_one _)

/-- What is left behind an assignment and the end of its line is shorter than what it was read
from. -/
theorem length_lt_of_line {s t u v : List Char} {c : Char} (key : Rest s) (hk : key.val = c :: t)
    (hu : u.length ≤ t.length) (hv : v.length < u.length) (unread : Unread v) :
    unread.val.length < s.length :=
  Nat.lt_of_le_of_lt unread.property (Nat.lt_trans hv (length_lt_of_key key hk hu))

def line? (s : List Char) : Option (Line × Rest s) :=
  match s with
  | '[' :: '[' :: rest =>
    match key? rest with
    | none => none
    | some (key, unread) =>
      match hk : unread.val with
      | ']' :: ']' :: rest =>
        (lineEnd? rest).map fun left => (.item key, ⟨left.val, length_lt_of_item unread hk left⟩)
      | _ => none
  | '[' :: rest =>
    match key? rest with
    | none => none
    | some (key, unread) =>
      match hk : unread.val with
      | ']' :: rest =>
        (lineEnd? rest).map fun left => (.header key, ⟨left.val, length_lt_of_header unread hk left⟩)
      | _ => none
  | s =>
    match key? s with
    | none => none
    | some (key, unread) =>
      match hk : unread.val with
      | '=' :: rest =>
        have hs := skipBlanks_length rest
        match value? maxDepth (skipBlanks rest) with
        | none => none
        | some (read, ⟨rest, hv⟩) =>
          (lineEnd? rest).map fun left =>
            (.assignment key read, ⟨left.val, length_lt_of_line unread hk hs hv left⟩)
      | _ => none

def lines? (s : List Char) : Option (List Line) :=
  match skipFiller false s, skipFiller_length false s with
  | [], _ => some []
  | c :: more, hs =>
    match line? (c :: more) with
    | none => none
    | some (line, ⟨rest, hl⟩) =>
      have : rest.length < s.length := Nat.lt_of_lt_of_le hl hs
      (lines? rest).map (line :: ·)
termination_by s.length

/-- The text without a byte order mark at its front. -/
def skipMark : List Char → List Char
  | '\uFEFF' :: rest => rest
  | s => s

def read? (text : String) : Option Entries := do
  tableOfLines? (← lines? (skipMark text.toList))

end ApiDocs.Toml
