import ApiDocs.CommonMark.Emphasis
import ApiDocs.CommonMark.Html
import ApiDocs.CommonMark.Link
import ApiDocs.CommonMark.Reference
import ApiDocs.CommonMark.Symbol
import ApiDocs.Unicode.Punctuation
import ApiDocs.Unicode.White

/-!
# Reading running text

Text is read from left to right. Code spans, HTML and addresses are taken where they start; a
closing bracket makes the text since its opening bracket a link or an image when an address or a
defined label goes with it. A link holds no link. Emphasis is found last, inside each link by
itself.
-/

namespace ApiDocs.CommonMark

/-- An opening bracket that waits to be closed. -/
structure Bracket where
  image : Bool
  /-- Whether the bracket can still become a link. -/
  active : Bool
  /-- The pieces before the bracket, back to the bracket before, the last first. -/
  before : List Piece
  source : List Symbol

/-- The bracket as plain text, the last character first. -/
def Bracket.text (b : Bracket) : Piece :=
  .text (if b.image then ['[', '!'] else ['['])

/-- What was read so far: the open brackets, the innermost first, and the pieces since the innermost
one, the last first. -/
structure Scan where
  brackets : List Bracket
  pieces : List Piece

namespace Scan

def start : Scan :=
  ⟨[], []⟩

def char (c : Char) (st : Scan) : Scan :=
  match st.pieces with
  | .text s :: rest => { st with pieces := .text (c :: s) :: rest }
  | pieces => { st with pieces := .text [c] :: pieces }

def chars (c : Char) (n : Nat) (st : Scan) : Scan :=
  n.repeat (char c) st

def string (s : List Char) (st : Scan) : Scan :=
  s.foldl (fun st c => st.char c) st

def events (es : List Event) (st : Scan) : Scan :=
  { st with pieces := .events es :: st.pieces }

def run (mark : Char) (count : Nat) (canOpen canClose : Bool) (st : Scan) : Scan :=
  { st with pieces := .run mark count canOpen canClose :: st.pieces }

def bracket (image : Bool) (source : List Symbol) (st : Scan) : Scan :=
  ⟨⟨image, true, st.pieces, source⟩ :: st.brackets, []⟩

/-- The events, brackets that are still open being text. -/
def finish (st : Scan) : List Event :=
  Emphasis.resolve
    (st.brackets.foldl (fun pieces b => pieces ++ b.text :: b.before) st.pieces).reverse

end Scan

/-- The text after the first run of exactly `n` backticks, `count` of them having been passed. -/
def codeRest? (n count : Nat) : List Symbol → Option (List Symbol)
  | [] => if count = n then some [] else none
  | s :: rest =>
    if s = .char '`' then codeRest? n (count + 1) rest
    else if count = n then some (s :: rest)
    else codeRest? n 0 rest

/-- The text of a code span without one space at either end, where it has both and is not blank. -/
def codeSpanText (s : List Char) : List Char :=
  match s, s.reverse with
  | ' ' :: _, ' ' :: _ => if s.all (· == ' ') then s else (s.drop 1).dropLast
  | _, _ => s

/-- The code span after an opening run of `n` backticks, and its length with the closing run. -/
def codeSpan? (n : Nat) (s : List Symbol) : Option (List Char × Nat) :=
  if n = 0 then none
  else
    (codeRest? n 0 s).map fun rest =>
      let length := s.length - rest.length
      (codeSpanText ((s.take (length - n)).flatMap Symbol.coded), length)

def backticks (n : Nat) (after : List Symbol) (st : Scan) : Scan × Nat :=
  match codeSpan? n after with
  | some (code, length) => (st.events [.code (String.ofList code)], length)
  | none => (st.chars '`' n, 0)

def canOpen (mark previous : Char) (next : Option Char) : Bool :=
  match next with
  | none => false
  | some next =>
    !Unicode.isWhite next &&
      (mark == '*' && !Unicode.isPunctuation next || Unicode.isWhite previous ||
        Unicode.isPunctuation previous)

def canClose (mark previous : Char) (next : Option Char) : Bool :=
  !Unicode.isWhite previous &&
    match next with
    | none => true
    | some next =>
      mark == '*' && !Unicode.isPunctuation previous || Unicode.isWhite next ||
        Unicode.isPunctuation next

/-- Reads a run of emphasis marks after its first one; also its length less one. -/
def marks (mark previous : Char) (rest : List Symbol) (st : Scan) : Scan × Nat :=
  let more := (rest.takeWhile (· == .char mark)).length
  let next := (rest.drop more).head?.map Symbol.toChar
  let opens := canOpen mark previous next
  let closes := canClose mark previous next
  if opens || closes then (st.run mark (more + 1) opens closes, more)
  else (st.chars mark (more + 1), more)

def addressOf? (definitions : List Definition) (label : List Char) : Option (List Char) :=
  (definitions.find? (·.label == label)).map (·.url)

/-- The address that goes with the text between brackets, and the text after the link. `source` is
the text after the opening bracket and `rest` that after the closing one. -/
def linkEnd? (definitions : List Definition) (source rest : List Symbol) :
    Option (List Char × List Symbol) :=
  let any := fun (_ : LineBreak) => true
  let own :=
    match label? any (upTo rest source) with
    | some (label, []) => addressOf? definitions label
    | _ => none
  match target? rest with
  | some found => some found
  | none =>
    match rest with
    | .char '[' :: .char ']' :: behind => own.map (·, behind)
    | .char '[' :: more =>
      match label? any more with
      | some (label, behind) => (addressOf? definitions label).map (·, behind)
      | none => own.map (·, rest)
    | _ => own.map (·, rest)

/-- The bracket when a link was made around it. -/
def Bracket.enclosed (b : Bracket) : Bracket :=
  { b with active := b.active && b.image }

/-- Reads a closing bracket; also the length of what goes with it. -/
def closeBracket (definitions : List Definition) (rest : List Symbol) (st : Scan) :
    Scan × Nat :=
  match st.brackets with
  | [] => (st.char ']', 0)
  | b :: outer =>
    let plain : Scan := { brackets := outer, pieces := st.pieces ++ b.text :: b.before }
    if !b.active then (plain.char ']', 0)
    else
      match linkEnd? definitions b.source rest with
      | none => (plain.char ']', 0)
      | some (url, behind) =>
        let tag := if b.image then .image else .link (String.ofList url)
        let link := Emphasis.wrapped tag (Emphasis.resolve st.pieces.reverse)
        let outer := if b.image then outer else outer.map Bracket.enclosed
        (⟨outer, .events link :: b.before⟩, rest.length - behind.length)

def lineText (s : List Symbol) : List Char :=
  (s.takeWhile (·.isChar fun _ => true)).map Symbol.toChar

/-- Reads what follows an opening angle bracket; also its length. -/
def angle (rest : List Symbol) (st : Scan) : Scan × Nat :=
  if rest.head? = some (.char '\\') then (st.char '<', 0)
  else
    match address? (lineText rest) with
    | some (address, length) =>
      let text := String.ofList address
      (st.events (Emphasis.wrapped (.link text) [.text text]), length)
    | none =>
      match Html.inline? rest with
      | some (html, behind) =>
        (st.events [.html (String.ofList html)], rest.length - behind.length)
      | none => (st.char '<', 0)

def backslash (rest : List Symbol) (st : Scan) : Scan × Nat :=
  match rest with
  | .lineBreak _ :: _ => (st.events [.hardBreak], 1)
  | .char '`' :: more =>
    let n := (more.takeWhile (· == .char '`')).length
    let (st, length) := backticks n (more.drop n) (st.char '`')
    (st, length + n + 1)
  | .char c :: _ => if Unicode.isAsciiPunctuation c then (st.char c, 1) else (st.char '\\', 0)
  | [] => (st.char '\\', 0)

/-- Reads a blank; also the number of symbols that go with it. Blanks at the end of a line are
dropped, and two of them break the line. -/
def blank (c : Char) (rest : List Symbol) (st : Scan) : Scan × Nat :=
  let more := (rest.takeWhile (·.isChar isBlank)).length
  match rest.drop more with
  | .lineBreak _ :: _ => if more = 0 then (st, 0) else (st.events [.hardBreak], more + 1)
  | _ => (st.char c, 0)

/-- Reads a symbol with what belongs to it; also the number of further symbols read. -/
def Scan.step (definitions : List Definition) (previous : Char) (st : Scan) (rest : List Symbol) :
    Symbol → Scan × Nat
  | .lineBreak _ => (st.events [.softBreak], 0)
  | .char c =>
    if c == '\\' then backslash rest st
    else if c == '`' then
      let n := (rest.takeWhile (· == .char '`')).length
      let (st, length) := backticks (n + 1) (rest.drop n) st
      (st, length + n)
    else if c == '&' then
      match reference? (lineText rest) with
      | some (value, length) => (st.string value, length)
      | none => (st.char '&', 0)
    else if c == '<' then angle rest st
    else if c == '!' && rest.head? == some (.char '[') then (st.bracket true (rest.drop 1), 1)
    else if c == '[' then (st.bracket false rest, 0)
    else if c == ']' then closeBracket definitions rest st
    else if c == '*' || c == '_' then marks c previous rest st
    else if isBlank c then blank c rest st
    else (st.char c, 0)

/-- Reads text, passing over the first symbols; `previous` is the character before the text. -/
def Scan.text (definitions : List Definition) (previous : Char) (st : Scan) :
    Nat → List Symbol → Scan
  | _, [] => st
  | skip + 1, s :: rest => text definitions s.toChar st skip rest
  | 0, s :: rest =>
    let (st, skip) := st.step definitions previous rest s
    text definitions s.toChar st skip rest

def inlineEvents (definitions : List Definition) (s : List Symbol) : List Event :=
  (Scan.start.text definitions '\n' 0 s).finish

end ApiDocs.CommonMark
