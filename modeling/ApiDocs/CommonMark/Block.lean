import ApiDocs.CommonMark.Html
import ApiDocs.CommonMark.Line
import ApiDocs.CommonMark.Link
import ApiDocs.CommonMark.Marker
import ApiDocs.CommonMark.Symbol
import ApiDocs.Text.Basic

/-!
# Blocks of a document

A document is read line by line with a stack of open quotes, lists and list items. A line first goes
on with those it can, the others are closed, then it opens new ones, and what is left of it starts a
block without parts, which may take further lines. Text stays unread inside paragraphs and headings,
because a label may be defined after its use.
-/

namespace ApiDocs.CommonMark

/-- A block whose text is not read yet. -/
inductive Node where
  | paragraph (content : List Symbol)
  /-- A heading, and whether number signs after its text were dropped. -/
  | heading (level : Nat) (content : List Symbol) (closed : Bool)
  | rule
  | code (text : List Char)
  | html
  | quote (children : List Node)
  | list (ordered tight : Bool) (items : List (List Node))
deriving Repr

/-- An open part with its finished blocks, the last first. -/
inductive Opened where
  | quote (done : List Node)
  | list (mark : ItemMark) (tight : Bool) (done : List (List Node))
  | item (indent : Nat) (done : List Node)
deriving Repr

/-- What is known after some lines. -/
structure Reading where
  done : List Node
  /-- The open parts, the innermost first. -/
  spine : List Opened
  /-- Whether a blank line was the last and may loosen a list. -/
  afterBlank : Bool
  /-- Whether the innermost item has a mark and nothing else yet. -/
  bareItem : Bool
  definitions : List Definition
deriving Repr

namespace Reading

def start : Reading :=
  ⟨[], [], false, false, []⟩

def add (node : Node) (r : Reading) : Reading :=
  match r.spine with
  | .quote done :: rest => { r with spine := .quote (node :: done) :: rest }
  | .item indent done :: rest => { r with spine := .item indent (node :: done) :: rest }
  | _ => { r with done := node :: r.done }

def close (r : Reading) : Reading :=
  match r.spine with
  | [] => r
  | .quote done :: rest => add (.quote done.reverse) { r with spine := rest }
  | .list mark tight done :: rest =>
    add (.list mark.ordered tight done.reverse)
      { r with spine := rest, bareItem := r.bareItem && !tight }
  | .item _ done :: .list mark tight items :: rest =>
    { r with spine := .list mark tight (done.reverse :: items) :: rest }
  | .item _ _ :: rest => { r with spine := rest }

/-- Closes parts from the inside out until the given number is left. -/
def closeTo (n : Nat) (r : Reading) : Reading :=
  (r.spine.length - n).repeat close r

def loosen (r : Reading) : Reading :=
  match r.spine with
  | part :: .list mark _ done :: rest =>
    { r with spine := part :: .list mark false done :: rest }
  | _ => r

/-- Closes an item that has nothing but a mark and a blank line. -/
def closeBareItem (r : Reading) : Reading :=
  let r :=
    match r.spine with
    | .item _ _ :: _ => if r.bareItem && r.afterBlank then r.close else r
    | _ => r
  { r with bareItem := false }

/-- Closes an open list between items, before a block that is no item of it, and loosens the list
around that block when a blank line came before. -/
def closeList (r : Reading) : Reading :=
  let r := r.closeBareItem
  let r :=
    match r.spine with
    | .list _ _ _ :: _ => r.close
    | _ => r
  { (if r.afterBlank then r.loosen else r) with afterBlank := false }

def sameList (a b : ItemMark) : Bool :=
  a.mark == b.mark

/-- Goes on with the list that the mark belongs to, or starts a new one. -/
def openList (mark : ItemMark) (r : Reading) : Reading :=
  let r := r.closeBareItem
  match r.spine with
  | .list existing tight done :: rest =>
    if sameList existing mark then
      { r with spine := .list existing (tight && !r.afterBlank) done :: rest, afterBlank := false }
    else
      let r := r.closeList
      { r with spine := .list mark true [] :: r.spine, afterBlank := false }
  | [] => { r with spine := [.list mark true []], afterBlank := false }
  | _ =>
    let r := r.closeList
    { r with spine := .list mark true [] :: r.spine, afterBlank := false }

def openItem (mark : ItemMark) (indent : Nat) (r : Reading) : Reading :=
  let r := r.openList mark
  { r with spine := .item indent [] :: r.spine }

def openQuote (r : Reading) : Reading :=
  let r := r.closeList
  { r with spine := .quote [] :: r.spine }

def blank (r : Reading) : Reading :=
  match r.spine with
  | .quote _ :: _ => r
  | .item indent done :: rest =>
    { r with
      afterBlank := true
      spine := .item (if r.bareItem then 0 else indent) done :: rest }
  | _ => { r with afterBlank := true }

end Reading

/-- The cursor after what a part takes up at the front of a line, when the part goes on there. -/
def Opened.continue? (cursor : Cursor) : Opened → Option Cursor
  | .quote _ =>
    quote? (cursor.spaces 3).2
  | .list _ _ _ => some cursor
  | .item indent _ =>
    let (taken, behind) := cursor.spaces indent
    if taken = indent || behind.atEnd then some behind else none

/-- The number of parts, outermost first, that go on in a line, and the cursor after them. -/
def continued (cursor : Cursor) : List Opened → Nat × Cursor
  | [] => (0, cursor)
  | part :: inner =>
    match part.continue? cursor with
    | some next =>
      let (n, last) := continued next inner
      (n + 1, last)
    | none => (0, cursor)

/-- Whether all open parts go on in a line, and the cursor after those that do. -/
def Reading.margin (r : Reading) (line : Line) : Bool × Cursor :=
  let (n, cursor) := continued (.ofLine line) r.spine.reverse
  (n = r.spine.length, cursor)

/-- Opens the quotes and items that start at the cursor; the cursor after them, or none when the
line ends with the mark of an item. -/
def openParts (r : Reading) (cursor : Cursor) : Reading × Option Cursor :=
  match hc : cursor.spaces 4 with
  | (indent, behind) =>
    if indent = 4 then (r, some cursor)
    else
      match h : item? behind with
      | some (mark, width, content) =>
        have := Nat.lt_of_lt_of_le (item?_length h) (Cursor.length_of_spaces hc)
        let r := r.openItem mark (indent + width)
        if isBlankLine content.rest then ({ r with bareItem := true }, none)
        else openParts r content
      | none =>
        match h' : quote? behind with
        | some content =>
          have := Nat.lt_of_lt_of_le (quote?_length h') (Cursor.length_of_spaces hc)
          openParts r.openQuote content
        | none => (r, some cursor)
termination_by cursor.rest.length

/-- A line with those joined to it by lone carriage returns, which end no line of code or HTML. -/
def longLine (line : Line) : List Line → List Char
  | [] => line.whole
  | next :: rest => line.whole ++ if line.ending = ['\r'] then longLine next rest else []

def longLineExtra (line : Line) : List Line → Nat
  | [] => 0
  | next :: rest => if line.ending = ['\r'] then longLineExtra next rest + 1 else 0

def codeLine (text : List Char) : List Char :=
  match text.reverse with
  | c :: '\r' :: rest => (c :: rest).reverse
  | _ => text

/-- The text of a line of code from the cursor on, with the part of a tab before it as spaces. -/
def Cursor.codeText (cursor : Cursor) (line : Line) (rest : List Line) : List Char :=
  let whole := longLine line rest
  List.replicate cursor.pending ' ' ++
    codeLine (whole.drop (line.text.length - cursor.rest.length))

/-- The text of a fenced block from a line on, and the number of lines that belong to the block. -/
def fencedLines (r : Reading) (indent : Nat) (mark : Char) (length : Nat) :
    Nat → List Line → List Char × Nat
  | _, [] => ([], 0)
  | skip + 1, _ :: rest =>
    let (text, count) := fencedLines r indent mark length skip rest
    (text, count + 1)
  | 0, line :: rest =>
    match r.margin line with
    | (false, _) => ([], 0)
    | (true, cursor) =>
      let (_, content) := cursor.spaces indent
      let (space, behind) := content.spaces (4 - indent)
      if space < 4 - indent && closesFence mark length behind.rest then ([], 1)
      else
        let (text, count) := fencedLines r indent mark length (longLineExtra line rest) rest
        (content.codeText line rest ++ text, count + 1)

/-- A line of an indented block, with the number of lines of the document that make it up. -/
structure IndentedLine where
  text : List Char
  isBlank : Bool
  lines : Nat

def indentedLines (r : Reading) : Nat → List Line → List IndentedLine
  | _, [] => []
  | skip + 1, _ :: rest => indentedLines r skip rest
  | 0, line :: rest =>
    match r.margin line with
    | (false, _) => []
    | (true, cursor) =>
      let (space, content) := cursor.spaces 4
      if (space < 4 && !content.atEnd) || (content.atEnd && line.ending.isEmpty) then []
      else
        let extra := longLineExtra line rest
        ⟨content.codeText line rest, isBlankLine content.rest, extra + 1⟩ ::
          indentedLines r extra rest

/-- The number of lines after the first of a block of HTML, `line` being the last one taken. -/
def htmlLines (r : Reading) (ending : Html.Until) (text : List Char) :
    Nat → List Line → Nat
  | _, [] => 0
  | skip + 1, _ :: rest => htmlLines r ending text skip rest + 1
  | 0, line :: rest =>
    match r.margin line with
    | (false, _) => 0
    | (true, cursor) =>
      let stop :=
        match ending with
        | .line closing => Text.holds closing text
        | .blank => isBlankLine cursor.rest
      if stop || (cursor.atEnd && line.ending.isEmpty) then 0
      else
        htmlLines r ending ((longLine line rest).drop (line.text.length - cursor.rest.length))
          (longLineExtra line rest) rest + 1

/-- How a paragraph goes on in a line. -/
inductive Continuation where
  | stop
  | underline (level : Nat)
  | text (b : LineBreak) (s : List Char)

def continuation (r : Reading) (ending : List Char) (line : Line) : Continuation :=
  let (inside, cursor) := r.margin line
  let (space, behind) := cursor.spaces 4
  let ends := space < 4 && endsParagraph inside behind.rest
  let text := behind.rest.dropWhile isBlank
  match if space < 4 && inside then underline? behind.rest else none with
  | some level => .underline level
  | none =>
    if ends || text.isEmpty then .stop
    else
      .text
        { ending, inside, ends
          margin := upTo cursor.rest line.text
          indent := upTo text cursor.rest }
        text

/-- What a paragraph becomes: its text, the level of its heading, and its lines after the first. -/
structure Gathered where
  content : List Symbol
  level : Option Nat
  lines : Nat

def gather (r : Reading) (ending : List Char) : List Line → Gathered
  | [] => ⟨[], none, 0⟩
  | line :: rest =>
    match continuation r ending line with
    | .stop => ⟨[], none, 0⟩
    | .underline level => ⟨[], some level, 1⟩
    | .text b s =>
      let more := gather r line.ending rest
      ⟨.lineBreak b :: symbols s ++ more.content, more.level, more.lines + 1⟩

/-- The text up to the next blank line as it stands, in which a definition may be read. -/
def outlook (r : Reading) (ending : List Char) : List Line → List Symbol
  | [] => []
  | line :: rest =>
    let (inside, cursor) := r.margin line
    let (space, behind) := cursor.spaces 4
    let ends := space < 4 && endsParagraph inside behind.rest
    if isBlankLine cursor.rest then []
    else
      .lineBreak { ending, inside, ends, margin := upTo cursor.rest line.text, indent := [] } ::
        symbols cursor.rest ++ outlook r line.ending rest

def lineBreaks (s : List Symbol) : Nat :=
  s.countP fun
    | .lineBreak _ => true
    | .char _ => false

/-- The text of a heading without the number signs that may close it, and whether there were any. -/
def headingText (s : List Char) : List Char × Bool :=
  let whole := Text.dropEndWhile (· == ' ') s
  let inner := Text.dropEndWhile (· == '#') whole
  let text := Text.dropEndWhile (· == ' ') inner
  if inner.length = whole.length then (whole, false)
  else if inner.isEmpty || text.length < inner.length then (text, true)
  else (whole, false)

def trimBack (s : List Symbol) : List Symbol :=
  (s.reverse.dropWhile (·.isChar isBlank)).reverse

/-- The definition at the front of a paragraph, and the number of lines after the first it takes. -/
def definitionAt? (r : Reading) (text : List Char) (line : Line) (rest : List Line) :
    Option (Definition × Nat) :=
  match text with
  | '[' :: more =>
    let whole := symbols more ++ outlook r line.ending rest
    match definition? whole with
    | some (definition, behind) => some (definition, lineBreaks (upTo behind whole))
    | none => none
  | _ => none

/-- Reads a paragraph or the heading it turns out to be; also the number of lines after the
first. -/
def paragraph (r : Reading) (text : List Char) (line : Line) (rest : List Line) :
    Reading × Nat :=
  match definitionAt? r text line rest with
  | some (definition, n) => ({ r with definitions := definition :: r.definitions }, n)
  | none =>
    let more := gather r line.ending rest
    let content := trimBack (symbols text ++ more.content)
    match more.level with
    | some level => (r.add (.heading level content false), more.lines)
    | none => (r.add (.paragraph content), more.lines)

/-- Reads an indented block of code, without the blank lines at its end; also the number of lines
after the first. -/
def indentedCode (r : Reading) (cursor : Cursor) (line : Line) (rest : List Line) :
    Reading × Nat :=
  let extra := longLineExtra line rest
  let more := indentedLines r extra rest
  let kept := (more.reverse.dropWhile IndentedLine.isBlank).reverse
  let text := cursor.codeText line rest ++ kept.flatMap IndentedLine.text
  let r := r.add (.code text)
  ({ r with afterBlank := more.getLast?.any IndentedLine.isBlank },
    more.foldl (fun n line => n + line.lines) extra)

/-- Reads the block that a line which is not blank starts at the cursor, with the lines that belong
to it; also the number of lines after the first. -/
def leaf (r : Reading) (cursor : Cursor) (line : Line) (rest : List Line) : Reading × Nat :=
  let (indent, behind) := cursor.spaces 4
  let text := behind.rest
  if indent = 4 then indentedCode r behind line rest
  else
    match text with
    | '<' :: more =>
      match Html.block? more with
      | some ending =>
        let extra := longLineExtra line rest
        (r.add .html, htmlLines r ending (longLine line rest) extra rest)
      | none => paragraph r text line rest
    | _ =>
      if isRule text then (r.add .rule, 0)
      else
        match headingMark? text, fence? text with
        | some (level, more), _ =>
          let (content, closed) := headingText (more.dropWhile isBlank)
          (r.add (.heading level (symbols content) closed), 0)
        | none, some (mark, length) =>
          let extra := longLineExtra line rest
          let (code, n) := fencedLines r indent mark length extra rest
          (r.add (.code code), n)
        | none, none => paragraph r text line rest

/-- Reads a line with those after it that belong to its block; also the number of the latter. -/
def Reading.step (r : Reading) (line : Line) (rest : List Line) : Reading × Nat :=
  let (n, cursor) := continued (.ofLine line) r.spine.reverse
  match openParts (r.closeTo n) cursor with
  | (r, none) => (r, 0)
  | (r, some cursor) =>
    if isBlankLine cursor.rest then (r.blank, 0) else leaf r.closeList cursor line rest

def Reading.lines (r : Reading) : Nat → List Line → Reading
  | _, [] => r
  | skip + 1, _ :: rest => lines r skip rest
  | 0, line :: rest =>
    let (r, taken) := r.step line rest
    lines r taken rest

structure Outlined where
  nodes : List Node
  definitions : List Definition

def Outlined.ofText (s : List Char) : Outlined :=
  let r := (Reading.start.lines 0 (Line.ofText s)).closeTo 0
  ⟨r.done.reverse, r.definitions.reverse⟩

end ApiDocs.CommonMark
