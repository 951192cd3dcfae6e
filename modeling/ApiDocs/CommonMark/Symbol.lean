/-!
# Running text

The text of a paragraph or heading is a list of symbols: characters, and ends of lines with what
stands around them. The margin of the next line is what its quotes and list items take up, its
indent the blanks after that. Neither belongs to the text, but HTML and code keep the indent.
-/

namespace ApiDocs.CommonMark

/-- The end of a line and the front of the next one. -/
structure LineBreak where
  ending : List Char
  margin : List Char
  indent : List Char
  /-- Whether all open quotes and list items go on in the next line. -/
  inside : Bool
  ends : Bool
deriving DecidableEq, Repr

inductive Symbol where
  | char (c : Char)
  | lineBreak (b : LineBreak)
deriving DecidableEq, Repr

namespace Symbol

/-- The character of a symbol; the end of a line counts as a line feed. -/
def toChar : Symbol → Char
  | char c => c
  | lineBreak _ => '\n'

def isChar (p : Char → Bool) : Symbol → Bool
  | char c => p c
  | lineBreak _ => false

/-- The text of a symbol without the margin of the next line. -/
def unquoted : Symbol → List Char
  | char c => [c]
  | lineBreak b => b.ending ++ b.indent

def written : Symbol → List Char
  | char c => [c]
  | lineBreak b => b.ending ++ b.margin ++ b.indent

def coded : Symbol → List Char
  | char c => [c]
  | lineBreak b => ' ' :: b.indent

end Symbol

def symbols (s : List Char) : List Symbol :=
  s.map .char

/-- What of a list stands before one of its ends. -/
def upTo {α : Type} (rest whole : List α) : List α :=
  whole.take (whole.length - rest.length)

end ApiDocs.CommonMark
