/-!
# Faults in JSON text

A fault is what a reader meets where no JSON value can continue. It is placed by line and column;
the column counts the bytes of the line up to and including the one at fault, and a line feed starts
the count again.
-/

namespace ApiDocs.Json

inductive Fault where
  | endInValue
  | endInList
  | endInObject
  | endInString
  | expectedValue
  | expectedWord
  | expectedColon
  | expectedListEnd
  | expectedObjectEnd
  | trailingComma
  | trailingCharacters
  | keyNotString
  | invalidEscape
  | invalidNumber
  | numberOutOfRange
  | controlCharacter
  | loneSurrogate
  | unfinishedSurrogate
  | tooDeep
deriving DecidableEq, Repr

def Fault.message : Fault → String
  | endInValue => "EOF while parsing a value"
  | endInList => "EOF while parsing a list"
  | endInObject => "EOF while parsing an object"
  | endInString => "EOF while parsing a string"
  | expectedValue => "expected value"
  | expectedWord => "expected ident"
  | expectedColon => "expected `:`"
  | expectedListEnd => "expected `,` or `]`"
  | expectedObjectEnd => "expected `,` or `\x7d`"
  | trailingComma => "trailing comma"
  | trailingCharacters => "trailing characters"
  | keyNotString => "key must be a string"
  | invalidEscape => "invalid escape"
  | invalidNumber => "invalid number"
  | numberOutOfRange => "number out of range"
  | controlCharacter => "control character (\\u0000-\\u001F) found while parsing a string"
  | loneSurrogate => "lone leading surrogate in hex escape"
  | unfinishedSurrogate => "unexpected end of hex escape"
  | tooDeep => "recursion limit exceeded"

/-- A fault met with some text unread, so many bytes into that text. -/
structure Failure where
  fault : Fault
  unread : List Char
  ahead : Nat
deriving DecidableEq, Repr

structure SyntaxError where
  fault : Fault
  line : Nat
  column : Nat
deriving DecidableEq, Repr

def SyntaxError.message (e : SyntaxError) : String :=
  s!"{e.fault.message} at line {e.line} column {e.column}"

def byteCount (s : List Char) : Nat :=
  s.foldl (fun n c => n + c.utf8Size) 0

def Failure.locate (text : List Char) (failure : Failure) : SyntaxError :=
  let offset := byteCount text - byteCount failure.unread + failure.ahead
  let before := (String.ofList text).toUTF8.toList.take offset
  { fault := failure.fault
    line := 1 + before.count 10
    column := (before.reverse.takeWhile (· ≠ 10)).length }

end ApiDocs.Json
