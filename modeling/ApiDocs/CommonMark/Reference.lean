import ApiDocs.CommonMark.CharacterName
import ApiDocs.CommonMark.Line
import ApiDocs.Numeric.Hex
import ApiDocs.Unicode.Punctuation

/-!
# Character references and escapes

An ampersand starts a reference to a character by name or by number, which a semicolon ends. A
backslash in front of ASCII punctuation makes it plain text.
-/

namespace ApiDocs.CommonMark

/-- The characters that an entry of the table of names stands for, when it is the entry of a
name. -/
def named? (name entry : List Char) : Option (List Char) :=
  match name.isPrefixOf? entry with
  | some ('=' :: codes) =>
    some ((codes.splitOn '+').map fun code => Char.ofNat ((String.ofList code).toNat?.getD 0))
  | _ => none

def characterTable : List (List Char) :=
  characterNames.flatMap fun line => line.toList.splitOn ' '

/-- The character of a code point that a reference gives; zero and what is no character stand for
the replacement character. -/
def referredChar (code : Nat) : Char :=
  if code = 0 ∨ !code.isValidChar then '\uFFFD' else Char.ofNat code

def numberOf (base : Nat) (digits : List Char) : Nat :=
  (Hex.ofDigits? base digits).getD 0

/-- The digits at the front of a text, at most the given number of them, when a semicolon
follows. -/
def digitsBeforeSemicolon? (p : Char → Bool) (most : Nat) (s : List Char) : Option (List Char) :=
  let digits := (s.take most).takeWhile p
  if digits ≠ [] ∧ s[digits.length]? = some ';' then some digits else none

/-- The characters that a reference after its ampersand stands for, and its length. -/
def reference? : List Char → Option (List Char × Nat)
  | '#' :: c :: s =>
    if c == 'x' || c == 'X' then
      (digitsBeforeSemicolon? (fun d => (Hex.value? d).isSome) 6 s).map fun digits =>
        ([referredChar (numberOf 16 digits)], digits.length + 3)
    else
      (digitsBeforeSemicolon? Char.isDigit 7 (c :: s)).map fun digits =>
        ([referredChar (numberOf 10 digits)], digits.length + 2)
  | s =>
    let name := s.takeWhile isAsciiWord
    match s.dropWhile isAsciiWord with
    | ';' :: _ => (characterTable.findSome? (named? name)).map fun value => (value, name.length + 1)
    | _ => none

/-- The text with escapes and references resolved, the first characters being passed over. -/
def resolveFrom : Nat → List Char → List Char
  | _, [] => []
  | skip + 1, _ :: rest => resolveFrom skip rest
  | 0, '\\' :: c :: rest =>
    if Unicode.isAsciiPunctuation c then c :: resolveFrom 0 rest
    else '\\' :: resolveFrom 0 (c :: rest)
  | 0, '&' :: rest =>
    match reference? rest with
    | some (value, length) => value ++ resolveFrom length rest
    | none => '&' :: resolveFrom 0 rest
  | 0, c :: rest => c :: resolveFrom 0 rest

def resolve (s : List Char) : List Char :=
  resolveFrom 0 s

end ApiDocs.CommonMark
