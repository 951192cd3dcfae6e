import ApiDocs.Json.Basic
import ApiDocs.Numeric.Shortest

/-!
# JSON text

Values are written compactly, or over several lines with two spaces for each level. A string writes
the quote and the backslash after a backslash, the common control characters by their letters and
the other control characters by four hexadecimal digits; every other character stands for itself.
-/

namespace ApiDocs.Json

def hexDigits (code : Nat) : List Char :=
  [code / 4096 % 16, code / 256 % 16, code / 16 % 16, code % 16].map Nat.digitChar

def escaped (c : Char) : List Char :=
  if c = '"' then ['\\', '"']
  else if c = '\\' then ['\\', '\\']
  else if c = '\n' then ['\\', 'n']
  else if c = '\r' then ['\\', 'r']
  else if c = '\t' then ['\\', 't']
  else if c = '\x08' then ['\\', 'b']
  else if c = '\x0c' then ['\\', 'f']
  else if c.toNat < 32 then '\\' :: 'u' :: hexDigits c.toNat
  else [c]

def quoted (s : String) : List Char :=
  '"' :: s.toList.flatMap escaped ++ ['"']

def scalar : Json → List Char
  | null => "null".toList
  | bool true => "true".toList
  | bool false => "false".toList
  | integer n => (toString n).toList
  | real x => x.jsonText.toList
  | string s => quoted s
  | array _ => "[]".toList
  | object _ => ['\x7b', '\x7d']

mutual

/-- The value on one line without blanks. -/
def compactChars : Json → List Char
  | array items => '[' :: compactItems items ++ [']']
  | object entries => '\x7b' :: compactEntries entries ++ ['\x7d']
  | value => value.scalar

def compactItems : List Json → List Char
  | [] => []
  | [item] => item.compactChars
  | item :: rest => item.compactChars ++ ',' :: compactItems rest

def compactEntries : List (String × Json) → List Char
  | [] => []
  | [(key, value)] => quoted key ++ ':' :: value.compactChars
  | (key, value) :: rest => quoted key ++ ':' :: value.compactChars ++ ',' :: compactEntries rest

end

def newLine (level : Nat) : List Char :=
  '\n' :: List.replicate (2 * level) ' '

mutual

/-- The value over several lines, its first line standing at the level. -/
def prettyChars (level : Nat) : Json → List Char
  | array (item :: rest) =>
    '[' :: newLine (level + 1) ++ prettyItems (level + 1) (item :: rest) ++ newLine level ++ [']']
  | object (entry :: rest) =>
    '\x7b' :: newLine (level + 1) ++ prettyEntries (level + 1) (entry :: rest) ++ newLine level ++
      ['\x7d']
  | value => value.scalar

def prettyItems (level : Nat) : List Json → List Char
  | [] => []
  | [item] => item.prettyChars level
  | item :: rest => item.prettyChars level ++ ',' :: newLine level ++ prettyItems level rest

def prettyEntries (level : Nat) : List (String × Json) → List Char
  | [] => []
  | [(key, value)] => quoted key ++ ':' :: ' ' :: value.prettyChars level
  | (key, value) :: rest =>
    quoted key ++ ':' :: ' ' :: value.prettyChars level ++ ',' :: newLine level ++
      prettyEntries level rest

end

def compact (value : Json) : String :=
  String.ofList value.compactChars

def pretty (value : Json) : String :=
  String.ofList (value.prettyChars 0)

end ApiDocs.Json
