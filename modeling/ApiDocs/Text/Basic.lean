import ApiDocs.Unicode.White

/-!
# Cutting and trimming text

Text is handled as a list of characters while it is taken apart. White space is that of the Unicode
standard throughout.
-/

namespace ApiDocs.Text

open ApiDocs.Unicode

def dropEndWhile (p : Char → Bool) (s : List Char) : List Char :=
  (s.reverse.dropWhile p).reverse

def trimStart (s : List Char) : List Char :=
  s.dropWhile isWhite

def trimEnd (s : List Char) : List Char :=
  dropEndWhile isWhite s

def trim (s : List Char) : List Char :=
  trimEnd (trimStart s)

/-- The maximal runs without white space. -/
def words (s : List Char) : List (List Char) :=
  (s.splitOnP isWhite).filter (· ≠ [])

/-- The text after a given beginning, when the text has it. -/
def after? (beginning : String) (s : List Char) : Option (List Char) :=
  beginning.toList.isPrefixOf? s

def before? (ending : String) (s : List Char) : Option (List Char) :=
  (ending.toList.reverse.isPrefixOf? s.reverse).map List.reverse

def holds (pattern : List Char) : List Char → Bool
  | [] => pattern.isEmpty
  | c :: rest => pattern.isPrefixOf (c :: rest) || holds pattern rest

/-- The text before and after the first place where the pattern stands. -/
def cut? (pattern : List Char) : List Char → Option (List Char × List Char)
  | [] => if pattern.isEmpty then some ([], []) else none
  | c :: rest =>
    match pattern.isPrefixOf? (c :: rest) with
    | some behind => some ([], behind)
    | none => (cut? pattern rest).map fun (front, behind) => (c :: front, behind)

def asciiLower (s : List Char) : List Char :=
  s.map Char.toLower

/-- What is left of a text after something was read from it. -/
abbrev Rest (s : List Char) :=
  { rest : List Char // rest.length < s.length }

/-- What is left of a text after something, perhaps empty, was read from it. -/
abbrev Unread (s : List Char) :=
  { rest : List Char // rest.length ≤ s.length }

theorem length_dropWhile_le (p : Char → Bool) (s : List Char) :
    (s.dropWhile p).length ≤ s.length :=
  (List.dropWhile_suffix p).length_le

end ApiDocs.Text

namespace ApiDocs

def trimmed (s : String) : String :=
  String.ofList (Text.trim s.toList)

end ApiDocs
