import ApiDocs.Unicode.Letter
import ApiDocs.Unicode.Casing
import ApiDocs.Unicode.White
import ApiDocs.Text.Basic

/-!
# Slugs

A slug is the lower kebab form of an API name. A new word starts at a capital after a small letter
or a digit, at the last capital of an acronym that a small letter follows, and after each of `_`,
`-`, `.` or white space; other punctuation is dropped. A table of aliases covers names whose slug
cannot be derived. `IsSlug` says what a slug looks like without reference to any name.
-/

namespace ApiDocs.Slug

open ApiDocs.Unicode

def isSeparator (c : Char) : Bool :=
  c == '_' || c == '-' || c == '.' || isWhite c

/-- Appends a hyphen to a slug written backwards, unless it is empty or ends in one. -/
def hyphenate : List Char → List Char
  | [] => []
  | c :: done => if c == '-' then c :: done else '-' :: c :: done

/-- Whether a capital between these neighbours starts a word. -/
def startsWord (previous next : Option Char) : Bool :=
  previous.any (fun p => isLowercase p || p.isDigit) ||
    previous.any isUppercase && next.any isLowercase

/-- Appends one character of a name to its slug, both written backwards, given its neighbours. -/
def append (done : List Char) (previous : Option Char) (c : Char) (next : Option Char) :
    List Char :=
  if isSeparator c then hyphenate done
  else if !isAlphanumeric c then done
  else if isUppercase c then
    (toLowercase c).reverse ++ (if startsWord previous next then hyphenate done else done)
  else c :: done

/-- The slug of a name written backwards, hyphens at its end included. -/
def scan (done : List Char) (previous : Option Char) : List Char → List Char
  | [] => done
  | c :: rest => scan (append done previous c rest.head?) (some c) rest

def kebab (name : List Char) : List Char :=
  ((scan [] none name).dropWhile (· == '-')).reverse

def ofName (name : String) : String :=
  String.ofList (kebab name.toList)

def isWordChar (c : Char) : Bool :=
  c.isLower || c.isDigit

/-- A slug is made of nonempty words of ASCII letters and digits with single hyphens between. -/
def IsSlug (s : String) : Prop :=
  ∀ word ∈ s.toList.splitOn '-', word ≠ [] ∧ ∀ c ∈ word, isWordChar c = true

-- The words are tested character by character, whatever instances for statements about all
-- characters are in scope.
instance (s : String) : Decidable (IsSlug s) :=
  decidable_of_iff
    ((s.toList.splitOn '-').all fun word => !word.isEmpty && word.all isWordChar) (by
      simp only [IsSlug, List.all_eq_true, Bool.and_eq_true, Bool.not_eq_true',
        List.isEmpty_eq_false_iff])

end ApiDocs.Slug

namespace ApiDocs

/-- Appends a stem's characters to its camel form, written backwards; `capital` says that the next
kept character starts a word. -/
def camelScan (done : List Char) (capital : Bool) : List Char → List Char
  | [] => done.reverse
  | c :: rest =>
    if c == '-' || c == '_' || Unicode.isWhite c then camelScan done (!done.isEmpty) rest
    else if capital then camelScan ((Unicode.toUppercase c).reverse ++ done) false rest
    else camelScan (c :: done) false rest

/-- The lower camel form of a file stem: `web-contents` becomes `webContents`. -/
def camel (stem : String) : String :=
  String.ofList (camelScan [] false stem.toList)

end ApiDocs
