import ApiDocs.Environment
import ApiDocs.Text.Basic
import ApiDocs.Unicode.Letter

/-!
# Environment files

A file of assignments, one on a line, sets the variables that are not set yet. A quote left open
continues a line into the next. A value ends at a blank outside quotes, behind which only a comment
may follow. A dollar sign in front of a name stands for the value of that variable. The first line
that is not well formed ends the file.
-/

namespace ApiDocs.Dotenv

open ApiDocs.Unicode

/-- Where in a line a character stands: outside quotes, behind a blank there, between quotes, or
behind a backslash in one of these places. -/
inductive Place where
  | plain
  | blank
  | single
  | double
  | plainEscape
  | singleEscape
  | doubleEscape
deriving DecidableEq, Repr

def Place.afterPlain (c : Char) : Place :=
  if c = '\\' then plainEscape
  else if c = '"' then double
  else if c = '\'' then single
  else plain

def Place.next (place : Place) (c : Char) : Place :=
  match place with
  | plain => if isWhite c && c != '\n' && c != '\r' then blank else afterPlain c
  | blank => afterPlain c
  | plainEscape => plain
  | single => if c = '\\' then singleEscape else if c = '\'' then plain else single
  | singleEscape => single
  | double => if c = '\\' then doubleEscape else if c = '"' then plain else double
  | doubleEscape => double

/-- The part of a line in front of a comment, and the place at its end; none for the place when
there is a comment, which ends the line in any case. -/
def uncommented (place : Place) : List Char → List Char × Option Place
  | [] => ([], some place)
  | c :: rest =>
    if place = .blank ∧ c = '#' then ([], none)
    else
      let (front, ending) := uncommented (place.next c) rest
      (c :: front, ending)

def rawLines : List Char → List (List Char)
  | [] => []
  | c :: rest =>
    if c = '\n' then [c] :: rawLines rest
    else
      match rawLines rest with
      | [] => [[c]]
      | line :: lines => (c :: line) :: lines

/-- The lines with those joined that quotes continue, without comments; `front` is the line so far.
A line that stays open at the end is lost. -/
def joinedLines (front : List Char) (place : Place) : List (List Char) → List (List Char)
  | [] => []
  | line :: rest =>
    if front = [] ∧ (Text.trimStart line).head? = some '#' then joinedLines [] .plain rest
    else
      match uncommented place line with
      | (read, none) | (read, some .plain) => (front ++ read) :: joinedLines [] .plain rest
      | (read, some place) => joinedLines (front ++ read) place rest

/-- Where in a value a character stands: in text or behind a backslash, which may be between double
quotes; between single quotes; in the name of a variable, which may have an opening bracket in front
of it; or behind the value. -/
inductive Part where
  | text (quoted : Bool)
  | escape (quoted : Bool)
  | single
  | name (quoted : Bool) (read : List Char)
  | bracedName (quoted : Bool) (read : List Char)
  | behind
deriving DecidableEq, Repr

def escapedChar? (c : Char) : Option Char :=
  if c = 'n' then some '\n'
  else if c ∈ ['\\', '\'', '"', '$', ' '] then some c
  else none

/-- The value of a variable, which is empty when it is not set. -/
def lookup (environment : Environment) (name : List Char) : List Char :=
  ((environment.get? (String.ofList name)).getD "").toList

def value? (environment : Environment) : Part → List Char → Option (List Char)
  | .text quoted, [] => if quoted then none else some []
  | .escape quoted, [] => if quoted then none else some []
  | .single, [] => none
  | .name quoted read, [] => if quoted then none else some (lookup environment read)
  | .bracedName _ _, [] => none
  | .behind, [] => some []
  | .behind, c :: rest =>
    if c = ' ' ∨ c = '\t' then value? environment .behind rest
    else if c = '#' then some []
    else none
  | .escape quoted, c :: rest =>
    match escapedChar? c with
    | some e => (value? environment (.text quoted) rest).map (e :: ·)
    | none => none
  | .single, c :: rest =>
    if c = '\'' then value? environment (.text false) rest
    else (value? environment .single rest).map (c :: ·)
  | .name quoted read, c :: rest =>
    if isAlphanumeric c then value? environment (.name quoted (read ++ [c])) rest
    else if c = '\x7b' ∧ read = [] then value? environment (.bracedName quoted []) rest
    else if c = '$' then
      (value? environment (.name quoted []) rest).map (lookup environment read ++ ·)
    else
      (value? environment (.text quoted) rest).map (lookup environment read ++ c :: ·)
  | .bracedName quoted read, c :: rest =>
    if c = '\x7d' then
      (value? environment (.text quoted) rest).map (lookup environment read ++ ·)
    else value? environment (.bracedName quoted (read ++ [c])) rest
  | .text quoted, c :: rest =>
    if c = '$' then value? environment (.name quoted []) rest
    else if c = '\\' then value? environment (.escape quoted) rest
    else if c = '"' then value? environment (.text !quoted) rest
    else if quoted then (value? environment (.text true) rest).map (c :: ·)
    else if c = '\'' then value? environment .single rest
    else if c = ' ' ∨ c = '\t' then value? environment .behind rest
    else (value? environment (.text false) rest).map (c :: ·)

inductive Line where
  | nothing
  | assignment (name : String) (value : String)
  | broken
deriving DecidableEq, Repr

def startsName (c : Char) : Bool :=
  c.isAlpha || c == '_'

def isNameChar (c : Char) : Bool :=
  c.isAlphanum || c == '_' || c == '.'

def name? : List Char → Option (List Char × List Char)
  | [] => none
  | c :: rest =>
    if startsName c then
      some (c :: rest.takeWhile isNameChar, Text.trimStart (rest.dropWhile isNameChar))
    else none

/-- The assigned name at the front of a text, and the text behind the equals sign. The word `export`
may stand in front. -/
def assigned? (s : List Char) : Option (List Char × List Char) := do
  let (name, rest) ← name? s
  match rest with
  | '=' :: value => some (name, value)
  | _ =>
    if name = "export".toList then
      match ← name? rest with
      | (name, '=' :: value) => some (name, value)
      | _ => none
    else none

def Line.ofText (environment : Environment) (line : List Char) : Line :=
  match Text.trim line with
  | [] | '#' :: _ => nothing
  | s =>
    match assigned? s with
    | none => broken
    | some (name, written) =>
      let value :=
        match Text.trimStart written with
        | [] | '#' :: _ => some []
        | written => value? environment (.text false) written
      match value with
      | some value => assignment (String.ofList name) (String.ofList value)
      | none => broken

/-- The environment after lines, up to the first broken one. -/
def setLines (environment : Environment) : List (List Char) → Environment
  | [] => environment
  | line :: rest =>
    match Line.ofText environment line with
    | .nothing => setLines environment rest
    | .assignment name value => setLines (environment.setDefault name value) rest
    | .broken => environment

/-- The environment after a file of assignments. -/
def load (text : String) (environment : Environment) : Environment :=
  let s :=
    match text.toList with
    | '\uFEFF' :: rest => rest
    | s => s
  setLines environment (joinedLines [] .plain (rawLines s))

end ApiDocs.Dotenv
