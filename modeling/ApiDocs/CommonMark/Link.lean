import ApiDocs.CommonMark.Reference
import ApiDocs.CommonMark.Symbol
import ApiDocs.Unicode.Casing
import ApiDocs.Unicode.White

/-!
# Parts of links

Labels, destinations and titles, the definitions of labels, and addresses between angle brackets.
Labels are compared without regard to case and to the kind and number of blanks between words.
-/

namespace ApiDocs.CommonMark

def isLabelBlank (c : Char) : Bool :=
  isBlank c || c == '\n' || c == '\r'

/-- Puts a character in front of a label read, blanks becoming one space. -/
def labelCons (c : Char) (label : List Char) : List Char :=
  if isLabelBlank c then
    match label with
    | ' ' :: _ => label
    | _ => ' ' :: label
  else c :: label

/-- Reads a label up to its closing bracket; lines may end where `through` allows it. -/
def labelBody? (through : LineBreak → Bool) :
    List Symbol → Option (List Char × List Symbol)
  | [] => none
  | .char '[' :: _ => none
  | .char ']' :: rest => some ([], rest)
  | .char '\\' :: .char c :: rest =>
    (labelBody? through rest).map fun (label, rest) => ('\\' :: c :: label, rest)
  | .lineBreak b :: rest =>
    if through b then
      (labelBody? through rest).map fun (label, rest) => (labelCons '\n' label, rest)
    else none
  | .char c :: rest =>
    (labelBody? through rest).map fun (label, rest) => (labelCons c label, rest)

def maxLabel : Nat :=
  999

/-- The label after an opening bracket, in the form in which labels are compared, and the text after
its closing bracket. A label is not blank. -/
def label? (through : LineBreak → Bool) (s : List Symbol) :
    Option (List Char × List Symbol) :=
  match labelBody? through s with
  | some (label, rest) =>
    if label.all isLabelBlank || maxLabel < (upTo rest s).length - 1 then none
    else some (label.flatMap Unicode.foldCase, rest)
  | none => none

def pointedDestination? : List Symbol → Option (List Char × List Symbol)
  | .char '\\' :: .char c :: rest =>
    if c == '<' || c == '>' || c == '\\' then
      (pointedDestination? rest).map fun (read, rest) => ('\\' :: c :: read, rest)
    else (pointedDestination? (.char c :: rest)).map fun (read, rest) => ('\\' :: read, rest)
  | .char '>' :: rest => some ([], rest)
  | .char '<' :: _ => none
  | .char c :: rest => (pointedDestination? rest).map fun (read, rest) => (c :: read, rest)
  | _ => none

/-- Reads a destination without angle brackets, with `depth` parentheses open; `deepest` of them may
be open when another one opens. -/
def bareDestination? (deepest depth : Nat) : List Symbol → Option (List Char × List Symbol)
  | .char '\\' :: .char c :: rest =>
    if Unicode.isAsciiPunctuation c then
      (bareDestination? deepest depth rest).map fun (read, rest) => ('\\' :: c :: read, rest)
    else
      (bareDestination? deepest depth (.char c :: rest)).map fun (read, rest) =>
        ('\\' :: read, rest)
  | .char '(' :: rest =>
    if deepest < depth then none
    else (bareDestination? deepest (depth + 1) rest).map fun (read, rest) => ('(' :: read, rest)
  | .char ')' :: rest =>
    if depth = 0 then some ([], .char ')' :: rest)
    else (bareDestination? deepest (depth - 1) rest).map fun (read, rest) => (')' :: read, rest)
  | .char c :: rest =>
    if c.toNat ≤ 32 then if depth = 0 then some ([], .char c :: rest) else none
    else (bareDestination? deepest depth rest).map fun (read, rest) => (c :: read, rest)
  | s => if depth = 0 then some ([], s) else none

def destination? (deepest : Nat) : List Symbol → Option (List Char × List Symbol)
  | .char '<' :: rest => (pointedDestination? rest).map fun (read, rest) => (resolve read, rest)
  | s => (bareDestination? deepest 0 s).map fun (read, rest) => (resolve read, rest)

/-- The text after a title up to its closing character; lines may end where `through` allows it. -/
def titleBody? (through : LineBreak → Bool) (closing : Char) :
    List Symbol → Option (List Symbol)
  | [] => none
  | .lineBreak b :: rest => if through b then titleBody? through closing rest else none
  | .char '\\' :: .char c :: rest =>
    if Unicode.isAsciiPunctuation c then titleBody? through closing rest
    else titleBody? through closing (.char c :: rest)
  | .char c :: rest =>
    if c == closing then some rest
    else if c == '(' && closing == ')' then none
    else titleBody? through closing rest

def title? (through : LineBreak → Bool) : List Symbol → Option (List Symbol)
  | .char '"' :: rest => titleBody? through '"' rest
  | .char '\'' :: rest => titleBody? through '\'' rest
  | .char '(' :: rest => titleBody? through ')' rest
  | _ => none

def skipBlanks (s : List Symbol) : List Symbol :=
  s.dropWhile (·.isChar isBlank)

/-- The text after blanks with at most one end of a line among them. -/
def skipGap (s : List Symbol) : List Symbol :=
  match skipBlanks s with
  | .lineBreak _ :: rest => skipBlanks rest
  | rest => rest

/-- The address between parentheses after the text of a link, and the text after that. -/
def target? : List Symbol → Option (List Char × List Symbol)
  | .char '(' :: rest =>
    match destination? 32 (skipGap rest) with
    | none => none
    | some (url, rest) =>
      let rest := skipGap rest
      match ((title? (fun _ => true) rest).map skipGap).getD rest with
      | .char ')' :: rest => some (url, rest)
      | _ => none
  | _ => none

structure Definition where
  label : List Char
  url : List Char
deriving DecidableEq, Repr

/-- The text after blanks with at most one end of a line among them, when all that is open goes on
there, and whether a line ended. None where a second line ends or the text does. -/
def definitionGap? (s : List Symbol) : Option (List Symbol × Bool) :=
  match skipBlanks s with
  | [] => none
  | .lineBreak b :: rest =>
    if !b.inside then none
    else
      match skipBlanks rest with
      | [] => none
      | .lineBreak _ :: _ => none
      | rest => some (rest, true)
  | rest => some (rest, false)

def atLineEnd (s : List Symbol) : Bool :=
  match skipBlanks s with
  | [] => true
  | .lineBreak _ :: _ => true
  | .char _ :: _ => false

/-- The text after a title that ends its line. A title that goes on in another line needs all that
is open to go on there too. -/
def definitionTitle? (s : List Symbol) : Option (List Symbol) :=
  match title? LineBreak.inside s with
  | some rest => if atLineEnd rest then some rest else none
  | none => none

def definition? (s : List Symbol) : Option (Definition × List Symbol) :=
  match label? (fun b => !b.ends) s with
  | some (label, .char ':' :: rest) =>
    match definitionGap? rest with
    | none => none
    | some (start, _) =>
      match destination? 1 start with
      | none => none
      | some (url, rest) =>
        if rest.length = start.length then none
        else
          let definition := ⟨label, url⟩
          match definitionGap? rest with
          | none => some (definition, rest)
          | some (next, newLine) =>
            if next.length = rest.length then none
            else
              match definitionTitle? next with
              | some rest => some (definition, rest)
              | none => if newLine then some (definition, rest) else none
  | _ => none

def isSchemeChar (c : Char) : Bool :=
  isAsciiWord c || c == '.' || c == '-' || c == '+'

/-- Reads an address with a scheme of 2 to 32 characters. -/
def uri? (s : List Char) : Option (List Char × Nat) :=
  let scheme := s.takeWhile isSchemeChar
  match scheme, s.dropWhile isSchemeChar with
  | c :: _, ':' :: more =>
    if c.isAlpha && 2 ≤ scheme.length && scheme.length ≤ 32 then
      let path := more.takeWhile fun c => 32 < c.toNat && c != '<' && c != '>'
      match more.drop path.length with
      | '>' :: _ => some (scheme ++ ':' :: path, scheme.length + path.length + 2)
      | _ => none
    else none
  | _, _ => none

/-- Characters of the part of a mail address before its `@`. -/
def isMailChar (c : Char) : Bool :=
  isAsciiWord c || ".!#$%&'*+/=?^_\x60\x7b|\x7d~-".toList.contains c

/-- Whether a text is a label of a host: letters and digits with hyphens inside, at most 63. -/
def isHostLabel (s : List Char) : Bool :=
  s ≠ [] && s.length ≤ 63 && s.all (fun c => isAsciiWord c || c == '-') &&
    s.head? != some '-' && s.getLast? != some '-'

def mail? (s : List Char) : Option (List Char × Nat) :=
  let name := s.takeWhile isMailChar
  match name, s.dropWhile isMailChar with
  | _ :: _, '@' :: more =>
    let host := more.takeWhile fun c => isAsciiWord c || c == '-' || c == '.'
    match more.drop host.length with
    | '>' :: _ =>
      if (host.splitOn '.').all isHostLabel then
        some (name ++ '@' :: host, name.length + host.length + 2)
      else none
    | _ => none
  | _, _ => none

/-- The address after an opening angle bracket, and its length with the closing bracket. -/
def address? (s : List Char) : Option (List Char × Nat) :=
  match uri? s with
  | some found => some found
  | none => mail? s

end ApiDocs.CommonMark
