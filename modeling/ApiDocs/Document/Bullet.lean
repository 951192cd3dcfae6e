import ApiDocs.Markup.Basic
import ApiDocs.Markup.Flat
import ApiDocs.Record.Kind
import ApiDocs.Text.Basic

/-!
# Bullets

The front of a list item that documents a parameter: its name as code, then its type, then what is
said of it. The type is a word, a link, a code span or a union in parentheses.
-/

namespace ApiDocs

/-- What a list item says of a parameter. -/
structure Bullet where
  name : String
  type : String
  rest : List Inline
deriving Repr

inductive BulletFault where
  | noName (text : String)
  | noType (name : String)
deriving DecidableEq, Repr

namespace Bullet

def optionalMarker : String :=
  "(optional)"

/-- The members of a union, those that are blank left out. -/
def unionMembers (s : List Char) : List (List Char) :=
  ((s.splitOn '|').map Text.trim).filter fun part => part ≠ []

def typeWord? (s : List Char) : Option (String × List Char) :=
  if (Text.after? optionalMarker s).isSome || s.head? = some '-' then none
  else
    match s with
    | '(' :: inner =>
      match Text.cut? [')'] inner with
      | some (union, rest) =>
        match unionMembers union with
        | [] => none
        | members => some (String.ofList (" | ".toList.intercalate members), rest)
      | none => none
    | s =>
      let word := s.takeWhile fun c => !Unicode.isWhite c
      match Text.dropEndWhile (fun c => c == ',' || c == ':') word with
      | [] => none
      | type => some (String.ofList type, s.drop word.length)

def textInlines (s : List Char) : List Inline :=
  if s.isEmpty then [] else [.text (String.ofList s)]

/-- The type in what follows the name, and the inlines after it. -/
def type? : List Inline → Option (String × List Inline)
  | .text s :: rest =>
    match Text.trimStart s.toList with
    | [] => type? rest
    | s => (typeWord? s).map fun (type, left) => (type, textInlines left ++ rest)
  | .link _ content :: rest => some (plainText content, rest)
  | .code s :: rest => some (trimmed s, rest)
  | _ => none

def ofItem (item : List Block) : Except BulletFault Bullet :=
  match Block.lead item with
  | .code code :: tail =>
    let name := trimmed code
    if name = "" then .error (.noName (plainText (.code code :: tail)))
    else
      match type? tail with
      | some (type, rest) => .ok ⟨name, type, rest⟩
      | none => .error (.noType name)
  | lead => .error (.noName (plainText lead))

end Bullet

def Inline.platforms? : Inline → Option (List Platform)
  | .emphasis content => Platform.ofMarker? (plainText content)
  | _ => none

/-- The text without white space and without one dash at its front. -/
def afterDash (s : List Char) : List Char :=
  let s := Text.trim s
  Text.trim ((Text.after? "-" s).getD s)

/-- The text after the mark of what may be left out, and whether it was there. -/
def afterOptional (s : List Char) : List Char × Bool :=
  match Text.after? Bullet.optionalMarker s with
  | some rest => (Text.trimStart rest, true)
  | none => (s, false)

/-- The description in what follows the type, and whether it marks the parameter optional, before or
after a dash. Markers of platforms do not count. -/
def Bullet.description (rest : List Inline) : String × Bool :=
  let kept := rest.filter fun inline => inline.platforms?.isNone
  let (text, first) := afterOptional (Text.trim (richText kept).toList)
  let (text, second) := afterOptional (afterDash text)
  (String.ofList text, first || second)

end ApiDocs
