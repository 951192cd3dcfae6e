import ApiDocs.Markup.Basic
import ApiDocs.Unicode.White

/-!
# Inlines as flat text

Flattening drops the wrappers of emphasis and links and all HTML. A run of white space in prose,
line breaks included, becomes one space, and none stands at either end. A code span is copied as it
is, between backticks where they are asked for.
-/

namespace ApiDocs.Flat

/-- Text flattened so far, written backwards, and whether white space followed it. -/
structure State where
  done : List Char
  gap : Bool

namespace State

def start : State :=
  ⟨[], false⟩

/-- The text with the white space that followed it as one space, unless it is empty. -/
def settled (state : State) : List Char :=
  if state.gap && !state.done.isEmpty then ' ' :: state.done else state.done

def char (state : State) (c : Char) : State :=
  if Unicode.isWhite c then { state with gap := true } else ⟨c :: state.settled, false⟩

def prose (state : State) (s : String) : State :=
  s.toList.foldl char state

def code (state : State) (s : List Char) : State :=
  ⟨s.reverse ++ state.settled, false⟩

end State

/-- The text of a code span, between backticks or not. -/
def codeText (ticks : Bool) (s : String) : List Char :=
  if ticks then '`' :: s.toList ++ ['`'] else s.toList

mutual

def inline (ticks : Bool) (state : State) : Inline → State
  | .text s => state.prose s
  | .code s => state.code (codeText ticks s)
  | .emphasis content => inlines ticks state content
  | .strong content => inlines ticks state content
  | .link _ content => inlines ticks state content
  | .html _ => state
  | .lineBreak => { state with gap := true }

def inlines (ticks : Bool) (state : State) : List Inline → State
  | [] => state
  | first :: rest => inlines ticks (inline ticks state first) rest

end

def flatten (ticks : Bool) (content : List Inline) : String :=
  String.ofList (inlines ticks .start content).done.reverse

end ApiDocs.Flat

namespace ApiDocs

/-- Flat text in which code spans lose their backticks. -/
def plainText (content : List Inline) : String :=
  Flat.flatten false content

/-- Flat text in which code spans keep their backticks. -/
def richText (content : List Inline) : String :=
  Flat.flatten true content

end ApiDocs
