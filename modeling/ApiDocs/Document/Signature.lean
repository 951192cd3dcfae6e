import ApiDocs.Text.Basic

/-!
# Signatures

The parameters of a signature such as `(width, height[, animate])` are parted by commas. A parameter
is optional when some of its name stands inside square brackets; brackets and white space belong to
no name.
-/

namespace ApiDocs.Signature

/-- The name of a parameter and whether it is optional. -/
structure Slot where
  name : String
  optional : Bool
deriving DecidableEq, Repr

/-- A name read so far, the last character first, and whether some of it stands in brackets. -/
structure State where
  name : List Char
  bracketed : Bool
  depth : Nat

def State.slots (state : State) : List Slot :=
  if state.name.isEmpty then [] else [⟨String.ofList state.name.reverse, state.bracketed⟩]

def scan (state : State) : List Char → List Slot
  | [] => state.slots
  | c :: rest =>
    if c == '[' then scan { state with depth := state.depth + 1 } rest
    else if c == ']' then scan { state with depth := state.depth - 1 } rest
    else if c == ',' then state.slots ++ scan ⟨[], false, state.depth⟩ rest
    else if Unicode.isWhite c then scan state rest
    else scan ⟨c :: state.name, state.bracketed || 0 < state.depth, state.depth⟩ rest

/-- What stands between the parentheses of a signature, or all of it when it has none. -/
def inner (signature : String) : List Char :=
  match Text.after? "(" (Text.trim signature.toList) with
  | some rest => (Text.before? ")" rest).getD signature.toList
  | none => signature.toList

def slots (signature : String) : List Slot :=
  scan ⟨[], false, 0⟩ (inner signature)

def names (signature : String) : List String :=
  (slots signature).map Slot.name

def optionalNames (signature : String) : List String :=
  ((slots signature).filter Slot.optional).map Slot.name

end ApiDocs.Signature
