/-!
# Decimal digits

Whole numbers written in the ten ASCII digits, with or without a sign.
-/

namespace ApiDocs.Decimal

def digitValue (c : Char) : Nat :=
  c.toNat - '0'.toNat

def ofDigits (s : List Char) : Nat :=
  s.foldl (fun n c => n * 10 + digitValue c) 0

/-- The number written by a text of nothing but digits. -/
def natural? (s : List Char) : Option Nat :=
  if s ≠ [] ∧ s.all Char.isDigit then some (ofDigits s) else none

/-- Whether a minus stands in front of a text, and the text behind its sign. -/
def signed : List Char → Bool × List Char
  | '-' :: rest => (true, rest)
  | '+' :: rest => (false, rest)
  | s => (false, s)

def integer? (s : List Char) : Option Int :=
  let (negative, digits) := signed s
  (natural? digits).map fun n => if negative then -n else n

end ApiDocs.Decimal
