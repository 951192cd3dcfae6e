import ApiDocs.Numeric.Decimal
import ApiDocs.Numeric.Shortest

/-!
# Floating point numbers and infinities

A decimal beyond the largest floating point number is read as an infinity, one too close to zero as
zero.
-/

namespace ApiDocs

/-- A floating point number, an infinity, or no number. -/
inductive Extended where
  | finite (x : Binary64)
  | infinite (negative : Bool)
  | undefined
deriving DecidableEq, Repr

namespace Extended

def ofDecimal (negative : Bool) (digits : Nat) (exponent : Int) : Extended :=
  let point := exponent + (Nat.toDigits 10 digits).length
  if digits = 0 ∨ point < -400 then .finite (.zero negative)
  else if 400 < point then .infinite negative
  else
    match Binary64.ofDecimal? negative digits exponent with
    | some x => .finite x
    | none => .infinite negative

def exponent? : List Char → Option Int
  | [] => some 0
  | c :: rest => if c = 'e' ∨ c = 'E' then Decimal.integer? rest else none

/-- The number of a decimal text: digits with at most one point among them, an optional sign in
front and an optional exponent behind. -/
def ofText? (s : List Char) : Option Extended :=
  let (negative, s) := Decimal.signed s
  let whole := s.takeWhile Char.isDigit
  let (fraction, rest) :=
    match s.dropWhile Char.isDigit with
    | '.' :: rest => (rest.takeWhile Char.isDigit, rest.dropWhile Char.isDigit)
    | rest => ([], rest)
  let digits := whole ++ fraction
  if digits = [] then none
  else
    (exponent? rest).map fun exponent =>
      ofDecimal negative (Decimal.ofDigits digits) (exponent - fraction.length)

def text : Extended → String
  | finite x => x.positionalText
  | infinite false => "inf"
  | infinite true => "-inf"
  | undefined => "NaN"

end Extended

end ApiDocs
