import ApiDocs.Numeric.Binary64

/-!
# Shortest decimal text

A binary number is written with the fewest decimal digits that read back as the same number, and of
two such decimals with the nearer one. The digits are found on the decimal grids of one digit, two
digits and so on, where one of the two neighbours of the number lies in the interval that rounds to
it. How the digits are laid out is chosen by each format.
-/

namespace ApiDocs.Binary64

/-- The decimal `digits * 10 ^ exponent`. -/
structure Decimal where
  digits : Nat
  exponent : Int
deriving DecidableEq, Repr

/-- Twice the bounds of the magnitudes that round to a number, over a common denominator, and
whether the bounds themselves round to it. -/
structure Basin where
  low : Nat
  high : Nat
  den : Nat
  closed : Bool

/-- The magnitudes that round to a number. Below a power of two the neighbour is half as far. -/
def basin (x : Binary64) : Basin :=
  let narrow := x.mantissa = Nat.pow 2 52 ∧ x.exponent ≠ leastExponent
  let (scale, den) := scaled 1 4 (-x.exponent)
  { low := (8 * x.mantissa - if narrow then 2 else 4) * scale
    high := (8 * x.mantissa + 4) * scale
    den := den
    closed := x.mantissa % 2 == 0 }

/-- Whether twice the decimal `digits * (num / den)` lies in the basin. -/
def Basin.holds (b : Basin) (digits num den : Nat) : Bool :=
  let value := 2 * digits * num * b.den
  let low := b.low * den
  let high := b.high * den
  if b.closed then low ≤ value && value ≤ high else low < value && value < high

/-- The power of ten of the leading digit of a positive ratio above `10 ^ (-400)`. -/
def leadingPower (num den : Nat) : Int :=
  ((Nat.toDigits 10 (num * Nat.pow 10 400 / den)).length : Int) - 401

def tenPower (exponent : Int) : Nat × Nat :=
  if exponent < 0 then (1, Nat.pow 10 (-exponent).toNat)
  else (Nat.pow 10 exponent.toNat, 1)

/-- The decimal with this many digits that reads back, if there is one. -/
def onGrid? (x : Binary64) (b : Basin) (count : Nat) : Option Decimal :=
  let (num, den) := x.ratio
  let exponent := leadingPower num den - (count : Int) + 1
  let (p, q) := tenPower exponent
  let below := num * q / (den * p)
  let above := below + 1
  -- twice the distances of the two neighbours, over the denominator `den * q`
  let toBelow := num * q - below * p * den
  let toAbove := above * p * den - num * q
  match b.holds below p q, b.holds above p q with
  | true, false => some ⟨below, exponent⟩
  | false, true => some ⟨above, exponent⟩
  | false, false => none
  | true, true =>
    if toBelow < toAbove ∨ toBelow = toAbove ∧ below % 2 = 0 then some ⟨below, exponent⟩
    else some ⟨above, exponent⟩

/-- The fewest digits that read back as the magnitude of a nonzero number. Seventeen always do. -/
def shortest (x : Binary64) : Decimal :=
  ((List.range 17).findSome? fun n => onGrid? x x.basin (n + 1)).getD ⟨x.mantissa, 0⟩

/-- The digits without zeros at their end, and the place of the point counted from their front. -/
def layout (x : Binary64) : List Char × Int :=
  let d := x.shortest
  let digits := Nat.toDigits 10 d.digits
  let kept := (digits.reverse.dropWhile (· == '0')).reverse
  (kept, d.exponent + digits.length)

def zeros (count : Int) : List Char :=
  List.replicate count.toNat '0'

def signText (x : Binary64) : List Char :=
  if x.negative then ['-'] else []

/-- The number without exponent, as many zeros as it takes, and no point after a whole number. -/
def positionalText (x : Binary64) : String :=
  let body :=
    if x.mantissa = 0 then ['0']
    else
      let (digits, point) := x.layout
      if point ≤ 0 then '0' :: '.' :: zeros (-point) ++ digits
      else if digits.length ≤ point then digits ++ zeros (point - digits.length)
      else digits.take point.toNat ++ '.' :: digits.drop point.toNat
  String.ofList (x.signText ++ body)

def pointedText (x : Binary64) : String :=
  let text := x.positionalText
  if text.toList.contains '.' then text else text ++ ".0"

/-- The form used in JSON: positional with a point from `10 ^ (-5)` to below `10 ^ 16`, otherwise
one digit before the point and a signed exponent. -/
def jsonText (x : Binary64) : String :=
  let (digits, point) := x.layout
  if x.mantissa = 0 ∨ (-5 < point ∧ point ≤ 16) then x.pointedText
  else
    let mantissa := match digits with
      | [] => []
      | [d] => [d]
      | d :: more => d :: '.' :: more
    let power := point - 1
    let sign := if power < 0 then '-' else '+'
    String.ofList (x.signText ++ mantissa ++ 'e' :: sign :: Nat.toDigits 10 power.natAbs)

end ApiDocs.Binary64
