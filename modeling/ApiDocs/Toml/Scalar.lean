import ApiDocs.Numeric.Hex
import ApiDocs.Text.Basic
import ApiDocs.Toml.Value

/-!
# Numbers, truth values and moments

A scalar is written as one run of letters, digits and a few marks; only between a date and a time a
single blank may stand. Digits may be grouped by underscores that have a digit on either side.
-/

namespace ApiDocs.Toml

def isScalarChar (c : Char) : Bool :=
  c.isAlphanum || c == '+' || c == '-' || c == '_' || c == '.' || c == ':'

/-- The digits of a group without the underscores between them. -/
def grouped? (isDigit : Char → Bool) : List Char → Option (List Char)
  | [] => none
  | [c] => if isDigit c then some [c] else none
  | c :: '_' :: rest => if isDigit c then (grouped? isDigit rest).map (c :: ·) else none
  | c :: rest => if isDigit c then (grouped? isDigit rest).map (c :: ·) else none

/-- The digits of a whole number, which has a zero in front only as its single digit. -/
def wholeDigits? (s : List Char) : Option (List Char) :=
  if s = ['0'] then some s
  else if s.head? = some '0' then none
  else grouped? Char.isDigit s

def basedNumber? (base : Nat) (s : List Char) : Option Int :=
  (grouped? (Hex.isDigitTo base) s).bind fun digits =>
    (Hex.ofDigits? base digits).map Int.ofNat

def decimalNumber? (s : List Char) : Option Int :=
  let (negative, body) := Decimal.signed s
  (wholeDigits? body).map fun digits =>
    let n : Int := Decimal.ofDigits digits
    if negative then -n else n

/-- The number of a text, to the base that it names or else to ten. -/
def anyNumber? : List Char → Option Int
  | '0' :: 'x' :: rest => basedNumber? 16 rest
  | '0' :: 'o' :: rest => basedNumber? 8 rest
  | '0' :: 'b' :: rest => basedNumber? 2 rest
  | s => decimalNumber? s

/-- The integer that a text writes; it fits 64 bits with a sign. -/
def integer? (s : List Char) : Option Int := do
  let n ← anyNumber? s
  if -Int.pow 2 63 ≤ n ∧ n < Int.pow 2 63 then some n else none

def isExponent (s : List Char) : Bool :=
  (grouped? Char.isDigit (Decimal.signed s).2).isSome

/-- Whether a text continues a whole number into a floating point number. -/
def isRealEnding : List Char → Bool
  | 'e' :: rest | 'E' :: rest => isExponent rest
  | '.' :: rest =>
    let fraction := rest.takeWhile fun c => c.isDigit || c == '_'
    (grouped? Char.isDigit fraction).isSome &&
      match rest.dropWhile fun c => c.isDigit || c == '_' with
      | [] => true
      | 'e' :: rest | 'E' :: rest => isExponent rest
      | _ => false
  | _ => false

/-- The floating point number that a text writes; one beyond the largest is refused. -/
def real? (s : List Char) : Option Extended :=
  let (negative, body) := Decimal.signed s
  if body = ['i', 'n', 'f'] then some (.infinite negative)
  else if body = ['n', 'a', 'n'] then some .undefined
  else
    let whole := body.takeWhile fun c => c.isDigit || c == '_'
    let ending := body.dropWhile fun c => c.isDigit || c == '_'
    if (wholeDigits? whole).isSome && isRealEnding ending then
      (Extended.ofText? (s.filter (· != '_'))).filter (· != .infinite false)
    else none

def scalar? (s : List Char) : Option Value :=
  if s = ['t', 'r', 'u', 'e'] then some (.truth true)
  else if s = ['f', 'a', 'l', 's', 'e'] then some (.truth false)
  else
    (Moment.ofText? s).map .moment <|> (real? s).map .real <|> (integer? s).map .integer

/-- The time of day that follows a date behind a blank, and the text after it. -/
def clockBehind? (s : List Char) : Option (List Char × Text.Unread s) :=
  match s with
  | ' ' :: c :: rest =>
    if c.isDigit then
      some ((c :: rest).takeWhile isScalarChar,
        ⟨(c :: rest).dropWhile isScalarChar, by
          have := Text.length_dropWhile_le isScalarChar (c :: rest)
          simp only [List.length_cons] at this ⊢
          omega⟩)
    else none
  | _ => none

def scalar (s : List Char) : Option (Value × Text.Rest s) :=
  match s with
  | [] => none
  | c :: more =>
    let run := c :: more.takeWhile isScalarChar
    have hr := Text.length_dropWhile_le isScalarChar more
    match Date.ofText? run, clockBehind? (more.dropWhile isScalarChar) with
    | some _, some (clock, ⟨rest, hc⟩) =>
      (Moment.ofTexts? run clock).map fun m =>
        (.moment m, ⟨rest, by simp only [List.length_cons]; omega⟩)
    | _, _ =>
      (scalar? run).map fun value =>
        (value, ⟨more.dropWhile isScalarChar, by simp only [List.length_cons]; omega⟩)

end ApiDocs.Toml
