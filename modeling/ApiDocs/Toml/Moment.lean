import ApiDocs.Numeric.Decimal

/-!
# Dates and times

A moment is a date, a time of day, or both; with both it may say how far the clock is from the zero
meridian. Its fields are in the ranges of the calendar. A written fraction of a second counts up to
the nanosecond.
-/

namespace ApiDocs.Toml

structure Date where
  year : Nat
  month : Nat
  day : Nat
deriving DecidableEq, Repr

structure TimeOfDay where
  hour : Nat
  minute : Nat
  second : Nat
  nanosecond : Nat
deriving DecidableEq, Repr

/-- How far a clock is from the zero meridian. -/
inductive Offset where
  | zero
  | minutes (west : Bool) (count : Nat)
deriving DecidableEq, Repr

/-- A date, a time of day, or both. -/
inductive Moment where
  | day (date : Date)
  | clock (time : TimeOfDay)
  | dayAndClock (date : Date) (time : TimeOfDay) (offset : Option Offset)
deriving DecidableEq, Repr

def daysIn (year month : Nat) : Nat :=
  if month = 2 then if year % 4 = 0 ∧ (year % 100 ≠ 0 ∨ year % 400 = 0) then 29 else 28
  else if month ∈ [4, 6, 9, 11] then 30
  else 31

def ranged? (least greatest : Nat) (digits : List Char) : Option Nat := do
  let n ← Decimal.natural? digits
  if least ≤ n ∧ n ≤ greatest then some n else none

def Date.ofText? : List Char → Option Date
  | [a, b, c, d, '-', e, f, '-', g, h] => do
    let year ← Decimal.natural? [a, b, c, d]
    let month ← ranged? 1 12 [e, f]
    let day ← ranged? 1 (daysIn year month) [g, h]
    return ⟨year, month, day⟩
  | _ => none

/-- The nanoseconds of the digits behind the point of a second. -/
def nanoseconds (digits : List Char) : Nat :=
  let kept := digits.take 9
  Decimal.ofDigits kept * Nat.pow 10 (9 - kept.length)

def TimeOfDay.read? : List Char → Option (TimeOfDay × List Char)
  | a :: b :: ':' :: c :: d :: ':' :: e :: f :: rest => do
    let hour ← ranged? 0 23 [a, b]
    let minute ← ranged? 0 59 [c, d]
    let second ← ranged? 0 60 [e, f]
    match rest with
    | '.' :: more =>
      let digits := more.takeWhile Char.isDigit
      if digits = [] then none
      else some (⟨hour, minute, second, nanoseconds digits⟩, more.dropWhile Char.isDigit)
    | _ => some (⟨hour, minute, second, 0⟩, rest)
  | _ => none

/-- The offset that a text writes; an empty text writes none. -/
def Offset.ofText? : List Char → Option (Option Offset)
  | [] => some none
  | ['Z'] | ['z'] => some (some .zero)
  | [s, a, b, ':', c, d] => do
    let hour ← ranged? 0 23 [a, b]
    let minute ← ranged? 0 59 [c, d]
    if s = '+' then some (some (.minutes false (hour * 60 + minute)))
    else if s = '-' then some (some (.minutes true (hour * 60 + minute)))
    else none
  | _ => none

def Moment.ofTexts? (front behind : List Char) : Option Moment := do
  let date ← Date.ofText? front
  let (time, rest) ← TimeOfDay.read? behind
  return .dayAndClock date time (← Offset.ofText? rest)

def Moment.ofText? (s : List Char) : Option Moment :=
  match s.drop 10 with
  | 'T' :: behind | 't' :: behind => ofTexts? (s.take 10) behind
  | _ =>
    match Date.ofText? s, TimeOfDay.read? s with
    | some date, _ => some (.day date)
    | none, some (time, []) => some (.clock time)
    | none, _ => none

def padded (width n : Nat) : List Char :=
  let digits := Nat.toDigits 10 n
  List.replicate (width - digits.length) '0' ++ digits

def Date.text (date : Date) : List Char :=
  padded 4 date.year ++ '-' :: padded 2 date.month ++ '-' :: padded 2 date.day

def fractionText (nanosecond : Nat) : List Char :=
  if nanosecond = 0 then []
  else '.' :: ((padded 9 nanosecond).reverse.dropWhile (· == '0')).reverse

def TimeOfDay.text (time : TimeOfDay) : List Char :=
  padded 2 time.hour ++ ':' :: padded 2 time.minute ++ ':' :: padded 2 time.second
    ++ fractionText time.nanosecond

def Offset.text : Offset → List Char
  | zero => ['Z']
  | minutes west count =>
    (if west && count != 0 then '-' else '+') :: padded 2 (count / 60)
      ++ ':' :: padded 2 (count % 60)

def Moment.text : Moment → String
  | day date => String.ofList date.text
  | clock time => String.ofList time.text
  | dayAndClock date time offset =>
    String.ofList (date.text ++ 'T' :: time.text ++ (offset.map Offset.text).getD [])

end ApiDocs.Toml
