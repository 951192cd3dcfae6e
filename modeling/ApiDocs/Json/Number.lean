import ApiDocs.Json.Basic
import ApiDocs.Json.Syntax
import ApiDocs.Numeric.Decimal
import ApiDocs.Text.Basic

/-!
# Numbers in JSON text

A number without point and exponent that fits 64 bits, signed or unsigned, is an integer; minus zero
and all others are floating point numbers. The digits are gathered into a whole number of 64 bits;
those that no longer fit only move the point. The whole number is rounded to a floating point number
and then multiplied or divided by a power of ten, with a rounding at each step.
-/

namespace ApiDocs.Json

open ApiDocs.Decimal (digitValue)
open ApiDocs.Text (length_dropWhile_le)

def maxWord : Nat :=
  Nat.pow 2 64 - 1

/-- Appends digits to a number as long as it fits; the number, how many digits it took, and the rest
of the text. -/
def gatherDigits (n taken : Nat) : List Char → Nat × Nat × List Char
  | [] => (n, taken, [])
  | c :: rest =>
    if c.isDigit ∧ n * 10 + digitValue c ≤ maxWord then
      gatherDigits (n * 10 + digitValue c) (taken + 1) rest
    else (n, taken, c :: rest)

theorem gatherDigits_length (n taken : Nat) (s : List Char) :
    (gatherDigits n taken s).2.2.length ≤ s.length := by
  fun_induction gatherDigits n taken s with
  | case1 => simp
  | case2 n taken c rest _ ih => simp only [List.length_cons]; omega
  | case3 => simp

def tenToThe (exponent : Nat) : Binary64 :=
  (Binary64.ofNat? false (Nat.pow 10 exponent)).getD (.zero false)

/-- The number divided by a power of ten, in steps of at most 308. -/
def shrink (x : Binary64) (exponent : Nat) : Binary64 :=
  if exponent ≤ 308 then (x.div? (tenToThe exponent)).getD x
  else if x.mantissa = 0 then x
  else shrink ((x.div? (tenToThe 308)).getD x) (exponent - 308)
termination_by exponent

/-- The number `digits * 10 ^ exponent`, or none when it is out of range. -/
def realOf? (negative : Bool) (digits : Nat) (exponent : Int) : Option Binary64 :=
  let x := (Binary64.ofNat? negative digits).getD (.zero negative)
  if exponent < 0 then some (shrink x (-exponent).toNat)
  else if exponent ≤ 308 then x.mul? (tenToThe exponent.toNat)
  else if digits = 0 then some x
  else none

def realAt (negative : Bool) (digits : Nat) (exponent : Int) (unread : List Char) :
    Except Failure (Json × List Char) :=
  match realOf? negative digits exponent with
  | some x => .ok (.real x, unread)
  | none => .error ⟨.numberOutOfRange, unread, 0⟩

/-- The greatest exponent that is told apart from a greater one. -/
def maxExponent : Nat :=
  Nat.pow 2 31 - 1

/-- Reads the digits of an exponent: its value, or none when it is too great, and the rest. -/
def gatherExponent (n : Nat) : List Char → Option Nat × List Char
  | [] => (some n, [])
  | c :: rest =>
    if c.isDigit then
      if n * 10 + digitValue c ≤ maxExponent then gatherExponent (n * 10 + digitValue c) rest
      else (none, rest)
    else (some n, c :: rest)

def exponentSign : List Char → Bool × List Char
  | '+' :: rest => (false, rest)
  | '-' :: rest => (true, rest)
  | s => (false, s)

def exponentPart (negative : Bool) (digits : Nat) (exponent : Int) (s : List Char) :
    Except Failure (Json × List Char) :=
  let (down, t) := exponentSign s
  match t with
  | [] => .error ⟨.endInValue, [], 0⟩
  | c :: rest =>
    if !c.isDigit then .error ⟨.invalidNumber, c :: rest, 1⟩
    else
      match gatherExponent 0 (c :: rest) with
      | (some power, unread) =>
        realAt negative digits (if down then exponent - power else exponent + power) unread
      | (none, unread) =>
        if digits ≠ 0 ∧ down = false then .error ⟨.numberOutOfRange, unread, 0⟩
        else .ok (.real (.zero negative), unread.dropWhile Char.isDigit)

def maybeExponent (negative : Bool) (digits : Nat) (exponent : Int) (s : List Char) :
    Except Failure (Json × List Char) :=
  match s with
  | 'e' :: rest | 'E' :: rest => exponentPart negative digits exponent rest
  | _ => realAt negative digits exponent s

/-- Reads what follows the decimal point, `exponent` digits before it having been left out. -/
def fractionPart (negative : Bool) (digits : Nat) (exponent : Nat) (s : List Char) :
    Except Failure (Json × List Char) :=
  match s with
  | [] => .error ⟨.endInValue, [], 0⟩
  | c :: rest =>
    if !c.isDigit then .error ⟨.invalidNumber, c :: rest, 1⟩
    else
      let (digits, taken, unread) := gatherDigits digits 0 (c :: rest)
      maybeExponent negative digits (exponent - taken) (unread.dropWhile Char.isDigit)

/-- The number of the digits read where neither point nor exponent follows. -/
def wholeNumber (negative : Bool) (digits : Nat) : Json :=
  if negative then
    if digits = 0 ∨ Nat.pow 2 63 < digits then
      .real ((Binary64.ofNat? true digits).getD (.zero true))
    else .integer (-digits)
  else .integer digits

def afterWhole (negative : Bool) (digits : Nat) (s : List Char) :
    Except Failure (Json × List Char) :=
  match s with
  | '.' :: rest => fractionPart negative digits 0 rest
  | 'e' :: rest | 'E' :: rest => exponentPart negative digits 0 rest
  | _ => .ok (wholeNumber negative digits, s)

def number (negative : Bool) (s : List Char) : Except Failure (Json × List Char) :=
  match s with
  | [] => .error ⟨.endInValue, [], 0⟩
  | '0' :: c :: rest =>
    if c.isDigit then .error ⟨.invalidNumber, c :: rest, 1⟩
    else afterWhole negative 0 (c :: rest)
  | ['0'] => afterWhole negative 0 []
  | c :: rest =>
    if !c.isDigit then .error ⟨.invalidNumber, c :: rest, 1⟩
    else
      let (digits, _, unread) := gatherDigits 0 0 (c :: rest)
      let left := unread.takeWhile Char.isDigit
      let unread := unread.dropWhile Char.isDigit
      if left.isEmpty then afterWhole negative digits unread
      else match unread with
        | '.' :: rest => fractionPart negative digits left.length rest
        | _ => maybeExponent negative digits left.length unread

theorem realAt_length {negative digits exponent s value rest}
    (h : realAt negative digits exponent s = .ok (value, rest)) : rest.length ≤ s.length := by
  unfold realAt at h
  split at h <;> simp_all

theorem gatherExponent_length (n : Nat) (s : List Char) :
    (gatherExponent n s).2.length ≤ s.length := by
  fun_induction gatherExponent n s with
  | case1 => simp
  | case2 n c rest _ _ ih => simp only [List.length_cons]; omega
  | case3 => simp
  | case4 => simp

theorem exponentSign_length (s : List Char) : (exponentSign s).2.length ≤ s.length := by
  unfold exponentSign
  split <;> simp

theorem exponentPart_length {negative digits exponent s value rest}
    (h : exponentPart negative digits exponent s = .ok (value, rest)) :
    rest.length ≤ s.length := by
  have hs := exponentSign_length s
  unfold exponentPart at h
  split at h
  rename_i down t ht
  rw [ht] at hs
  split at h
  · simp at h
  · rename_i c more
    split at h
    · simp at h
    · have hg := gatherExponent_length 0 (c :: more)
      split at h
      · rename_i power unread hp
        rw [hp] at hg
        exact Nat.le_trans (realAt_length h) (Nat.le_trans hg hs)
      · rename_i unread hp
        rw [hp] at hg
        split at h
        · simp at h
        · simp only [Except.ok.injEq, Prod.mk.injEq] at h
          rw [← h.2]
          exact Nat.le_trans (length_dropWhile_le _ _) (Nat.le_trans hg hs)

theorem maybeExponent_length {negative digits exponent s value rest}
    (h : maybeExponent negative digits exponent s = .ok (value, rest)) :
    rest.length ≤ s.length := by
  unfold maybeExponent at h
  split at h
  · exact Nat.le_trans (exponentPart_length h) (by simp)
  · exact Nat.le_trans (exponentPart_length h) (by simp)
  · exact realAt_length h

theorem fractionPart_length {negative digits exponent s value rest}
    (h : fractionPart negative digits exponent s = .ok (value, rest)) :
    rest.length ≤ s.length := by
  unfold fractionPart at h
  split at h
  · simp at h
  · rename_i c more
    split at h
    · simp at h
    · have hg := gatherDigits_length digits 0 (c :: more)
      exact Nat.le_trans (maybeExponent_length h) (Nat.le_trans (length_dropWhile_le _ _) hg)

theorem afterWhole_length {negative digits s value rest}
    (h : afterWhole negative digits s = .ok (value, rest)) : rest.length ≤ s.length := by
  unfold afterWhole at h
  split at h
  · exact Nat.le_trans (fractionPart_length h) (by simp)
  · exact Nat.le_trans (exponentPart_length h) (by simp)
  · exact Nat.le_trans (exponentPart_length h) (by simp)
  · simp_all

/-- The first digit of a number is always taken. -/
theorem gatherDigits_length_lt {c : Char} (h : c.isDigit) (s : List Char) :
    (gatherDigits 0 0 (c :: s)).2.2.length ≤ s.length := by
  have hc : c.toNat ≤ 57 := by
    simp only [Char.isDigit, Bool.and_eq_true, decide_eq_true_eq] at h
    exact h.2
  have hv : 0 * 10 + digitValue c ≤ maxWord := by
    simp only [digitValue, maxWord, Nat.pow_eq]
    omega
  rw [gatherDigits, if_pos ⟨h, hv⟩]
  exact gatherDigits_length _ _ s

theorem number_length {negative s value rest} (h : number negative s = .ok (value, rest)) :
    rest.length < s.length := by
  unfold number at h
  split at h
  · simp at h
  · split at h
    · simp at h
    · have := afterWhole_length h
      simp only [List.length_cons] at this ⊢
      omega
  · have := afterWhole_length h
    simp_all
  · rename_i c more _ _
    split at h
    · simp at h
    · rename_i hc
      have hg := gatherDigits_length_lt (by simpa using hc) more
      have hd := Nat.le_trans (length_dropWhile_le Char.isDigit
        (gatherDigits 0 0 (c :: more)).2.2) hg
      simp only [List.length_cons]
      dsimp only at h
      split at h
      · have := Nat.le_trans (afterWhole_length h) hd
        omega
      · split at h
        · rename_i tail heq
          have := fractionPart_length h
          rw [heq, List.length_cons] at hd
          omega
        · have := Nat.le_trans (maybeExponent_length h) hd
          omega

end ApiDocs.Json
