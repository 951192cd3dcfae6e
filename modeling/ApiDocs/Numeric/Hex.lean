/-!
# Hexadecimal digits

The digits to base sixteen, whose letters may be large or small.
-/

namespace ApiDocs.Hex

def value? (c : Char) : Option Nat :=
  if c.isDigit then some (c.toNat - '0'.toNat)
  else if 'a' ≤ c ∧ c ≤ 'f' then some (c.toNat - 'a'.toNat + 10)
  else if 'A' ≤ c ∧ c ≤ 'F' then some (c.toNat - 'A'.toNat + 10)
  else none

/-- Whether a character is a digit to a base up to sixteen. -/
def isDigitTo (base : Nat) (c : Char) : Bool :=
  (value? c).any (· < base)

def ofDigits? (base : Nat) (digits : List Char) : Option Nat :=
  digits.foldlM (fun n c => (value? c).map (n * base + ·)) 0

def codeChar? (digits : List Char) : Option Char := do
  let code ← ofDigits? 16 digits
  if code < 0xD800 ∨ (0xDFFF < code ∧ code < 0x110000) then some (Char.ofNat code) else none

end ApiDocs.Hex
