/-!
# Spans of code points

A property of characters is a table of spans. A span names its first and last code point and the
distance between neighbours, so that alternating runs of capitals and small letters take one entry.
-/

namespace ApiDocs.Unicode

/-- The code points `first`, `first + step`, … up to `last`. -/
structure Span where
  first : Nat
  last : Nat
  step : Nat
deriving DecidableEq, Repr

def Span.covers (span : Span) (code : Nat) : Bool :=
  span.first ≤ code && code ≤ span.last && (code - span.first) % span.step == 0

def covered (table : List Span) (code : Nat) : Bool :=
  table.any (·.covers code)

end ApiDocs.Unicode
