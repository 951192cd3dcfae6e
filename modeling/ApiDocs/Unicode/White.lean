import ApiDocs.Unicode.Span

/-!
# White space

The characters with the white space property, and the shorter list of white space within a line of
ASCII text.
-/

namespace ApiDocs.Unicode

/-- The white space code points from 128 on. -/
def whiteSpans : List Span :=
  [⟨0x85, 0x85, 1⟩, ⟨0xA0, 0xA0, 1⟩, ⟨0x1680, 0x1680, 1⟩, ⟨0x2000, 0x200A, 1⟩,
   ⟨0x2028, 0x2029, 1⟩, ⟨0x202F, 0x202F, 1⟩, ⟨0x205F, 0x205F, 1⟩, ⟨0x3000, 0x3000, 1⟩]

def isWhite (c : Char) : Bool :=
  if c.toNat < 128 then c == ' ' || 9 ≤ c.toNat && c.toNat ≤ 13 else covered whiteSpans c.toNat

end ApiDocs.Unicode
