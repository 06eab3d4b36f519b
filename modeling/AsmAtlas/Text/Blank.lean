import AsmAtlas.Text.CodeRange

/-!
# Blank characters

The 29 characters that count as white space: those with the Unicode property White_Space and the
four information separators U+001C to U+001F.
-/

namespace AsmAtlas

/-- All blank characters, sorted. -/
def blankRanges : List (Nat × Nat) :=
  [(0x09, 0x0D), (0x1C, 0x20), (0x85, 0x85), (0xA0, 0xA0), (0x1680, 0x1680), (0x2000, 0x200A),
    (0x2028, 0x2029), (0x202F, 0x202F), (0x205F, 0x205F), (0x3000, 0x3000)]

/-- A blank character. -/
def isBlank (c : Char) : Bool :=
  inRanges blankRanges c.toNat

end AsmAtlas
