import AsmAtlas.Text.Basic

/-!
# Code points

Strings in settings files may hold halves of characters: surrogates whose partner is missing. No
file name and no source text holds one, so a half never equals anything that it is compared with,
but it is a number, and a range of characters may begin or end with it.
-/

namespace AsmAtlas

/-- A character, or half of one: a surrogate without its partner, which is kept as a number. -/
inductive CodePoint where
  | char (c : Char)
  | half (code : Nat)
deriving DecidableEq

namespace CodePoint

/-- The number of a code point. -/
def value : CodePoint → Nat
  | char c => c.toNat
  | half code => code

/-- The character that a code point is, if it is a whole one. -/
def char? : CodePoint → Option Char
  | char c => some c
  | half _ => none

/-- Whether a code point is a character with a property. -/
def isChar (accepts : Char → Bool) (p : CodePoint) : Bool :=
  p.char?.any accepts

/-- A surrogate that comes first in a pair. -/
def isHigh (n : Nat) : Bool :=
  0xD800 ≤ n && n < 0xDC00

/-- A surrogate that comes second in a pair. -/
def isLow (n : Nat) : Bool :=
  0xDC00 ≤ n && n < 0xE000

/-- The code point with a number. -/
def ofNat (n : Nat) : CodePoint :=
  if isHigh n || isLow n then half n else char (Char.ofNat n)

/-- The character that a pair of surrogates encodes. -/
def ofPair (high low : Nat) : CodePoint :=
  char (Char.ofNat (0x10000 + (high - 0xD800) * 0x400 + (low - 0xDC00)))

end CodePoint

/-- A text that may hold halves of characters. -/
abbrev LooseText := List CodePoint

namespace LooseText

/-- A text of whole characters. -/
def ofText (t : Text) : LooseText :=
  t.map .char

/-- The text, if it holds no half of a character. -/
def text? (t : LooseText) : Option Text :=
  t.mapM CodePoint.char?

/-- The text with the given numbers, where each pair of surrogates is one character. -/
def ofCodes : List Nat → LooseText
  | [] => []
  | [code] => [.ofNat code]
  | high :: low :: rest =>
    if CodePoint.isHigh high && CodePoint.isLow low then .ofPair high low :: ofCodes rest
    else .ofNat high :: ofCodes (low :: rest)

/-- Drops blanks on both sides. -/
def trim (t : LooseText) : LooseText :=
  let blank := CodePoint.isChar isBlank
  ((t.dropWhile blank).reverse.dropWhile blank).reverse

/-- Whether a text has nothing but blanks. -/
def isBlankText (t : LooseText) : Bool :=
  t.all (CodePoint.isChar isBlank)

end LooseText

end AsmAtlas
