import AsmAtlas.Text.Blank

/-!
# Texts

Lines, names, queries and file names are lists of characters, so that a column is simply a position
in the list.
-/

namespace AsmAtlas

/-- A piece of text; columns count its characters from zero. -/
abbrev Text := List Char

namespace Text

/-- The characters from column `start` up to, but not including, column `stop`. -/
def slice (t : Text) (start stop : Nat) : Text :=
  (t.take stop).drop start

/-- Drops the longest run of accepted characters at the end. -/
def dropEndWhile (accepts : Char → Bool) (t : Text) : Text :=
  (t.reverse.dropWhile accepts).reverse

/-- Drops blanks at the start. -/
def trimStart (t : Text) : Text :=
  t.dropWhile isBlank

/-- Drops blanks at the end. -/
def trimEnd (t : Text) : Text :=
  dropEndWhile isBlank t

/-- Drops blanks on both sides. -/
def trim (t : Text) : Text :=
  trimEnd (trimStart t)

/-- Whether a text has nothing but blanks. -/
def isBlankText (t : Text) : Bool :=
  t.all isBlank

/-- Parts put together with `sep` between them. -/
def joinWith (sep : Text) (parts : List Text) : Text :=
  sep.intercalate parts

/-- The last part between the occurrences of `sep`. -/
def lastPart (sep : Char) (t : Text) : Text :=
  (t.reverse.takeWhile (· != sep)).reverse

/-- Whether `t` starts with `start`. -/
def startsWith (t start : Text) : Bool :=
  start.isPrefixOf t

/-- Lower case of the ASCII letters; everything else stays. -/
def toAsciiLower (t : Text) : Text :=
  t.map Char.toLower

/-- Whether two texts spell the same ASCII word, whatever the case of its letters. -/
def sameAscii (a b : Text) : Bool :=
  toAsciiLower a == toAsciiLower b

/-- `t` followed by as many spaces as are missing to `width`. -/
def padRight (width : Nat) (t : Text) : Text :=
  t ++ List.replicate (width - t.length) ' '

/-- `t` preceded by as many spaces as are missing to `width`. -/
def padLeft (width : Nat) (t : Text) : Text :=
  List.replicate (width - t.length) ' ' ++ t

/-- A number in decimal digits. -/
def ofNat (n : Nat) : Text :=
  Nat.toDigits 10 n

/-- How many bytes a text takes in UTF-8. -/
def byteLength (t : Text) : Nat :=
  t.foldr (fun c bytes => c.utf8Size + bytes) 0

/-- Whether the first text comes before the second, or is equal to it, in code point order. -/
def le : Text → Text → Bool
  | [], _ => true
  | _ :: _, [] => false
  | a :: as, b :: bs => a.toNat < b.toNat || (a == b && le as bs)

end Text

end AsmAtlas
