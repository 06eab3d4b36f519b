import AsmAtlas.Text.CharacterName.Alias
import AsmAtlas.Text.CharacterName.Historic
import AsmAtlas.Text.CharacterName.Pictures
import AsmAtlas.Text.CharacterName.Scripts
import AsmAtlas.Text.CharacterName.Signs
import AsmAtlas.Text.Digit

/-!
# Characters by name

Most names are listed. Unified ideographs and a few other characters are named by their code point,
and Hangul syllables by the letters that they are made of. Listed names may be written in either
case; those of unified ideographs and syllables are in capitals only.
-/

namespace AsmAtlas
namespace CharacterName

/-- A code point written in four or five capital hexadecimal digits. -/
def writtenCode? (t : Text) : Option Nat :=
  if (t.length == 4 || t.length == 5) && t.all (!·.isLower) then numberIn? 16 hexValue? t else none

/-- What the names of unified ideographs start with. -/
def ideographStem : Text :=
  "CJK UNIFIED IDEOGRAPH-".toList

/-- The unified ideographs. -/
def ideographs : List (Nat × Nat) :=
  [(0x3400, 0x4DBF), (0x4E00, 0x9FFF), (0x20000, 0x2A6DF), (0x2A700, 0x2B738), (0x2B740, 0x2B81D),
    (0x2B820, 0x2CEA1), (0x2CEB0, 0x2EBE0), (0x30000, 0x3134A)]

/-- Further names that end with their code point: what they start with, and the code points. -/
def numbered : List (Text × List (Nat × Nat)) :=
  [("CJK COMPATIBILITY IDEOGRAPH-".toList,
      [(0xF900, 0xFA6D), (0xFA70, 0xFAD9), (0x2F800, 0x2FA1D)]),
    ("KHITAN SMALL SCRIPT CHARACTER-".toList, [(0x18B00, 0x18CD5)]),
    ("NUSHU CHARACTER-".toList, [(0x1B170, 0x1B2FB)])]

/-- The code point at the end of a name that starts with `stem`, if it is one of the given. -/
def codeBehind? (stem : Text) (codes : List (Nat × Nat)) (name : Text) : Option Nat :=
  if name.startsWith stem then
    (writtenCode? (name.drop stem.length)).filter (inRanges codes)
  else none

/-- A further name that ends with its code point, which does not start with a zero. -/
def numberedCode? (name : Text) : Option Nat :=
  numbered.findSome? fun (stem, codes) =>
    if (name.drop stem.length).head? == some '0' then none else codeBehind? stem codes name

/-- What the names of Hangul syllables start with. -/
def syllableStem : Text :=
  "HANGUL SYLLABLE ".toList

/-- The letters at the beginning of a syllable, by their names. -/
def leads : List Text :=
  ["G", "GG", "N", "D", "DD", "R", "M", "B", "BB", "S", "SS", "", "J", "JJ", "C", "K", "T", "P",
    "H"].map String.toList

/-- The letters in the middle of a syllable. -/
def vowels : List Text :=
  ["A", "AE", "YA", "YAE", "EO", "E", "YEO", "YE", "O", "WA", "WAE", "OE", "YO", "U", "WEO", "WE",
    "WI", "YU", "EU", "YI", "I"].map String.toList

/-- The letters at the end of a syllable. -/
def tails : List Text :=
  ["", "G", "GG", "GS", "N", "NJ", "NH", "D", "L", "LG", "LM", "LB", "LS", "LT", "LP", "LH", "M",
    "B", "BS", "S", "SS", "NG", "J", "C", "K", "T", "P", "H"].map String.toList

/-- The longest of some letters that a text starts with, by its number, and what is left. -/
def longest? (letters : List Text) (t : Text) : Option (Nat × Text) :=
  let longer (best : Option (Text × Nat)) (letter : Text × Nat) :=
    if best.any fun b => letter.1.length ≤ b.1.length then best else some letter
  let fitting := letters.zipIdx.filter fun letter => t.startsWith letter.1
  (fitting.foldl longer none).map fun letter => (letter.2, t.drop letter.1.length)

/-- The code point of a Hangul syllable, by the names of its letters. -/
def syllableCode? (t : Text) : Option Nat :=
  (longest? leads t).bind fun (lead, t) =>
    (longest? vowels t).bind fun (vowel, t) =>
      (longest? tails t).bind fun (tail, t) =>
        if t.isEmpty then
          some (0xAC00 + (lead * vowels.length + vowel) * tails.length + tail)
        else none

/-- The code point of a listed name in capitals. -/
def listedCode? (name : Text) : Option Nat :=
  [scripts, signs, historic, pictures, aliases].findSome? fun runs => findIn runs name

/-- The code point of the character with a name. -/
def code? (name : Text) : Option Nat :=
  if name.startsWith syllableStem then syllableCode? (name.drop syllableStem.length)
  else if name.startsWith ideographStem then codeBehind? ideographStem ideographs name
  else
    let capitals := name.map Char.toUpper
    numberedCode? capitals <|> listedCode? capitals

end CharacterName
end AsmAtlas
