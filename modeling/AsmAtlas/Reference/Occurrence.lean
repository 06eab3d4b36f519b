import AsmAtlas.Document
import AsmAtlas.Text.Letter

/-!
# The label at a column

A cursor in `main.loop` means `main` as long as it stands on the first segment, and the whole label
on the second: the label under a cursor ends with the segment under it.
-/

namespace AsmAtlas

/-- A label found at a column. -/
structure Occurrence where
  /-- The label up to and including the segment at the column. -/
  label : Text
  /-- That segment without marks, which is what is searched for. -/
  word : Text
  /-- The columns of the word. -/
  start : Nat
  stop : Nat
deriving DecidableEq

namespace Occurrence

/-- A character of a label, its marks included. -/
def isLabelChar (c : Char) : Bool :=
  isWordChar c || c == '.' || c == '@'

/-- The first column of the label characters that end before column `i`. -/
def tokenStart (line : Text) (i : Nat) : Nat :=
  i - ((line.take i).reverse.takeWhile isLabelChar).length

/-- The column itself if a label character stands there, else the one before under the same
    condition. -/
def anchor? (text : Text) (column : Nat) : Option Nat :=
  if text[column]?.any isLabelChar then some column
  else if 0 < column && text[column - 1]?.any isLabelChar then some (column - 1)
  else none

/-- A mark of a relative label, or the dot between two segments. -/
def isMark (c : Char) : Bool :=
  c == '.' || c == '@'

/-- The label at a column. Its last segment goes on as long as `boundary` accepts; labels whose
    last segment starts with neither a letter nor an underscore are none. -/
def at? (boundary : Char → Bool) (line : Text) (column : Nat) : Option Occurrence :=
  (anchor? line column).bind fun anchor =>
    let marks := ((line.drop anchor).takeWhile isMark).length
    let stem := ((line.drop (anchor + marks)).takeWhile boundary).length
    let stop := anchor + marks + stem
    let label := line.slice (tokenStart line anchor) stop
    let word := (label.lastPart '.').dropWhile (· == '@')
    if word.head?.any fun c => isLetter c || c == '_' then
      some ⟨label, word, stop - word.length, stop⟩
    else none

end Occurrence

/-- The label at a position of a document. -/
def Document.occurrence? (d : Document) (boundary : Char → Bool) (p : Position) :
    Option Occurrence :=
  (d.lineAt? p.line).bind fun line => Occurrence.at? boundary line p.column

end AsmAtlas
