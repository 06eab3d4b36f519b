import AsmAtlas.Text.Quoted

/-!
# Text for the terminal

Lines of source files are shown without control characters, which could move the cursor.
-/

namespace AsmAtlas
namespace Terminal

/-- A control character other than the tab and the two that end lines. -/
def isControl (c : Char) : Bool :=
  c.toNat < 0x09 || c == '\x0b' || c == '\x0c' || (0x0E ≤ c.toNat && c.toNat < 0x20) ||
    (0x7F ≤ c.toNat && c.toNat < 0xA0)

/-- A control character shown by its code; any other character as it is. -/
def showChar (c : Char) : Text :=
  if isControl c then '\\' :: 'x' :: Quoted.hex 2 c.toNat else [c]

/-- A text with its control characters shown by their codes. -/
def sanitize (t : Text) : Text :=
  t.flatMap showChar

/-- A tab as four spaces; any other character as it is. -/
def expandTab (c : Char) : Text :=
  if c == '\t' then List.replicate 4 ' ' else [c]

/-- A line ready for the terminal: without its line end, with spaces for tabs. -/
def showLine (t : Text) : Text :=
  sanitize ((t.dropEndWhile fun c => c == '\r' || c == '\n').flatMap expandTab)

end Terminal
end AsmAtlas
