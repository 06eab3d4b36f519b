import AsmAtlas.Text.Basic
import AsmAtlas.Text.Letter

/-!
# Comments

Removes `;` and `//` comments up to the end of their line and `/* ... */` blocks, which may span
lines. The characters of a block are blanked instead of deleted, so that the columns of the code
that is left stay valid. Comment marks inside string literals are code.
-/

namespace AsmAtlas
namespace Comment

/-- Where in a line the scan stands. -/
inductive Zone where
  | code
  | block
  | literal (quote : Char)

/-- Whether the quote `c`, which follows `last` and precedes `rest`, opens a string literal. An
    apostrophe directly after an identifier character names a shadow register (`af'`), and a quote
    without a partner on its line is plain text. -/
def opensLiteral (last : Option Char) (c : Char) (rest : Text) : Bool :=
  (c == '"' || (c == '\x27' && !last.any isWordChar)) && rest.contains c

/-- The code of a line from `zone` on, where `last` is the character before, and whether a block
    is still open at its end. -/
def scan : Zone → Option Char → Text → Text × Bool
  | .block, _, [] => ([], true)
  | _, _, [] => ([], false)
  | .block, _, '*' :: '/' :: rest =>
    let (out, inBlock) := scan .code (some '/') rest
    (' ' :: ' ' :: out, inBlock)
  | .block, _, c :: rest =>
    let (out, inBlock) := scan .block (some c) rest
    (' ' :: out, inBlock)
  | .literal quote, _, c :: rest =>
    let (out, inBlock) := scan (if c == quote then .code else .literal quote) (some c) rest
    (c :: out, inBlock)
  | .code, _, '/' :: '/' :: _ => ([], false)
  | .code, _, '/' :: '*' :: rest =>
    let (out, inBlock) := scan .block (some '*') rest
    (' ' :: ' ' :: out, inBlock)
  | .code, last, c :: rest =>
    if c == ';' then ([], false)
    else
      let zone := if opensLiteral last c rest then .literal c else .code
      let (out, inBlock) := scan zone (some c) rest
      (c :: out, inBlock)

/-- One line without its comments and trailing blanks; `inBlock` says whether it starts inside a
    block. -/
def stripLine (inBlock : Bool) (line : Text) : Text × Bool :=
  let (out, stillOpen) := scan (if inBlock then .block else .code) none line
  (out.trimEnd, stillOpen)

/-- Lines without their comments, the first of them starting inside a block or not. -/
def stripFrom (inBlock : Bool) : List Text → List Text
  | [] => []
  | line :: rest =>
    let (out, stillOpen) := stripLine inBlock line
    out :: stripFrom stillOpen rest

/-- Lines without their comments. -/
def strip (lines : List Text) : List Text :=
  stripFrom false lines

/-- The lines of a source text without their comments. -/
def codeLines (source : Text) : List Text :=
  strip (source.splitOn '\n')

end Comment
end AsmAtlas
