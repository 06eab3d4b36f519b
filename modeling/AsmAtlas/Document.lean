import AsmAtlas.Comment
import AsmAtlas.Path.Basic

/-!
# Documents and locations
-/

namespace AsmAtlas

/-- A file that was read: its place, its dialect and its lines without comments. -/
structure Document where
  path : Path
  dialect : Dialect
  lines : List Text
deriving DecidableEq

namespace Document

/-- The document of a file with the given text. -/
def ofText (path : Path) (text : Text) : Document :=
  ⟨path, path.dialect, Comment.codeLines text⟩

/-- A line of a document, empty if there is none with this number. -/
def line (d : Document) (n : Nat) : Text :=
  d.lines[n]?.getD []

/-- The line that a cursor is on, if the document has it. -/
def lineAt? (d : Document) (n : Int) : Option Text :=
  if n < 0 then none else d.lines[n.toNat]?

end Document

/-- A place for a cursor. Lines and columns count from zero; a negative line is in no document. -/
structure Position where
  line : Int
  column : Nat
deriving DecidableEq

/-- Columns of a line in a file, `stop` not included. -/
structure Location where
  path : Path
  line : Nat
  start : Nat
  stop : Nat
deriving DecidableEq

end AsmAtlas
