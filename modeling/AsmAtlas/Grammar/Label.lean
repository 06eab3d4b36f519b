import AsmAtlas.Grammar.Keyword
import AsmAtlas.Pattern.Match

/-!
# Label declarations

Which lines declare a label, and where in the line it stands. In source a label may be written
with a colon after any indentation, or without one in the first column; listings know labels with
a colon only, behind whatever columns the assembler put in front.
-/

namespace AsmAtlas

/-- Any character that does not end a line. -/
def isInLine (c : Char) : Bool :=
  c != '\n'

/-- The first character of a label: an ASCII letter up to case, or the underscore. -/
def isNameStart (c : Char) : Bool :=
  isPlainStart (caseKey c)

namespace Pattern

/-- Blanks, as many as there are. -/
def blanks : Pattern :=
  many isBlank

/-- At least one blank. -/
def gap : Pattern :=
  many1 isBlank

/-- Nothing that would continue a dotted name. -/
def nameEnd : Pattern :=
  notAhead (char isWordOrDot)

/-- A label: an optional marker, a letter or underscore, then word characters and dots. -/
def labelName : Pattern :=
  all [optional (char fun c => c == '@' || c == '.'), char isNameStart, many isWordOrDot]

/-- The line does not go on with a reserved word. -/
def notReserved : Pattern :=
  notAhead (seq (oneOf Keyword.reserved) nameEnd)

/-- One colon or two. -/
def colons : Pattern :=
  seq (exactly ':') (optional (exactly ':'))

end Pattern

/-- Which ways of writing a label are switched on. -/
structure LabelRules where
  withColons : Bool := true
  withoutColons : Bool := true
deriving DecidableEq

/-- The form that label declarations have in a file. -/
inductive LabelForm where
  /-- There are no labels. -/
  | absent
  /-- Source labels without a colon, in the first column. -/
  | bare
  /-- Source labels with a colon. -/
  | marked
  /-- Source labels of both kinds. -/
  | either
  /-- Labels of a listing. -/
  | listed
deriving DecidableEq

namespace LabelForm

/-- The form of labels in a dialect. Listings have labels with a colon only. -/
def of : Dialect → LabelRules → LabelForm
  | .listing, ⟨true, _⟩ => listed
  | .listing, ⟨false, _⟩ => absent
  | .source, ⟨true, true⟩ => either
  | .source, ⟨true, false⟩ => marked
  | .source, ⟨false, true⟩ => bare
  | .source, ⟨false, false⟩ => absent

open Pattern

/-- A label without a colon stands here: a token in the first column that is no reserved word. -/
def bareAhead : Pattern :=
  ahead (all [notReserved, labelName, notAhead (char fun c => isWordOrDot c || c == ':')])

/-- A label with a colon stands here, possibly indented. -/
def markedAhead : Pattern :=
  ahead (all [blanks, labelName, colons])

/-- A source label of one of the given kinds. -/
def inSource (kinds : List Pattern) : Pattern :=
  all [lineStart, any kinds, group .margin blanks, group .label labelName,
    optional (group .colon colons)]

/-- The pattern of a line that declares a label. -/
def pattern : LabelForm → Pattern
  | absent => never
  | bare => inSource [bareAhead]
  | marked => inSource [markedAhead]
  | either => inSource [bareAhead, markedAhead]
  | listed =>
    all [lineStart, group .margin (optional (seq (few isInLine) (char isBlank))),
      group .label labelName, group .colon (exactly ':'), notAhead (exactly ':')]

end LabelForm

/-- A label found in a line. -/
structure LabelHit where
  /-- The columns of the label, its marker included. -/
  span : Span
  /-- The column after the whole declaration, colons included. -/
  stop : Nat
deriving DecidableEq

namespace LabelForm

/-- The label that a line declares. -/
def find? (form : LabelForm) (line : Text) : Option LabelHit :=
  match form.pattern.matchStart line with
  | none => none
  | some m => (m.group? .label).map fun span => ⟨span, m.span.stop⟩

end LabelForm

/-- What follows a label on its line. A space is put at the end. -/
def LabelHit.after (hit : LabelHit) (line : Text) : Text :=
  line.drop hit.stop ++ [' ']

end AsmAtlas
