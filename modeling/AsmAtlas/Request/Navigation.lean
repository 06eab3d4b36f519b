import AsmAtlas.Request.Basic

/-!
# References, definitions and hovering
-/

namespace AsmAtlas
namespace Scene

/-- The question what belongs to the label at a position. -/
def inquiry (c : Config) (origin : Document) (position : Position) : Inquiry :=
  { form := c.labelForm origin.dialect, origin, position }

/-- The references to the label at a position of a document. Excluded labels have none. -/
def referencesFrom (s : Scene) (c : Config) (origin : Document) (position : Position)
    (includeDeclaration : Bool) : Task (List Location) :=
  match origin.occurrence? isWordChar position with
  | none => pure []
  | some found =>
    if c.isExcluded found.label || c.isExcluded found.word then pure []
    else do
      let hits ← s.search c [WordSearch.uses found.word]
      let q := { inquiry c origin position with includeDeclaration }
      return (q.reduce (hits.map Finding.candidate)).locations

/-- Every reference to the label at a position. -/
def references (s : Scene) (p : Path) (position : Position) (includeDeclaration : Bool) :
    Task (Option (List Location)) :=
  match s.open? p (·.references) with
  | none => pure none
  | some (c, origin) => (s.referencesFrom c origin position includeDeclaration).attempt

/-- The label at a position that is inside a document; none if it is excluded. -/
def subject? (c : Config) (origin : Document) (position : Position) : Option Occurrence :=
  (origin.occurrence? isWordChar position).filter fun found => !c.isExcluded found.label

/-- The declarations of the label found at a position of a document. -/
def declarationsOf (s : Scene) (c : Config) (origin : Document) (found : Occurrence) :
    Task (List Candidate) := do
  let hits ← s.declarations c (.exact found.word) origin.dialect
  return hits.map Finding.candidate

/-- The best declaration of the label found at a position. -/
def definitionOf (s : Scene) (c : Config) (origin : Document) (position : Position)
    (found : Occurrence) : Task Reduction := do
  let candidates ← s.declarationsOf c origin found
  return (inquiry c origin position).reduceUnique candidates

/-- The best declaration of the label at a position, and the others that are just as good. -/
def definition (s : Scene) (p : Path) (position : Position) : Task (Option Reduction) :=
  match s.open? p (·.definition) with
  | none => pure none
  | some (c, origin) =>
    if (origin.lineAt? position.line).isNone then pure none
    else
      match subject? c origin position with
      | none => pure (some {})
      | some found => (s.definitionOf c origin position found).attempt

/-- A declaration with the comment above it. -/
structure HoverText where
  location : Location
  lines : List Text
deriving DecidableEq

/-- A line that is nothing but a comment. -/
def isCommentLine (line : Text) : Bool :=
  let start := line.trimStart
  start.startsWith [';'] || start.startsWith ['/', '/']

/-- A line with the comment lines directly above it, without blanks at their ends. -/
def commentBlock (lines : List Text) (n : Nat) : List Text :=
  let above := ((lines.take n).reverse.takeWhile isCommentLine).reverse
  (above ++ (lines.drop n).take 1).map Text.trimEnd

/-- The hover text of a declaration, if its line is still there. -/
def hoverText? (s : Scene) (l : Location) : Option HoverText :=
  let lines := ((s.workspace.text? l.path).map (·.splitOn '\n')).getD []
  if l.line < lines.length then some ⟨l, commentBlock lines l.line⟩ else none

/-- The hover texts of the label found at a position. -/
def hoverOf (s : Scene) (c : Config) (origin : Document) (position : Position)
    (found : Occurrence) : Task (List HoverText) := do
  let candidates ← s.declarationsOf c origin found
  return ((inquiry c origin position).reduce candidates).locations.filterMap s.hoverText?

/-- The declarations of the label at a position with the comments above them. -/
def hover (s : Scene) (p : Path) (position : Position) : Task (Option (List HoverText)) :=
  match s.open? p (·.hovering) with
  | none => pure none
  | some (c, origin) =>
    if (origin.lineAt? position.line).isNone then pure none
    else
      match subject? c origin position with
      | none => pure (some [])
      | some found => (s.hoverOf c origin position found).attempt

end Scene
end AsmAtlas
