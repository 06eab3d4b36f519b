import AsmAtlas.Ranking
import AsmAtlas.Request.Basic

/-!
# Completion and workspace symbols

Both search declarations for names that have the characters of a query in their order.
-/

namespace AsmAtlas
namespace Scene

/-- The last segment of the name that ends at a column, which is what was typed. -/
def typedAt (line : Text) (column : Nat) : Text :=
  let typed : Text :=
    ((line.take column).reverse.takeWhile fun c => isWordOrDot c || c == '@').reverse
  (typed.lastPart '.').dropWhile (· == '@')

/-- Whether a finding is a name to propose on a line of a document. -/
def isProposal (c : Config) (origin : Document) (line : Int) (f : Finding) : Bool :=
  !f.symbol.isEmpty && !c.isExcluded f.symbol &&
    !(f.location.path == origin.path && (f.location.line : Int) == line)

/-- The names to propose for a query, the best first. -/
def proposals (s : Scene) (c : Config) (origin : Document) (line : Int) (query : Text) :
    Task (List Text) := do
  let hits ← s.declarations c (.fuzzy query) origin.dialect
  let names := (hits.filter (isProposal c origin line)).map (·.symbol)
  return Ranking.rank query names.eraseDups

/-- Names for the word left of a position. -/
def complete (s : Scene) (p : Path) (position : Position) : Task (Option (List Text)) :=
  match s.open? p (·.completions) with
  | none => pure none
  | some (c, origin) =>
    match origin.lineAt? position.line with
    | none => pure none
    | some line =>
      let query := typedAt line position.column
      if query.length < c.completionsLength then pure (some [])
      else (s.proposals c origin position.line query).attempt

/-- A name and where it is declared. -/
structure Declared where
  name : Text
  location : Location
deriving DecidableEq

end Scene

/-- Whether a finding in the files of a root is reported for it: it is not excluded, and no root
    within this one has the file. A file outside all roots, where only a link leads, is reported for
    every root that it was found for. -/
def Context.isReported (context : Context) (c : Config) (f : Finding) : Bool :=
  !c.isExcluded f.symbol &&
    (context.configFor? f.location.path).all fun owner => owner.root == c.root

namespace Archive

variable (a : Archive) (context : Context)

/-- The declarations in the files of a root that match a query. A root where the feature is off, or
    a query that is too short for it, gives none. -/
def symbolsOf (c : Config) (query : Text) : Task (List Scene.Declared) :=
  if !c.symbols || query.length < c.symbolsLength then pure []
  else do
    let patterns := WordSearch.declarations (.fuzzy query) .source c.rules
    let hits ← a.search patterns c.filter [c.root]
    return (hits.filter (context.isReported c)).map fun f => ⟨f.symbol, f.location⟩

/-- The declarations of a root, after a look at the interest. -/
def symbolsAsked (query : Text) (c : Config) : Task (List Scene.Declared) := do
  Task.checkpoint
  a.symbolsOf context c query

/-- The declarations of several roots, up to the first that is cancelled. -/
def symbolsOfAll (query : Text) : List Config → Task (List Scene.Declared)
  | [] => pure []
  | c :: rest => do
    match ← (a.symbolsAsked context query c).attempt with
    | none => return []
    | some found =>
      let more ← symbolsOfAll query rest
      return found ++ more

/-- The declarations in all roots that match a query. If interest is lost, those of the roots that
    were finished. -/
def symbols (query : Text) : Task (List Scene.Declared) :=
  a.symbolsOfAll context query context.configs

end Archive

namespace Scene

/-- The declarations in the files of a root that match a query. -/
def symbolsOf (s : Scene) (c : Config) (query : Text) : Task (List Declared) :=
  s.workspace.archive.symbolsOf s.context c query

/-- The declarations in all roots that match a query. -/
def symbols (s : Scene) (query : Text) : Task (List Declared) :=
  s.workspace.archive.symbols s.context query

end Scene
end AsmAtlas
