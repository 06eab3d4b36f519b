import AsmAtlas.CommandLine.Arguments
import AsmAtlas.Request.Rename
import AsmAtlas.Request.Structure
import AsmAtlas.Request.Usage
import AsmAtlas.Text.Terminal

/-!
# Reports

Runs one query and prints its result as rows of `path:line:column: text`. Lines and columns count
from one.
-/

namespace AsmAtlas
namespace CommandLine

/-- How a run ends. -/
inductive Exit where
  | success
  /-- The words were not understood. -/
  | usage
  /-- A value that the query needs was left open. -/
  | incomplete
  | failure (message : Text)
deriving DecidableEq

/-- What a run prints, and how it ends. -/
structure Outcome where
  exit : Exit := .success
  output : Text := []
  notes : Text := []
deriving DecidableEq

/-- Rows, each on a line of its own. -/
def unlines (rows : List Text) : Text :=
  rows.flatMap (· ++ ['\n'])

namespace Report

/-- A path seen from the first root that it lies in. -/
def pathText (roots : List Path) (p : Path) : Text :=
  match roots.find? fun root => p.isWithin root with
  | some root => p.textFrom root
  | none => p.absoluteText

/-- A number counted from one. -/
def ordinal (n : Nat) : Text :=
  Text.ofNat (n + 1)

/-- The row of a location with some text. -/
def textRow (s : Scene) (l : Location) (text : Text) : Text :=
  pathText (s.context.configs.map (·.root)) l.path ++ ':' :: ordinal l.line ++ ':' ::
    ordinal l.start ++ ':' :: ' ' :: text

/-- The row of a location with its line. -/
def lineRow (s : Scene) (l : Location) : Text :=
  let line : Text := ((s.workspace.load? l.path).map (·.line l.line)).getD []
  textRow s l (Terminal.showLine line.trim)

/-- The row of a symbol at some depth of the outline. -/
def symbolRow (depth : Nat) (symbol : Symbol) : Text :=
  List.replicate (2 * depth) ' ' ++ symbol.kind.text.padRight 8 ++ " L".toList ++
    (ordinal symbol.line).padLeft 5 ++ "  ".toList ++ symbol.name ++
    (if symbol.detail.isEmpty then [] else "  ".toList ++ symbol.detail)

mutual

/-- The rows of a symbol and everything below it. -/
def treeRows (depth : Nat) : SymbolTree → List Text
  | .node symbol children => symbolRow depth symbol :: forestRows (depth + 1) children

/-- The rows of an outline. -/
def forestRows (depth : Nat) : SymbolForest → List Text
  | [] => []
  | tree :: rest => treeRows depth tree ++ forestRows depth rest

end

/-- The row of a range of lines. -/
def rangeRow (s : Scene) (p : Path) (r : Scene.FoldingRange) : Text :=
  pathText (s.context.configs.map (·.root)) p ++ ':' :: ordinal r.startLine ++ '-' ::
    ordinal r.endLine

/-- The rows of a hover text: the declaration, then the comment above it, indented. -/
def hoverRows (s : Scene) (h : Scene.HoverText) : List Text :=
  textRow s h.location (Text.trim (h.lines.getLast?.getD [])) ::
    h.lines.dropLast.map fun line => "    ".toList ++ line.trim

/-- The row of a reference count. -/
def lensRow (s : Scene) (l : Scene.Lens) : Text :=
  textRow s l.location
    (Text.ofNat l.references ++ " reference".toList ++ if l.references == 1 then [] else ['s'])

/-- The rows of declarations. -/
def declaredRows (s : Scene) (found : List Scene.Declared) : List Text :=
  found.map fun d => textRow s d.location d.name

/-- The rows of edits, by the order of their files. -/
def editRows (s : Scene) (files : List FileEdits) : List Text :=
  (files.mergeSort fun a b => a.path.le b.path).flatMap fun f =>
    f.edits.map fun e => textRow s e.location ("-> ".toList ++ e.newText)

end Report

/-- Prints the rows of an answer; none if there is no answer. -/
def rowsOf {α : Type} (answer : Task (Option α)) (rows : α → List Text) : Task Outcome := do
  let found ← answer
  return { output := unlines ((found.map rows).getD []) }

/-- The position that a line and column counted from one mean. -/
def place (line column : Nat) : Position :=
  ⟨(line : Int) - 1, column - 1⟩

/-- Prints a definition, and notes the others that are just as good. -/
def definitionRows (s : Scene) (answer : Task (Option Reduction)) : Task Outcome := do
  let found ← answer
  let r := found.getD {}
  return {
    output := unlines (r.locations.map (Report.lineRow s))
    notes := unlines (r.ambiguous.map fun l => "also: ".toList ++ Report.lineRow s l) }

/-- Ends with a message where a name with a null character was listed. -/
def refusingBadNames (task : Task Outcome) : Task Outcome :=
  tryCatch task fun
    | .failed .badName => pure { exit := .failure "embedded null byte".toList }
    | halt => throw halt

/-- The outline of a file, unless it is nested too deep to be printed. The rows that are printed
    before that shows are left out. -/
def shownOutline (s : Scene) (p : Path) : Except Failure (Option SymbolForest) :=
  match s.outline p with
  | none => .ok none
  | some forest =>
    if (SymbolForest.walkWithin s.workspace.limits.outline forest).isNone then .error .fullStack
    else .ok (some forest)

/-- Answers a query about a file, or about the whole workspace. -/
def answerQuery (s : Scene) (p : Path) : Query → Task Outcome
  | .outline => rowsOf (Task.ofExcept (shownOutline s p)) (Report.forestRows 0)
  | .lenses => rowsOf (s.lenses p) fun found => found.map (Report.lensRow s)
  | .folding => rowsOf (Task.ofExcept (s.folding p)) fun found => found.map (Report.rangeRow s p)
  | .references line column included =>
    rowsOf (s.references p (place line column) included) fun found =>
      found.map (Report.lineRow s)
  | .definition line column => definitionRows s (s.definition p (place line column))
  | .complete line column => rowsOf (s.complete p (place line column)) id
  | .hover line column =>
    rowsOf (s.hover p (place line column)) fun found => found.flatMap (Report.hoverRows s)
  | .rename line column name =>
    match s.rename p (place line column) name with
    | .error e => pure { exit := .failure e.message }
    | .ok edits => refusingBadNames (rowsOf edits (Report.editRows s))
  | .symbols query => rowsOf (some <$> s.symbols query) (Report.declaredRows s)
  | .unreferenced => rowsOf s.unreferenced (Report.declaredRows s)

/-- The roots of a run: those that were named, else the folder of the file, else the present
    folder. -/
def rootsFor (w : Workspace) (here : Path) (named : List Text) (file : Option Path) : List Path :=
  if named.isEmpty then
    match file with
    | some p => if w.files.isFile p then [p.parent] else [here]
    | none => [here]
  else named.map fun root => (WrittenPath.ofText root).resolve here

/-- Runs a query about a place, or the whole workspace. -/
def runAt (w : Workspace) (here : Path) (arguments : Arguments) (file : Option Path) :
    Task Outcome :=
  if arguments.roots.any (·.contains '\x00') then throw (.failed .badName)
  else
    match arguments.query with
    | none => pure { exit := .incomplete }
    | some query =>
      let context := Context.build w.files w.userSettings (rootsFor w here arguments.roots file)
      answerQuery ⟨w, context⟩ (file.getD here) query

/-- Runs the program in the folder `here`. The outcome has no help text, nor what is said where the
    words are not understood: both are written by the reader of the words, which may repeat them as
    they are. -/
def run (w : Workspace) (here : Path) (words : List Text) : Task Outcome :=
  match Arguments.read words with
  | .error .usage => pure { exit := .usage }
  | .error .help => pure {}
  | .ok arguments =>
    match arguments.file with
    | none => runAt w here arguments none
    | some file =>
      let written := WrittenPath.ofText file
      match written.visit w.files here with
      | .ok _ => runAt w here arguments (some (written.resolve here))
      | .error .tooLong => throw (.failed .longName)
      | .error .denied => throw (.failed .denied)
      | .error _ => pure { exit := .failure ("Path not found: ".toList ++ written.text) }

end CommandLine
end AsmAtlas
