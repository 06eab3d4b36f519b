import AsmAtlas.Outline.Scan
import AsmAtlas.Request.Basic

/-!
# Outlines and folding ranges
-/

namespace AsmAtlas
namespace Scene

/-- The outline of a file. -/
def outline (s : Scene) (p : Path) : Option SymbolForest :=
  (s.open? p (·.outline)).map fun (c, d) =>
    AsmAtlas.outline (c.outlineOptions d.dialect) d.lines

/-- Lines that can be folded away, the last one included. -/
structure FoldingRange where
  startLine : Nat
  endLine : Nat
deriving DecidableEq

/-- The lines on which a symbol stands that is not marked as relative, in order. -/
def foldingStarts (symbols : List Symbol) : List Nat :=
  (symbols.filter fun symbol =>
      !symbol.name.head?.any fun c => c == '.' || c == '@').map (·.line)
    |>.eraseDups.mergeSort fun a b => decide (a ≤ b)

/-- The last line from `start` to `stop` that is not blank, or `start`. -/
def lastCodeLine (lines : List Text) (start : Nat) : Nat → Nat
  | 0 => 0
  | stop + 1 =>
    if start < stop + 1 && (lines[stop + 1]?.getD []).isBlankText then
      lastCodeLine lines start stop
    else stop + 1

/-- One range from each start to before the next. Blank lines at its end stay outside, and nothing
    is left to fold of a single line. -/
def foldingFrom (lines : List Text) : List Nat → List FoldingRange
  | [] => []
  | start :: rest =>
    let stop := lastCodeLine lines start ((rest.head?.getD lines.length) - 1)
    (if start < stop then [⟨start, stop⟩] else []) ++ foldingFrom lines rest

/-- The ranges of a source document from label to label, unless its outline is nested too deep. -/
def foldingOf (s : Scene) (c : Config) (d : Document) : Except Failure (List FoldingRange) :=
  let forest := AsmAtlas.outline (c.outlineOptions d.dialect) d.lines
  match SymbolForest.walkWithin s.workspace.limits.outline forest with
  | none => .error .fullStack
  | some symbols => .ok (foldingFrom d.lines (foldingStarts symbols))

/-- The ranges of a file from label to label. Listings have none. -/
def folding (s : Scene) (p : Path) : Except Failure (Option (List FoldingRange)) :=
  match s.open? p fun _ => true with
  | none => .ok none
  | some (c, d) => if d.dialect == .listing then .ok (some []) else (s.foldingOf c d).map some

end Scene
end AsmAtlas
