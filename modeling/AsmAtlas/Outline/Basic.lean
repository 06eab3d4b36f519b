import AsmAtlas.Grammar.Directive

/-!
# Outline symbols

The symbols of a document and the tree in which they are shown. While a document is read its
symbols are entries in order of appearance, each with the entry it hangs under; `forest` turns
the entries into trees.
-/

namespace AsmAtlas

/-- What a symbol stands for. -/
inductive SymbolKind where
  | function
  | constant
  | field
  | method
  | moduleName
  | structName
deriving DecidableEq

/-- The word for a kind. -/
def SymbolKind.text : SymbolKind → Text
  | function => "function".toList
  | constant => "constant".toList
  | field => "field".toList
  | method => "method".toList
  | moduleName => "module".toList
  | structName => "struct".toList

/-- A declared name, with its place and, for constants and data, the operand that defines it. -/
structure Symbol where
  name : Text
  kind : SymbolKind
  line : Nat
  column : Nat
  detail : Text := []
deriving DecidableEq

/-- A symbol with everything that belongs to it. -/
inductive SymbolTree where
  | node (symbol : Symbol) (children : List SymbolTree)

/-- Trees side by side. -/
abbrev SymbolForest := List SymbolTree

mutual

/-- The symbols of a tree, each before those below it. -/
def SymbolTree.walk : SymbolTree → List Symbol
  | .node symbol children => symbol :: SymbolForest.walk children

/-- The symbols of all trees from first to last, however deep they are nested. -/
def SymbolForest.walk : SymbolForest → List Symbol
  | [] => []
  | tree :: rest => tree.walk ++ SymbolForest.walk rest

end

mutual

/-- The symbols of a tree, met by a walk that has so many calls left for what is below it. -/
def SymbolTree.walkWithin (calls : Nat) : SymbolTree → Option (List Symbol)
  | .node symbol children => (SymbolForest.walkWithin calls children).map (symbol :: ·)

/-- The symbols of all trees, met by a walk whose calls may be nested so deep. There is one call
    for the trees and one within it for what is below each of them, also where nothing is. -/
def SymbolForest.walkWithin : Nat → SymbolForest → Option (List Symbol)
  | 0, _ => none
  | _ + 1, [] => some []
  | calls + 1, tree :: rest => do
    let first ← tree.walkWithin calls
    let later ← SymbolForest.walkWithin (calls + 1) rest
    return first ++ later

end

/-- A symbol and the number of the entry it hangs under, or none at the top level. -/
structure Entry where
  symbol : Symbol
  parent : Option Nat
deriving DecidableEq

namespace Entry

/-- Trees for the entries from number `i` on, each with the entry that it has to hang under. An
    entry collects the trees that wait for it. -/
def grow : Nat → List Entry → List (Option Nat × SymbolTree)
  | _, [] => []
  | i, entry :: rest =>
    let waiting := grow (i + 1) rest
    let (mine, others) := waiting.partition fun tree => tree.1 == some i
    (entry.parent, .node entry.symbol (mine.map (·.2))) :: others

/-- The trees of a list of entries in which every parent stands before its children. -/
def forest (entries : List Entry) : SymbolForest :=
  (grow 0 entries).map (·.2)

end Entry

end AsmAtlas
