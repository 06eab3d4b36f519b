import AsmAtlas.Request.Names

/-!
# How often labels are used

The reference counts of all labels of a document need one search for identifiers, not one for each
label.
-/

namespace AsmAtlas
namespace Scene

/-- A label that a document declares, with the place of its last segment. -/
structure LabelDeclaration where
  label : Text
  line : Nat
  column : Nat
deriving DecidableEq

/-- The label that a line declares, unless it is excluded. -/
def declarationIn? (c : Config) (form : LabelForm) (n : Nat) (line : Text) :
    Option LabelDeclaration :=
  (form.find? line).bind fun hit =>
    let label := hit.span.of line
    (Occurrence.at? isWordChar line (hit.span.stop - 1)).bind fun found =>
      if c.isExcluded label then none else some ⟨label, n, found.start⟩

/-- The labels that a document declares. -/
def declarationsIn (c : Config) (d : Document) : List LabelDeclaration :=
  d.lines.zipIdx.filterMap fun (line, n) => declarationIn? c (c.labelForm d.dialect) n line

/-- Every identifier of some documents, with its folded text. -/
abbrev WordIndex := List (Text × Candidate)

/-- Findings by their folded text. -/
def indexWords (found : List Finding) : WordIndex :=
  found.map fun f => (foldCase f.symbol, f.candidate)

/-- The places of a word. -/
def placesOf (index : WordIndex) (word : Text) : List Candidate :=
  let folded := foldCase word
  (index.filter fun entry => entry.1 == folded).map (·.2)

/-- The documents of a root and their identifiers. -/
def wordsOf (s : Scene) (c : Config) : Task (List Document × WordIndex) := do
  let files ← s.workspace.filesBelow c.filter c.root
  let ds ← s.workspace.readAll files
  let found ← Search.documents [WordSearch.identifiers] ds
  return (ds, indexWords found)

/-- A label with the number of its references. -/
structure Counted where
  label : Text
  location : Location
  references : Nat
deriving DecidableEq

/-- How often a declared label is referred to, and the cache afterwards. -/
def count (c : Config) (d : Document) (index : WordIndex) (cache : ScopeCache)
    (decl : LabelDeclaration) : Option Counted × ScopeCache :=
  let position : Position := ⟨decl.line, decl.column⟩
  match d.occurrence? isWordChar position with
  | none => (none, cache)
  | some found =>
    let q : Inquiry :=
      { form := c.labelForm d.dialect
        origin := d
        position
        includeDeclaration := false }
    let (reduced, cache) := q.reduceWith cache (placesOf index found.word)
    (some ⟨decl.label, ⟨d.path, decl.line, found.start, found.stop⟩,
      reduced.locations.length⟩, cache)

/-- How often each of some declared labels is referred to, and the cache afterwards. -/
def countAll (c : Config) (d : Document) (index : WordIndex) (cache : ScopeCache) :
    List LabelDeclaration → List Counted × ScopeCache
  | [] => ([], cache)
  | decl :: rest =>
    let (counted, cache) := count c d index cache decl
    let (more, cache) := countAll c d index cache rest
    (counted.toList ++ more, cache)

/-- The labels of some documents that nothing refers to. -/
def unreferencedIn (c : Config) (index : WordIndex) (cache : ScopeCache) :
    List Document → Task (List Declared)
  | [] => pure []
  | d :: rest => do
    Task.checkpoint
    let (counted, cache) := countAll c d index cache (declarationsIn c d)
    let more ← unreferencedIn c index cache rest
    return (counted.filter (·.references == 0)).map (fun l => ⟨l.label, l.location⟩) ++ more

/-- The labels in the files of a root that nothing refers to. -/
def unreferencedOf (s : Scene) (c : Config) : Task (List Declared) := do
  let (ds, index) ← s.wordsOf c
  unreferencedIn c index [] ds

/-- The labels in all roots that nothing refers to. -/
def unreferenced (s : Scene) : Task (Option (List Declared)) := do
  let found ← Task.attempt (s.context.configs.mapM s.unreferencedOf)
  return found.map List.flatten

/-- A reference count shown at a label. -/
structure Lens where
  location : Location
  references : Nat
deriving DecidableEq

/-- The identifiers of one document. -/
def ownWords (d : Document) : WordIndex :=
  indexWords (Search.tidy (d.find WordSearch.identifiers))

/-- The reference counts of a document. One outside the files of its root counts its own uses
    too. -/
def lensesOf (s : Scene) (c : Config) (d : Document) : Task (List Lens) := do
  let (ds, index) ← s.wordsOf c
  let index := if ds.any (·.path == d.path) then index else index ++ ownWords d
  let (counted, _) := countAll c d index [] (declarationsIn c d)
  return counted.map fun l => ⟨l.location, l.references⟩

/-- The number of references to every label that a file declares. -/
def lenses (s : Scene) (p : Path) : Task (Option (List Lens)) :=
  match s.open? p (·.lenses) with
  | none => pure none
  | some (c, d) => (s.lensesOf c d).attempt

end Scene
end AsmAtlas
