import AsmAtlas.Document
import AsmAtlas.Outline.Reading

/-!
# The scope of every line

The full name of a label depends on the modules and structures around it and, for a relative
label, on the absolute label before it. A scope table holds both for every line of a document.
-/

namespace AsmAtlas

/-- What a name on a line is qualified with. -/
structure LineScope where
  /-- The folded names of the modules and structures open before the line, with dots between
      them. -/
  modules : Text
  /-- The folded absolute label that relative labels on the line belong to. -/
  owner : Option Text
deriving DecidableEq

/-- The scopes of all lines of a document. -/
abbrev ScopeTable := List LineScope

/-- The modules and structures that are open, the outermost first, and the owner of relative
    labels. -/
structure ScopeState where
  modules : List Text := []
  owner : Option Text := none
deriving DecidableEq

namespace ScopeState

/-- A label that is marked as relative to another. -/
def isRelative (label : Text) : Bool :=
  label.head?.any fun c => c == '.' || c == '@'

/-- An absolute label becomes the owner of what follows it, on the rest of its line too. -/
def takeLabel (form : LabelForm) (line : Text) (s : ScopeState) : ScopeState × Text :=
  match form.find? line with
  | none => (s, line)
  | some hit =>
    let label := hit.span.of line
    if isRelative label then (s, line)
    else ({ s with owner := some (foldCase label) }, hit.after line)

/-- Opens or closes a module or structure. -/
def takeDirective (dialect : Dialect) (line : Text) (s : ScopeState) : ScopeState :=
  match (Statement.scopeLine? dialect line).map fun m => Statement.ofScopeLine m line with
  | some .close => ⟨s.modules.dropLast, none⟩
  | some (.scope _ (some name)) => { s with modules := s.modules ++ [foldCase name.text] }
  | _ => s

/-- The scope of a line and the state after it. -/
def step (form : LabelForm) (dialect : Dialect) (line : Text) (s : ScopeState) :
    LineScope × ScopeState :=
  let (labelled, rest) := s.takeLabel form line
  let after := labelled.takeDirective dialect rest
  (⟨Text.joinWith ['.'] s.modules, after.owner⟩, after)

/-- The scopes of lines, starting from a state. -/
def table (form : LabelForm) (dialect : Dialect) (s : ScopeState) : List Text → ScopeTable
  | [] => []
  | line :: rest =>
    let (scope, after) := s.step form dialect line
    scope :: table form dialect after rest

end ScopeState

/-- The scope table of a document in which labels have the given form. -/
def Document.scopes (d : Document) (form : LabelForm) : ScopeTable :=
  ScopeState.table form d.dialect {} d.lines

/-- Scope tables that were already made, by path and form of labels. -/
abbrev ScopeCache := List ((Path × LabelForm) × ScopeTable)

namespace ScopeCache

/-- The scope table of a document, taken from the cache if it is there and put into it if not. -/
def get (cache : ScopeCache) (d : Document) (form : LabelForm) : ScopeTable × ScopeCache :=
  match cache.lookup (d.path, form) with
  | some table => (table, cache)
  | none =>
    let table := d.scopes form
    (table, ((d.path, form), table) :: cache)

end ScopeCache

end AsmAtlas
