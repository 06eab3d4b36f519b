import AsmAtlas.Outline.Reading

/-!
# Scanning a document

One pass over the lines of a document, with a stack of the scopes that are open. A label is first
entered with the default kind; the first operand on its line or below decides what it, and the
labels waiting with it, stand for.
-/

namespace AsmAtlas

/-- A scope that is open. -/
structure Frame where
  name : Text
  kind : ScopeKind
  /-- The entry of the name that opened the scope; anonymous blocks have none. -/
  entry : Option Nat
deriving DecidableEq

/-- What is known after some lines. -/
structure Scan where
  entries : List Entry := []
  /-- The open scopes, the innermost first. -/
  frames : List Frame := []
  /-- The labels still waiting for an operand. -/
  pending : List Nat := []
  /-- The label that `.local` labels belong to. -/
  owner : Option Nat := none
  /-- The kind of labels that have no operand yet. -/
  defaultKind : SymbolKind := .function

namespace Scan

/-- The entry of the innermost scope that has one. -/
def container (s : Scan) : Option Nat :=
  s.frames.findSome? (·.entry)

/-- The number of the next entry. -/
def next (s : Scan) : Nat :=
  s.entries.length

/-- Enters a symbol. -/
def enter (s : Scan) (symbol : Symbol) (parent : Option Nat) : Scan :=
  { s with entries := s.entries ++ [⟨symbol, parent⟩] }

/-- Enters a label: `.local` labels under their owner, `@cheap` ones at the top level or in their
    scope, and all others in their scope, as the owner of what follows. -/
def addLabel (options : OutlineOptions) (line : Nat) (label : Named) (s : Scan) : Scan :=
  let symbol : Symbol := ⟨label.text, s.defaultKind, line, label.column, []⟩
  match label.text.head? with
  | some '.' => { s.enter symbol (s.owner <|> s.container) with pending := s.pending ++ [s.next] }
  | some '@' =>
    { s.enter symbol (if options.nestCheap then s.container else none) with
      pending := s.pending ++ [s.next] }
  | _ => { s.enter symbol s.container with owner := some s.next, pending := [s.next] }

/-- Enters the name of a scope or definition, if it has one, and gives the number of its entry. -/
def addNamed (kind : SymbolKind) (line : Nat) (name : Option Named) (s : Scan) :
    Scan × Option Nat :=
  match name with
  | none => (s, none)
  | some n => (s.enter ⟨n.text, kind, line, n.column, []⟩ s.container, some s.next)

/-- Opens a scope. -/
def push (s : Scan) (frame : Frame) : Scan :=
  { s with frames := frame :: s.frames }

/-- Closes the innermost scope, if one is open. What follows has no owner. -/
def pop (s : Scan) : Scan :=
  { s with frames := s.frames.tail, owner := none }

/-- Gives the waiting labels a kind and a description. -/
def settle (s : Scan) (refine : Symbol → Symbol) : Scan :=
  { s with
    entries := s.pending.foldl
      (fun entries i => entries.modify i fun e => { e with symbol := refine e.symbol }) s.entries
    pending := [] }

/-- Uses an operand to tell what the waiting labels stand for. A blank one says nothing, but ends a
    row of constants or data. -/
def classify (text : Text) (s : Scan) : Scan :=
  let operand := text.trim
  if operand.isEmpty then { s with defaultKind := .function }
  else if s.pending.isEmpty then s
  else
    match operandKind operand with
    | some (kind, detail) =>
      { s.settle (fun symbol => { symbol with kind, detail }) with defaultKind := kind }
    | none => s.settle fun symbol => { symbol with kind := .function }

/-- Takes in what follows a label. -/
def addStatement (line : Nat) (statement : Statement) (s : Scan) : Scan :=
  match statement with
  | .block name =>
    let (s, entry) := s.addNamed .method line name
    { s.push ⟨(name.map (·.text)).getD [], .block, entry⟩ with pending := [] }
  | .define name => { (s.addNamed .method line name).1 with pending := [] }
  | .close => { s.pop with pending := [] }
  | .macroDef name =>
    { s.enter ⟨name.text, .method, line, name.column, []⟩ none with pending := [] }
  | .scope _ none => { s with pending := [] }
  | .scope kind (some name) =>
    let symbolKind := if kind == .moduleScope then SymbolKind.moduleName else .structName
    let (s, entry) := s.addNamed symbolKind line (some name)
    { s.push ⟨name.text, kind, entry⟩ with pending := [] }
  | .operand text => s.classify text

/-- Takes in one line. -/
def step (options : OutlineOptions) (line : Nat) (reading : Reading) (s : Scan) : Scan :=
  match reading with
  | .macroLabel name =>
    { s.enter ⟨name.text, .method, line, name.column, []⟩ none with pending := [] }
  | .plain none statement => s.addStatement line statement
  | .plain (some label) statement => (s.addLabel options line label).addStatement line statement

/-- What is known after each of the lines, the first of which has number `line`. -/
def trace (options : OutlineOptions) (line : Nat) (s : Scan) : List Text → List Scan
  | [] => []
  | text :: rest =>
    let s := s.step options line (.ofLine options text)
    s :: trace options (line + 1) s rest

/-- What is known after all lines, the first of which has number `line`. -/
def feed (options : OutlineOptions) (line : Nat) (s : Scan) : List Text → Scan
  | [] => s
  | text :: rest => feed options (line + 1) (s.step options line (.ofLine options text)) rest

/-- What is known after a whole document. -/
def ofLines (options : OutlineOptions) (lines : List Text) : Scan :=
  feed options 0 {} lines

end Scan

/-- The outline of a document without comments. -/
def outline (options : OutlineOptions) (lines : List Text) : SymbolForest :=
  Entry.forest (Scan.ofLines options lines).entries

end AsmAtlas
