import AsmAtlas.Outline.Basic

/-!
# Reading one line

What a line says on its own, before any other line is looked at: the label it declares, and the
directive or operand that follows. Each category excludes the ones after it.
-/

namespace AsmAtlas

/-- What opened a scope. -/
inductive ScopeKind where
  | moduleScope
  | structScope
  /-- A block of CA65. -/
  | block
deriving DecidableEq

/-- The word for a kind of scope. -/
def ScopeKind.text : ScopeKind → Text
  | moduleScope => "module".toList
  | structScope => "struct".toList
  | block => "ca65-block".toList

/-- The labels that are never shown. -/
def defaultExcludes : List Text :=
  ["include".toList]

/-- Whether a list of names has this one, up to case. -/
def listsName (names : List Text) (name : Text) : Bool :=
  names.any fun other => foldCase other == foldCase name

/-- How a document is read into an outline. -/
structure OutlineOptions where
  dialect : Dialect := .source
  rules : LabelRules := {}
  /-- Whether labels marked with `@` hang under the scope around them. -/
  nestCheap : Bool := false
  /-- Labels that are passed over, besides the ones that always are. -/
  excludes : List Text := []

namespace OutlineOptions

/-- Whether a label is passed over. -/
def isExcluded (options : OutlineOptions) (label : Text) : Bool :=
  listsName (options.excludes ++ defaultExcludes) label

/-- The form of the labels in the document. -/
def labelForm (options : OutlineOptions) : LabelForm :=
  LabelForm.of options.dialect options.rules

end OutlineOptions

/-- A name and the column it was read at. -/
structure Named where
  text : Text
  column : Nat
deriving DecidableEq

/-- What follows the label of a line. -/
inductive Statement where
  /-- A block of CA65 begins. -/
  | block (name : Option Named)
  /-- A definition of CA65 without a block. -/
  | define (name : Option Named)
  /-- A block, module or structure ends. -/
  | close
  | macroDef (name : Named)
  /-- `MODULE` or `STRUCT`; only a named one is a scope. -/
  | scope (kind : ScopeKind) (name : Option Named)
  /-- Anything else: an instruction, the operand of the label, or nothing. -/
  | operand (text : Text)
deriving DecidableEq

/-- What a line says. -/
inductive Reading where
  /-- `name MACRO`. -/
  | macroLabel (name : Named)
  | plain (label : Option Named) (statement : Statement)
deriving DecidableEq

/-- The text and column of a group. -/
def Match.named? (m : Match) (g : Group) (line : Text) : Option Named :=
  (m.group? g).map fun span => ⟨span.of line, span.start⟩

/-- The text of a group, empty if it took no part in the match. -/
def Match.textOf (m : Match) (g : Group) (line : Text) : Text :=
  ((m.group? g).map fun span => span.of line).getD []

namespace Statement

/-- Reads a `MODULE`, `STRUCT`, `ENDMODULE` or `ENDS` line from its match. -/
def ofScopeLine (m : Match) (line : Text) : Statement :=
  let keyword := m.textOf .keyword line
  if keyword.sameAscii "ENDMODULE".toList || keyword.sameAscii "ENDS".toList then close
  else
    scope (if keyword.sameAscii "MODULE".toList then .moduleScope else .structScope)
      (m.named? .name line)

/-- The match of a line that opens or closes a module or structure. -/
def scopeLine? (dialect : Dialect) (line : Text) : Option Match :=
  (Directive.moduleLine dialect).matchStart line <|> (Directive.structLine dialect).matchStart line

/-- Reads what follows the label of a line. -/
def read (dialect : Dialect) (line : Text) : Statement :=
  match (Directive.blockLine dialect).matchStart line with
  | some m =>
    if (m.textOf .directive line).sameAscii Keyword.define then define (m.named? .name line)
    else block (m.named? .name line)
  | none =>
    if (Directive.blockEndLine dialect).accepts line then close
    else
      match (Directive.macroLine dialect).matchStart line with
      | some m => macroDef ((m.named? .name line).getD ⟨[], 0⟩)
      | none =>
        match scopeLine? dialect line with
        | some m => ofScopeLine m line
        | none => operand line

end Statement

namespace Reading

/-- The label of a line that is not passed over. -/
def label? (options : OutlineOptions) (line : Text) : Option LabelHit :=
  (options.labelForm.find? line).filter fun hit => !options.isExcluded (hit.span.of line)

/-- Reads one line. Columns of what follows a label count from the end of the label. -/
def ofLine (options : OutlineOptions) (line : Text) : Reading :=
  match label? options line with
  | none => plain none (Statement.read options.dialect line)
  | some hit =>
    let name : Named := ⟨hit.span.of line, hit.span.start⟩
    let rest := hit.after line
    if Directive.macroAfterLabel.accepts rest then macroLabel name
    else plain (some name) (Statement.read options.dialect rest)

end Reading

/-- What an operand makes of its label: a constant or data, described by its keyword and value. -/
def operandKind (text : Text) : Option (SymbolKind × Text) :=
  let describe (m : Match) : Text :=
    (m.textOf .keyword text ++ ' ' :: (m.textOf .value text).trimEnd).trimEnd
  match Directive.constantOperand.matchStart text with
  | some m => some (.constant, describe m)
  | none => (Directive.dataOperand.matchStart text).map fun m => (.field, describe m)

end AsmAtlas
