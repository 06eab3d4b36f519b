import AsmAtlas.Outline.Reading
import AsmAtlas.Path.FileTree
import AsmAtlas.Text.Encoding
import AsmAtlas.Workspace.Collection
import AsmAtlas.Workspace.Json

/-!
# Settings of a workspace root

Settings of the user are overridden, entry by entry, by those of the workspace. A value of the
wrong type gives the default, and so does a file that cannot be used.
-/

namespace AsmAtlas

/-- The entries of a settings file. The last entry of a name counts. -/
abbrev Settings := List (LooseText × Json)

namespace Settings

/-- The entry of a name. -/
def get? (s : Settings) (key : String) : Option Json :=
  s.reverse.lookup (LooseText.ofText key.toList)

/-- The entries of a settings file; none if it holds anything but an object. -/
def ofBytes (bytes : ByteArray) : Settings :=
  match (Encoding.utf8? bytes).bind Json.ofText? with
  | some (.object fields) => fields
  | _ => []

/-- The settings of the user with those of the workspace put over them. -/
def override (user workspace : Settings) : Settings :=
  user ++ workspace

/-- A switch. -/
def switch (s : Settings) (key : String) (default : Bool) : Bool :=
  match s.get? key with
  | some (.bool b) => b
  | _ => default

/-- A length; negative ones count as zero. -/
def length (s : Settings) (key : String) (default : Nat) : Nat :=
  match s.get? key with
  | some (.int n) => n.toNat
  | _ => default

/-- A glob, without blanks around it. -/
def glob (s : Settings) (key : String) (default : LooseText) : LooseText :=
  match s.get? key with
  | some (.string t) => t.trim
  | _ => default

/-- Adds a name to a list of labels, unless it is empty or there already. What holds half of a
    character is the name of no label. -/
def addLabel (labels : List Text) : Json → List Text
  | .string t =>
    match t.text? with
    | some name => if name.isEmpty || labels.contains name then labels else labels ++ [name]
    | none => labels
  | _ => labels

/-- A list of labels, to which the default ones always belong. -/
def labels (s : Settings) (key : String) : List Text :=
  match s.get? key with
  | some (.list items) => items.foldl addLabel defaultExcludes
  | _ => defaultExcludes

end Settings

/-- The settings that are in effect below a root. -/
structure Config where
  root : Path
  includeFiles : LooseText := .ofText "**/*.\x7basm,inc,s,a80,list,lis\x7d".toList
  excludeFiles : LooseText := []
  labelsExcludes : List Text := defaultExcludes
  rules : LabelRules := {}
  nestCheap : Bool := false
  symbolsLength : Nat := 2
  completionsLength : Nat := 1
  skipIgnored : Bool := false
  outline : Bool := true
  references : Bool := true
  definition : Bool := true
  completions : Bool := true
  symbols : Bool := true
  rename : Bool := true
  lenses : Bool := true
  hovering : Bool := true

namespace Config

/-- Whether a label is passed over. -/
def isExcluded (c : Config) (label : Text) : Bool :=
  listsName c.labelsExcludes label

/-- How documents below the root are read. -/
def outlineOptions (c : Config) (dialect : Dialect) : OutlineOptions :=
  ⟨dialect, c.rules, c.nestCheap, c.labelsExcludes⟩

/-- The form of labels in a dialect. -/
def labelForm (c : Config) (dialect : Dialect) : LabelForm :=
  LabelForm.of dialect c.rules

/-- Which files below the root are searched. -/
def filter (c : Config) : FileFilter :=
  ⟨c.includeFiles, c.excludeFiles, c.skipIgnored⟩

/-- The settings of a root, given the entries for it. -/
def ofSettings (root : Path) (s : Settings) : Config :=
  let default : Config := { root }
  { root
    includeFiles := s.glob "include_files" default.includeFiles
    excludeFiles := s.glob "exclude_files" default.excludeFiles
    labelsExcludes := s.labels "labels_excludes"
    rules :=
      { withColons := s.switch "labels_with_colons" default.rules.withColons
        withoutColons := s.switch "labels_without_colons" default.rules.withoutColons }
    nestCheap := s.switch "ca65_cheap_local_label_nesting" default.nestCheap
    symbolsLength := s.length "workspace_symbols_required_length" default.symbolsLength
    completionsLength := s.length "completions_required_length" default.completionsLength
    skipIgnored := s.switch "skip_gitignored" default.skipIgnored
    outline := s.switch "enable_outline_view" default.outline
    references := s.switch "enable_find_all_references" default.references
    definition := s.switch "enable_goto_definition" default.definition
    completions := s.switch "enable_completions" default.completions
    symbols := s.switch "enable_workspace_symbols" default.symbols
    rename := s.switch "enable_rename" default.rename
    lenses := s.switch "enable_code_lenses" default.lenses
    hovering := s.switch "enable_hovering" default.hovering }

/-- The name of the settings file in a root. -/
def fileName : Text :=
  ".asmlens.json".toList

/-- The settings of a root, read from the user's settings file and the one in the root. -/
def load (t : FileTree) (user : Option ByteArray) (root : Path) : Config :=
  let entries (bytes : Option ByteArray) := (bytes.map Settings.ofBytes).getD []
  ofSettings root ((entries user).override (entries (t.read? (root.child fileName))))

end Config

/-- The settings of all roots that a request is answered for. -/
structure Context where
  configs : List Config

namespace Context

/-- Settings for each of the roots, a root that is named again left out. -/
def build (t : FileTree) (user : Option ByteArray) (roots : List Path) : Context :=
  ⟨roots.eraseDups.map (Config.load t user)⟩

/-- The one of two settings whose root is longer, the first if neither is. -/
def deeper (best : Option Config) (c : Config) : Option Config :=
  match best with
  | none => some c
  | some b => if b.root.parts.length < c.root.parts.length then some c else some b

/-- The settings of the innermost root that a place lies in. -/
def configFor? (context : Context) (p : Path) : Option Config :=
  (context.configs.filter fun c => p.isWithin c.root).foldl deeper none

end Context

end AsmAtlas
