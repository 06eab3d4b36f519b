import AsmAtlas.Request.Navigation
import AsmAtlas.Text.Quoted

/-!
# Renaming
-/

namespace AsmAtlas

/-- Why a label is not renamed. -/
inductive RenameError where
  /-- The new name is no identifier. -/
  | invalidName (name : Text)
deriving DecidableEq

namespace RenameError

/-- What is said about an invalid name. -/
def message : RenameError → Text
  | invalidName name => "invalid label name: ".toList ++ Quoted.quoted name

end RenameError

/-- A stretch of a file and the text to put there. -/
structure TextEdit where
  location : Location
  newText : Text
deriving DecidableEq

/-- The edits of one file. -/
structure FileEdits where
  path : Path
  edits : List TextEdit
deriving DecidableEq

namespace Scene

/-- What a new name has to be: an ASCII letter or underscore, then word characters. -/
def newName : Pattern :=
  .all [.lineStart, .char isPlainStart, .many isWordChar, .lineEnd]

/-- Edits by file, the files in the order in which they first occur. -/
def byFile (edits : List TextEdit) : List FileEdits :=
  (edits.map (·.location.path)).eraseDups.map fun p =>
    ⟨p, edits.filter fun e => e.location.path == p⟩

/-- The edits that give the label segment at a position a new name everywhere. -/
def editsFor (s : Scene) (p : Path) (position : Position) (name : Text) :
    Task (Option (List FileEdits)) :=
  match s.open? p (·.rename) with
  | none => pure none
  | some (c, origin) => do
    let found ← (s.referencesFrom c origin position true).attempt
    return found.map fun locations => byFile (locations.map (⟨·, name⟩))

/-- Renames the label segment at a position. A name that is no identifier is refused before
    anything is looked at. -/
def rename (s : Scene) (p : Path) (position : Position) (name : Text) :
    Except RenameError (Task (Option (List FileEdits))) :=
  if newName.accepts name then .ok (s.editsFor p position name) else .error (.invalidName name)

/-- The same for the file at a path, as it is written in the folder `here`. -/
def renameAbout (s : Scene) (here : Path) (path : Text) (position : Position) (name : Text) :
    Except RenameError (Task (Option (List FileEdits))) :=
  if newName.accepts name then .ok (about here path fun p => s.editsFor p position name)
  else .error (.invalidName name)

end Scene
end AsmAtlas
