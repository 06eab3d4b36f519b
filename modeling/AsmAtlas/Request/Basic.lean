import AsmAtlas.Grammar.WordSearch
import AsmAtlas.Workspace.Config
import AsmAtlas.Workspace.Search

/-!
# Answering requests

A request is about a workspace and the settings of its roots. It has no answer if no root covers
the file, if the feature is switched off there, if the file cannot be read, or if nobody is
interested any more. It fails if files cannot be collected, and if it is about a path with a null
character.
-/

namespace AsmAtlas

/-- What a request is about. -/
structure Scene where
  workspace : Workspace
  context : Context

namespace Scene

/-- The settings for a file, if the feature is switched on there. -/
def config? (s : Scene) (p : Path) (feature : Config → Bool) : Option Config :=
  (s.context.configFor? p).filter feature

/-- The settings for a file and its document, if the feature is switched on there. -/
def open? (s : Scene) (p : Path) (feature : Config → Bool) : Option (Config × Document) :=
  (s.config? p feature).bind fun c => (s.workspace.load? p).map (c, ·)

/-- A request about the file at a path, as it is written in the folder `here`. No file can have a
    path with a null character. -/
def about {α : Type} (here : Path) (path : Text) (request : Path → Task α) : Task α :=
  if path.contains '\x00' then throw (.failed .badName)
  else request ((WrittenPath.ofText path).resolve here)

/-- The files that are collected for a root. -/
def filesOf (s : Scene) (c : Config) : Except Failure (List Path) :=
  (s.workspace.collection c.filter c.root).files

/-- What patterns find in the files of a root. -/
def search (s : Scene) (c : Config) (patterns : List Pattern) : Task (List Finding) :=
  s.workspace.search patterns c.filter [c.root]

/-- The places where a word is declared, as far as the dialect of the origin has it. -/
def declarations (s : Scene) (c : Config) (w : Wanted) (dialect : Dialect) :
    Task (List Finding) :=
  s.search c (WordSearch.declarations w dialect c.rules)

end Scene

end AsmAtlas
