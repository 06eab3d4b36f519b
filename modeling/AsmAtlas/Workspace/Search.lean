import AsmAtlas.Document
import AsmAtlas.Pattern.Match
import AsmAtlas.Reference.Reduction
import AsmAtlas.Workspace.Collection
import AsmAtlas.Limits
import AsmAtlas.Workspace.Task

/-!
# Searching documents

Every pattern is tried on every line. What is found comes in the order of the documents and, within
a document, of lines and columns; of several patterns that find something at the same place, the
first one counts.
-/

namespace AsmAtlas

/-- Something that was found. -/
structure Finding where
  location : Location
  /-- The word that was found. -/
  symbol : Text
  /-- The text of every group of the pattern that found it. -/
  groups : List (Option Text)
  document : Document

namespace Finding

/-- The line, without comments, in which something was found. -/
def text (f : Finding) : Text :=
  f.document.line f.location.line

/-- A finding as a candidate for a reference. -/
def candidate (f : Finding) : Candidate :=
  ⟨f.location, some f.document⟩

/-- The finding of a match: the searched word, or the whole match of patterns that note none. -/
def ofMatch (d : Document) (n : Nat) (line : Text) (p : Pattern) (m : Match) : Finding :=
  let span := (m.group? .word).getD m.span
  ⟨⟨d.path, n, span.start, span.stop⟩, span.of line,
    p.groups.map fun g => (m.group? g).map fun s => s.of line, d⟩

/-- Whether two findings of one document are at the same place. -/
def samePlace (a b : Finding) : Bool :=
  a.location.line == b.location.line && a.location.start == b.location.start

/-- Whether `a` stands before `b` in their document, or at the same place. -/
def le (a b : Finding) : Bool :=
  a.location.line < b.location.line ||
    (a.location.line == b.location.line && a.location.start ≤ b.location.start)

end Finding

namespace Document

/-- What a pattern finds in lines of a document, the first of which has number `n`. -/
def findIn (d : Document) (p : Pattern) (n : Nat) : List Text → List Finding
  | [] => []
  | line :: rest => (p.findAll line).map (Finding.ofMatch d n line p) ++ d.findIn p (n + 1) rest

/-- What a pattern finds in a document. -/
def find (d : Document) (p : Pattern) : List Finding :=
  d.findIn p 0 d.lines

end Document

namespace Search

/-- Findings with only the first at each place, in order. -/
def tidy (found : List Finding) : List Finding :=
  (found.eraseDupsBy Finding.samePlace).mergeSort Finding.le

/-- What patterns find in a document. -/
def document (patterns : List Pattern) (d : Document) : Task (List Finding) := do
  let found ← patterns.mapM fun p => do
    Task.checkpoint
    return d.find p
  return tidy found.flatten

/-- What patterns find in documents. -/
def documents (patterns : List Pattern) (ds : List Document) : Task (List Finding) := do
  let found ← ds.mapM (document patterns)
  return found.flatten

end Search

/-- What searches read from: the files that are collected, and the document that each of them is
    loaded as. It need not be at the place of the file, as a file may be a link to another. -/
structure Archive where
  collection : FileFilter → Path → Collection
  load? : Path → Option Document

namespace Archive

/-- Reads one file, unless nobody is interested any more. -/
def readOne (a : Archive) (p : Path) : Task (Option Document) := do
  if ← Task.poll then return none
  return a.load? p

/-- Reads files; those that cannot be read are left out. -/
def readAll (a : Archive) (ps : List Path) : Task (List Document) := do
  Task.checkpoint
  if ps.isEmpty then return []
  let ds ← ps.mapM a.readOne
  Task.checkpoint
  return ds.filterMap id

/-- The files below a root that a filter takes in. -/
def filesBelow (a : Archive) (filter : FileFilter) (root : Path) : Task (List Path) :=
  Task.ofCollection (a.collection filter root)

/-- The files below several roots, each of them once. -/
def filesBelowAll (a : Archive) (filter : FileFilter) (roots : List Path) : Task (List Path) := do
  let files ← roots.mapM (a.filesBelow filter)
  return files.flatten.eraseDups

/-- What patterns find in the files below some roots. -/
def search (a : Archive) (patterns : List Pattern) (filter : FileFilter) (roots : List Path) :
    Task (List Finding) := do
  let files ← a.filesBelowAll filter roots
  let ds ← a.readAll files
  Search.documents patterns ds

end Archive

/-- Everything that requests depend on: the files, the answers of the programs that are installed,
    the settings file of the user, and how deep calls may be nested. -/
structure Workspace where
  files : FileTree
  tools : Tools := {}
  userSettings : Option ByteArray := none
  limits : Limits := {}

namespace Workspace

/-- The text of the file at a place. -/
def text? (w : Workspace) (p : Path) : Option Text :=
  (w.files.read? p).map Encoding.sourceText

/-- The document at a place. -/
def load? (w : Workspace) (p : Path) : Option Document :=
  (w.text? p).map (Document.ofText p)

/-- What a filter collects below a root. -/
def collection (w : Workspace) (filter : FileFilter) (root : Path) : Collection :=
  Collection.collect w.files w.limits w.tools filter root

/-- Its files, each of them loaded from its own place. -/
def archive (w : Workspace) : Archive :=
  ⟨w.collection, w.load?⟩

/-- Reads files; those that cannot be read are left out. -/
def readAll (w : Workspace) (ps : List Path) : Task (List Document) :=
  w.archive.readAll ps

/-- The files below a root that a filter takes in. -/
def filesBelow (w : Workspace) (filter : FileFilter) (root : Path) : Task (List Path) :=
  w.archive.filesBelow filter root

/-- What patterns find in the files below some roots. -/
def search (w : Workspace) (patterns : List Pattern) (filter : FileFilter) (roots : List Path) :
    Task (List Finding) :=
  w.archive.search patterns filter roots

end Workspace

end AsmAtlas
