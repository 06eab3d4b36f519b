import AsmAtlas.Glob.Basic
import AsmAtlas.Limits
import AsmAtlas.Path.FileTree
import AsmAtlas.Text.Case
import AsmAtlas.Text.Encoding
import AsmAtlas.Workspace.Tool

/-!
# Collecting the files of a workspace

The files below a root that match one glob and do not match another. If the file lister `rg` is
installed its answer is used, else the folders are walked; ignored files are left out with the
help of `git`. Hidden files and folders are never taken in. Whatever the programs print, every
collected file exists and lies below the root.
-/

namespace AsmAtlas

/-- Why a request fails. -/
inductive Failure where
  | badGlob (e : GlobError)
  /-- Calls are nested deeper than they may be. -/
  | fullStack
  /-- A path with a null character, which no file can have. -/
  | badName
  /-- A name that is longer than names can be, or a path that is longer than paths can be. -/
  | longName
  /-- A folder on the way may not be entered. -/
  | denied
deriving DecidableEq

/-- Files that were collected, and the programs that were run for it, also where it failed. -/
structure Collection where
  files : Except Failure (List Path) := .ok []
  commands : List Command := []

namespace Collection

/-- A character that ends a line in the output of a program. -/
def endsLine (c : Char) : Bool :=
  (0x0A ≤ c.toNat && c.toNat ≤ 0x0D) || (0x1C ≤ c.toNat && c.toNat ≤ 0x1E) || c == '\u0085' ||
    c == '\u2028' || c == '\u2029'

/-- The lines of the output of a program; empty ones may be among them. -/
def outputLines (output : Text) : List Text :=
  output.splitOnP endsLine

/-- A name that starts with a dot. -/
def isHidden (name : Text) : Bool :=
  name.head? == some '.'

/-- Whether a part of the path from `root` is hidden. -/
def isHiddenBelow (root p : Path) : Bool :=
  ((p.partsFrom? root).getD []).any isHidden

/-- The lines that the lister printed, unless it failed, printed no text, or ended with a status
    other than "done" and "nothing found". -/
def listed? (reply : ToolReply) : Option (List Text) :=
  if reply.fails || !(reply.status == 0 || reply.status == 1) then none
  else (Encoding.utf8? reply.output).map outputLines

/-- Whether what a path leads to is as asked. If nothing is there it is not; but where this cannot
    be found out, asking fails. -/
def probe (t : FileTree) (is : FileTree → Bool) (p : Path) : Except Failure Bool :=
  match t.visit p with
  | .ok found => .ok (is found)
  | .error .tooLong => .error .longName
  | .error .denied => .error .denied
  | .error _ => .ok false

/-- Whether a path leads to a file. -/
def leadsToFile (t : FileTree) (p : Path) : Except Failure Bool :=
  probe t (· matches .file _ _) p

/-- Whether a path leads to a folder. -/
def leadsToFolder (t : FileTree) (p : Path) : Except Failure Bool :=
  probe t (· matches .folder _ _) p

/-- The file that the lister named: existing, below the root and not hidden. -/
def ofLine (t : FileTree) (root : Path) (line : Text) : Except Failure (Option Path) :=
  if line.contains '\x00' then .error .badName
  else
    let p := (WrittenPath.ofText line).resolve root
    if !p.isWithin root || isHiddenBelow root p then .ok none
    else (leadsToFile t p).map fun isFile => if isFile then some p else none

/-- The files that the lister named. -/
def ofListed (t : FileTree) (root : Path) (lines : List Text) : Except Failure (List Path) :=
  ((lines.filter (!·.isEmpty)).mapM (ofLine t root)).map fun found => found.filterMap id

/-- The places that `git` ignores below a root; none if it does not answer. -/
def ignored? (reply : ToolReply) (root : Path) : Option (List Path) :=
  if reply.fails || reply.status != 0 then none
  else
    some <| ((reply.output.toList.splitOn 0).map fun bytes =>
        (Encoding.utf8Lossy bytes).dropEndWhile (· == '/')).filter (!·.isEmpty)
      |>.map fun line => (WrittenPath.ofText line).resolve root

/-- Whether a place, or a folder between it and the root, is one of the ignored ones. -/
def isIgnored (ignored : List Path) (root p : Path) : Bool :=
  (List.range ((p.partsFrom? root).getD []).length).any fun n =>
    ignored.contains ⟨p.parts.take (root.parts.length + n + 1)⟩

/-- What files are tested by: the test for wanted ones and the test for unwanted ones. -/
abbrev Tests := Except GlobError (Text → Bool) × Except GlobError (Text → Bool)

/-- The tests of a filter. -/
def testsOf (limits : Limits) (filter : FileFilter) : Tests :=
  (Glob.test limits.braces filter.wanted, Glob.test limits.braces filter.unwanted)

/-- Whether a file seen from the root is wanted. The second test is used only on files that the
    first one takes in. -/
def isWanted (tests : Tests) (relative : Text) : Except GlobError Bool :=
  match tests.1 with
  | .error e => .error e
  | .ok wanted =>
    if wanted relative then tests.2.map fun unwanted => !unwanted relative else .ok false

/-- Whether a file that a walk meets is taken: not hidden, wanted, not ignored, and still there. -/
def takes (t : FileTree) (tests : Tests) (ignored : List Path) (root p : Path) :
    Except Failure Bool :=
  if isHidden (p.parts.getLast?.getD []) then .ok false
  else
    match isWanted tests (p.textFrom root) with
    | .error e => .error (.badGlob e)
    | .ok wanted => if wanted && !isIgnored ignored root p then leadsToFile t p else .ok false

/-- The files among those that a walk meets that are taken. -/
def takeAll (takes : Path → Except Failure Bool) : List (Option Path) → Except Failure (List Path)
  | [] => .ok []
  | none :: _ => .error .fullStack
  | some p :: rest =>
    match takes p, takeAll takes rest with
    | .error e, _ => .error e
    | .ok _, .error e => .error e
    | .ok true, .ok files => .ok (p :: files)
    | .ok false, .ok files => .ok files

/-- Whether a walk leaves out a folder: it is hidden, or among the ignored places. -/
def prunes (ignored : List Path) (p : Path) : Bool :=
  isHidden (p.parts.getLast?.getD []) || ignored.contains p

/-- The wanted files below a root, found by walking through the folders. -/
def walk (t : FileTree) (limits : Limits) (filter : FileFilter) (ignored : List Path)
    (root : Path) : Except Failure (List Path) :=
  takeAll (takes t (testsOf limits filter) ignored root)
    (t.seenBelow (prunes ignored) limits.folders root)

/-- The places to leave out, and the program that was asked. -/
def askIgnored (tools : Tools) (filter : FileFilter) (root : Path) : List Path × List Command :=
  match filter.skipIgnored, tools.ignorer with
  | true, some reply => ((ignored? reply root).getD [], [.listIgnored root])
  | _, _ => ([], [])

/-- Files without repetitions, by the folded text of their path from the root. Where paths have the
    same folding, nothing says which file comes first; here they stay as they were found. -/
def sorted (root : Path) (files : List Path) : List Path :=
  files.eraseDups.mergeSort fun a b => (foldCase (a.textFrom root)).le (foldCase (b.textFrom root))

/-- Collects by walking, after some programs were run. -/
def byWalking (t : FileTree) (limits : Limits) (tools : Tools) (filter : FileFilter) (root : Path)
    (before : List Command) : Collection :=
  let (ignored, asked) := askIgnored tools filter root
  { files := (walk t limits filter ignored root).map (sorted root)
    commands := before ++ asked }

/-- The wanted files below a root. -/
def collect (t : FileTree) (limits : Limits) (tools : Tools) (filter : FileFilter) (root : Path) :
    Collection :=
  if filter.wanted.isBlankText then {}
  else
    match leadsToFolder t root with
    | .error e => ⟨.error e, []⟩
    | .ok false => {}
    | .ok true =>
      match tools.lister with
      | none => byWalking t limits tools filter root []
      | some reply =>
        match listed? reply with
        | some lines => ⟨(ofListed t root lines).map (sorted root), [.listFiles filter]⟩
        | none => byWalking t limits tools filter root [.listFiles filter]

end Collection

end AsmAtlas
