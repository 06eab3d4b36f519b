import AsmAtlas.Grammar.Keyword

/-!
# Paths

A `Path` is a place in the file system, given by the names that lead to it from the top. A
`WrittenPath` is a path as somebody wrote it, relative or not, possibly with `..` in it;
`WrittenPath.resolve` says which place it means.
-/

namespace AsmAtlas

/-- A place in the file system. -/
structure Path where
  parts : List Text
deriving DecidableEq

namespace Path

/-- The entry `name` of a folder. -/
def child (p : Path) (name : Text) : Path :=
  ⟨p.parts ++ [name]⟩

/-- The folder that a place is in; the top is in itself. -/
def parent (p : Path) : Path :=
  ⟨p.parts.dropLast⟩

/-- Whether `p` is `root` or lies below it. -/
def isWithin (p root : Path) : Bool :=
  root.parts.isPrefixOf p.parts

/-- The names that lead from `root` to `p`, if `p` is `root` or lies below it. -/
def partsFrom? (p root : Path) : Option (List Text) :=
  if p.isWithin root then some (p.parts.drop root.parts.length) else none

/-- Names with slashes between them; none at all is the place itself. -/
def relativeText (parts : List Text) : Text :=
  if parts.isEmpty then ['.'] else Text.joinWith ['/'] parts

/-- The text of a place from the top. -/
def absoluteText (p : Path) : Text :=
  '/' :: Text.joinWith ['/'] p.parts

/-- The text of a place seen from `root`, from the top if it lies elsewhere. -/
def textFrom (p root : Path) : Text :=
  match p.partsFrom? root with
  | some parts => relativeText parts
  | none => p.absoluteText

/-- Whether the first chain of names comes before the second, or is equal to it, name by name. -/
def partsLe : List Text → List Text → Bool
  | [], _ => true
  | _ :: _, [] => false
  | a :: as, b :: bs => if a == b then partsLe as bs else a.le b

/-- Whether `a` comes before `b`, or is equal to it, name by name. -/
def le (a b : Path) : Bool :=
  partsLe a.parts b.parts

/-- The part of a file name from its last dot on, unless the dot is its first or last character. -/
def suffixOf (name : Text) : Text :=
  let tail := name.lastPart '.'
  if tail.isEmpty || name.length ≤ tail.length + 1 then [] else '.' :: tail

end Path

namespace Dialect

/-- The suffixes of listings. -/
def listingSuffixes : List Text :=
  [".list", ".lis", ".lst"].map String.toList

/-- The dialect of a file with this name; unknown suffixes are source. -/
def ofName (name : Text) : Dialect :=
  if listingSuffixes.contains (Path.suffixOf name).toAsciiLower then .listing else .source

end Dialect

/-- The dialect of the file at a place. -/
def Path.dialect (p : Path) : Dialect :=
  Dialect.ofName (p.parts.getLast?.getD [])

/-- A path as written: what it starts from, and its names without `.` and empty ones. -/
structure WrittenPath where
  /-- The slashes in front: none for a relative path, else one, or two if exactly two stand
      there. -/
  slashes : Nat
  parts : List Text
deriving DecidableEq

namespace WrittenPath

/-- Reads a path. -/
def ofText (t : Text) : WrittenPath :=
  let leading := (t.takeWhile (· == '/')).length
  ⟨if leading == 2 then 2 else min leading 1,
    (t.splitOn '/').filter fun part => !part.isEmpty && part != ['.']⟩

/-- The text of a path, which names the present folder if nothing is in it. -/
def text (w : WrittenPath) : Text :=
  if w.slashes == 0 && w.parts.isEmpty then ['.']
  else List.replicate w.slashes '/' ++ Text.joinWith ['/'] w.parts

/-- The names to walk through, starting at the top, when the present folder is `here`. -/
def walk (here : Path) (w : WrittenPath) : List Text :=
  if w.slashes == 0 then here.parts ++ w.parts else w.parts

/-- Goes to a name; `..` goes back to the folder above. -/
def follow (p : Path) (part : Text) : Path :=
  if part == ['.', '.'] then p.parent else p.child part

/-- The place that a path means when the present folder is `here`. -/
def resolve (here : Path) (w : WrittenPath) : Path :=
  (w.walk here).foldl follow ⟨[]⟩

end WrittenPath

end AsmAtlas
