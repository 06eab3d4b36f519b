import AsmAtlas.Glob.Expression
import AsmAtlas.Glob.Piece

/-!
# Globs

Which files a workspace takes in is said by globs over paths with slashes: `**` crosses folders,
`{a,b}` gives alternatives, and a glob without a slash matches the file name in any folder.
-/

namespace AsmAtlas
namespace Glob

/-- A glob without blanks around it and slashes in front; one without a slash is meant for any
    folder. -/
def normalize (glob : LooseText) : LooseText :=
  let g := glob.trim.dropWhile (· == .char '/')
  if g.contains (.char '/') then g else .ofText "**/".toList ++ g

/-- A glob in the notation of regular expressions; it has to match up to the end. -/
def expression (glob : LooseText) : LooseText :=
  GlobPiece.seqExpression (GlobPiece.ofText (normalize glob)) ++ [.char '\\', .char 'Z']

/-- The pattern of a glob whose braces may be nested so deep. -/
def pattern (deepest : Nat) (glob : LooseText) : Except GlobError Pattern :=
  if deepest < GlobPiece.seqDepth (GlobPiece.ofText (normalize glob)) then .error .tooDeep
  else Expression.read (expression glob)

/-- The test that a glob puts paths to. A blank glob lets no path through. -/
def test (deepest : Nat) (glob : LooseText) : Except GlobError (Text → Bool) :=
  if glob.isBlankText then .ok fun _ => false
  else (pattern deepest glob).map fun p => p.accepts

/-- Whether a path matches a glob. -/
def isMatch (deepest : Nat) (glob : LooseText) (path : Text) : Except GlobError Bool :=
  (test deepest glob).map fun accepts => accepts path

end Glob
end AsmAtlas
