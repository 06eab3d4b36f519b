import AsmAtlas.Pattern.Basic

/-!
# Matching

`Pattern.run` walks a pattern from a cursor and hands every way to match it, in order of
preference, to a continuation until one is accepted. On top of it stand `matchStart`, which matches
at the beginning of a line, and `findAll`, which collects the matches of a line from left to right.
-/

namespace AsmAtlas

/-- A place in a line, with the groups noted on the way to it. -/
structure Cursor where
  /-- The character before the place. -/
  last : Option Char
  /-- The column of the place. -/
  column : Nat
  /-- The rest of the line. -/
  rest : Text
  /-- What was noted, the latest first. -/
  noted : List (Group × Span)

namespace Cursor

/-- The beginning of a line. -/
def start (line : Text) : Cursor :=
  ⟨none, 0, line, []⟩

/-- The place after the character `c`, when `rest` follows it. -/
def advance (here : Cursor) (c : Char) (rest : Text) : Cursor :=
  { here with last := some c, column := here.column + 1, rest := rest }

/-- Notes a group that ends here. -/
def note (here : Cursor) (g : Group) (start : Nat) : Cursor :=
  { here with noted := (g, ⟨start, here.column⟩) :: here.noted }

/-- Whether exactly one of the two neighbours is a word character. -/
def atWordEdge (here : Cursor) : Bool :=
  here.last.any isWordChar != here.rest.head?.any isWordChar

end Cursor

namespace Pattern

/-- Accepted characters from `here` on, the longest stretch first; `rest` is what is left there. -/
def runMany (accepts : Char → Bool) (k : Cursor → Option Cursor) (here : Cursor) :
    Text → Option Cursor
  | [] => k here
  | c :: rest =>
    if accepts c then
      match runMany accepts k (here.advance c rest) rest with
      | some found => some found
      | none => k here
    else k here

/-- Accepted characters from `here` on, the shortest stretch first. -/
def runFew (accepts : Char → Bool) (k : Cursor → Option Cursor) (here : Cursor) :
    Text → Option Cursor
  | [] => k here
  | c :: rest =>
    match k here with
    | some found => some found
    | none => if accepts c then runFew accepts k (here.advance c rest) rest else none

/-- The first way to match the pattern at a cursor that the continuation accepts. -/
def run : Pattern → Cursor → (Cursor → Option Cursor) → Option Cursor
  | never, _, _ => none
  | empty, here, k => k here
  | char accepts, here, k =>
    match here.rest with
    | [] => none
    | c :: rest => if accepts c then k (here.advance c rest) else none
  | many accepts, here, k => runMany accepts k here here.rest
  | few accepts, here, k => runFew accepts k here here.rest
  | seq p q, here, k => p.run here fun there => q.run there k
  | alt p q, here, k =>
    match p.run here k with
    | some found => some found
    | none => q.run here k
  | group g p, here, k => p.run here fun there => k (there.note g here.column)
  | ahead p, here, k => if (p.run here some).isSome then k here else none
  | notAhead p, here, k => if (p.run here some).isSome then none else k here
  | notBehind accepts, here, k => if here.last.any accepts then none else k here
  | wordEdge, here, k => if here.atWordEdge then k here else none
  | lineStart, here, k => if here.column == 0 then k here else none
  | lineEnd, here, k => if here.rest.isEmpty || here.rest == ['\n'] then k here else none
  | textEnd, here, k => if here.rest.isEmpty then k here else none

end Pattern

/-- A match of a pattern in a line. -/
structure Match where
  span : Span
  noted : List (Group × Span)

namespace Match

/-- Where a group was matched, if it took part in the match. -/
def group? (m : Match) (g : Group) : Option Span :=
  m.noted.lookup g

end Match

/-- The characters of a line in a stretch of columns. -/
def Span.of (s : Span) (line : Text) : Text :=
  line.slice s.start s.stop

namespace Pattern

/-- The match at a cursor that the given test of its end accepts. -/
def matchWhere (p : Pattern) (here : Cursor) (accepts : Cursor → Bool) : Option Match :=
  (p.run here fun there => if accepts there then some there else none).map fun there =>
    ⟨⟨here.column, there.column⟩, there.noted⟩

/-- The match at the beginning of a line. -/
def matchStart (p : Pattern) (line : Text) : Option Match :=
  p.matchWhere (.start line) fun _ => true

/-- Whether the pattern matches at the beginning of a line. -/
def accepts (p : Pattern) (line : Text) : Bool :=
  (p.matchStart line).isSome

/-- The matches that start at one cursor: an empty match may be followed by one that is not. -/
def matchesAt (p : Pattern) (here : Cursor) : List Match :=
  match p.matchWhere here fun _ => true with
  | none => []
  | some m =>
    if m.span.stop == m.span.start then
      m :: (p.matchWhere here fun there => there.column != here.column).toList
    else [m]

/-- The matches that start at `here`, unless the match before, which ends at `resume`, reaches
    beyond it. -/
def matchesFrom (p : Pattern) (resume : Nat) (here : Cursor) : List Match :=
  if here.column < resume then [] else p.matchesAt here

/-- The matches from `here` on, where the last argument is what is left of the line. -/
def findFrom (p : Pattern) (resume : Nat) (here : Cursor) : Text → List Match
  | [] => p.matchesFrom resume here
  | c :: rest =>
    let found := p.matchesFrom resume here
    found ++ p.findFrom ((found.getLast?.map (·.span.stop)).getD resume) (here.advance c rest) rest

/-- All matches in a line from left to right; no two of them overlap. -/
def findAll (p : Pattern) (line : Text) : List Match :=
  p.findFrom 0 (.start line) line

end Pattern

end AsmAtlas
