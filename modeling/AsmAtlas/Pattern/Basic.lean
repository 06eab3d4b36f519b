import AsmAtlas.Text.Basic
import AsmAtlas.Text.Case
import AsmAtlas.Text.Letter

/-!
# Line patterns

The grammar of labels and directives is written as patterns over one line. A pattern is tried by
ordered choice with backtracking: alternatives from left to right, repetitions from the longest or
from the shortest, and the first way that lets everything after it succeed wins. Repetition is of
one character class only, so the matcher is structurally recursive.
-/

namespace AsmAtlas

/-- The parts of a line that patterns take note of. -/
inductive Group where
  /-- The text in front of a searched word. -/
  | before
  /-- The keyword or the marker inside that text. -/
  | inner
  /-- The searched word itself. -/
  | word
  /-- The indentation, or the generated columns, in front of a label. -/
  | margin
  | label
  | colon
  | keyword
  | directive
  | name
  | value
deriving DecidableEq

/-- A stretch of columns, `stop` not included. -/
structure Span where
  start : Nat
  stop : Nat
deriving DecidableEq

/-- A pattern over one line. -/
inductive Pattern where
  /-- Matches nowhere. -/
  | never
  /-- Matches without consuming anything. -/
  | empty
  /-- One accepted character. -/
  | char (accepts : Char → Bool)
  /-- Accepted characters, as many as possible first. -/
  | many (accepts : Char → Bool)
  /-- Accepted characters, as few as possible first. -/
  | few (accepts : Char → Bool)
  | seq (first second : Pattern)
  /-- The first alternative, and if nothing after it succeeds the second. -/
  | alt (first second : Pattern)
  /-- Notes what the pattern consumed. -/
  | group (g : Group) (body : Pattern)
  /-- The pattern matches here, and nothing is consumed. -/
  | ahead (body : Pattern)
  /-- The pattern does not match here. -/
  | notAhead (body : Pattern)
  /-- The character before, if there is one, is not accepted. -/
  | notBehind (accepts : Char → Bool)
  /-- A word character on exactly one side. -/
  | wordEdge
  /-- The beginning of the line. -/
  | lineStart
  /-- The end of the text, or right before a line feed that ends it. -/
  | lineEnd
  /-- The very end of the text. -/
  | textEnd

namespace Pattern

/-- The patterns one after the other. -/
def all : List Pattern → Pattern
  | [] => empty
  | [p] => p
  | p :: rest => seq p (all rest)

/-- The first of the patterns that works out. -/
def any : List Pattern → Pattern
  | [] => never
  | [p] => p
  | p :: rest => alt p (any rest)

/-- The pattern if possible, else nothing. -/
def optional (p : Pattern) : Pattern :=
  alt p empty

/-- At least one accepted character, as many as possible first. -/
def many1 (accepts : Char → Bool) : Pattern :=
  seq (char accepts) (many accepts)

/-- Exactly this character. -/
def exactly (c : Char) : Pattern :=
  char (· == c)

/-- A character up to its case. -/
def letter (c : Char) : Pattern :=
  char (sameLetter c)

/-- A text up to the case of its characters. -/
def spelled (t : Text) : Pattern :=
  t.foldr (fun c rest => seq (letter c) rest) empty

/-- Inserts a word before the first shorter one. -/
def insertByLength (word : Text) : List Text → List Text
  | [] => [word]
  | other :: rest =>
    if other.length < word.length then word :: other :: rest
    else other :: insertByLength word rest

/-- Words sorted from the longest to the shortest, words of one length in their given order. -/
def longestFirst (words : List Text) : List Text :=
  words.foldl (fun sorted word => insertByLength word sorted) []

/-- One of the words up to case, longer words tried first. -/
def oneOf (words : List Text) : Pattern :=
  any ((longestFirst words).map spelled)

/-- The groups of a pattern in the order in which they open. -/
def groups : Pattern → List Group
  | seq p q => p.groups ++ q.groups
  | alt p q => p.groups ++ q.groups
  | group g p => g :: p.groups
  | ahead p => p.groups
  | notAhead p => p.groups
  | _ => []

end Pattern

end AsmAtlas
