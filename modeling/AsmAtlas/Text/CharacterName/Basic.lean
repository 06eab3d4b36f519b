import AsmAtlas.Text.Basic

/-!
# Character names in short

Neighbouring characters have similar names, so a name is kept as the number of words that it shares
with the name before it and the words behind them. A run holds the names of consecutive code
points (Unicode character database, version 14).
-/

namespace AsmAtlas

/-- The names of consecutive code points: the first of them, and rows of names. In a row every name
    starts with a small letter, `a` if no word of the name before is kept, `b` if its first word
    is, and so on; the rest is in capitals. -/
abbrev NameRun := Nat × List String

namespace CharacterName

/-- The first words of a name, each with the space behind it. -/
def keepWords : Nat → Text → Text
  | 0, _ => []
  | count + 1, t =>
    t.takeWhile (· != ' ') ++ ' ' :: keepWords count ((t.dropWhile (· != ' ')).drop 1)

/-- Takes in one character of a row. The names read so far are given backwards, the latest first. -/
def readChar (names : List Text) (c : Char) : List Text :=
  if c.isLower then
    (keepWords (c.toNat - 'a'.toNat) (names.headD []).reverse).reverse :: names
  else
    match names with
    | [] => [[c]]
    | name :: others => (c :: name) :: others

/-- The names of a run, in order. -/
def namesOf (run : NameRun) : List Text :=
  ((run.2.flatMap String.toList).foldl readChar []).reverse.map List.reverse

/-- The code point of a name in a list of runs. -/
def findIn (runs : List NameRun) (name : Text) : Option Nat :=
  runs.findSome? fun run => ((namesOf run).idxOf? name).map (run.1 + ·)

end CharacterName
end AsmAtlas
