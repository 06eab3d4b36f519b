import AsmAtlas.Text.Basic
import AsmAtlas.Text.Case

/-!
# Ranking names for a query

A name scores for a query if it has the characters of the query in their order, up to case.
Contiguous runs and the starts of segments count most, gaps and length count against it.
-/

namespace AsmAtlas
namespace Ranking

/-- What the parts of a match are worth. -/
structure Weights where
  /-- Every matched character. -/
  hit : Int := 16
  /-- Each character of a contiguous run more than the one before. -/
  streakStep : Nat := 15
  streakCap : Nat := 40
  /-- Every skipped character, taken off. -/
  gapStep : Nat := 3
  gapCap : Nat := 30
  /-- A match at the start of a segment. -/
  segmentStart : Int := 30
  /-- A match on a capital behind a small letter. -/
  camelHump : Int := 20
  /-- How many characters of a name take off one. -/
  lengthStep : Nat := 4

/-- The weights in use. -/
def weights : Weights := {}

/-- A character that ends a segment of a name. -/
def isSeparator (c : Char) : Bool :=
  c == '.' || c == '_' || c == '@' || c == ' '

/-- What a match on `c` behind `last` is worth for its place in the name. -/
def placeBonus (last : Option Char) (c : Char) : Int :=
  match last with
  | none => weights.segmentStart
  | some p =>
    if isSeparator p then weights.segmentStart
    else if isCapital c && isSmall p then weights.camelHump
    else 0

/-- The worth of the place of every character of a name. -/
def placeBonuses (last : Option Char) : Text → List Int
  | [] => []
  | c :: rest => placeBonus last c :: placeBonuses (some c) rest

/-- The worth of a match after `skipped` characters, where `streak` characters were matched in a
    row before it. -/
def linkValue (skipped streak : Nat) : Int :=
  if skipped == 0 then (min weights.streakCap ((streak + 1) * weights.streakStep) : Nat)
  else -(min weights.gapCap (skipped * weights.gapStep) : Nat)

/-- The worth of matching a folded query in the rest of a folded name, each character at its first
    place, or none if a character is missing. -/
def matchValue (bonuses : List Int) (column streak : Nat) (rest : Text) : Text → Option Int
  | [] => some 0
  | c :: query =>
    let skipped := (rest.takeWhile (· != c)).length
    match rest.drop skipped with
    | [] => none
    | _ :: after =>
      let hit := column + skipped
      let run := if skipped == 0 then streak + 1 else 0
      (matchValue bonuses (hit + 1) run after query).map fun value =>
        linkValue skipped streak + weights.hit + bonuses[hit]?.getD 0 + value

/-- The score of a name for a query; none if it does not have the characters of the query. -/
def score (query name : Text) : Option Int :=
  if query.isEmpty then some 0
  else
    (matchValue (placeBonuses none name) 0 0 (foldCase name) (foldCase query)).map fun value =>
      value - (name.length / weights.lengthStep : Nat)

/-- Whether a scored name stands before another, or is equal to it: higher scores first, then
    shorter names, then code point order. -/
def le (a b : Int × Text) : Bool :=
  b.1 < a.1 ||
    (a.1 == b.1 && (a.2.length < b.2.length || (a.2.length == b.2.length && a.2.le b.2)))

/-- The names that score, with their scores. -/
def scored (query : Text) (names : List Text) : List (Int × Text) :=
  names.filterMap fun name => (score query name).map (·, name)

/-- Names in the order of their scores, followed by those without a score as they came. -/
def rank (query : Text) (names : List Text) : List Text :=
  ((scored query names).mergeSort le).map (·.2) ++
    names.filter fun name => (score query name).isNone

end Ranking
end AsmAtlas
