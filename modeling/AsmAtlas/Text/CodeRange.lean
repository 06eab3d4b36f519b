/-!
# Ranges of code points

Character properties are kept as sorted lists of code point ranges. A range is a pair of its
first and last member; a run also leaves out code points between its members, which suits scripts
whose capital and small letters alternate.
-/

namespace AsmAtlas

/-- Whether `n` lies in one of the ranges of a list sorted by code point. -/
def inRanges : List (Nat × Nat) → Nat → Bool
  | [], _ => false
  | (first, last) :: rest, n =>
    if n < first then false else if n ≤ last then true else inRanges rest n

/-- Every `step`-th code point from `first` to `last`. -/
structure CodeRun where
  first : Nat
  last : Nat
  step : Nat

/-- Whether `n` is a member of the run. -/
def CodeRun.contains (r : CodeRun) (n : Nat) : Bool :=
  r.first ≤ n && n ≤ r.last && (n - r.first) % r.step == 0

end AsmAtlas
