import AsmAtlas.Pattern.Match
import Mathlib.Data.List.Basic

/-!
# The ways to match a pattern

`Pattern.run` hands one way to match after the other to a continuation. Here the ways are a list,
`Pattern.ends`, in order of preference, and running a pattern is looking for the first of them that
the continuation accepts. So a sequence is a `flatMap`, a choice an append and a match the head of a
list, and nothing about a pattern needs the matcher itself any more.
-/

namespace AsmAtlas
namespace Pattern

/-- Where a stretch of accepted characters from `here` on may end, the farthest place first. -/
def manyEnds (accepts : Char → Bool) (here : Cursor) : Text → List Cursor
  | [] => [here]
  | c :: rest =>
    if accepts c then manyEnds accepts (here.advance c rest) rest ++ [here] else [here]

/-- Where a stretch of accepted characters from `here` on may end, the nearest place first. -/
def fewEnds (accepts : Char → Bool) (here : Cursor) : Text → List Cursor
  | [] => [here]
  | c :: rest => here :: if accepts c then fewEnds accepts (here.advance c rest) rest else []

/-- Where the ways to match a pattern at `here` end, the preferred way first. -/
def ends : Pattern → Cursor → List Cursor
  | never, _ => []
  | empty, here => [here]
  | char accepts, here =>
    match here.rest with
    | [] => []
    | c :: rest => if accepts c then [here.advance c rest] else []
  | many accepts, here => manyEnds accepts here here.rest
  | few accepts, here => fewEnds accepts here here.rest
  | seq p q, here => (p.ends here).flatMap q.ends
  | alt p q, here => p.ends here ++ q.ends here
  | group g p, here => (p.ends here).map (·.note g here.column)
  | ahead p, here => if (p.ends here).isEmpty then [] else [here]
  | notAhead p, here => if (p.ends here).isEmpty then [here] else []
  | notBehind accepts, here => if here.last.any accepts then [] else [here]
  | wordEdge, here => if here.atWordEdge then [here] else []
  | lineStart, here => if here.column == 0 then [here] else []
  | lineEnd, here => if here.rest.isEmpty || here.rest == ['\n'] then [here] else []
  | textEnd, here => if here.rest.isEmpty then [here] else []

theorem runMany_eq_findSome (accepts : Char → Bool) (k : Cursor → Option Cursor) (here : Cursor)
    (rest : Text) : runMany accepts k here rest = (manyEnds accepts here rest).findSome? k := by
  induction rest generalizing here with
  | nil => simp [runMany, manyEnds]
  | cons c rest ih =>
    by_cases accepted : accepts c
    · simp only [runMany, manyEnds, accepted, if_true, ih, List.findSome?_append]
      cases (manyEnds accepts (here.advance c rest) rest).findSome? k <;> simp
    · simp [runMany, manyEnds, accepted]

theorem runFew_eq_findSome (accepts : Char → Bool) (k : Cursor → Option Cursor) (here : Cursor)
    (rest : Text) : runFew accepts k here rest = (fewEnds accepts here rest).findSome? k := by
  induction rest generalizing here with
  | nil => simp [runFew, fewEnds]
  | cons c rest ih =>
    simp only [runFew, fewEnds, List.findSome?_cons]
    cases k here with
    | some found => rfl
    | none => by_cases accepted : accepts c <;> simp [accepted, ih]

theorem findSome?_flatMap {α β γ : Type} (xs : List α) (f : α → List β) (k : β → Option γ) :
    (xs.flatMap f).findSome? k = xs.findSome? fun x => (f x).findSome? k := by
  induction xs with
  | nil => rfl
  | cons x xs ih =>
    rw [List.flatMap_cons, List.findSome?_append, List.findSome?_cons, ih]
    cases (f x).findSome? k <;> simp

theorem findSome?_some {α : Type} (xs : List α) : (xs.findSome? some).isSome = !xs.isEmpty := by
  cases xs <;> simp

/-- Running a pattern tries its ends one after the other. -/
theorem run_eq_findSome (p : Pattern) (here : Cursor) (k : Cursor → Option Cursor) :
    p.run here k = (p.ends here).findSome? k := by
  induction p generalizing here k with
  | never => rfl
  | empty => simp [run, ends]
  | char accepts =>
    cases rest : here.rest with
    | nil => simp [run, ends, rest]
    | cons c tail => by_cases accepted : accepts c <;> simp [run, ends, rest, accepted]
  | many accepts => rw [run, ends, runMany_eq_findSome]
  | few accepts => rw [run, ends, runFew_eq_findSome]
  | seq p q ihp ihq => simp only [run, ends, findSome?_flatMap, ihp, ihq]
  | alt p q ihp ihq =>
    simp only [run, ends, List.findSome?_append, ihp, ihq]
    cases (p.ends here).findSome? k <;> simp
  | group g p ih => simp only [run, ends, ih, List.findSome?_map, Function.comp_def]
  | ahead p ih =>
    simp only [run, ends, ih, findSome?_some]
    cases (p.ends here).isEmpty <;> simp
  | notAhead p ih =>
    simp only [run, ends, ih, findSome?_some]
    cases (p.ends here).isEmpty <;> simp
  | notBehind accepts => by_cases behind : here.last.any accepts <;> simp [run, ends, behind]
  | wordEdge => by_cases edge : here.atWordEdge <;> simp [run, ends, edge]
  | lineStart => by_cases start : here.column = 0 <;> simp [run, ends, start]
  | lineEnd =>
    cases stop : here.rest.isEmpty || here.rest == ['\n'] <;> simp [run, ends, stop]
  | textEnd => cases stop : here.rest.isEmpty <;> simp [run, ends, stop]

/-- The match from `here` to one of the ends. -/
def matchTo (here there : Cursor) : Match :=
  ⟨⟨here.column, there.column⟩, there.noted⟩

theorem matchWhere_eq (p : Pattern) (here : Cursor) (accepts : Cursor → Bool) :
    p.matchWhere here accepts = ((p.ends here).find? accepts).map (matchTo here) := by
  have first : ∀ ends : List Cursor,
      (ends.findSome? fun there => if accepts there then some there else none) =
        ends.find? accepts := by
    intro ends
    induction ends with
    | nil => rfl
    | cons there ends ih => by_cases accepted : accepts there <;> simp [accepted, ih]
  rw [matchWhere, run_eq_findSome, first]
  rfl

/-- A line is matched up to the preferred end. -/
theorem matchStart_eq (p : Pattern) (line : Text) :
    p.matchStart line = (p.ends (.start line)).head?.map (matchTo (.start line)) := by
  rw [matchStart, matchWhere_eq]
  cases p.ends (.start line) <;> simp

theorem ends_ne_nil_iff {p : Pattern} {here : Cursor} :
    p.ends here ≠ [] ↔ ∃ there, there ∈ p.ends here :=
  ⟨List.exists_mem_of_ne_nil _, fun ⟨_, member⟩ => List.ne_nil_of_mem member⟩

/-- A line is accepted if there is any way to match the pattern. -/
theorem accepts_iff {p : Pattern} {line : Text} :
    p.accepts line ↔ ∃ there, there ∈ p.ends (.start line) := by
  rw [accepts, matchStart_eq, Option.isSome_map, List.isSome_head?, ← ends_ne_nil_iff]

end Pattern
end AsmAtlas
