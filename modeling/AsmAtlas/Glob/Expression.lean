import AsmAtlas.Glob.CharSet
import AsmAtlas.Grammar.Label

/-!
# Expressions

Reads as much of the notation of regular expressions as globs are written in: characters and sets,
the dot, groups with alternatives, optional groups, repeated characters and the end of the text.
-/

namespace AsmAtlas

/-- A symbol of an expression. -/
inductive ExprToken where
  | groupOpen
  | groupClose
  | bar
  | star
  | mark
  | one (accepts : Char → Bool)
  | finish

namespace ExprToken

/-- The first symbol of a text and what follows it. -/
def next : LooseText → Except GlobError (Option (ExprToken × LooseText))
  | [] => .ok none
  | .char '(' :: .char '?' :: .char ':' :: rest => .ok (some (groupOpen, rest))
  | .char ')' :: rest => .ok (some (groupClose, rest))
  | .char '|' :: rest => .ok (some (bar, rest))
  | .char '*' :: rest => .ok (some (star, rest))
  | .char '?' :: rest => .ok (some (mark, rest))
  | .char '.' :: rest => .ok (some (one isInLine, rest))
  | .char '[' :: rest =>
    match CharSet.read rest with
    | .error e => .error e
    | .ok (accepts, after) => .ok (some (one accepts, after))
  | .char '\\' :: .char 'Z' :: rest => .ok (some (finish, rest))
  | .char '\\' :: p :: rest => .ok (some (one (.char · == p), rest))
  | p :: rest => .ok (some (one (.char · == p), rest))

theorem length_of_next {t rest : LooseText} {token : ExprToken}
    (h : next t = .ok (some (token, rest))) : rest.length < t.length := by
  unfold next at h
  split at h
  case h_1 => simp at h
  case h_8 =>
    split at h
    · simp at h
    · next found =>
      have := CharSet.length_of_read found
      simp only [Except.ok.injEq, Option.some.injEq, Prod.mk.injEq] at h
      simp only [List.length_cons]
      rw [← h.2]
      omega
  all_goals
    simp only [Except.ok.injEq, Option.some.injEq, Prod.mk.injEq] at h
    simp only [List.length_cons]
    rw [← h.2]
    omega

/-- The symbols of a text. -/
def ofText (t : LooseText) : Except GlobError (List ExprToken) :=
  match _found : next t with
  | .error e => .error e
  | .ok none => .ok []
  | .ok (some (token, rest)) => (ofText rest).map (token :: ·)
termination_by t.length
decreasing_by exact length_of_next _found

end ExprToken

/-- A group that is being read: its finished alternatives and the pieces of the present one, both
    with the latest first. -/
structure ExprLevel where
  done : List Pattern := []
  current : List Pattern := []

namespace ExprLevel

/-- Adds a piece to the present alternative. -/
def add (level : ExprLevel) (p : Pattern) : ExprLevel :=
  { level with current := p :: level.current }

/-- Goes on to the next alternative. -/
def split (level : ExprLevel) : ExprLevel :=
  ⟨Pattern.all level.current.reverse :: level.done, []⟩

/-- The pattern of the whole group. -/
def pattern (level : ExprLevel) : Pattern :=
  Pattern.any (Pattern.all level.current.reverse :: level.done).reverse

end ExprLevel

namespace Expression

/-- Takes in a symbol, where `outer` are the groups around the present one, the innermost first. -/
def step (level : ExprLevel) (outer : List ExprLevel) :
    ExprToken → Except GlobError (ExprLevel × List ExprLevel)
  | .groupOpen => .ok ({}, level :: outer)
  | .groupClose =>
    match outer with
    | [] => .error .badGroup
    | around :: outer => .ok (around.add level.pattern, outer)
  | .bar => .ok (level.split, outer)
  | .star =>
    match level.current with
    | .char accepts :: rest => .ok ({ level with current := .many accepts :: rest }, outer)
    | _ => .error .badGroup
  | .mark =>
    match level.current with
    | p :: rest => .ok ({ level with current := p.optional :: rest }, outer)
    | [] => .error .badGroup
  | .one accepts => .ok (level.add (.char accepts), outer)
  | .finish => .ok (level.add .textEnd, outer)

/-- The pattern of a list of symbols, where `outer` are the groups around the present one. -/
def build (level : ExprLevel) (outer : List ExprLevel) :
    List ExprToken → Except GlobError Pattern
  | [] => if outer.isEmpty then .ok level.pattern else .error .badGroup
  | token :: rest =>
    match step level outer token with
    | .error e => .error e
    | .ok (level, outer) => build level outer rest

/-- Reads an expression. -/
def read (t : LooseText) : Except GlobError Pattern :=
  match ExprToken.ofText t with
  | .error e => .error e
  | .ok tokens => build {} [] tokens

end Expression

end AsmAtlas
