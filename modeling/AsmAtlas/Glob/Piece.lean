import AsmAtlas.Pattern.Escape
import AsmAtlas.Text.CodePoint

/-!
# The pieces of a glob

A glob is read from left to right into pieces. Braces nest; a brace or bracket without its partner
stands for itself. `expression` writes the pieces in the notation of regular expressions, which is
what gives the body of a bracket its meaning.
-/

namespace AsmAtlas

/-- A piece of a glob. -/
inductive GlobPiece where
  /-- `**/`: any folders, or none. -/
  | folders
  /-- `**`: anything. -/
  | anything
  /-- `*`: anything within one name. -/
  | stretch
  /-- `?`: one character of a name. -/
  | single
  /-- `[body]`: one character of a set. -/
  | set (body : LooseText)
  /-- `{a,b}`: one of several globs. -/
  | choice (alternatives : List (List GlobPiece))
  | literal (c : CodePoint)

namespace GlobPiece

/-- How many braces are open after a character. -/
def depthAfter (depth : Nat) (c : CodePoint) : Nat :=
  if c == .char '\x7b' then depth + 1 else if c == .char '\x7d' then depth - 1 else depth

/-- The text up to the closing brace that belongs to an opening one before it, and the text
    behind. `depth` counts the braces opened since. -/
def splitBrace (depth : Nat) : LooseText → Option (LooseText × LooseText)
  | [] => none
  | c :: rest =>
    if c == .char '\x7d' && depth == 0 then some ([], rest)
    else (splitBrace (depthAfter depth c) rest).map fun (body, after) => (c :: body, after)

/-- The parts between the commas that stand in no inner braces. -/
def splitCommas (depth : Nat) : LooseText → List LooseText
  | [] => [[]]
  | c :: rest =>
    if c == .char ',' && depth == 0 then [] :: splitCommas 0 rest
    else
      match splitCommas (depthAfter depth c) rest with
      | [] => [[c]]
      | part :: parts => (c :: part) :: parts

/-- The text up to the next closing bracket, and the text behind it. -/
def splitBracket (t : LooseText) : Option (LooseText × LooseText) :=
  match t.dropWhile (· != .char ']') with
  | [] => none
  | _ :: after => some (t.takeWhile (· != .char ']'), after)

theorem length_of_splitBrace {depth : Nat} {t body after : LooseText}
    (h : splitBrace depth t = some (body, after)) : body.length + after.length < t.length := by
  induction t generalizing depth body with
  | nil => simp [splitBrace] at h
  | cons c rest ih =>
    rw [splitBrace] at h
    split at h
    · simp only [Option.some.injEq, Prod.mk.injEq] at h
      obtain ⟨rfl, rfl⟩ := h
      simp
    · obtain ⟨⟨b, a⟩, found, same⟩ := Option.map_eq_some_iff.1 h
      simp only [Prod.mk.injEq] at same
      obtain ⟨rfl, rfl⟩ := same
      have := ih found
      simp only [List.length_cons]
      omega

theorem length_of_mem_splitCommas {depth : Nat} {t part : LooseText}
    (h : part ∈ splitCommas depth t) : part.length ≤ t.length := by
  induction t generalizing depth part with
  | nil => simp_all [splitCommas]
  | cons c rest ih =>
    rw [splitCommas] at h
    split at h
    · rcases List.mem_cons.1 h with rfl | inside
      · simp
      · exact Nat.le_succ_of_le (ih inside)
    · split at h
      · simp_all
      · next first others found =>
        rcases List.mem_cons.1 h with rfl | inside
        · simpa using ih (found ▸ List.mem_cons_self)
        · exact Nat.le_succ_of_le (ih (found ▸ List.mem_cons_of_mem _ inside))

theorem length_of_splitBracket {t body after : LooseText}
    (h : splitBracket t = some (body, after)) : after.length < t.length := by
  have bound : (t.dropWhile (· != .char ']')).length ≤ t.length :=
    (List.dropWhile_sublist _).length_le
  rw [splitBracket] at h
  split at h
  · simp at h
  · next c rest found =>
    simp only [Option.some.injEq, Prod.mk.injEq] at h
    rw [found] at bound
    simp only [List.length_cons] at bound
    rw [← h.2]
    omega

/-- The pieces of a glob. -/
def ofText (t : LooseText) : List GlobPiece :=
  match t with
  | [] => []
  | .char '*' :: .char '*' :: .char '/' :: rest => folders :: ofText rest
  | .char '*' :: .char '*' :: rest => anything :: ofText rest
  | .char '*' :: rest => stretch :: ofText rest
  | .char '?' :: rest => single :: ofText rest
  | .char '[' :: rest =>
    match _found : splitBracket rest with
    | none => literal (.char '[') :: ofText rest
    | some (body, after) => set body :: ofText after
  | .char '\x7b' :: rest =>
    match _found : splitBrace 0 rest with
    | none => literal (.char '\x7b') :: ofText rest
    | some (body, after) =>
      choice ((splitCommas 0 body).attach.map fun ⟨part, _inside⟩ => ofText part) :: ofText after
  | c :: rest => literal c :: ofText rest
termination_by t.length
decreasing_by
  all_goals simp only [List.length_cons]
  · omega
  · omega
  · omega
  · omega
  · omega
  · have := length_of_splitBracket _found
    omega
  · omega
  · have := length_of_splitBrace _found
    have := length_of_mem_splitCommas _inside
    omega
  · have := length_of_splitBrace _found
    omega
  · omega

/-- The body of a set; an exclamation mark in front negates it. -/
def setBody : LooseText → LooseText
  | .char '!' :: rest => .char '^' :: rest
  | body => body

mutual

/-- A piece in the notation of regular expressions. -/
def expression : GlobPiece → LooseText
  | folders => .ofText "(?:.*/)?".toList
  | anything => .ofText ".*".toList
  | stretch => .ofText "[^/]*".toList
  | single => .ofText "[^/]".toList
  | set body => .char '[' :: setBody body ++ [.char ']']
  | choice alternatives => .ofText "(?:".toList ++ choiceExpression alternatives ++ [.char ')']
  | literal (.char c) => .ofText (escapeChar c)
  | literal (.half code) => [.half code]

/-- Pieces one after the other. -/
def seqExpression : List GlobPiece → LooseText
  | [] => []
  | piece :: rest => piece.expression ++ seqExpression rest

/-- Alternatives with bars between them. -/
def choiceExpression : List (List GlobPiece) → LooseText
  | [] => []
  | [pieces] => seqExpression pieces
  | pieces :: rest => seqExpression pieces ++ .char '|' :: choiceExpression rest

end

mutual

/-- How deep braces are nested in a piece. -/
def depth : GlobPiece → Nat
  | choice alternatives => choiceDepth alternatives + 1
  | _ => 0

/-- How deep braces are nested in pieces. -/
def seqDepth : List GlobPiece → Nat
  | [] => 0
  | piece :: rest => max piece.depth (seqDepth rest)

/-- How deep braces are nested in alternatives. -/
def choiceDepth : List (List GlobPiece) → Nat
  | [] => 0
  | pieces :: rest => max (seqDepth pieces) (choiceDepth rest)

end

end GlobPiece

end AsmAtlas
