import AsmAtlas.Glob.Basic
import Mathlib.Data.List.Basic

/-!
# Globs without sets

A glob is written in the notation of regular expressions and that is read again. Only the body of a
bracket can make the notation wrong: every other piece is read as one pattern, whatever stands
around it. So a glob without brackets has a pattern, which is put together from the patterns of its
pieces.
-/

namespace AsmAtlas

namespace GlobPiece

mutual

/-- The pattern of a piece. What a set stands for depends on its body, and is not said here. -/
def pattern : GlobPiece → Pattern
  | folders => (Pattern.all [.many isInLine, .char (.char · == CodePoint.char '/')]).optional
  | anything => .many isInLine
  | stretch => .many (· != '/')
  | single => .char (· != '/')
  | set _ => .never
  | choice alternatives => .any (choicePatterns alternatives)
  | literal p => .char (.char · == p)

/-- The patterns of pieces. -/
def seqPatterns : List GlobPiece → List Pattern
  | [] => []
  | piece :: rest => piece.pattern :: seqPatterns rest

/-- The patterns of alternatives. -/
def choicePatterns : List (List GlobPiece) → List Pattern
  | [] => []
  | pieces :: rest => .all (seqPatterns pieces) :: choicePatterns rest

end

/-- Pieces without sets. A choice has at least one alternative. -/
inductive IsPlain : GlobPiece → Prop
  | folders : IsPlain folders
  | anything : IsPlain anything
  | stretch : IsPlain stretch
  | single : IsPlain single
  | choice {alternatives : List (List GlobPiece)} (nonempty : alternatives ≠ [])
      (plain : ∀ pieces ∈ alternatives, ∀ piece ∈ pieces, IsPlain piece) :
      IsPlain (choice alternatives)
  | literal (p : CodePoint) : IsPlain (literal p)

theorem splitCommas_ne_nil (depth : Nat) (t : LooseText) : splitCommas depth t ≠ [] := by
  cases t with
  | nil => simp [splitCommas]
  | cons c rest =>
    rw [splitCommas]
    split_ifs
    · simp
    · split <;> simp

theorem subset_of_mem_splitCommas {depth : Nat} {t part : LooseText}
    (member : part ∈ splitCommas depth t) : part ⊆ t := by
  induction t generalizing depth part with
  | nil => simp_all [splitCommas]
  | cons c rest ih =>
    rw [splitCommas] at member
    split_ifs at member
    · rcases List.mem_cons.1 member with rfl | later
      · exact List.nil_subset _
      · exact List.subset_cons_of_subset c (ih later)
    · split at member
      · rw [List.mem_singleton.1 member]
        exact List.cons_subset_cons c (List.nil_subset rest)
      · next first others found =>
        rcases List.mem_cons.1 member with rfl | later
        · exact List.cons_subset_cons c (ih (found ▸ List.mem_cons_self))
        · exact List.subset_cons_of_subset c (ih (found ▸ List.mem_cons_of_mem _ later))

theorem subset_of_splitBrace {depth : Nat} {t body after : LooseText}
    (split : splitBrace depth t = some (body, after)) : body ⊆ t ∧ after ⊆ t := by
  induction t generalizing depth body with
  | nil => simp [splitBrace] at split
  | cons c rest ih =>
    rw [splitBrace] at split
    split_ifs at split
    · obtain ⟨rfl, rfl⟩ := Prod.mk.inj (Option.some.inj split)
      exact ⟨List.nil_subset _, List.subset_cons_self c rest⟩
    · obtain ⟨⟨inner, behind⟩, found, same⟩ := Option.map_eq_some_iff.1 split
      obtain ⟨rfl, rfl⟩ := Prod.mk.inj same
      obtain ⟨inBody, inAfter⟩ := ih found
      exact ⟨List.cons_subset_cons c inBody, List.subset_cons_of_subset c inAfter⟩

/-- A text without opening brackets has no sets. -/
theorem isPlain_of_mem_ofText {t : LooseText} (plain : CodePoint.char '[' ∉ t) :
    ∀ piece ∈ ofText t, piece.IsPlain := by
  have behind : ∀ {c : CodePoint} {rest : LooseText}, CodePoint.char '[' ∉ c :: rest →
      CodePoint.char '[' ∉ rest := fun noBracket later => noBracket (List.mem_cons_of_mem _ later)
  induction t using ofText.induct with
  | case1 => simp [ofText]
  | case2 rest ih =>
    rw [ofText]
    exact List.forall_mem_cons.2 ⟨.folders, ih (behind (behind (behind plain)))⟩
  | case3 rest noSlash ih =>
    rw [ofText]
    · exact List.forall_mem_cons.2 ⟨.anything, ih (behind (behind plain))⟩
    · exact noSlash
  | case4 rest noFolders noStar ih =>
    rw [ofText]
    · exact List.forall_mem_cons.2 ⟨.stretch, ih (behind plain)⟩
    · exact noFolders
    · exact noStar
  | case5 rest ih =>
    rw [ofText]
    exact List.forall_mem_cons.2 ⟨.single, ih (behind plain)⟩
  | case6 => exact absurd List.mem_cons_self plain
  | case7 => exact absurd List.mem_cons_self plain
  | case8 rest unclosed ih =>
    rw [ofText]
    split
    · exact List.forall_mem_cons.2 ⟨.literal _, ih (behind plain)⟩
    · next found => simp [unclosed] at found
  | case9 rest body after closed ihParts ihAfter =>
    obtain ⟨inBody, inAfter⟩ := subset_of_splitBrace closed
    have noBracket := behind plain
    rw [ofText]
    split
    · next found => simp [closed] at found
    · next body' after' found =>
      obtain ⟨rfl, rfl⟩ := Prod.mk.inj (Option.some.inj (closed.symm.trans found))
      refine List.forall_mem_cons.2 ⟨.choice ?_ ?_, ihAfter fun there => noBracket (inAfter there)⟩
      · simpa using splitCommas_ne_nil 0 body
      · intro pieces isAlternative
        obtain ⟨⟨part, isPart⟩, _, rfl⟩ := List.mem_map.1 isAlternative
        exact ihParts part isPart fun there =>
          noBracket (inBody (subset_of_mem_splitCommas isPart there))
  | case10 c rest noFolders noStars noStar noMark noBracket noBrace ih =>
    rw [ofText]
    · exact List.forall_mem_cons.2 ⟨.literal c, ih (behind plain)⟩
    all_goals assumption

end GlobPiece

namespace Expression

/-- Reads a text inside some groups. -/
def readFrom (level : ExprLevel) (outer : List ExprLevel) (t : LooseText) :
    Except GlobError Pattern :=
  match ExprToken.ofText t with
  | .error e => .error e
  | .ok tokens => build level outer tokens

variable {level level' : ExprLevel} {outer outer' : List ExprLevel} {t rest : LooseText}
  {token : ExprToken}

/-- Reading goes on behind a symbol that can be taken in. -/
theorem readFrom_of_next (isNext : ExprToken.next t = .ok (some (token, rest)))
    (steps : step level outer token = .ok (level', outer')) :
    readFrom level outer t = readFrom level' outer' rest := by
  have tokens : ExprToken.ofText t = (ExprToken.ofText rest).map (token :: ·) := by
    rw [ExprToken.ofText]
    split
    · next failed => simp [isNext] at failed
    · next ended => simp [isNext] at ended
    · next found =>
      obtain ⟨rfl, rfl⟩ := Prod.mk.inj (Option.some.inj (Except.ok.inj (isNext.symm.trans found)))
      rfl
  rw [readFrom, readFrom, tokens]
  cases ExprToken.ofText rest with
  | error e => rfl
  | ok tokens => simp [Except.map, build, steps]

end Expression

/-- The set of all characters but the slash. -/
theorem ExprToken.next_noSlash (rest : LooseText) :
    next (.ofText "[^/]".toList ++ rest) = .ok (some (.one (· != '/'), rest)) := by
  have slash : (fun c => !(SetAtom.code (CodePoint.char '/').value).item.accepts c) =
      fun c => c != '/' := by
    funext c
    have isSlash : c = '/' ↔ c.toNat = 47 := by
      rw [← Char.toNat_inj]
      rfl
    have code : (CodePoint.char '/').value = 47 := rfl
    rw [Bool.eq_iff_iff]
    simp only [SetAtom.item, SetItem.accepts, code, Bool.not_eq_true', Bool.and_eq_false_iff,
      decide_eq_false_iff_not, bne_iff_ne, ne_eq, isSlash]
    omega
  change next (.char '[' :: .char '^' :: .char '/' :: .char ']' :: rest) = _
  simp [next, CharSet.read, CharSet.negation, CharSet.items, CharSet.part, CharSet.atom, slash]

/-- A character that is written so that it stands for itself. -/
theorem ExprToken.next_escapeChar (c : Char) (rest : LooseText) :
    next (.ofText (escapeChar c) ++ rest) =
      .ok (some (.one (.char · == CodePoint.char c), rest)) := by
  rw [escapeChar]
  split_ifs with special
  · change next (.char '\\' :: .char c :: rest) = _
    have notZ : c ≠ 'Z' := by
      rintro rfl
      exact absurd special (by decide)
    simp [next, notZ]
  · change next (.char c :: rest) = _
    have reserved : ∀ d ∈ ['(', ')', '|', '*', '?', '.', '[', '\\'], specialChars.contains d :=
      List.all_eq_true.1 (by decide)
    have plain : ∀ d ∈ ['(', ')', '|', '*', '?', '.', '[', '\\'], c ≠ d := by
      rintro d member rfl
      exact special (reserved c member)
    simp only [List.forall_mem_cons] at plain
    simp [next, plain]

/-- Adds pieces to the present alternative. -/
def ExprLevel.addAll (level : ExprLevel) (ps : List Pattern) : ExprLevel :=
  { level with current := ps.reverse ++ level.current }

namespace GlobPiece

open Expression ExprToken

/-- A piece is read as its pattern, wherever it stands. -/
def Reads (piece : GlobPiece) : Prop :=
  ∀ (level : ExprLevel) (outer : List ExprLevel) (rest : LooseText),
    readFrom level outer (piece.expression ++ rest) = readFrom (level.add piece.pattern) outer rest

theorem readFrom_seqExpression {pieces : List GlobPiece} (each : ∀ piece ∈ pieces, piece.Reads)
    (level : ExprLevel) (outer : List ExprLevel) (rest : LooseText) :
    readFrom level outer (seqExpression pieces ++ rest) =
      readFrom (level.addAll (seqPatterns pieces)) outer rest := by
  induction pieces generalizing level with
  | nil => rfl
  | cons piece pieces ih =>
    obtain ⟨first, others⟩ := List.forall_mem_cons.1 each
    rw [seqExpression, List.append_assoc, first, ih others]
    simp [ExprLevel.addAll, ExprLevel.add, seqPatterns]

/-- Alternatives are read as further alternatives of the group around them. -/
theorem readFrom_choiceExpression {alternatives : List (List GlobPiece)}
    (nonempty : alternatives ≠ [])
    (each : ∀ pieces ∈ alternatives, ∀ piece ∈ pieces, piece.Reads) (done : List Pattern)
    (outer : List ExprLevel) (rest : LooseText) :
    ∃ last : ExprLevel,
      readFrom ⟨done, []⟩ outer (choiceExpression alternatives ++ rest) =
        readFrom last outer rest ∧
      last.pattern = .any (done.reverse ++ choicePatterns alternatives) := by
  induction alternatives generalizing done with
  | nil => exact absurd rfl nonempty
  | cons pieces more ih =>
    obtain ⟨first, others⟩ := List.forall_mem_cons.1 each
    cases more with
    | nil =>
      refine ⟨_, readFrom_seqExpression first _ outer rest, ?_⟩
      simp [ExprLevel.pattern, ExprLevel.addAll, choicePatterns]
    | cons next more =>
      obtain ⟨last, read, isPattern⟩ :=
        ih (List.cons_ne_nil next more) others (.all (seqPatterns pieces) :: done)
      refine ⟨last, ?_, ?_⟩
      · rw [choiceExpression, List.append_assoc, readFrom_seqExpression first,
          ← read]
        · exact readFrom_of_next rfl (by simp [step, ExprLevel.split, ExprLevel.addAll])
        · simp
      · rw [isPattern]
        simp [choicePatterns]

theorem IsPlain.reads {piece : GlobPiece} (plain : piece.IsPlain) : piece.Reads := by
  induction plain with
  | folders =>
    intro level outer rest
    change readFrom level outer (.ofText "(?:".toList ++ .char '.' :: .char '*' :: .char '/' ::
      .char ')' :: .char '?' :: rest) = _
    rw [readFrom_of_next rfl rfl, readFrom_of_next rfl rfl, readFrom_of_next rfl rfl,
      readFrom_of_next rfl rfl, readFrom_of_next rfl rfl]
    exact readFrom_of_next rfl rfl
  | anything =>
    intro level outer rest
    change readFrom level outer (.char '.' :: .char '*' :: rest) = _
    rw [readFrom_of_next rfl rfl]
    exact readFrom_of_next rfl rfl
  | stretch =>
    intro level outer rest
    change readFrom level outer (.ofText "[^/]".toList ++ .char '*' :: rest) = _
    rw [readFrom_of_next (next_noSlash _) rfl]
    exact readFrom_of_next rfl rfl
  | single =>
    intro level outer rest
    exact readFrom_of_next (next_noSlash _) rfl
  | @choice alternatives nonempty _ ih =>
    intro level outer rest
    obtain ⟨last, read, isPattern⟩ :=
      readFrom_choiceExpression nonempty ih [] (level :: outer) (.char ')' :: rest)
    have text : (GlobPiece.choice alternatives).expression ++ rest =
        .ofText "(?:".toList ++ (choiceExpression alternatives ++ .char ')' :: rest) := by
      simp [expression]
    have opens : readFrom level outer
        (.ofText "(?:".toList ++ (choiceExpression alternatives ++ .char ')' :: rest)) =
          readFrom {} (level :: outer) (choiceExpression alternatives ++ .char ')' :: rest) :=
      readFrom_of_next rfl rfl
    have closes : step last (level :: outer) .groupClose = .ok (level.add last.pattern, outer) :=
      rfl
    rw [text, opens, read, readFrom_of_next rfl closes, isPattern]
    rfl
  | literal p =>
    intro level outer rest
    cases p with
    | char c => exact readFrom_of_next (next_escapeChar c rest) rfl
    | half code => exact readFrom_of_next rfl rfl

end GlobPiece

namespace Glob

theorem mem_of_mem_normalize {glob : LooseText} {c : CodePoint} (member : c ∈ normalize glob) :
    c ∈ glob ∨ c ∈ LooseText.ofText "**/".toList := by
  have ofTrimmed : ∀ d ∈ glob.trim.dropWhile (· == .char '/'), d ∈ glob := by
    intro d inside
    have trimmed := (List.dropWhile_sublist _).subset inside
    simp only [LooseText.trim, List.mem_reverse] at trimmed
    have reversed := (List.dropWhile_sublist _).subset trimmed
    exact (List.dropWhile_sublist _).subset (List.mem_reverse.1 reversed)
  rw [normalize] at member
  split_ifs at member
  · exact .inl (ofTrimmed c member)
  · exact (List.mem_append.1 member).symm.imp_left (ofTrimmed c)

theorem noSet_normalize {glob : LooseText} (plain : CodePoint.char '[' ∉ glob) :
    CodePoint.char '[' ∉ normalize glob := by
  intro inside
  rcases mem_of_mem_normalize inside with there | there
  · exact plain there
  · exact absurd there (by decide)

/-- A glob without opening brackets, whose braces are not nested too deep, has the pattern of its
    pieces, which has to match up to the end. -/
theorem pattern_of_plain {deepest : Nat} {glob : LooseText} (plain : CodePoint.char '[' ∉ glob)
    (shallow : GlobPiece.seqDepth (GlobPiece.ofText (normalize glob)) ≤ deepest) :
    pattern deepest glob =
      .ok (.all (GlobPiece.seqPatterns (GlobPiece.ofText (normalize glob)) ++ [.textEnd])) := by
  have each : ∀ piece ∈ GlobPiece.ofText (normalize glob), piece.Reads := fun piece member =>
    (GlobPiece.isPlain_of_mem_ofText (noSet_normalize plain) piece member).reads
  rw [pattern, if_neg (Nat.not_lt.2 shallow), expression]
  change Expression.readFrom {} [] _ = _
  rw [GlobPiece.readFrom_seqExpression each, Expression.readFrom_of_next rfl rfl]
  simp [Expression.readFrom, ExprToken.ofText, ExprToken.next, Expression.build,
    ExprLevel.pattern, ExprLevel.add, ExprLevel.addAll, Pattern.any]

end Glob

end AsmAtlas
