import AsmAtlas.Limits
import AsmAtlas.Proofs.GlobReading
import AsmAtlas.Proofs.Subsequences
import Mathlib.Computability.Language

/-!
# What globs match

Each piece of a glob stands for a language, and a glob for the product of the languages of its
pieces. In front of text without line feeds the pattern of a piece consumes just the texts of its
language, in all the ways there are, so a path matches a glob if it is one of the texts that the
glob stands for. The one thing in the way is the nesting of braces, which is read up to a certain
depth.
-/

namespace AsmAtlas

namespace GlobPiece

mutual

/-- The texts that a piece stands for. What a set stands for depends on its body, and is not said
    here. -/
def language : GlobPiece → Language Char
  | folders => {t | t = [] ∨ t.getLast? = some '/'}
  | anything => {_t | True}
  | stretch => {t | '/' ∉ t}
  | single => {t | ∃ c, c ≠ '/' ∧ t = [c]}
  | set _ => 0
  | choice alternatives => choiceLanguage alternatives
  | literal p => {t | ∃ c, p = .char c ∧ t = [c]}

/-- The texts of pieces, one after the other. -/
def seqLanguage : List GlobPiece → Language Char
  | [] => 1
  | piece :: rest => piece.language * seqLanguage rest

/-- The texts of some alternatives. -/
def choiceLanguage : List (List GlobPiece) → Language Char
  | [] => 0
  | pieces :: rest => seqLanguage pieces + choiceLanguage rest

end

end GlobPiece

namespace Pattern

/-- In front of text without line feeds, what a pattern consumes is any text of a language. -/
def Takes (p : Pattern) (l : Language Char) : Prop :=
  ∀ (here : Cursor) (after : Text), '\n' ∉ here.rest →
    ((∃ there ∈ p.ends here, there.rest = after) ↔ ∃ run ∈ l, here.rest = run ++ after)

/-- The texts of one accepted character. -/
def oneFrom (accepts : Char → Bool) : Language Char :=
  {t | ∃ c, accepts c ∧ t = [c]}

/-- The texts of accepted characters. -/
def manyFrom (accepts : Char → Bool) : Language Char :=
  {t | ∀ c ∈ t, accepts c}

variable {p q : Pattern} {l m : Language Char} {accepts : Char → Bool} {t : Text}

theorem mem_oneFrom : t ∈ oneFrom accepts ↔ ∃ c, accepts c ∧ t = [c] :=
  Iff.rfl

theorem mem_manyFrom : t ∈ manyFrom accepts ↔ ∀ c ∈ t, accepts c :=
  Iff.rfl

theorem takes_never : never.Takes 0 := by
  intro here after _
  simp [ends]

theorem takes_empty : empty.Takes 1 := by
  intro here after _
  simp [ends]

theorem takes_char : (char accepts).Takes (oneFrom accepts) := by
  intro here after _
  constructor
  · rintro ⟨there, member, rfl⟩
    obtain ⟨c, rest, follows, accepted, rfl⟩ := mem_ends_char.1 member
    exact ⟨[c], ⟨c, accepted, rfl⟩, follows⟩
  · rintro ⟨_, ⟨c, accepted, rfl⟩, split⟩
    exact ⟨_, mem_ends_char.2 ⟨c, after, split, accepted, rfl⟩, rfl⟩

theorem takes_many : (many accepts).Takes (manyFrom accepts) := by
  intro here after _
  constructor
  · rintro ⟨there, member, rfl⟩
    obtain ⟨run, between, accepted⟩ := between_of_mem_manyEnds rfl member
    exact ⟨run, accepted, between.rest⟩
  · rintro ⟨run, accepted, split⟩
    obtain ⟨there, member, isRest, _⟩ := exists_mem_ends_many split accepted
    exact ⟨there, member, isRest⟩

theorem Takes.seq (first : p.Takes l) (second : q.Takes m) : (p.seq q).Takes (l * m) := by
  intro here after noFeed
  constructor
  · rintro ⟨there, member, atEnd⟩
    obtain ⟨middle, inFirst, inSecond⟩ := List.mem_flatMap.1 member
    obtain ⟨run, inL, split⟩ := (first here middle.rest noFeed).1 ⟨middle, inFirst, rfl⟩
    have noFeedLater : '\n' ∉ middle.rest := fun feed => noFeed (by simp [split, feed])
    obtain ⟨more, inM, splitLater⟩ := (second middle after noFeedLater).1 ⟨there, inSecond, atEnd⟩
    exact ⟨run ++ more, Language.append_mem_mul inL inM, by
      rw [split, splitLater, List.append_assoc]⟩
  · rintro ⟨run, inBoth, split⟩
    obtain ⟨first', inL, second', inM, rfl⟩ := Language.mem_mul.1 inBoth
    rw [List.append_assoc] at split
    obtain ⟨middle, inFirst, isMiddle⟩ := (first here _ noFeed).2 ⟨first', inL, split⟩
    have noFeedLater : '\n' ∉ middle.rest := fun feed => noFeed (by simp [split, ← isMiddle, feed])
    obtain ⟨there, inSecond, atEnd⟩ := (second middle after noFeedLater).2 ⟨second', inM, isMiddle⟩
    exact ⟨there, List.mem_flatMap.2 ⟨middle, inFirst, inSecond⟩, atEnd⟩

theorem Takes.alt (first : p.Takes l) (second : q.Takes m) : (p.alt q).Takes (l + m) := by
  intro here after noFeed
  simp only [ends, List.mem_append, or_and_right, exists_or, Language.mem_add]
  exact or_congr (first here after noFeed) (second here after noFeed)

/-- Only texts without line feeds count. -/
theorem Takes.congr (takes : p.Takes l) (same : ∀ run, '\n' ∉ run → (run ∈ l ↔ run ∈ m)) :
    p.Takes m := by
  intro here after noFeed
  rw [takes here after noFeed]
  refine exists_congr fun run => and_congr_left fun split => same run fun feed => noFeed ?_
  rw [split]
  exact List.mem_append_left after feed

theorem Takes.of_ends (takes : p.Takes l) (same : ∀ here, q.ends here = p.ends here) :
    q.Takes l := by
  intro here after noFeed
  rw [same, takes here after noFeed]

theorem ends_any_cons (p : Pattern) (ps : List Pattern) (here : Cursor) :
    (any (p :: ps)).ends here = p.ends here ++ (any ps).ends here := by
  cases ps with
  | nil => exact (List.append_nil _).symm
  | cons q ps => rfl

theorem ends_all_concat (ps : List Pattern) (p : Pattern) (here : Cursor) :
    (all (ps ++ [p])).ends here = ((all ps).ends here).flatMap p.ends := by
  induction ps generalizing here with
  | nil => exact (List.flatMap_singleton _ _).symm
  | cons q ps ih =>
    rw [List.cons_append, ends_all_cons, ends_all_cons, List.flatMap_assoc]
    exact congrArg (List.flatMap · _) (funext ih)

end Pattern

namespace GlobPiece

open Pattern

theorem takes_seqPatterns {pieces : List GlobPiece}
    (each : ∀ piece ∈ pieces, piece.pattern.Takes piece.language) :
    (all (seqPatterns pieces)).Takes (seqLanguage pieces) := by
  induction pieces with
  | nil => exact takes_empty
  | cons piece pieces ih =>
    obtain ⟨first, others⟩ := List.forall_mem_cons.1 each
    exact (first.seq (ih others)).of_ends (ends_all_cons piece.pattern (seqPatterns pieces))

theorem takes_choicePatterns {alternatives : List (List GlobPiece)}
    (each : ∀ pieces ∈ alternatives, ∀ piece ∈ pieces, piece.pattern.Takes piece.language) :
    (any (choicePatterns alternatives)).Takes (choiceLanguage alternatives) := by
  induction alternatives with
  | nil => exact takes_never
  | cons pieces alternatives ih =>
    obtain ⟨first, others⟩ := List.forall_mem_cons.1 each
    exact ((takes_seqPatterns first).alt (ih others)).of_ends (ends_any_cons _ _)

theorem isInLine_of_noFeed {run : Text} (noFeed : '\n' ∉ run) : ∀ c ∈ run, isInLine c := by
  intro c member
  rw [isInLine, bne_iff_ne]
  rintro rfl
  exact noFeed member

/-- The pattern of a piece consumes the texts that the piece stands for. -/
theorem IsPlain.takes {piece : GlobPiece} (plain : piece.IsPlain) :
    piece.pattern.Takes piece.language := by
  induction plain with
  | folders =>
    refine ((takes_many.seq takes_char).alt takes_empty).congr fun run noFeed => ?_
    rw [Language.mem_add, Language.mem_mul, Language.mem_one]
    constructor
    · rintro (⟨front, _, _, ⟨c, slash, rfl⟩, rfl⟩ | none)
      · obtain rfl : c = '/' := by simpa using slash
        exact .inr List.getLast?_concat
      · exact .inl none
    · rintro (none | last)
      · exact .inr none
      · obtain ⟨front, rfl⟩ := List.getLast?_eq_some_iff.1 last
        have inLine := isInLine_of_noFeed fun feed => noFeed (List.mem_append_left ['/'] feed)
        exact .inl ⟨front, inLine, ['/'], ⟨'/', by simp, rfl⟩, rfl⟩
  | anything =>
    exact takes_many.congr fun run noFeed => iff_of_true (isInLine_of_noFeed noFeed) trivial
  | stretch =>
    refine takes_many.congr fun run _ => ?_
    change _ ↔ '/' ∉ run
    simp only [mem_manyFrom, bne_iff_ne, ne_eq, List.forall_mem_ne']
  | single =>
    refine takes_char.congr fun run _ => ?_
    change _ ↔ ∃ c, c ≠ '/' ∧ run = [c]
    simp only [mem_oneFrom, bne_iff_ne]
  | choice _ _ ih => exact takes_choicePatterns ih
  | literal p =>
    refine takes_char.congr fun run _ => ?_
    change _ ↔ ∃ c, p = .char c ∧ run = [c]
    simp only [mem_oneFrom, beq_iff_eq, eq_comm (b := p)]

/-- A text is accepted by the patterns of pieces if it is one that the pieces stand for. -/
theorem accepts_iff_mem_seqLanguage {pieces : List GlobPiece}
    (plain : ∀ piece ∈ pieces, piece.IsPlain) {path : Text} (noFeed : '\n' ∉ path) :
    (all (seqPatterns pieces ++ [.textEnd])).accepts path ↔ path ∈ seqLanguage pieces := by
  have takes := takes_seqPatterns fun piece member => (plain piece member).takes
  have atEnd := takes (.start path) [] noFeed
  rw [accepts_iff]
  simp only [ends_all_concat, List.mem_flatMap]
  constructor
  · rintro ⟨there, before, inEnds, member⟩
    have isEnd : before.rest = [] := by
      rw [ends] at member
      split_ifs at member with isEnd
      · exact List.isEmpty_iff.1 isEnd
      · cases member
    obtain ⟨run, inLanguage, split⟩ := atEnd.1 ⟨before, inEnds, isEnd⟩
    rw [List.append_nil] at split
    rwa [show path = run from split]
  · intro inLanguage
    obtain ⟨there, inEnds, isEnd⟩ := atEnd.2 ⟨path, inLanguage, (List.append_nil path).symm⟩
    exact ⟨there, there, inEnds, by simp [ends, isEnd]⟩

end GlobPiece

namespace Glob

/-- How a glob is read: its form, as pieces. -/
def IsRead (glob : LooseText) (pieces : List GlobPiece) : Prop :=
  ∃ form, IsForm glob form ∧ GlobPiece.Reading form pieces

variable {deepest : Nat} {glob : LooseText} {pieces : List GlobPiece} {path : Text}

/-- The grammar has one reading of a glob without sets, and it is the one that is used. -/
theorem isRead_iff (plain : CodePoint.char '[' ∉ glob) :
    IsRead glob pieces ↔ pieces = GlobPiece.ofText (normalize glob) := by
  constructor
  · rintro ⟨form, isForm, reading⟩
    rw [reading.eq_ofText, isForm_iff.1 isForm]
  · rintro rfl
    exact ⟨_, isForm_iff.2 rfl, GlobPiece.reading_ofText (noSet_normalize plain)⟩

/-- Nothing is left of a blank glob. -/
theorem normalize_of_blank (blank : glob.isBlankText) :
    normalize glob = .ofText "**/".toList := by
  refine (isForm_iff.1 ⟨[], [], ⟨glob, [], by simp, ?_, by simp⟩, by simp, by simp, rfl⟩).symm
  simpa [LooseText.isBlankText] using blank

theorem isMatch_of_blank (blank : glob.isBlankText) (path : Text) :
    isMatch deepest glob path = .ok false := by
  rw [isMatch, test, if_pos blank]
  rfl

theorem isMatch_of_pattern (notBlank : glob.isBlankText = false) {p : Pattern}
    (isPattern : pattern deepest glob = .ok p) (path : Text) :
    isMatch deepest glob path = .ok (p.accepts path) := by
  rw [isMatch, test, notBlank, isPattern]
  rfl

theorem isMatch_of_deep (notBlank : glob.isBlankText = false)
    (deep : deepest < GlobPiece.seqDepth (GlobPiece.ofText (normalize glob))) (path : Text) :
    isMatch deepest glob path = .error .tooDeep := by
  rw [isMatch, test, notBlank, pattern, if_pos deep]
  rfl

/-- A glob without sets is read in one way. If its braces are nested no deeper than calls may be,
    it is answered for every path without line feeds, and the path matches if the glob is not blank
    and the path is one of the texts that its pieces stand for. If they are nested deeper there is
    no answer. -/
theorem matches_iff_mem_language (deepest : Nat) (noSet : CodePoint.char '[' ∉ glob)
    (noFeed : '\n' ∉ path) :
    ∃ pieces, (∀ others, IsRead glob others ↔ others = pieces) ∧
      (GlobPiece.seqDepth pieces ≤ deepest → ∃ answer, isMatch deepest glob path = .ok answer ∧
        (answer = true ↔ glob.isBlankText = false ∧ path ∈ GlobPiece.seqLanguage pieces)) ∧
      (deepest < GlobPiece.seqDepth pieces → isMatch deepest glob path = .error .tooDeep) := by
  refine ⟨GlobPiece.ofText (normalize glob), fun others => isRead_iff noSet, fun shallow => ?_,
    fun deep => ?_⟩
  · cases blank : glob.isBlankText with
    | true => exact ⟨false, isMatch_of_blank blank path, by simp⟩
    | false =>
      have plain := GlobPiece.isPlain_of_mem_ofText (noSet_normalize noSet)
      refine ⟨_, isMatch_of_pattern blank (pattern_of_plain noSet shallow) path, ?_⟩
      rw [GlobPiece.accepts_iff_mem_seqLanguage plain noFeed]
      simp
  · cases blank : glob.isBlankText with
    | true =>
      have flat : GlobPiece.seqDepth (GlobPiece.ofText (.ofText "**/".toList)) = 0 := by
        decide +kernel
      rw [normalize_of_blank blank, flat] at deep
      exact absurd deep deepest.not_lt_zero
    | false => exact isMatch_of_deep blank deep path

/-- Alternatives within an alternative, with blanks around and a slash in front. -/
def sampleGlob : LooseText :=
  .ofText " /\x7bsrc,lib\x7b1,2\x7d\x7d/**/*.as? ".toList

theorem matches_sampleGlob :
    CodePoint.char '[' ∉ sampleGlob ∧ '\n' ∉ "lib2/x/y.asm".toList ∧
      ∃ pieces, IsRead sampleGlob pieces ∧ GlobPiece.seqDepth pieces ≤ 2 ∧
        "lib2/x/y.asm".toList ∈ GlobPiece.seqLanguage pieces ∧
        isMatch 2 sampleGlob "lib2/x/y.asm".toList = .ok true := by
  have noSet : CodePoint.char '[' ∉ sampleGlob := by decide
  have noFeed : '\n' ∉ "lib2/x/y.asm".toList := by decide
  obtain ⟨pieces, isRead, matched, _⟩ := matches_iff_mem_language 2 noSet noFeed
  have isMatched : isMatch 2 sampleGlob "lib2/x/y.asm".toList = .ok true := by decide +kernel
  have shallow : GlobPiece.seqDepth pieces ≤ 2 := by
    rw [← (isRead _).1 ((isRead_iff noSet).2 rfl)]
    decide +kernel
  obtain ⟨answer, isAnswer, inLanguage⟩ := matched shallow
  obtain rfl := Except.ok.inj (isMatched.symm.trans isAnswer)
  exact ⟨noSet, noFeed, pieces, (isRead pieces).2 rfl, shallow, (inLanguage.1 rfl).2, isMatched⟩

/-- Some braces around a letter. -/
def nested : Nat → LooseText
  | 0 => [.char 'a']
  | n + 1 => .char '\x7b' :: (nested n ++ [.char '\x7d'])

def nestedPieces : Nat → List GlobPiece
  | 0 => [.literal (.char 'a')]
  | n + 1 => [.choice [nestedPieces n]]

theorem mem_nested {n : Nat} {c : CodePoint} (member : c ∈ nested n) :
    c ∈ LooseText.ofText "\x7ba\x7d".toList := by
  induction n with
  | zero =>
    rw [List.mem_singleton.1 member]
    decide
  | succ n ih =>
    rcases List.mem_cons.1 member with rfl | inside
    · decide
    · rcases List.mem_append.1 inside with deeper | last
      · exact ih deeper
      · rw [List.mem_singleton.1 last]
        decide

theorem isAlternative_nested (n : Nat) : GlobPiece.IsAlternative (nested n) := by
  induction n with
  | zero => exact .char (by decide) (by decide) (by decide) .nil
  | succ n ih => exact .braces ih.balanced .nil

theorem reading_nested (n : Nat) : GlobPiece.Reading (nested n) (nestedPieces n) := by
  induction n with
  | zero => exact .literal (by simp) .nil
  | succ n ih =>
    have separates : GlobPiece.Separates (nested n) [nested n] :=
      ⟨by simp, by simpa using isAlternative_nested n, by simp⟩
    have inside : ∀ part ∈ [nested n], GlobPiece.Reading part (nestedPieces n) := by
      simpa using ih
    exact GlobPiece.Reading.choice separates inside .nil

theorem seqDepth_nestedPieces (n : Nat) : GlobPiece.seqDepth (nestedPieces n) = n := by
  induction n with
  | zero => rfl
  | succ n ih =>
    simp [nestedPieces, GlobPiece.seqDepth, GlobPiece.depth, GlobPiece.choiceDepth, ih]

theorem mem_language_nested (n : Nat) : ['a'] ∈ GlobPiece.seqLanguage (nestedPieces n) := by
  induction n with
  | zero =>
    rw [nestedPieces, GlobPiece.seqLanguage, GlobPiece.seqLanguage, mul_one]
    exact ⟨'a', rfl, rfl⟩
  | succ n ih =>
    simpa only [nestedPieces, GlobPiece.seqLanguage, GlobPiece.language, GlobPiece.choiceLanguage,
      mul_one, add_zero] using ih

theorem isRead_nested (n : Nat) : IsRead (nested n) (.folders :: nestedPieces n) := by
  refine ⟨_, ⟨[], nested n, ⟨[], [], by simp, by simp, fun c atEnd => ?_⟩, by simp, ?_, rfl⟩, ?_⟩
  · have visible : ∀ c ∈ LooseText.ofText "\x7ba\x7d".toList, c.isChar isBlank = false := by
      decide
    exact visible c (mem_nested (atEnd.elim List.mem_of_head? List.mem_of_getLast?))
  · exact fun slash => absurd (mem_nested (List.mem_of_head? slash)) (by decide)
  · rw [if_neg fun slash => absurd (mem_nested slash) (by decide)]
    exact .folders (reading_nested n)

theorem noSet_nested (n : Nat) : CodePoint.char '[' ∉ nested n :=
  fun bracket => absurd (mem_nested bracket) (by decide)

theorem isBlankText_nested (n : Nat) : (nested n).isBlankText = false := by
  cases n <;> rfl

theorem isMatch_nested {n : Nat} (deep : deepest < n) (path : Text) :
    isMatch deepest (nested n) path = .error .tooDeep := by
  refine isMatch_of_deep (isBlankText_nested n) ?_ path
  rw [← (isRead_iff (noSet_nested n)).1 (isRead_nested n)]
  simpa [GlobPiece.seqDepth, GlobPiece.depth, seqDepth_nestedPieces] using deep

/-- A letter in a thousand braces is a glob for that letter, but it is not read. -/
theorem nested_tooDeep :
    CodePoint.char '[' ∉ nested 1000 ∧ '\n' ∉ ['a'] ∧ (nested 1000).isBlankText = false ∧
      (∃ pieces, IsRead (nested 1000) pieces ∧ ['a'] ∈ GlobPiece.seqLanguage pieces) ∧
      isMatch ({} : Limits).braces (nested 1000) ['a'] = .error .tooDeep := by
  refine ⟨noSet_nested 1000, by decide, isBlankText_nested 1000, ⟨_, isRead_nested 1000, ?_⟩,
    isMatch_nested (by decide) ['a']⟩
  exact Language.append_mem_mul (a := []) (.inl rfl) (mem_language_nested 1000)

end Glob

end AsmAtlas
