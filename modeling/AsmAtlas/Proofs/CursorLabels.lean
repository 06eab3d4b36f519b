import AsmAtlas.Proofs.LabelGrammar
import Mathlib.Order.Bounds.Basic

/-!
# The label under a cursor

A label that is found at a column goes as far back as label characters do and ends with its word. In
a word of word characters it does not matter where the cursor stands: each column finds the same
label, so that a column taken from one answer can be asked about again. On the last character of a
declared label it is the whole label that is found.
-/

namespace AsmAtlas

namespace Occurrence

variable {line text : Text} {column : Nat} {found : Occurrence}

/-! ### Where a label begins -/

/-- From a column one comes to another one, in front of it, over label characters only. -/
def Reaches (text : Text) (column first : Nat) : Prop :=
  first ≤ column ∧ ∀ i, first ≤ i → i < column → text[i]?.any isLabelChar

theorem tokenStart_succ {text : Text} {i : Nat} {c : Char}
    (isChar : (text.drop i).head? = some c) (labelChar : isLabelChar c) :
    tokenStart text (i + 1) = tokenStart text i := by
  rw [tokenStart_eq, tokenStart_eq, List.take_add_one, ← List.head?_drop, isChar,
    Option.toList_some, Text.rtakeWhile_append _ (by simpa using labelChar), List.length_append,
    List.length_singleton, Nat.add_sub_add_right]

/-- Behind any other character a label begins anew. -/
theorem tokenStart_succ_of_not {i : Nat} {c : Char} (isChar : (text.drop i).head? = some c)
    (other : ¬isLabelChar c) : tokenStart text (i + 1) = i + 1 := by
  rw [tokenStart_eq, List.take_add_one, ← List.head?_drop, isChar, Option.toList_some,
    List.rtakeWhile_concat_neg _ _ _ other, List.length_nil, Nat.sub_zero]

/-- From the next column one comes to itself and, if a label character stands here, to all columns
    that one comes to from here. -/
theorem reaches_succ {first : Nat} : Reaches text (column + 1) first ↔
    first = column + 1 ∨ text[column]?.any isLabelChar ∧ Reaches text column first := by
  constructor
  · rintro ⟨le, reached⟩
    by_cases start : first = column + 1
    · exact .inl start
    · exact .inr ⟨reached column (by omega) (Nat.lt_succ_self column), by omega,
        fun i after before => reached i after (Nat.lt_succ_of_lt before)⟩
  · rintro (rfl | ⟨labelChar, le, reached⟩)
    · exact ⟨Nat.le_refl _, by omega⟩
    · refine ⟨Nat.le_succ_of_le le, fun i after before => ?_⟩
      rcases Nat.lt_succ_iff_lt_or_eq.1 before with inside | rfl
      · exact reached i after inside
      · exact labelChar

/-- A label begins at the leftmost column that can be reached over label characters. -/
theorem isLeast_tokenStart (inLine : column ≤ text.length) :
    IsLeast {first | Reaches text column first} (tokenStart text column) := by
  induction column with
  | zero =>
    have atStart : tokenStart text 0 = 0 := Nat.zero_sub _
    rw [atStart]
    exact ⟨⟨Nat.le_refl 0, by omega⟩, fun _ _ => Nat.zero_le _⟩
  | succ column ih =>
    obtain ⟨reached, least⟩ := ih (Nat.le_of_succ_le inLine)
    have isChar : text[column]? = some text[column] := List.getElem?_eq_getElem inLine
    by_cases labelChar : isLabelChar text[column]
    · rw [tokenStart_succ (List.head?_drop.trans isChar) labelChar]
      refine ⟨reaches_succ.2 (.inr ⟨isChar ▸ labelChar, reached⟩), fun first reaches => ?_⟩
      rcases reaches_succ.1 reaches with rfl | ⟨-, reaches⟩
      · exact Nat.le_succ_of_le reached.1
      · exact least reaches
    · rw [tokenStart_succ_of_not (List.head?_drop.trans isChar) labelChar]
      refine ⟨reaches_succ.2 (.inl rfl), fun first reaches => ?_⟩
      rcases reaches_succ.1 reaches with rfl | ⟨isLabel, -⟩
      · exact Nat.le_refl _
      · rw [isChar] at isLabel
        exact absurd isLabel labelChar

/-! ### The columns of a word -/

/-- On a word character the label goes on up to the end of the word. -/
theorem at?_eq_ofLabel {line : Text} {i : Nat} {c : Char}
    (isChar : (line.drop i).head? = some c) (word : isWordChar c) :
    at? isWordChar line i =
      let stop := i + ((line.drop i).takeWhile isWordChar).length
      ofLabel (line.slice (tokenStart line i) stop) stop := by
  have noMark : isMark c = false := by
    have dot : isWordChar '.' = false ∧ isWordChar '@' = false := by decide +kernel
    rw [isMark, Bool.or_eq_false_iff, beq_eq_false_iff_ne, beq_eq_false_iff_ne]
    constructor <;> rintro rfl <;> simp [dot] at word
  have noMarks : (line.drop i).takeWhile isMark = [] := by
    obtain ⟨rest, isCons⟩ := List.head?_eq_some_iff.1 isChar
    rw [isCons, List.takeWhile_cons_of_neg (by simp [noMark])]
  have isAnchor := anchor_eq (List.head?_drop.symm.trans isChar) (by simp [isLabelChar, word])
  simp only [at?, isAnchor, Option.bind_some, noMarks, List.length_nil, Nat.add_zero]
  rfl

/-- All columns of a word are columns of the same label. -/
theorem at?_of_word {line : Text} {start column : Nat} (behind : start ≤ column)
    (ofWord : ∀ i, start ≤ i → i ≤ column → (line.drop i).head?.any isWordChar) :
    at? isWordChar line column = at? isWordChar line start := by
  induction column, behind using Nat.le_induction with
  | base => rfl
  | succ column behind ih =>
    rw [← ih fun i after upTo => ofWord i after (Nat.le_succ_of_le upTo)]
    obtain ⟨c, isChar, word⟩ :=
      (Option.any_eq_true _ _).1 (ofWord column behind (Nat.le_succ column))
    obtain ⟨next, isNext, wordNext⟩ :=
      (Option.any_eq_true _ _).1 (ofWord (column + 1) (Nat.le_succ_of_le behind) (Nat.le_refl _))
    have run : (line.drop column).takeWhile isWordChar =
        c :: (line.drop (column + 1)).takeWhile isWordChar := by
      obtain ⟨rest, isCons⟩ := List.head?_eq_some_iff.1 isChar
      rw [← List.tail_drop, isCons, List.takeWhile_cons_of_pos word, List.tail_cons]
    have stop : column + 1 + ((line.drop (column + 1)).takeWhile isWordChar).length =
        column + ((line.drop column).takeWhile isWordChar).length := by
      rw [run, List.length_cons]
      omega
    rw [at?_eq_ofLabel isNext wordNext, at?_eq_ofLabel isChar word]
    simp only [stop, tokenStart_succ isChar (by simp [isLabelChar, word])]

/-- From every column of a word that is a whole run of word characters its label is found. -/
theorem SegmentAt.at?_inside {before lead word rest : Text}
    (segment : SegmentAt line before lead (word ++ rest)) (ofWord : ∀ c ∈ word, isWordChar c)
    (ends : ¬rest.head?.any isWordChar) (behind : (before ++ lead).length ≤ column)
    (inside : column < (before ++ lead).length + word.length) :
    at? isWordChar line column = some ⟨lead ++ word, word, (before ++ lead).length,
      (before ++ lead).length + word.length⟩ := by
  have wordUpTo : ∀ i, (before ++ lead).length ≤ i → i ≤ column →
      (line.drop i).head?.any isWordChar := by
    intro i after upTo
    have inWord : i - (before ++ lead).length < word.length := by omega
    rw [List.head?_drop, segment.split, List.getElem?_append_right after,
      List.getElem?_append_left inWord, List.getElem?_eq_getElem inWord]
    exact ofWord _ (List.getElem_mem inWord)
  rw [at?_of_word behind wordUpTo, segment.at?_eq, (Text.takeWhile_append_of_stops ofWord ends).1]

/-- What holds of a label found in a line, wherever the cursor stood. -/
structure IsStable (line : Text) (found : Occurrence) : Prop where
  /-- The word stands in its columns. -/
  word : line.slice found.start found.stop = found.word
  length_word : found.start + found.word.length = found.stop
  /-- The label stands in front of the same stop, from the leftmost column on that can be reached
      from the word over label characters. -/
  label : ∃ first, IsLeast {first | Reaches line found.start first} first ∧
    line.slice first found.stop = found.label ∧ first + found.label.length = found.stop
  suffix : found.word <:+ found.label
  noDot : '.' ∉ found.word
  /-- Each column of the word finds the label again. -/
  again : '@' ∉ found.word → ∀ column, found.start ≤ column → column < found.stop →
    at? isWordChar line column = some found

/-- A word has label characters without dots. -/
theorem labelChar_of_mem_word (located : at? isWordChar line column = some found) {c : Char}
    (member : c ∈ found.word) : isLabelChar c ∧ c ≠ '.' := by
  obtain ⟨before, token, rest, -, -, inToken, -, isLabel⟩ := exists_token_of_at? located
  obtain ⟨lead, isToken, -⟩ := lead_of_ofLabel isLabel
  refine ⟨inToken c (isToken ▸ List.mem_append_right lead member), ?_⟩
  dsimp only [ofLabel] at isLabel
  split_ifs at isLabel
  obtain rfl := Option.some.inj isLabel
  exact Text.ne_of_mem_lastPart ((List.dropWhile_sublist _).subset member)

theorem isStable_of_at? (located : at? isWordChar line column = some found) :
    found.IsStable line := by
  have isIn := isIn_of_at? located
  obtain ⟨before, lead, rest, segment, label, start, stop, ends⟩ := segmentAt_of_at? located
  have first : tokenStart line found.start = before.length := start ▸ segment.tokenStart_eq
  have inLine : found.start ≤ line.length := by
    have inFront : before ++ lead <+: line := segment.split ▸ List.prefix_append _ _
    exact start ▸ inFront.length_le
  have dots : ∀ c ∈ found.word, c ≠ '.' := fun c member => (labelChar_of_mem_word located member).2
  refine ⟨isIn.word, stop.symm, ⟨_, isLeast_tokenStart inLine, isIn.label, ?_⟩, ⟨lead, label.symm⟩,
    fun dot => dots '.' dot rfl, ?_⟩
  · rw [first, label, stop, start, List.length_append, List.length_append, Nat.add_assoc]
  · intro unmarked column behind inside
    have ofWord : ∀ c ∈ found.word, isWordChar c := by
      intro c member
      have ofLabel := (labelChar_of_mem_word located member).1
      have noMark : c ≠ '@' := by
        rintro rfl
        exact unmarked member
      simpa [isLabelChar, dots c member, noMark] using ofLabel
    rw [start] at behind
    rw [stop, start] at inside
    rw [segment.at?_inside ofWord ends behind inside, ← label, ← start, ← stop]

/-- With an `@` in the word the columns differ. -/
example : at? isWordChar "a@b".toList 1 = some ⟨"a@b".toList, "a@b".toList, 0, 3⟩ ∧
    at? isWordChar "a@b".toList 0 = some ⟨"a".toList, "a".toList, 0, 1⟩ := by
  decide +kernel

end Occurrence

/-! ### Declared labels -/

open Occurrence

/-- A token is a name behind at most one mark. -/
theorem IsToken.exists_name {token : Text} (isToken : IsToken token) :
    ∃ marks name, token = marks ++ name ∧ name ≠ [] ∧ (∀ c ∈ marks, c = '@' ∨ c = '.') ∧
      ∀ c ∈ name, isWordOrDot c := by
  cases isToken with
  | @plain first run starts ofName =>
    exact ⟨[], first :: run, rfl, by simp, by simp,
      List.forall_mem_cons.2 ⟨isWordOrDot_of_isNameStart starts, ofName⟩⟩
  | @marked mark first run isMark starts ofName =>
    exact ⟨[mark], first :: run, rfl, by simp, by simpa using isMark,
      List.forall_mem_cons.2 ⟨isWordOrDot_of_isNameStart starts, ofName⟩⟩

theorem IsToken.isLabelChar {token : Text} (isToken : IsToken token) :
    ∀ c ∈ token, Occurrence.isLabelChar c := by
  obtain ⟨marks, name, rfl, -, ofMarks, ofName⟩ := isToken.exists_name
  intro c member
  rcases List.mem_append.1 member with inMarks | inName
  · rcases ofMarks c inMarks with rfl | rfl <;> decide +kernel
  · exact Bool.or_eq_true_iff.2 (.inl (ofName c inName))

/-- No mark ends a token. -/
theorem IsToken.exists_last {token : Text} (isToken : IsToken token) :
    ∃ front last, token = front ++ [last] ∧ isWordOrDot last := by
  obtain ⟨marks, name, rfl, nonempty, -, ofName⟩ := isToken.exists_name
  obtain ⟨front, last, rfl⟩ := name.eq_nil_or_concat.resolve_left nonempty
  exact ⟨marks ++ front, last, by simp, ofName last (by simp)⟩

/-- What goes on with no character of a dotted name goes on with no word character. -/
theorem not_wordChar_of_stops {t : Text} (stops : ¬t.head?.any isWordOrDot) :
    ¬t.head?.any isWordChar := by
  intro continues
  obtain ⟨c, head, word⟩ := (Option.any_eq_true _ _).1 continues
  exact stops ((Option.any_eq_true _ _).2 ⟨c, head, by simp [isWordOrDot, word]⟩)

/-- On the last character of a token the whole token is found, unless it ends with a dot. -/
theorem TokenAt.at?_last {line before token after : Text}
    (tokenAt : TokenAt line before token after)
    (place : before = [] ∨ before.getLast?.any isBlank) (noDot : token.getLast? ≠ some '.') :
    at? isWordChar line ((before ++ token).length - 1) =
      ofLabel token (before ++ token).length := by
  have inToken := tokenAt.isToken.isLabelChar
  have isLine : line = before ++ token ++ after := by
    rw [tokenAt.split, List.append_assoc]
  have label : line.slice before.length (before ++ token).length = token := by
    rw [Text.slice, isLine, List.take_left, List.drop_left]
  obtain ⟨front, last, rfl, ofName⟩ := tokenAt.isToken.exists_last
  have word : isWordChar last := (Bool.or_eq_true_iff.1 ofName).resolve_right (by simpa using noDot)
  have split : line = before ++ front ++ ([last] ++ after) := by
    simpa using isLine
  have dropped : line.drop (before ++ front).length = [last] ++ after := by
    rw [split, List.drop_left]
  have run : ([last] ++ after).takeWhile isWordChar = [last] :=
    (Text.takeWhile_append_of_stops (by simpa using word)
      (not_wordChar_of_stops tokenAt.maximal)).1
  have starts : tokenStart line (before ++ front).length = before.length :=
    tokenStart_append split (rtakeWhile_of_blank place) fun c inFront =>
      inToken c (List.mem_append_left _ inFront)
  have stop : (before ++ (front ++ [last])).length = (before ++ front).length + 1 := by
    rw [← List.append_assoc, List.length_append, List.length_singleton]
  rw [stop, Nat.add_sub_cancel, at?_eq_ofLabel (by rw [dropped]; rfl) word]
  simp only [dropped, run, starts, List.length_singleton]
  rw [← stop, label]

/-- The label that a line declares is a token that is read to its end, in the first column or behind
    a blank. -/
theorem LabelForm.exists_tokenAt {dialect : Dialect} {rules : LabelRules} {line : Text}
    {hit : LabelHit} (found : (LabelForm.of dialect rules).find? line = some hit) :
    ∃ before token after, TokenAt line before token after ∧
      (before = [] ∨ before.getLast?.any isBlank) ∧
      hit.span = ⟨before.length, (before ++ token).length⟩ := by
  obtain ⟨m, isMatch, isSpan, -⟩ := match_of_find? found
  cases dialect with
  | source =>
    obtain ⟨token, after, declared, shown⟩ := (source_iff rules line).2 m isMatch
    refine ⟨_, token, after, declared.tokenAt, eq_nil_or_blank_last fun c member => ?_, ?_⟩
    · exact List.mem_takeWhile_imp member
    · exact Option.some.inj (isSpan.symm.trans shown.atLabel)
  | listing =>
    obtain ⟨withColons, withoutColons⟩ := rules
    cases withColons with
    | false =>
      simp [LabelForm.of, LabelForm.pattern, Pattern.matchStart_eq, Pattern.ends] at isMatch
    | true =>
      obtain ⟨before, token, rest, listedAt, shown⟩ := exists_listedAt_of_match isMatch
      exact ⟨before, token, _, listedAt.tokenAt, listedAt.place,
        Option.some.inj (isSpan.symm.trans shown.atLabel)⟩

/-- On the last character of a declared label the whole label is found, unless it ends with a
    dot. -/
theorem LabelHit.at?_last {dialect : Dialect} {rules : LabelRules} {line : Text} {hit : LabelHit}
    (found : (LabelForm.of dialect rules).find? line = some hit)
    (noDot : (hit.span.of line).getLast? ≠ some '.') :
    at? isWordChar line (hit.span.stop - 1) = ofLabel (hit.span.of line) hit.span.stop := by
  obtain ⟨before, token, after, tokenAt, place, span⟩ := LabelForm.exists_tokenAt found
  have isLabel : hit.span.of line = token := by
    rw [span, Span.of, Text.slice, tokenAt.split, ← List.append_assoc, List.take_left,
      List.drop_left]
  rw [isLabel] at noDot ⊢
  rw [span]
  exact tokenAt.at?_last place noDot

/-- A label under a cursor is stable. Whatever is found in a line goes as far back as label
    characters do, ends with its word and is found again from all columns of the word, if no `@` is
    among them. On the last character of a declared label that ends with no dot a label is found if
    its last segment starts like one, and it is the whole label. -/
theorem Occurrence.label_stays_under_cursor (line : Text) :
    (∀ column found, at? isWordChar line column = some found → found.IsStable line) ∧
      ∀ dialect rules hit, (LabelForm.of dialect rules).find? line = some hit →
        (hit.span.of line).getLast? ≠ some '.' →
          ((at? isWordChar line (hit.span.stop - 1)).isSome ↔
            (hit.lastSegment line).head?.any startsSegment) ∧
          ∀ found, at? isWordChar line (hit.span.stop - 1) = some found →
            found.label = hit.span.of line := by
  refine ⟨fun column found located => isStable_of_at? located, ?_⟩
  intro dialect rules hit isHit noDot
  have atLast := LabelHit.at?_last isHit noDot
  refine ⟨?_, fun found located => ?_⟩
  · rw [atLast, ofLabel]
    exact Option.isSome_ite
  · obtain ⟨_, _, _, _, label, _⟩ := lead_of_ofLabel (atLast.symm.trans located)
    exact label

/-- From behind `loop` in a listing, the label `main.loop` and its word are found; the `o` finds
    them again, and so does the last column of the declared label. -/
theorem Occurrence.listedLoop_stays_under_cursor :
    let line := "8000 main.loop: nop".toList
    let found : Occurrence := ⟨"main.loop".toList, "loop".toList, 10, 14⟩
    let hit : LabelHit := ⟨⟨5, 14⟩, 15⟩
    (at? isWordChar line 14 = some found ∧ found.IsStable line) ∧
      ('@' ∉ found.word ∧ at? isWordChar line 11 = some found) ∧
      (LabelForm.of .listing {}).find? line = some hit ∧
      (hit.span.of line).getLast? ≠ some '.' ∧
      (at? isWordChar line 13).isSome ∧
      ∀ again, at? isWordChar line 13 = some again → again.label = "main.loop".toList := by
  intro line found hit
  have located : at? isWordChar line 14 = some found := by decide +kernel
  have unmarked : '@' ∉ found.word := by decide
  have isHit : (LabelForm.of .listing {}).find? line = some hit := by decide +kernel
  have noDot : (hit.span.of line).getLast? ≠ some '.' := by decide
  have stable := (label_stays_under_cursor line).1 14 found located
  obtain ⟨isFound, whole⟩ := (label_stays_under_cursor line).2 .listing {} hit isHit noDot
  refine ⟨⟨located, stable⟩, ⟨unmarked, ?_⟩, isHit, noDot, isFound.2 (by decide +kernel), whole⟩
  exact stable.again unmarked 11 (by decide) (by decide)

end AsmAtlas
