import AsmAtlas.Reference.Occurrence
import Mathlib.Data.List.DropRight

/-!
# The label at the start of its last segment

A cursor anywhere in a label finds the last segment up to it. Where that segment starts a second
cursor finds the segment again: the same start, the label characters before it, and as its word the
word characters that follow.
-/

namespace AsmAtlas

namespace Text

/-- What is taken from the end of a text goes beyond an accepted end of it. -/
theorem rtakeWhile_append {accepts : Char → Bool} (t : Text) {u : Text}
    (accepted : ∀ c ∈ u, accepts c) :
    (t ++ u).rtakeWhile accepts = t.rtakeWhile accepts ++ u := by
  have acceptedReverse : ∀ c ∈ u.reverse, accepts c := fun c member =>
    accepted c (List.mem_reverse.1 member)
  rw [List.rtakeWhile, List.rtakeWhile, List.reverse_append,
    List.takeWhile_append_of_pos acceptedReverse, List.reverse_append, List.reverse_reverse]

/-- Nothing more can be taken from the end once everything was dropped. -/
theorem rtakeWhile_rdropWhile (accepts : Char → Bool) (t : Text) :
    (t.rdropWhile accepts).rtakeWhile accepts = [] :=
  List.rtakeWhile_eq_nil_iff.2 fun nonempty => List.rdropWhile_last_not accepts t nonempty

theorem drop_length_takeWhile (accepts : Char → Bool) (t : Text) :
    t.drop (t.takeWhile accepts).length = t.dropWhile accepts := by
  have split := congrArg (List.drop (t.takeWhile accepts).length)
    (List.takeWhile_append_dropWhile (p := accepts) (l := t))
  rwa [List.drop_left, eq_comm] at split

/-- There is no separator in what stands behind the last one. -/
theorem ne_of_mem_lastPart {sep c : Char} {t : Text} (member : c ∈ t.lastPart sep) : c ≠ sep := by
  simpa using List.mem_takeWhile_imp (List.mem_reverse.1 member)

/-- A text up to its last segment without marks: the rest of that segment is marks only. -/
theorem exists_lead (t : Text) :
    ∃ lead, t = lead ++ (t.lastPart '.').dropWhile (· == '@') ∧
      ∀ c ∈ lead.lastPart '.', c = '@' := by
  let segments : Text := t.rdropWhile (· != '.')
  let marks : Text := (t.lastPart '.').takeWhile (· == '@')
  have isMark : ∀ c ∈ marks, c = '@' := fun c member => by
    simpa using List.mem_takeWhile_imp member
  refine ⟨segments ++ marks, ?_, ?_⟩
  · rw [List.append_assoc, List.takeWhile_append_dropWhile]
    exact List.rdropWhile_append_rtakeWhile.symm
  · have noDot : ∀ c ∈ marks, (c != '.') = true := fun c member => by
      rw [isMark c member]
      decide
    have last : Text.lastPart '.' (segments ++ marks) = marks := by
      change (segments ++ marks).rtakeWhile (· != '.') = marks
      rw [rtakeWhile_append segments noDot, rtakeWhile_rdropWhile, List.nil_append]
    rw [last]
    exact isMark

end Text

namespace Occurrence

/-- The first character of a word, for which no mark can stand. -/
def startsSegment (c : Char) : Bool :=
  isLetter c || c == '_'

theorem isWordChar_of_startsSegment {c : Char} (starts : startsSegment c) : isWordChar c := by
  simp only [startsSegment, isLetter, Bool.or_eq_true] at starts
  rcases starts with (alpha | letter) | underscore
  · simp [isWordChar, isAlnum, Char.isAlphanum, alpha]
  · simp [isWordChar, isAlnum, letter]
  · simp [isWordChar, underscore]

/-- A line at the start of a segment: `lead` is the part of the label in front of it, of whose own
    last segment there are marks only. -/
structure SegmentAt (line before lead tail : Text) : Prop where
  split : line = before ++ lead ++ tail
  closed : before.rtakeWhile isLabelChar = []
  ofLabel : ∀ c ∈ lead, isLabelChar c
  marks : ∀ c ∈ lead.lastPart '.', c = '@'
  starts : tail.head?.any startsSegment

theorem isMark_of_startsSegment {c : Char} (starts : startsSegment c) : isMark c = false := by
  have marks : startsSegment '.' = false ∧ startsSegment '@' = false := by decide +kernel
  simp only [isMark, Bool.or_eq_false_iff, beq_eq_false_iff_ne]
  refine ⟨?_, ?_⟩
  · rintro rfl
    simp [marks.1] at starts
  · rintro rfl
    simp [marks.2] at starts

theorem SegmentAt.exists_cons {line before lead tail : Text}
    (segment : SegmentAt line before lead tail) :
    ∃ c rest, tail = c :: rest ∧ startsSegment c := by
  obtain ⟨c, head, starts⟩ := (Option.any_eq_true _ _).1 segment.starts
  obtain ⟨rest, rfl⟩ := List.head?_eq_some_iff.1 head
  exact ⟨c, rest, rfl, starts⟩

theorem tokenStart_eq (line : Text) (i : Nat) :
    tokenStart line i = i - ((line.take i).rtakeWhile isLabelChar).length := by
  rw [tokenStart, List.rtakeWhile, List.length_reverse]

/-- The label characters that end before a column start behind what ends with no such character. -/
theorem tokenStart_append {line before lead rest : Text} (split : line = before ++ lead ++ rest)
    (closed : before.rtakeWhile isLabelChar = []) (ofLabel : ∀ c ∈ lead, isLabelChar c) :
    tokenStart line (before ++ lead).length = before.length := by
  have taken : line.take (before ++ lead).length = before ++ lead := by
    rw [split, List.take_left]
  rw [tokenStart_eq, taken, Text.rtakeWhile_append before ofLabel, closed, List.nil_append,
    List.length_append, Nat.add_sub_cancel]

theorem SegmentAt.tokenStart_eq {line before lead tail : Text}
    (segment : SegmentAt line before lead tail) :
    tokenStart line (before ++ lead).length = before.length :=
  tokenStart_append segment.split segment.closed segment.ofLabel

/-- The marks in front of a segment do not belong to its word. -/
theorem SegmentAt.word_eq {line before lead tail : Text}
    (segment : SegmentAt line before lead tail) :
    (Text.lastPart '.' (lead ++ tail.takeWhile isWordChar)).dropWhile (· == '@') =
      tail.takeWhile isWordChar := by
  have dot : isWordChar '.' = false := by decide +kernel
  have noDot : ∀ c ∈ tail.takeWhile isWordChar, (c != '.') = true := by
    intro c member
    have word := List.mem_takeWhile_imp member
    rw [bne_iff_ne]
    rintro rfl
    simp [dot] at word
  have last : Text.lastPart '.' (lead ++ tail.takeWhile isWordChar) =
      lead.lastPart '.' ++ tail.takeWhile isWordChar := Text.rtakeWhile_append lead noDot
  rw [last, List.dropWhile_append_of_pos fun c member => by simpa using segment.marks c member]
  obtain ⟨c, rest, rfl, starts⟩ := segment.exists_cons
  have noMark : (c == '@') = false :=
    (Bool.or_eq_false_iff.1 (isMark_of_startsSegment starts)).2
  rw [List.takeWhile_cons_of_pos (isWordChar_of_startsSegment starts),
    List.dropWhile_cons_of_neg (by simp [noMark])]

theorem anchor_eq {text : Text} {column : Nat} {c : Char} (here : text[column]? = some c)
    (labelChar : isLabelChar c) : anchor? text column = some column := by
  rw [anchor?, here, Option.any_some, if_pos labelChar]

theorem lt_length_of_anchor {text : Text} {column anchor : Nat}
    (anchored : anchor? text column = some anchor) : anchor < text.length := by
  have inside : ∀ i, text[i]?.any isLabelChar → i < text.length := by
    intro i labelChar
    obtain ⟨c, here, _⟩ := (Option.any_eq_true _ _).1 labelChar
    exact (List.getElem?_eq_some_iff.1 here).1
  unfold anchor? at anchored
  split_ifs at anchored with here before
  · exact Option.some.inj anchored ▸ inside column here
  · exact Option.some.inj anchored ▸ inside (column - 1) (Bool.and_eq_true_iff.1 before).2

/-- The label that starts with a segment ends with the word characters of the segment. -/
theorem SegmentAt.at?_eq {line before lead tail : Text}
    (segment : SegmentAt line before lead tail) :
    at? isWordChar line (before ++ lead).length =
      some ⟨lead ++ tail.takeWhile isWordChar, tail.takeWhile isWordChar, (before ++ lead).length,
        (before ++ lead).length + (tail.takeWhile isWordChar).length⟩ := by
  have dropped : line.drop (before ++ lead).length = tail := by
    rw [segment.split, List.drop_left]
  have label : line.slice before.length
      ((before ++ lead).length + (tail.takeWhile isWordChar).length) =
        lead ++ tail.takeWhile isWordChar := by
    have taken := List.prefix_iff_eq_take.1 (List.takeWhile_prefix isWordChar (l := tail))
    rw [Text.slice, segment.split, List.take_length_add_append, ← taken, List.append_assoc,
      List.drop_left]
  obtain ⟨c, rest, isTail, starts⟩ := segment.exists_cons
  have anchored : anchor? line (before ++ lead).length = some (before ++ lead).length := by
    refine anchor_eq (c := c) ?_ (by simp [isLabelChar, isWordChar_of_startsSegment starts])
    rw [← List.head?_drop, dropped, isTail]
    rfl
  have noMarks : tail.takeWhile isMark = [] := by
    rw [isTail, List.takeWhile_cons_of_neg (by simp [isMark_of_startsSegment starts])]
  have wordStarts : (tail.takeWhile isWordChar).head?.any startsSegment = true := by
    rw [isTail, List.takeWhile_cons_of_pos (isWordChar_of_startsSegment starts)]
    exact starts
  simp only [at?, anchored, Option.bind_some, dropped, noMarks, List.length_nil, Nat.add_zero,
    segment.tokenStart_eq, label, segment.word_eq]
  exact (if_pos wordStarts).trans (by rw [Nat.add_sub_cancel])

/-- The token around an anchor: the label characters before it and those that follow up to
    `rest`. -/
theorem exists_token {line ending rest : Text} {anchor : Nat} (inside : anchor ≤ line.length)
    (split : line.drop anchor = ending ++ rest) (ofLabel : ∀ c ∈ ending, isLabelChar c) :
    ∃ before token, line = before ++ token ++ rest ∧ before.rtakeWhile isLabelChar = [] ∧
      (∀ c ∈ token, isLabelChar c) ∧ tokenStart line anchor = before.length ∧
      anchor + ending.length = (before ++ token).length := by
  let before : Text := (line.take anchor).rdropWhile isLabelChar
  let start : Text := (line.take anchor).rtakeWhile isLabelChar
  have taken : before ++ start = line.take anchor := List.rdropWhile_append_rtakeWhile
  have length : before.length + start.length = anchor := by
    rw [← List.length_append, taken, List.length_take, Nat.min_eq_left inside]
  refine ⟨before, start ++ ending, ?_, Text.rtakeWhile_rdropWhile _ _, ?_, ?_, ?_⟩
  · rw [← List.append_assoc, taken, List.append_assoc, ← split, List.take_append_drop]
  · intro c member
    rcases List.mem_append.1 member with inStart | inEnding
    · exact List.mem_rtakeWhile_imp inStart
    · exact ofLabel c inEnding
  · rw [tokenStart_eq]
    change anchor - start.length = before.length
    omega
  · rw [List.length_append, List.length_append]
    omega

/-- The occurrence of a label that ends before column `stop`. -/
def ofLabel (label : Text) (stop : Nat) : Option Occurrence :=
  let word := (label.lastPart '.').dropWhile (· == '@')
  if word.head?.any startsSegment then some ⟨label, word, stop - word.length, stop⟩ else none

/-- In front of the word of a label there are whole segments and marks. -/
theorem lead_of_ofLabel {label : Text} {stop : Nat} {found : Occurrence}
    (located : ofLabel label stop = some found) :
    ∃ lead, label = lead ++ found.word ∧ (∀ c ∈ lead.lastPart '.', c = '@') ∧
      found.word.head?.any startsSegment ∧ found.label = label ∧
      found.start = stop - found.word.length ∧ found.stop = stop := by
  obtain ⟨lead, isLabel, marks⟩ := Text.exists_lead label
  dsimp only [ofLabel] at located
  split_ifs at located with starts
  obtain rfl := Option.some.inj located
  exact ⟨lead, isLabel, marks, starts, rfl, rfl, rfl⟩

/-- What is found at a column is a token that goes as far back as it can and ends where the word
    characters end. -/
theorem exists_token_of_at? {line : Text} {column : Nat} {found : Occurrence}
    (located : at? isWordChar line column = some found) :
    ∃ before token rest, line = before ++ token ++ rest ∧ before.rtakeWhile isLabelChar = [] ∧
      (∀ c ∈ token, isLabelChar c) ∧ ¬rest.head?.any isWordChar ∧
      ofLabel token (before ++ token).length = some found := by
  obtain ⟨anchor, anchored, located⟩ := Option.bind_eq_some_iff.1 located
  have inside := lt_length_of_anchor anchored
  let marks : Text := (line.drop anchor).takeWhile isMark
  let stem : Text := (line.drop (anchor + marks.length)).takeWhile isWordChar
  let rest : Text := (line.drop (anchor + marks.length)).dropWhile isWordChar
  have split : line.drop anchor = (marks ++ stem) ++ rest := by
    rw [List.append_assoc, List.takeWhile_append_dropWhile, ← List.drop_drop,
      Text.drop_length_takeWhile, List.takeWhile_append_dropWhile]
  have inLabel : ∀ c ∈ marks ++ stem, isLabelChar c := by
    intro c member
    rcases List.mem_append.1 member with inMarks | inStem
    · have mark : isMark c := List.mem_takeWhile_imp inMarks
      rw [isLabelChar, Bool.or_assoc]
      exact Bool.or_eq_true_iff.2 (.inr mark)
    · have word : isWordChar c := List.mem_takeWhile_imp inStem
      simp [isLabelChar, word]
  obtain ⟨before, token, isLine, closed, inToken, starts, stops⟩ :=
    exists_token inside.le split inLabel
  have isLabel : line.slice (tokenStart line anchor) (anchor + marks.length + stem.length) =
      token := by
    rw [starts, Nat.add_assoc, ← List.length_append, stops, Text.slice, isLine, List.take_left,
      List.drop_left]
  change ofLabel (line.slice (tokenStart line anchor) (anchor + marks.length + stem.length))
    (anchor + marks.length + stem.length) = some found at located
  rw [isLabel, Nat.add_assoc, ← List.length_append, stops] at located
  refine ⟨before, token, rest, isLine, closed, inToken, ?_, located⟩
  intro continues
  obtain ⟨c, head, word⟩ := (Option.any_eq_true _ _).1 continues
  have stopped := List.head?_dropWhile_not isWordChar (line.drop (anchor + marks.length))
  rw [head] at stopped
  simp [word] at stopped

/-- A label is found around the start of its last segment. -/
theorem segmentAt_of_at? {line : Text} {column : Nat} {found : Occurrence}
    (located : at? isWordChar line column = some found) :
    ∃ before lead rest, SegmentAt line before lead (found.word ++ rest) ∧
      found.label = lead ++ found.word ∧ found.start = (before ++ lead).length ∧
      found.stop = found.start + found.word.length ∧ ¬rest.head?.any isWordChar := by
  obtain ⟨before, token, rest, isLine, closed, inToken, ends, located⟩ :=
    exists_token_of_at? located
  obtain ⟨lead, isToken, leadMarks, wordStarts, label, start, stop⟩ := lead_of_ofLabel located
  have length : (before ++ token).length = (before ++ lead).length + found.word.length := by
    rw [isToken, ← List.append_assoc, List.length_append]
  refine ⟨before, lead, rest, ⟨?_, closed, ?_, leadMarks, ?_⟩, ?_, ?_, ?_, ends⟩
  · rw [isLine, isToken]
    simp only [List.append_assoc]
  · intro c member
    exact inToken c (isToken ▸ List.mem_append_left found.word member)
  · obtain ⟨c, head, startsHere⟩ := (Option.any_eq_true _ _).1 wordStarts
    rw [List.head?_append, head]
    exact startsHere
  · rw [label, isToken]
  · omega
  · omega

/-- Where its last segment starts, a label is found again, with the word characters from there on as
    the word. -/
theorem at?_start {line : Text} {column : Nat} {found : Occurrence}
    (located : at? isWordChar line column = some found) :
    ∃ again, at? isWordChar line found.start = some again ∧ again.start = found.start ∧
      again.word = (line.drop found.start).takeWhile isWordChar ∧
      again.word.head?.any startsSegment := by
  obtain ⟨before, lead, tail, segment, -, start, -⟩ := segmentAt_of_at? located
  have dropped : line.drop (before ++ lead).length = found.word ++ tail := by
    rw [segment.split, List.drop_left]
  obtain ⟨c, rest, isTail, starts⟩ := segment.exists_cons
  rw [start, dropped]
  refine ⟨_, segment.at?_eq, rfl, rfl, ?_⟩
  rw [isTail, List.takeWhile_cons_of_pos (isWordChar_of_startsSegment starts)]
  exact starts

/-- A label that was found in a line: its word is a whole one, and so is the label up to it. -/
structure IsIn (text : Text) (found : Occurrence) : Prop where
  nonempty : found.word ≠ []
  stop : found.stop = found.start + found.word.length
  word : text.slice found.start found.stop = found.word
  label : text.slice (tokenStart text found.start) found.stop = found.label
  before : ¬(text.take found.start).getLast?.any isWordChar
  behind : ¬text[found.stop]?.any isWordChar

/-- No word character stands in front of a segment. -/
theorem SegmentAt.not_wordChar_before {line before lead tail : Text}
    (segment : SegmentAt line before lead tail) :
    ¬(before ++ lead).getLast?.any isWordChar := by
  intro continues
  obtain ⟨c, last, word⟩ := (Option.any_eq_true _ _).1 continues
  rw [List.getLast?_append] at last
  cases inLead : lead.getLast? with
  | none =>
    have closed := List.rtakeWhile_eq_nil_iff.1 segment.closed
    rw [inLead, Option.none_or] at last
    obtain ⟨front, rfl⟩ := List.getLast?_eq_some_iff.1 last
    exact closed (by simp) (by simp [isLabelChar, word])
  | some d =>
    rw [inLead, Option.some_or] at last
    obtain rfl := Option.some.inj last
    obtain ⟨front, rfl⟩ := List.getLast?_eq_some_iff.1 inLead
    by_cases dot : d = '.'
    · subst dot
      exact absurd word (by decide +kernel)
    · have inLast : d ∈ Text.lastPart '.' (front ++ [d]) := by
        rw [Text.lastPart, List.reverse_append]
        simp [dot]
      rw [segment.marks d inLast] at word
      exact absurd word (by decide +kernel)

theorem isIn_of_at? {line : Text} {column : Nat} {found : Occurrence}
    (located : at? isWordChar line column = some found) : IsIn line found := by
  obtain ⟨before, lead, rest, segment, label, start, stop, ends⟩ := segmentAt_of_at? located
  have stops : found.stop = (before ++ lead ++ found.word).length := by
    rw [stop, start, ← List.length_append]
  have isLine : line = before ++ lead ++ found.word ++ rest := by
    rw [segment.split]
    simp only [List.append_assoc]
  refine ⟨?_, stop, ?_, ?_, ?_, ?_⟩
  · intro empty
    obtain ⟨c, tail, isTail, starts⟩ := segment.exists_cons
    rw [empty, List.nil_append] at isTail
    exact ends (by simp [isTail, isWordChar_of_startsSegment starts])
  · rw [Text.slice, stops, isLine, List.take_left, start, List.drop_left]
  · rw [Text.slice, stops, isLine, List.take_left, start, ← isLine, segment.tokenStart_eq, label,
      List.append_assoc, List.drop_left]
  · rw [start, segment.split, List.take_left]
    exact segment.not_wordChar_before
  · rw [← List.head?_drop, stops, isLine, List.drop_left]
    exact ends

end Occurrence
end AsmAtlas
