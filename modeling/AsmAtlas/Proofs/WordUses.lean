import AsmAtlas.Proofs.MatchSpans
import AsmAtlas.Proofs.WordPlaces

/-!
# The uses of a word

A word is used where it stands as a whole, up to the case of its letters. In text of any script the
case form of a word character need not be one itself, so uses may touch each other; still they do
not overlap, and a use that consists of word characters is never hidden by another one.
-/

namespace AsmAtlas

theorem Text.getElem_slice (t : Text) (start stop i : Nat) :
    (t.slice start stop)[i]? = if start + i < stop then t[start + i]? else none := by
  rw [Text.slice, List.getElem?_drop, List.getElem?_take]

theorem Text.length_slice (t : Text) (start stop : Nat) :
    (t.slice start stop).length = min stop t.length - start := by
  rw [slice, List.length_drop, List.length_take]

/-- A word stands at a column of a line, as a whole and up to case. -/
structure Text.HasWordAt (text word : Text) (column : Nat) : Prop where
  starts : ¬(text.take column).getLast?.any fun c => isWordChar c || c == '$'
  spells : (text.slice column (column + word.length)).map caseKey = word.map caseKey
  ends : ¬text[column + word.length]?.any isWordChar

/-- A word with characters lies inside the line. -/
theorem Text.HasWordAt.le_length {line word : Text} {column : Nat}
    (hasWord : line.HasWordAt word column) (nonempty : word ≠ []) :
    column + word.length ≤ line.length := by
  have length := congrArg List.length hasWord.spells
  have positive := List.length_pos_of_ne_nil nonempty
  simp only [List.length_map, Text.slice, List.length_drop, List.length_take] at length
  omega

namespace Cursor

theorem rest_forward (here : Cursor) (n : Nat) : (here.forward n).rest = here.rest.drop n := by
  induction n generalizing here with
  | zero => rfl
  | succ n ih => cases rest : here.rest <;> simp [forward, rest, ih]

/-- Whether a word stands at a cursor. -/
def hasWord (here : Cursor) (word : Text) : Bool :=
  here.startsWord && (here.rest.take word.length).map caseKey == word.map caseKey &&
    (here.forward word.length).endsWord

/-- The match of the next `n` characters as a word. -/
def wordMatch (here : Cursor) (n : Nat) : Match :=
  ⟨⟨here.column, here.column + n⟩, (.word, ⟨here.column, here.column + n⟩) :: here.noted⟩

theorem wordSpan_wordMatch (here : Cursor) (n : Nat) :
    (here.wordMatch n).wordSpan = (here.wordMatch n).span :=
  rfl

/-- The character before a cursor of a line. -/
theorem last_of_mem_through {text : Text} {first here : Cursor} {rest : Text}
    (left : rest = text.drop first.column) (last : first.last = (text.take first.column).getLast?)
    (member : here ∈ first.through rest) : here.last = (text.take here.column).getLast? := by
  induction rest generalizing first with
  | nil =>
    rw [List.mem_singleton.1 member]
    exact last
  | cons c rest ih =>
    rcases List.mem_cons.1 member with rfl | later
    · exact last
    · have isNext : text[first.column]? = some c := by
        rw [← List.head?_drop, ← left]
        rfl
      refine @ih (first.advance c rest) ?_ ?_ later
      · rw [column_advance, ← List.tail_drop, ← left, List.tail_cons]
      · rw [column_advance, List.take_add_one, isNext]
        simp [advance]

/-- There is a cursor at every column up to the end of the line. -/
theorem exists_mem_through (first : Cursor) (rest : Text) {n : Nat} (inside : n ≤ rest.length) :
    ∃ here ∈ first.through rest, here.column = first.column + n := by
  induction rest generalizing first n with
  | nil =>
    obtain rfl : n = 0 := by simpa using inside
    exact ⟨first, List.mem_singleton_self first, rfl⟩
  | cons c rest ih =>
    cases n with
    | zero => exact ⟨first, List.mem_cons_self, rfl⟩
    | succ n =>
      obtain ⟨here, member, column⟩ := ih (first.advance c rest) (Nat.le_of_succ_le_succ inside)
      refine ⟨here, List.mem_cons_of_mem first member, ?_⟩
      rw [column, column_advance]
      omega

/-- At a cursor of a line stands what stands at its column. -/
theorem hasWord_iff {text : Text} {here : Cursor} (word : Text)
    (member : here ∈ (Cursor.start text).through text) :
    here.hasWord word ↔ text.HasWordAt word here.column := by
  have rest : here.rest = text.drop here.column := (of_mem_through rfl rfl rfl member).2
  have last := last_of_mem_through rfl rfl member
  have slice : text.slice here.column (here.column + word.length) =
      here.rest.take word.length := by
    rw [Text.slice, List.drop_take, Nat.add_sub_cancel_left, ← rest]
  have next : (here.forward word.length).rest.head? = text[here.column + word.length]? := by
    rw [rest_forward, rest, List.drop_drop, List.head?_drop]
  simp only [hasWord, startsWord, endsWord, last, next, Bool.and_eq_true, beq_iff_eq,
    Bool.not_eq_true', ← slice]
  constructor
  · rintro ⟨⟨starts, spells⟩, ends⟩
    exact ⟨by simp [starts], spells, by simp [ends]⟩
  · rintro ⟨starts, spells, ends⟩
    exact ⟨⟨by simpa using starts, spells⟩, by simpa using ends⟩

end Cursor

namespace Pattern

open WordSearch

/-- A spelled word takes as many characters as it has, if they are the same up to case. -/
theorem ends_spelled (word : Text) (here : Cursor) :
    (spelled word).ends here =
      if (here.rest.take word.length).map caseKey = word.map caseKey then
        [here.forward word.length]
      else [] := by
  induction word generalizing here with
  | nil => simp [spelled, ends, Cursor.forward]
  | cons c word ih =>
    cases follows : here.rest with
    | nil => simp [spelled, letter, ends, follows]
    | cons d rest =>
      have unfolded : (spelled (c :: word)).ends here =
          if sameLetter c d then (spelled word).ends (here.advance d rest) else [] := by
        cases same : sameLetter c d <;> simp [spelled, letter, ends, follows, same]
      rw [unfolded, ih, Cursor.rest_advance]
      by_cases same : caseKey c = caseKey d
      · simp [sameLetter, same, Cursor.forward, follows]
      · simp [sameLetter, same, Ne.symm same]

/-- Words that are the same up to case have the same uses. -/
theorem uses_congr {word other : Text} (same : word.map caseKey = other.map caseKey) :
    uses word = uses other := by
  have letters : ∀ t : Text, spelled t =
      (t.map caseKey).foldr (fun key rest => seq (char fun c => key == caseKey c) rest) empty := by
    intro t
    rw [List.foldr_map]
    rfl
  rw [uses, uses, letters, letters, same]

variable {word : Text}

theorem matchesAt_uses (nonempty : word ≠ []) (here : Cursor) :
    (uses word).matchesAt here =
      if here.hasWord word then [here.wordMatch word.length] else [] := by
  have ends : (uses word).ends here =
      if here.hasWord word then [(here.forward word.length).note .word here.column] else [] := by
    rw [uses, ends_wholeWord, ends_spelled, Cursor.hasWord]
    by_cases spells : (here.rest.take word.length).map caseKey = word.map caseKey
    · cases here.startsWord <;> cases stops : (here.forward word.length).endsWord <;>
        simp [spells, stops]
    · rw [if_neg spells, beq_eq_false_iff_ne.2 spells]
      cases here.startsWord <;> rfl
  cases found : here.hasWord word with
  | false =>
    have none : (uses word).ends here = [] := by simpa [found] using ends
    simp [matchesAt, matchWhere_eq, none]
  | true =>
    have one : (uses word).ends here = [(here.forward word.length).note .word here.column] := by
      simpa [found] using ends
    have inside : word.length ≤ here.rest.length := by
      simp only [Cursor.hasWord, Bool.and_eq_true, beq_iff_eq] at found
      have length := congrArg List.length found.1.2
      simp only [List.length_map, List.length_take] at length
      omega
    have matched : matchTo here ((here.forward word.length).note .word here.column) =
        here.wordMatch word.length := by
      simp [matchTo, Cursor.wordMatch, Cursor.note, Cursor.column_forward here inside]
    have longer : (here.wordMatch word.length).span.stop ≠
        (here.wordMatch word.length).span.start := by
      simpa [Cursor.wordMatch] using nonempty
    simp [matchesAt, matchWhere_eq, one, matched, longer]

/-- Everything that a search for a word finds in a line is the word. -/
theorem hasWordAt_of_mem_findAll (nonempty : word ≠ []) {line : Text} {m : Match}
    (member : m ∈ (uses word).findAll line) :
    line.HasWordAt word m.span.start ∧ m.span.stop = m.span.start + word.length ∧
      m.wordSpan = m.span := by
  obtain ⟨here, isCursor, found⟩ := exists_of_mem_findFrom member
  rw [matchesAt_uses nonempty] at found
  split_ifs at found with hasWord
  · obtain rfl := List.mem_singleton.1 found
    exact ⟨(here.hasWord_iff word isCursor).1 hasWord, rfl, rfl⟩
  · simp at found

/-- A use of a word is found, or one that is found begins before it and reaches into it. -/
theorem mem_findAll_or_hidden (nonempty : word ≠ []) {text : Text} {column : Nat}
    (hasWord : text.HasWordAt word column) :
    (∃ m ∈ (uses word).findAll text, m.wordSpan = ⟨column, column + word.length⟩) ∨
      ∃ other ∈ (uses word).findAll text,
        other.span.start < column ∧ column < other.span.stop := by
  have inside := hasWord.le_length nonempty
  obtain ⟨here, isCursor, isColumn⟩ :=
    Cursor.exists_mem_through (.start text) text (n := column) (by omega)
  have isColumn : here.column = column := by simpa [Cursor.start] using isColumn
  have found : here.wordMatch word.length ∈ (uses word).matchesAt here := by
    rw [matchesAt_uses nonempty, if_pos ((here.hasWord_iff word isCursor).2 (isColumn ▸ hasWord))]
    exact List.mem_singleton_self _
  rcases mem_findFrom_or_hidden 0 isCursor found with member | before | hidden
  · exact .inl ⟨_, member, by rw [Cursor.wordSpan_wordMatch, Cursor.wordMatch, isColumn]⟩
  · exact absurd before (Nat.not_lt_zero _)
  · rw [isColumn] at hidden
    exact .inr hidden

/-- A use of a word that consists of word characters is found: a use that began before it and
    reached into it would end inside a word. -/
theorem exists_mem_findAll (nonempty : word ≠ []) {text : Text} {column : Nat}
    (hasWord : text.HasWordAt word column)
    (ofWord : ∀ c ∈ text.slice column (column + word.length), isWordChar c) :
    ∃ m ∈ (uses word).findAll text, m.wordSpan = ⟨column, column + word.length⟩ := by
  have inside := hasWord.le_length nonempty
  rcases mem_findAll_or_hidden nonempty hasWord with found | ⟨other, isOther, before, beyond⟩
  · exact found
  · obtain ⟨otherWord, stop, _⟩ := hasWordAt_of_mem_findAll nonempty isOther
    have inLine : other.span.stop < text.length := by omega
    have isChar := List.getElem?_eq_getElem inLine
    have inUse : (text.slice column (column + word.length))[other.span.stop - column]? =
        some text[other.span.stop] := by
      rw [Text.getElem_slice, if_pos (by omega), Nat.add_sub_cancel' (by omega), isChar]
    have continues := ofWord _ (List.mem_of_getElem? inUse)
    have stops := otherWord.ends
    rw [← stop, isChar] at stops
    exact absurd continues stops

/-- A pattern that notes all of what it matches as the word, and never matches nothing. -/
def FindsWords (p : Pattern) : Prop :=
  ∀ line, ∀ m ∈ p.findAll line, m.wordSpan = m.span ∧ m.span.start < m.span.stop

theorem findsWords_uses (nonempty : word ≠ []) : FindsWords (uses word) := by
  intro line m member
  obtain ⟨_, stop, isSpan⟩ := hasWordAt_of_mem_findAll nonempty member
  have positive := List.length_pos_of_ne_nil nonempty
  exact ⟨isSpan, by omega⟩

theorem matchesAt_identifiers (here : Cursor) :
    identifiers.matchesAt here =
      if here.startsWord && here.run.head?.any isPlainStart then [here.runMatch] else [] := by
  refine matchesAt_of_ends ?_ (ends_identifiers here)
  intro found empty
  simp [empty] at found

/-- Every identifier that is found is the run of word characters at its start. -/
theorem exists_of_mem_findAll_identifiers {line : Text} {m : Match}
    (member : m ∈ identifiers.findAll line) :
    ∃ here ∈ (Cursor.start line).through line, here.run.head?.any isPlainStart ∧
      m = here.runMatch := by
  obtain ⟨here, isCursor, found⟩ := exists_of_mem_findFrom member
  rw [matchesAt_identifiers] at found
  split_ifs at found with accepted
  · exact ⟨here, isCursor, (Bool.and_eq_true_iff.1 accepted).2, List.mem_singleton.1 found⟩
  · simp at found

theorem findsWords_identifiers : FindsWords identifiers := by
  intro line m member
  obtain ⟨here, _, plain, rfl⟩ := exists_of_mem_findAll_identifiers member
  have positive : 0 < here.run.length := by
    refine List.length_pos_of_ne_nil ?_
    intro empty
    simp [empty] at plain
  exact ⟨rfl, Nat.lt_add_of_pos_right positive⟩

/-- A run of word characters with a plain start is found as an identifier, if no word character and
    no `$` stands before it: an identifier that began before it would go on up to it. -/
theorem runMatch_mem_findAll_identifiers {text : Text} {here : Cursor}
    (isCursor : here ∈ (Cursor.start text).through text) (starts : here.startsWord)
    (plain : here.run.head?.any isPlainStart) : here.runMatch ∈ identifiers.findAll text := by
  have found : here.runMatch ∈ identifiers.matchesAt here := by
    rw [matchesAt_identifiers, starts, plain]
    exact List.mem_singleton_self _
  rcases mem_findFrom_or_hidden 0 isCursor found with member | before | hidden
  · exact member
  · exact absurd before (Nat.not_lt_zero _)
  · obtain ⟨other, isOther, before, beyond⟩ := hidden
    obtain ⟨there, isThere, _, rfl⟩ := exists_of_mem_findAll_identifiers isOther
    have rest : there.rest = text.drop there.column := (Cursor.of_mem_through rfl rfl rfl isThere).2
    have last := Cursor.last_of_mem_through rfl rfl isCursor
    change there.column < here.column at before
    change here.column < there.column + there.run.length at beyond
    -- The character before the run belongs to the other identifier.
    have inRun : here.column - 1 - there.column < there.run.length := by omega
    have isChar : text[here.column - 1]? = some there.run[here.column - 1 - there.column] := by
      have inRest : text[here.column - 1]? = there.rest[here.column - 1 - there.column]? := by
        rw [rest, List.getElem?_drop, Nat.add_sub_cancel' (by omega)]
      have ofRun : there.run <+: there.rest := List.takeWhile_prefix isWordChar
      rw [inRest, ofRun.getElem inRun]
      exact List.getElem?_eq_getElem _
    have word : isWordChar there.run[here.column - 1 - there.column] :=
      List.mem_takeWhile_imp (List.getElem_mem inRun)
    rw [Cursor.startsWord, last, List.getLast?_take, if_neg (by omega), isChar] at starts
    simp [word] at starts

end Pattern

/-- Whether `a` comes before `b` in a file, without overlapping it. -/
def Location.Before (a b : Location) : Prop :=
  a.line < b.line ∨ a.line = b.line ∧ a.start < b.start ∧ a.stop ≤ b.start

namespace Document

open Pattern WordSearch

variable {d : Document} {word : Text}

/-- What is found in lines is found in one of them. -/
theorem mem_findIn {p : Pattern} {n : Nat} {lines : List Text} {f : Finding} :
    f ∈ d.findIn p n lines ↔
      ∃ k line m, lines[k]? = some line ∧ m ∈ p.findAll line ∧
        f = .ofMatch d (n + k) line p m := by
  induction lines generalizing n with
  | nil => simp [findIn]
  | cons line lines ih =>
    rw [findIn, List.mem_append, List.mem_map, ih]
    constructor
    · rintro (⟨m, found, rfl⟩ | ⟨k, other, m, isLine, found, rfl⟩)
      · exact ⟨0, line, m, rfl, found, rfl⟩
      · exact ⟨k + 1, other, m, isLine, found, by rw [Nat.add_assoc, Nat.add_comm 1]⟩
    · rintro ⟨k, other, m, isLine, found, rfl⟩
      cases k with
      | zero =>
        obtain rfl := Option.some.inj isLine
        exact .inl ⟨m, found, rfl⟩
      | succ k => exact .inr ⟨k, other, m, isLine, found, by rw [Nat.add_assoc, Nat.add_comm 1]⟩

/-- Everything that a search for a word finds in a document is the word. -/
theorem hasWordAt_of_mem_find (nonempty : word ≠ []) {f : Finding}
    (member : f ∈ d.find (uses word)) :
    f.document = d ∧ f.location.path = d.path ∧
      f.location.stop = f.location.start + word.length ∧
      ∃ line, d.lines[f.location.line]? = some line ∧ line.HasWordAt word f.location.start := by
  obtain ⟨n, line, m, isLine, found, rfl⟩ := mem_findIn.1 member
  obtain ⟨hasWord, stop, isSpan⟩ := hasWordAt_of_mem_findAll nonempty found
  change (_ = _) ∧ (_ = _) ∧ m.wordSpan.stop = m.wordSpan.start + word.length ∧
    ∃ line, d.lines[0 + n]? = some line ∧ line.HasWordAt word m.wordSpan.start
  rw [isSpan, Nat.zero_add]
  exact ⟨rfl, rfl, stop, line, isLine, hasWord⟩

/-- A use that consists of word characters is found. -/
theorem exists_mem_find (nonempty : word ≠ []) {n column : Nat} {line : Text}
    (isLine : d.lines[n]? = some line) (hasWord : line.HasWordAt word column)
    (ofWord : ∀ c ∈ line.slice column (column + word.length), isWordChar c) :
    ∃ f ∈ d.find (uses word), f.location = ⟨d.path, n, column, column + word.length⟩ := by
  obtain ⟨m, found, isSpan⟩ := exists_mem_findAll nonempty hasWord ofWord
  refine ⟨_, mem_findIn.2 ⟨n, line, m, isLine, found, rfl⟩, ?_⟩
  change (⟨d.path, 0 + n, m.wordSpan.start, m.wordSpan.stop⟩ : Location) = _
  rw [isSpan, Nat.zero_add]

/-- What is found in a document is at its path. -/
theorem path_of_mem_find {p : Pattern} {f : Finding} (member : f ∈ d.find p) :
    f.location.path = d.path := by
  obtain ⟨_, _, _, _, _, rfl⟩ := mem_findIn.1 member
  rfl

/-- Words are found in order, and none of them overlaps another. -/
theorem pairwise_find {p : Pattern} (finds : p.FindsWords) (d : Document) :
    (d.find p).Pairwise fun a b => a.location.Before b.location := by
  have general : ∀ (n : Nat) (lines : List Text),
      (d.findIn p n lines).Pairwise fun a b => a.location.Before b.location := by
    intro n lines
    induction lines generalizing n with
    | nil => exact List.Pairwise.nil
    | cons line lines ih =>
      refine List.pairwise_append.2 ⟨?_, ih (n + 1), ?_⟩
      · refine List.pairwise_map.2 ((pairwise_findAll _ line).imp_of_mem ?_)
        intro a b isA isB before
        obtain ⟨spanA, positive⟩ := finds line a isA
        obtain ⟨spanB, _⟩ := finds line b isB
        refine .inr ⟨rfl, ?_, ?_⟩
        · change a.wordSpan.start < b.wordSpan.start
          rw [spanA, spanB]
          omega
        · change a.wordSpan.stop ≤ b.wordSpan.start
          rwa [spanA, spanB]
      · intro a here b there
        obtain ⟨m, _, rfl⟩ := List.mem_map.1 here
        exact .inl (line_of_mem_findIn there)
  exact general 0 d.lines

/-- Words are found tidy. -/
theorem tidy_find_words {p : Pattern} (finds : p.FindsWords) (d : Document) :
    Search.tidy (d.find p) = d.find p := by
  apply Search.tidy_of_pairwise
  refine (pairwise_find finds d).imp ?_
  rintro a b (earlier | ⟨sameLine, before, _⟩)
  · exact .inl earlier
  · exact .inr ⟨sameLine, before⟩

end Document
end AsmAtlas
