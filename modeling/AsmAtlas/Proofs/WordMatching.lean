import AsmAtlas.Grammar.WordSearch
import AsmAtlas.Proofs.Matching
import Mathlib.Data.List.Basic

/-!
# Finding whole words

Two patterns look for whole words: one for every identifier, one for a given word up to case. Both
match at the first character of a run of word characters and take the run as a whole, so nothing
they find hides something else, and a line has the same places for both up to the test of the run.
In ASCII text that test is one and the same: to be the word up to case.
-/

namespace AsmAtlas

/-- A text of ASCII characters only. -/
def Text.IsAscii (t : Text) : Prop :=
  ∀ c ∈ t, c.toNat < 0x80

/-- Accepted characters are taken up to the first one that is not accepted. -/
theorem Text.takeWhile_append_of_stops {accepts : Char → Bool} {t u : Text}
    (accepted : ∀ c ∈ t, accepts c) (stops : ¬u.head?.any accepts) :
    (t ++ u).takeWhile accepts = t ∧ (t ++ u).dropWhile accepts = u := by
  rw [List.takeWhile_append_of_pos accepted, List.dropWhile_append_of_pos accepted]
  cases u with
  | nil => exact ⟨List.append_nil t, rfl⟩
  | cons c u =>
    have refused : ¬accepts c := stops
    rw [List.takeWhile_cons_of_neg refused, List.dropWhile_cons_of_neg refused]
    exact ⟨List.append_nil t, rfl⟩

/-- What holds of the first 128 characters holds of every ASCII character. -/
theorem ascii_induction (holds : Char → Prop) (each : ∀ n < 0x80, holds (Char.ofNat n)) (c : Char)
    (ascii : c.toNat < 0x80) : holds c := by
  have := each c.toNat ascii
  rwa [Char.ofNat_toNat] at this

theorem isWordChar_caseKey : ∀ c : Char, c.toNat < 0x80 → isWordChar (caseKey c) = isWordChar c :=
  ascii_induction _ (by decide +kernel)

theorem isPlainStart_caseKey :
    ∀ c : Char, c.toNat < 0x80 → isPlainStart (caseKey c) = isPlainStart c :=
  ascii_induction _ (by decide +kernel)

theorem isLetter_or_underscore :
    ∀ c : Char, c.toNat < 0x80 → (isLetter c || c == '_') = isPlainStart c :=
  ascii_induction _ (by decide +kernel)

theorem isWordChar_of_isPlainStart {c : Char} (starts : isPlainStart c) : isWordChar c := by
  simp only [isPlainStart, Bool.or_eq_true] at starts
  rcases starts with alpha | underscore
  · simp [isWordChar, isAlnum, Char.isAlphanum, alpha]
  · simp [isWordChar, underscore]

/-- The case folding of an ASCII text goes character by character. -/
theorem foldCase_ascii {t : Text} (ascii : t.IsAscii) : foldCase t = t.map caseKey := by
  induction t with
  | nil => rfl
  | cons c t ih =>
    have here : c.toNat < 0x80 := ascii c List.mem_cons_self
    have single : foldChar c = [caseKey c] := by simp [foldChar, caseKey, here]
    have tail : foldCase t = t.map caseKey :=
      ih fun b member => ascii b (List.mem_cons_of_mem c member)
    rw [foldCase, List.flatMap_cons, single, List.map_cons, ← tail, foldCase]
    rfl

/-- Whether an ASCII text has a plain start does not depend on case. -/
theorem head_isPlainStart {t : Text} (ascii : t.IsAscii) :
    t.head?.any isPlainStart = (t.map caseKey).head?.any isPlainStart := by
  cases t with
  | nil => rfl
  | cons c t => exact (isPlainStart_caseKey c (ascii c List.mem_cons_self)).symm

namespace Cursor

/-- The cursor `n` characters further on. -/
def forward (here : Cursor) : Nat → Cursor
  | 0 => here
  | n + 1 =>
    match here.rest with
    | [] => here
    | c :: rest => (here.advance c rest).forward n

/-- The word characters from a cursor on. -/
def run (here : Cursor) : Text :=
  here.rest.takeWhile isWordChar

/-- Whether a word can start at a cursor: it is not inside another one or a number. -/
def startsWord (here : Cursor) : Bool :=
  !here.last.any fun c => isWordChar c || c == '$'

/-- Whether the character at a cursor does not continue a word. -/
def endsWord (here : Cursor) : Bool :=
  !here.rest.head?.any isWordChar

@[simp] theorem rest_advance (here : Cursor) (c : Char) (rest : Text) :
    (here.advance c rest).rest = rest := rfl

@[simp] theorem column_advance (here : Cursor) (c : Char) (rest : Text) :
    (here.advance c rest).column = here.column + 1 := rfl

@[simp] theorem noted_forward (here : Cursor) (n : Nat) : (here.forward n).noted = here.noted := by
  induction n generalizing here with
  | zero => rfl
  | succ n ih => cases rest : here.rest <;> simp [forward, rest, ih, advance]

theorem column_forward (here : Cursor) {n : Nat} (inside : n ≤ here.rest.length) :
    (here.forward n).column = here.column + n := by
  induction n generalizing here with
  | zero => rfl
  | succ n ih =>
    cases rest : here.rest with
    | nil => simp [rest] at inside
    | cons c tail =>
      have moved := ih (here.advance c tail) (by simpa [advance, rest] using inside)
      rw [forward, rest, moved, column_advance]
      omega

theorem length_run_le (here : Cursor) : here.run.length ≤ here.rest.length :=
  (List.takeWhile_prefix isWordChar).length_le

theorem run_cons {here : Cursor} {c : Char} {rest : Text} (follows : here.rest = c :: rest)
    (word : isWordChar c) : here.run = c :: (here.advance c rest).run := by
  simp [run, follows, word, advance]

theorem run_eq_nil {here : Cursor} {c : Char} {rest : Text} (follows : here.rest = c :: rest)
    (other : isWordChar c = false) : here.run = [] := by
  simp [run, follows, other]

/-- The cursor behind the run. -/
def runEnd (here : Cursor) : Cursor :=
  here.forward here.run.length

theorem column_runEnd (here : Cursor) : here.runEnd.column = here.column + here.run.length :=
  column_forward here here.length_run_le

@[simp] theorem noted_runEnd (here : Cursor) : here.runEnd.noted = here.noted :=
  noted_forward here _

theorem runEnd_cons {here : Cursor} {c : Char} {rest : Text} (follows : here.rest = c :: rest)
    (word : isWordChar c) : here.runEnd = (here.advance c rest).runEnd := by
  rw [runEnd, run_cons follows word, List.length_cons, forward, follows, runEnd]

theorem runEnd_of_run_nil {here : Cursor} (stops : here.run = []) : here.runEnd = here := by
  rw [runEnd, stops]
  rfl

end Cursor

namespace Pattern

open WordSearch

/-- Of the ways to take word characters only the longest ends at the end of a word. -/
theorem filter_manyEnds (here : Cursor) (rest : Text) (follows : here.rest = rest) :
    (manyEnds isWordChar here rest).filter Cursor.endsWord = [here.runEnd] := by
  induction rest generalizing here with
  | nil =>
    have stops : here.run = [] := by simp [Cursor.run, follows]
    simp [manyEnds, Cursor.endsWord, follows, Cursor.runEnd_of_run_nil stops]
  | cons c rest ih =>
    cases word : isWordChar c with
    | true =>
      have inside : here.endsWord = false := by simp [Cursor.endsWord, follows, word]
      have tail := ih (here.advance c rest) rfl
      simp [manyEnds, word, inside, tail, Cursor.runEnd_cons follows word]
    | false =>
      have ends : here.endsWord = true := by simp [Cursor.endsWord, follows, word]
      have stops := Cursor.run_eq_nil follows word
      simp [manyEnds, word, ends, Cursor.runEnd_of_run_nil stops]

/-- An identifier that ends with its word is a run with a plain start. -/
theorem filter_ends_identifier (here : Cursor) :
    ((seq (char isPlainStart) (many isWordChar)).ends here).filter Cursor.endsWord =
      if here.run.head?.any isPlainStart then [here.runEnd] else [] := by
  cases follows : here.rest with
  | nil => simp [ends, follows, Cursor.run]
  | cons c rest =>
    cases plain : isPlainStart c with
    | true =>
      have word := isWordChar_of_isPlainStart plain
      have tail := filter_manyEnds (here.advance c rest) rest rfl
      simp only [ends, follows, plain, if_true, List.flatMap_cons, List.flatMap_nil,
        List.append_nil]
      rw [Cursor.run_cons follows word, Cursor.runEnd_cons follows word]
      simpa [plain] using tail
    | false =>
      have head : here.run.head?.any isPlainStart = false := by
        cases word : isWordChar c <;> simp [Cursor.run, follows, word, plain]
      simp [ends, follows, plain, head]

/-- A word up to case that ends with its word is a run that spells it. -/
theorem filter_ends_spelled {word : Text} (ofWord : ∀ c ∈ word, isWordChar c) (ascii : word.IsAscii)
    (here : Cursor) (asciiRest : here.rest.IsAscii) :
    ((spelled word).ends here).filter Cursor.endsWord =
      if here.run.map caseKey = word.map caseKey then [here.runEnd] else [] := by
  induction word generalizing here with
  | nil =>
    cases follows : here.rest with
    | nil =>
      have stops : here.run = [] := by simp [Cursor.run, follows]
      simp [spelled, ends, Cursor.endsWord, follows, stops, Cursor.runEnd_of_run_nil stops]
    | cons c rest =>
      cases isWord : isWordChar c with
      | true =>
        simp [spelled, ends, Cursor.endsWord, follows, isWord, Cursor.run_cons follows isWord]
      | false =>
        have stops := Cursor.run_eq_nil follows isWord
        simp [spelled, ends, Cursor.endsWord, follows, isWord, stops,
          Cursor.runEnd_of_run_nil stops]
  | cons c word ih =>
    cases follows : here.rest with
    | nil => simp [spelled, letter, ends, follows, Cursor.run]
    | cons d rest =>
      have asciiHere : c.toNat < 0x80 := ascii c List.mem_cons_self
      have asciiThere : d.toNat < 0x80 := asciiRest d (by simp [follows])
      have unfolded : (spelled (c :: word)).ends here =
          if sameLetter c d then (spelled word).ends (here.advance d rest) else [] := by
        cases same : sameLetter c d <;> simp [spelled, letter, ends, follows, same]
      by_cases same : caseKey c = caseKey d
      · have isWord : isWordChar d := by
          rw [← isWordChar_caseKey d asciiThere, ← same, isWordChar_caseKey c asciiHere]
          exact ofWord c List.mem_cons_self
        have tail := ih (fun b member => ofWord b (List.mem_cons_of_mem c member))
          (fun b member => ascii b (List.mem_cons_of_mem c member)) (here.advance d rest)
          (fun b member => asciiRest b (by rw [follows]; exact List.mem_cons_of_mem d member))
        rw [unfolded, if_pos (by simpa [sameLetter] using same), tail,
          Cursor.run_cons follows isWord, Cursor.runEnd_cons follows isWord]
        simp [same]
      · have differs : here.run.map caseKey ≠ (c :: word).map caseKey := by
          cases isWord : isWordChar d with
          | true => simp [Cursor.run_cons follows isWord, Ne.symm same]
          | false => simp [Cursor.run_eq_nil follows isWord]
        rw [unfolded, if_neg (by simpa [sameLetter] using same), if_neg differs]
        rfl

/-- A pattern that takes whole runs of ASCII word characters, those that pass a test. -/
structure TakesRuns (p : Pattern) (accepts : Text → Bool) : Prop where
  nonempty : accepts [] = false
  ends_eq : ∀ here : Cursor, here.rest.IsAscii →
    p.ends here =
      if here.startsWord && accepts here.run then [here.runEnd.note .word here.column] else []

theorem ends_wordStart (here : Cursor) :
    wordStart.ends here = if here.startsWord then [here] else [] := by
  rw [wordStart, ends, Cursor.startsWord]
  cases here.last.any fun c => isWordChar c || c == '$' <;> rfl

theorem ends_notAhead_wordChar (here : Cursor) :
    (notAhead (char isWordChar)).ends here = if here.endsWord then [here] else [] := by
  cases follows : here.rest with
  | nil => simp [ends, follows, Cursor.endsWord]
  | cons c rest => cases word : isWordChar c <;> simp [ends, follows, word, Cursor.endsWord]

/-- Between the edges of a word, ends matter only where the word ends. -/
theorem ends_wholeWord (body : Pattern) (here : Cursor) :
    (all [wordStart, group .word body, notAhead (char isWordChar)]).ends here =
      if here.startsWord then
        ((body.ends here).filter Cursor.endsWord).map (·.note .word here.column)
      else [] := by
  have noted : ∀ there : List Cursor,
      (there.map (·.note .word here.column)).flatMap (notAhead (char isWordChar)).ends =
        (there.filter Cursor.endsWord).map (·.note .word here.column) := by
    intro there
    induction there with
    | nil => rfl
    | cons next there ih =>
      have kept : (next.note .word here.column).endsWord = next.endsWord := rfl
      rw [List.map_cons, List.flatMap_cons, ih, ends_notAhead_wordChar, kept]
      cases ends : next.endsWord <;> simp [ends]
  change (wordStart.ends here).flatMap
    (seq (group .word body) (notAhead (char isWordChar))).ends = _
  rw [ends_wordStart]
  cases here.startsWord with
  | true => exact (List.append_nil _).trans (noted (body.ends here))
  | false => rfl

/-- An identifier takes the run at a cursor, if a word starts there and the run has a plain
    start. -/
theorem ends_identifiers (here : Cursor) :
    identifiers.ends here =
      if here.startsWord && here.run.head?.any isPlainStart then
        [here.runEnd.note .word here.column]
      else [] := by
  rw [identifiers, ends_wholeWord, filter_ends_identifier]
  cases here.startsWord <;> cases here.run.head?.any isPlainStart <;> simp

theorem takesRuns_identifiers : TakesRuns identifiers fun run => run.head?.any isPlainStart :=
  ⟨rfl, fun here _ => ends_identifiers here⟩

theorem takesRuns_uses {word : Text} (ofWord : ∀ c ∈ word, isWordChar c) (ascii : word.IsAscii)
    (nonempty : word ≠ []) :
    TakesRuns (uses word) fun run => run.map caseKey == word.map caseKey := by
  refine ⟨by simpa using Ne.symm nonempty, ?_⟩
  intro here asciiRest
  rw [uses, ends_wholeWord, filter_ends_spelled ofWord ascii here asciiRest]
  by_cases spells : here.run.map caseKey = word.map caseKey <;> cases here.startsWord <;>
    simp [spells]

end Pattern

/-- Where a match has the searched word, or the whole match of patterns that note none. -/
def Match.wordSpan (m : Match) : Span :=
  (m.group? .word).getD m.span

namespace Cursor

/-- The match of the run at a cursor. -/
def runMatch (here : Cursor) : Match :=
  let span : Span := ⟨here.column, here.column + here.run.length⟩
  ⟨span, (.word, span) :: here.noted⟩

/-- The cursors from `here` on, one before each character that is left and one at the end. -/
def through (here : Cursor) : Text → List Cursor
  | [] => [here]
  | c :: rest => here :: (here.advance c rest).through rest

theorem column_le_of_mem_through {first here : Cursor} {rest : Text}
    (member : here ∈ first.through rest) : first.column ≤ here.column := by
  induction rest generalizing first with
  | nil => exact Nat.le_of_eq (congrArg column (List.mem_singleton.1 member).symm)
  | cons c rest ih =>
    rcases List.mem_cons.1 member with rfl | later
    · exact Nat.le_refl _
    · have := ih later
      rw [column_advance] at this
      omega

theorem pairwise_through (here : Cursor) (rest : Text) :
    (here.through rest).Pairwise fun a b => a.column < b.column := by
  induction rest generalizing here with
  | nil => exact List.pairwise_singleton _ _
  | cons c rest ih =>
    refine List.pairwise_cons.2 ⟨?_, ih _⟩
    intro later member
    have := column_le_of_mem_through member
    rw [column_advance] at this
    omega

/-- The cursors of a line have noted nothing, and what is left there is the end of the line. -/
theorem of_mem_through {line : Text} {first here : Cursor} {rest : Text}
    (fresh : first.noted = []) (follows : first.rest = rest) (left : rest = line.drop first.column)
    (member : here ∈ first.through rest) :
    here.noted = [] ∧ here.rest = line.drop here.column := by
  induction rest generalizing first with
  | nil =>
    rw [List.mem_singleton.1 member]
    exact ⟨fresh, follows.trans left⟩
  | cons c rest ih =>
    rcases List.mem_cons.1 member with rfl | later
    · exact ⟨fresh, follows.trans left⟩
    · have leftNext : rest = line.drop (first.advance c rest).column := by
        rw [column_advance, ← List.tail_drop, ← left, List.tail_cons]
      exact @ih (first.advance c rest) fresh rfl leftNext later

/-- The match of a run has the run as its text. -/
theorem of_wordSpan_runMatch {line : Text} {here : Cursor}
    (left : here.rest = line.drop here.column) :
    here.runMatch.wordSpan.of line = here.run := by
  have taken := List.prefix_iff_eq_take.1 (List.takeWhile_prefix isWordChar (l := here.rest))
  change line.slice here.column (here.column + here.run.length) = here.run
  rw [Text.slice, List.drop_take, Nat.add_sub_cancel_left, ← left]
  exact taken.symm

/-- Where `resume` lies beyond the cursor, the cursor is in a run that goes on to `resume`. -/
def InRunTo (here : Cursor) (resume : Nat) : Prop :=
  here.column < resume →
    here.last.any isWordChar ∧ resume ≤ here.column + here.run.length

theorem inRunTo_advance (here : Cursor) {c : Char} {rest : Text} (follows : here.rest = c :: rest) :
    (here.advance c rest).InRunTo (here.column + here.run.length) := by
  intro beyond
  rw [column_advance] at beyond ⊢
  cases word : isWordChar c with
  | false =>
    rw [run_eq_nil follows word, List.length_nil] at beyond
    omega
  | true =>
    refine ⟨by simpa [advance] using word, ?_⟩
    rw [run_cons follows word, List.length_cons]
    omega

theorem InRunTo.advance {here : Cursor} {resume : Nat} (inRun : here.InRunTo resume) {c : Char}
    {rest : Text} (follows : here.rest = c :: rest) : (here.advance c rest).InRunTo resume := by
  intro beyond
  rw [column_advance] at beyond
  have reaches := (inRun (by omega)).2
  obtain ⟨inside, bound⟩ := here.inRunTo_advance follows (by rw [column_advance]; omega)
  exact ⟨inside, by omega⟩

end Cursor

namespace Pattern

open WordSearch

variable {p : Pattern} {accepts : Text → Bool}

/-- A pattern that takes nothing at a cursor but the run there matches the run. -/
theorem matchesAt_of_ends {here : Cursor} {accepted : Bool}
    (nonempty : accepted → here.run ≠ [])
    (ends : p.ends here = if accepted then [here.runEnd.note .word here.column] else []) :
    p.matchesAt here = if accepted then [here.runMatch] else [] := by
  cases found : accepted with
  | false =>
    have none : p.ends here = [] := by simpa [found] using ends
    simp [matchesAt, matchWhere_eq, none]
  | true =>
    have one : p.ends here = [here.runEnd.note .word here.column] := by simpa [found] using ends
    have matched : matchTo here (here.runEnd.note .word here.column) = here.runMatch := by
      simp [matchTo, Cursor.runMatch, Cursor.note, Cursor.column_runEnd]
    have longer : here.runMatch.span.stop ≠ here.runMatch.span.start := by
      simpa [Cursor.runMatch] using nonempty found
    simp [matchesAt, matchWhere_eq, one, matched, longer]

theorem TakesRuns.matchesAt_eq (takes : TakesRuns p accepts) {here : Cursor}
    (ascii : here.rest.IsAscii) :
    p.matchesAt here =
      if here.startsWord && accepts here.run then [here.runMatch] else [] := by
  refine matchesAt_of_ends ?_ (takes.ends_eq here ascii)
  intro found empty
  simp [empty, takes.nonempty] at found

/-- Nothing is passed over on account of the match before: where that one reaches beyond the cursor,
    no word starts. -/
theorem TakesRuns.matchesFrom_eq (takes : TakesRuns p accepts) {resume : Nat} {here : Cursor}
    (ascii : here.rest.IsAscii) (inRun : here.InRunTo resume) :
    p.matchesFrom resume here =
      if here.startsWord && accepts here.run then [here.runMatch] else [] := by
  rw [matchesFrom, takes.matchesAt_eq ascii]
  by_cases blocked : here.column < resume
  · obtain ⟨c, last, word⟩ := (Option.any_eq_true _ _).1 (inRun blocked).1
    have inside : here.startsWord = false := by simp [Cursor.startsWord, last, word]
    simp [blocked, inside]
  · simp [blocked]

theorem TakesRuns.findFrom_eq (takes : TakesRuns p accepts) {resume : Nat} {here : Cursor}
    {rest : Text} (follows : here.rest = rest) (ascii : rest.IsAscii)
    (inRun : here.InRunTo resume) :
    p.findFrom resume here rest =
      ((here.through rest).filter fun there => there.startsWord && accepts there.run).map
        Cursor.runMatch := by
  induction rest generalizing here resume with
  | nil =>
    rw [findFrom, takes.matchesFrom_eq (follows ▸ ascii) inRun, Cursor.through]
    cases found : here.startsWord && accepts here.run <;> simp [found]
  | cons c rest ih =>
    have asciiRest : Text.IsAscii rest := fun b member => ascii b (List.mem_cons_of_mem c member)
    rw [findFrom, takes.matchesFrom_eq (follows ▸ ascii) inRun, Cursor.through]
    cases found : here.startsWord && accepts here.run with
    | false => simp [found, ih rfl asciiRest (inRun.advance follows)]
    | true =>
      have next := ih rfl asciiRest (here.inRunTo_advance follows)
      simpa [found, Cursor.runMatch] using next

/-- What such a pattern finds in a line: the match of every run that passes. -/
theorem TakesRuns.findAll_eq (takes : TakesRuns p accepts) {line : Text} (ascii : line.IsAscii) :
    p.findAll line =
      (((Cursor.start line).through line).filter fun here =>
        here.startsWord && accepts here.run).map Cursor.runMatch :=
  takes.findFrom_eq rfl ascii (fun beyond => absurd beyond (Nat.not_lt_zero _))

/-- The matches in a line start at different columns, in order. -/
theorem TakesRuns.pairwise_findAll (takes : TakesRuns p accepts) {line : Text}
    (ascii : line.IsAscii) :
    (p.findAll line).Pairwise fun a b => a.wordSpan.start < b.wordSpan.start := by
  rw [takes.findAll_eq ascii, List.pairwise_map]
  exact ((Cursor.start line).pairwise_through line).filter _

/-- In an ASCII line the uses of a word are the identifiers that are the word up to case. -/
theorem findAll_uses {word : Text} (ofWord : ∀ c ∈ word, isWordChar c) (asciiWord : word.IsAscii)
    (plain : word.head?.any isPlainStart) {line : Text} (ascii : line.IsAscii) :
    (uses word).findAll line =
      (identifiers.findAll line).filter fun m =>
        foldCase (m.wordSpan.of line) == foldCase word := by
  have nonempty : word ≠ [] := by
    rintro rfl
    simp at plain
  rw [(takesRuns_uses ofWord asciiWord nonempty).findAll_eq ascii,
    takesRuns_identifiers.findAll_eq ascii, List.filter_map, List.filter_filter]
  congr 1
  apply List.filter_congr
  intro here member
  have left : here.rest = line.drop here.column := (Cursor.of_mem_through rfl rfl rfl member).2
  have asciiRun : here.run.IsAscii := fun c inRun =>
    ascii c (List.mem_of_mem_drop (left ▸ List.takeWhile_subset _ inRun))
  simp only [Function.comp_apply, Cursor.of_wordSpan_runMatch left, foldCase_ascii asciiRun,
    foldCase_ascii asciiWord]
  by_cases spells : here.run.map caseKey = word.map caseKey
  · have plainRun : here.run.head?.any isPlainStart := by
      rw [head_isPlainStart asciiRun, spells, ← head_isPlainStart asciiWord]
      exact plain
    simp [spells, plainRun]
  · have other : (here.run.map caseKey == word.map caseKey) = false := beq_eq_false_iff_ne.2 spells
    rw [other, Bool.and_false, Bool.false_and]

end Pattern
end AsmAtlas
