import AsmAtlas.Proofs.MatchSpans

/-!
# Words that have a query

Declarations are searched by patterns of one shape: a lead that takes as much as it can, then the
wanted word, then a look at what follows. A word that has the characters of a query in their order
consists of characters of dotted names, as long as no other character of the line is a case form of
one of the query. What follows it is not the rest of a dotted name, so the word goes from its start
to the end of the name, and the lead stops at the last place from which a word can be taken.
-/

namespace AsmAtlas

/-- A name has a query if the characters of the query stand in it in their order, up to case. -/
def Text.HasQuery (name query : Text) : Prop :=
  (query.map caseKey).Sublist (name.map caseKey)

instance (name query : Text) : Decidable (name.HasQuery query) :=
  inferInstanceAs (Decidable (List.Sublist _ _))

/-- Only word characters of a line are case forms of characters of a query. -/
def Text.Spells (line query : Text) : Prop :=
  ∀ q ∈ query, ∀ c ∈ line, sameLetter q c → isWordChar c

/-- In ASCII text a case form of a word character is one as well. -/
theorem Text.spells_of_isAscii {line query : Text} (ascii : line.IsAscii)
    (asciiQuery : query.IsAscii) (ofWord : ∀ q ∈ query, isWordChar q) : line.Spells query := by
  intro q isQuery c inLine same
  rw [← isWordChar_caseKey c (ascii c inLine), ← beq_iff_eq.1 same,
    isWordChar_caseKey q (asciiQuery q isQuery)]
  exact ofWord q isQuery

/-- A cursor of a line: what is left and the character before are those of the line. -/
structure Cursor.IsOn (line : Text) (here : Cursor) : Prop where
  rest : here.rest = line.drop here.column
  last : here.last = (line.take here.column).getLast?

namespace Cursor

variable {line : Text} {here there : Cursor}

theorem isOn_start (line : Text) : (start line).IsOn line :=
  ⟨rfl, rfl⟩

theorem IsOn.advance (on : here.IsOn line) {c : Char} {rest : Text}
    (follows : here.rest = c :: rest) : (here.advance c rest).IsOn line := by
  have left : line.drop here.column = c :: rest := on.rest ▸ follows
  refine ⟨?_, ?_⟩
  · rw [rest_advance, column_advance, ← List.tail_drop, left, List.tail_cons]
  · rw [column_advance, List.take_add_one, ← List.head?_drop, left]
    simp [Cursor.advance]

theorem IsOn.note (on : here.IsOn line) (g : Group) (start : Nat) : (here.note g start).IsOn line :=
  ⟨on.rest, on.last⟩

/-- The characters between two cursors of a line are those from the one column to the other. -/
theorem Between.slice_eq {groups : List Group} {run : Text}
    (between : Between groups here run there) (on : here.IsOn line) :
    line.slice here.column there.column = run := by
  rw [Text.slice, List.drop_take, ← on.rest, between.rest, between.column,
    Nat.add_sub_cancel_left, List.take_left]

end Cursor

namespace Pattern

open Cursor WordSearch

variable {line : Text} {here there : Cursor} {accepts : Char → Bool}

theorem isOn_of_mem_manyEnds {rest : Text} (on : here.IsOn line) (follows : here.rest = rest)
    (member : there ∈ manyEnds accepts here rest) : there.IsOn line := by
  induction rest generalizing here with
  | nil => exact List.mem_singleton.1 member ▸ on
  | cons c rest ih =>
    rw [manyEnds] at member
    split_ifs at member
    · rcases List.mem_append.1 member with longer | stops
      · exact ih (on.advance follows) (here.rest_advance c rest) longer
      · exact List.mem_singleton.1 stops ▸ on
    · exact List.mem_singleton.1 member ▸ on

theorem isOn_of_mem_fewEnds {rest : Text} (on : here.IsOn line) (follows : here.rest = rest)
    (member : there ∈ fewEnds accepts here rest) : there.IsOn line := by
  induction rest generalizing here with
  | nil => exact List.mem_singleton.1 member ▸ on
  | cons c rest ih =>
    rcases List.mem_cons.1 member with rfl | longer
    · exact on
    · split_ifs at longer
      · exact ih (on.advance follows) (here.rest_advance c rest) longer
      · simp at longer

theorem mem_ends_char :
    there ∈ (char accepts).ends here ↔
      ∃ c rest, here.rest = c :: rest ∧ accepts c ∧ there = here.advance c rest := by
  rw [ends]
  cases here.rest with
  | nil => simp
  | cons c rest => by_cases accepted : accepts c <;> simp [accepted]

/-- A pattern goes from cursors of a line to cursors of the line. -/
theorem isOn_of_mem_ends {p : Pattern} (on : here.IsOn line) (member : there ∈ p.ends here) :
    there.IsOn line := by
  induction p generalizing here there with
  | never => simp [ends] at member
  | empty => exact List.mem_singleton.1 member ▸ on
  | char accepts =>
    obtain ⟨c, rest, follows, _, rfl⟩ := mem_ends_char.1 member
    exact on.advance follows
  | many accepts => exact isOn_of_mem_manyEnds on rfl member
  | few accepts => exact isOn_of_mem_fewEnds on rfl member
  | seq p q ihp ihq =>
    obtain ⟨middle, inFirst, inSecond⟩ := List.mem_flatMap.1 member
    exact ihq (ihp on inFirst) inSecond
  | alt p q ihp ihq => exact (List.mem_append.1 member).elim (ihp on) (ihq on)
  | group g p ih =>
    obtain ⟨stop, inBody, rfl⟩ := List.mem_map.1 member
    exact (ih on inBody).note g _
  | ahead p => exact eq_of_mem_ends_ahead member ▸ on
  | notAhead p => exact eq_of_mem_ite member ▸ on
  | notBehind accepts => exact eq_of_mem_ite_not member ▸ on
  | wordEdge => exact eq_of_mem_ite member ▸ on
  | lineStart => exact eq_of_mem_ends_lineStart member ▸ on
  | lineEnd => exact eq_of_mem_ite member ▸ on
  | textEnd => exact eq_of_mem_ite member ▸ on

theorem self_mem_manyEnds (accepts : Char → Bool) (here : Cursor) (rest : Text) :
    here ∈ manyEnds accepts here rest := by
  cases rest with
  | nil => exact List.mem_singleton_self here
  | cons c rest =>
    rw [manyEnds]
    split_ifs <;> simp

/-- A greedy repetition may take any stretch of accepted characters. -/
theorem exists_mem_ends_many {run rest : Text} (split : here.rest = run ++ rest)
    (accepted : ∀ c ∈ run, accepts c) :
    ∃ there ∈ (many accepts).ends here,
      there.rest = rest ∧ there.column = here.column + run.length := by
  rw [ends, split]
  induction run generalizing here with
  | nil => exact ⟨here, self_mem_manyEnds accepts here rest, split, rfl⟩
  | cons c run ih =>
    have acceptedHere := accepted c List.mem_cons_self
    obtain ⟨there, member, left, column⟩ := ih (here.rest_advance c (run ++ rest))
      fun d inRun => accepted d (List.mem_cons_of_mem c inRun)
    refine ⟨there, ?_, left, ?_⟩
    · rw [List.cons_append, manyEnds, if_pos acceptedHere]
      exact List.mem_append_left _ member
    · rw [column, column_advance, List.length_cons]
      omega

theorem column_le_of_mem_manyEnds {rest : Text} (member : there ∈ manyEnds accepts here rest) :
    there.column ≤ here.column + (rest.takeWhile accepts).length := by
  induction rest generalizing here with
  | nil => exact Nat.le_of_eq (congrArg column (List.mem_singleton.1 member))
  | cons c rest ih =>
    rw [manyEnds] at member
    split_ifs at member with accepted
    · rcases List.mem_append.1 member with longer | stops
      · have bound := ih longer
        rw [column_advance] at bound
        rw [List.takeWhile_cons_of_pos accepted, List.length_cons]
        omega
      · rw [List.mem_singleton.1 stops]
        exact Nat.le_add_right _ _
    · rw [List.mem_singleton.1 member]
      exact Nat.le_add_right _ _

/-- The longer stretches come first. -/
theorem pairwise_manyEnds (accepts : Char → Bool) (here : Cursor) (rest : Text) :
    (manyEnds accepts here rest).Pairwise fun a b => b.column < a.column := by
  induction rest generalizing here with
  | nil => exact List.pairwise_singleton _ _
  | cons c rest ih =>
    rw [manyEnds]
    split_ifs
    · refine List.pairwise_append.2 ⟨ih _, List.pairwise_singleton _ _, ?_⟩
      intro longer member stop isStop
      obtain ⟨run, between, _⟩ := between_of_mem_manyEnds (here.rest_advance c rest) member
      have behind := between.column_le
      rw [column_advance] at behind
      rw [List.mem_singleton.1 isStop]
      exact behind
    · exact List.pairwise_singleton _ _

/-- Of continuations from cursors that come from right to left the first one counts that works
    out. -/
theorem head_flatMap_of_decreasing {xs : List Cursor} {f : Cursor → List Cursor}
    (decreasing : xs.Pairwise fun a b => b.column < a.column) (member : here ∈ xs)
    (none : ∀ x ∈ xs, here.column < x.column → f x = []) (first : (f here).head? = some there) :
    (xs.flatMap f).head? = some there := by
  induction xs with
  | nil => simp at member
  | cons x xs ih =>
    obtain ⟨below, decreasingTail⟩ := List.pairwise_cons.1 decreasing
    rw [List.flatMap_cons, List.head?_append]
    rcases List.mem_cons.1 member with rfl | later
    · rw [first]
      rfl
    · rw [none x List.mem_cons_self (below here later), List.head?_nil, Option.none_or]
      exact ih decreasingTail later fun y isLater => none y (List.mem_cons_of_mem x isLater)

/-- The word that a search takes has the query, and all its characters belong to dotted names or are
    case forms of characters of the query. -/
theorem hasQuery_of_mem_ends {query : Text}
    (member : there ∈ (Wanted.fuzzy query).pattern.ends here) :
    ∃ run, Between [] here run there ∧ run.HasQuery query ∧
      ∀ c ∈ run, isWordOrDot c ∨ ∃ q ∈ query, sameLetter q c := by
  induction query generalizing here with
  | nil =>
    obtain ⟨skipped, inSkip, member⟩ := List.mem_flatMap.1 member
    obtain ⟨gap, between, ofName⟩ := between_of_mem_manyEnds rfl inSkip
    obtain rfl := List.mem_singleton.1 member
    exact ⟨gap, between, List.nil_sublist _, fun c inGap => .inl (ofName c inGap)⟩
  | cons q query ih =>
    obtain ⟨skipped, inSkip, member⟩ := List.mem_flatMap.1 member
    obtain ⟨gap, between, ofName⟩ := between_of_mem_manyEnds rfl inSkip
    obtain ⟨_, inLetter, member⟩ := List.mem_flatMap.1 member
    obtain ⟨d, rest, follows, same, rfl⟩ := mem_ends_char.1 inLetter
    obtain ⟨run, betweenRun, hasQuery, ofRun⟩ := ih member
    refine ⟨gap ++ ([d] ++ run), between.trans ((Between.step follows).trans betweenRun), ?_, ?_⟩
    · rw [Text.HasQuery, List.map_append, List.map_append, List.map_cons, beq_iff_eq.1 same]
      exact (List.Sublist.cons_cons _ hasQuery).trans (List.sublist_append_right _ _)
    · intro c member
      rcases List.mem_append.1 member with inGap | inWord
      · exact .inl (ofName c inGap)
      · rcases List.mem_cons.1 inWord with rfl | inRun
        · exact .inr ⟨q, List.mem_cons_self, same⟩
        · rcases ofRun c inRun with name | ⟨q', isQuery, sameThere⟩
          · exact .inl name
          · exact .inr ⟨q', List.mem_cons_of_mem q isQuery, sameThere⟩

/-- A search may take any stretch of a dotted name that has the query. -/
theorem exists_mem_ends_fuzzy {query run rest : Text} (split : here.rest = run ++ rest)
    (ofName : ∀ c ∈ run, isWordOrDot c) (hasQuery : run.HasQuery query) :
    ∃ there ∈ (Wanted.fuzzy query).pattern.ends here,
      there.rest = rest ∧ there.column = here.column + run.length := by
  induction query generalizing here run with
  | nil =>
    obtain ⟨there, member, left, column⟩ := exists_mem_ends_many split ofName
    exact ⟨there, List.mem_flatMap.2 ⟨there, member, List.mem_singleton_self there⟩, left, column⟩
  | cons q query ih =>
    obtain ⟨first, second, keys, isFirst, later⟩ := List.cons_sublist_iff.1 hasQuery
    obtain ⟨front, back, rfl, rfl, rfl⟩ := List.map_eq_append_iff.1 keys
    obtain ⟨d, inFront, same⟩ := List.mem_map.1 isFirst
    obtain ⟨gap, behind, rfl⟩ := List.append_of_mem inFront
    have moved : here.rest = gap ++ (d :: (behind ++ back ++ rest)) := by
      rw [split]
      simp only [List.append_assoc, List.cons_append]
    have ofGap : ∀ c ∈ gap, isWordOrDot c := fun c member => ofName c (by simp [member])
    have ofBack : ∀ c ∈ behind ++ back, isWordOrDot c := by
      intro c member
      rcases List.mem_append.1 member with inBehind | inBack
      · exact ofName c (by simp [inBehind])
      · exact ofName c (by simp [inBack])
    have hasRest : Text.HasQuery (behind ++ back) query := by
      rw [Text.HasQuery, List.map_append]
      exact later.trans (List.sublist_append_right _ _)
    obtain ⟨skipped, inSkip, left, column⟩ := exists_mem_ends_many moved ofGap
    have next : skipped.advance d (behind ++ back ++ rest) ∈ (letter q).ends skipped :=
      mem_ends_char.2 ⟨d, _, left, beq_iff_eq.2 same.symm, rfl⟩
    obtain ⟨there, member, leftThere, columnThere⟩ :=
      ih (skipped.rest_advance d (behind ++ back ++ rest)) ofBack hasRest
    refine ⟨there, ?_, leftThere, ?_⟩
    · exact List.mem_flatMap.2 ⟨skipped, inSkip, List.mem_flatMap.2 ⟨_, next, member⟩⟩
    · rw [columnThere, column_advance, column]
      simp only [List.length_append, List.length_cons]
      omega

/-- A pattern that looks at what follows a name: it does not go on there. -/
structure ClosesName (close : Pattern) : Prop where
  groups : close.groups = []
  behind : ∀ {here there : Cursor}, there ∈ close.ends here → ¬here.rest.head?.any isWordOrDot

theorem closesName_closingColon : ClosesName closingColon := by
  refine ⟨rfl, ?_⟩
  intro here there member
  obtain ⟨_, inColon, _⟩ := List.mem_flatMap.1 member
  obtain ⟨c, rest, follows, isColon, _⟩ := mem_ends_char.1 inColon
  rw [follows, List.head?_cons, Option.any_some, beq_iff_eq.1 isColon]
  decide +kernel

theorem stops_of_mem_ends_notAhead (member : there ∈ (notAhead (char accepts)).ends here) :
    ¬here.rest.head?.any accepts := by
  intro continues
  obtain ⟨c, head, accepted⟩ := (Option.any_eq_true _ _).1 continues
  obtain ⟨rest, follows⟩ := List.head?_eq_some_iff.1 head
  have inside : here.advance c rest ∈ (char accepts).ends here :=
    mem_ends_char.2 ⟨c, rest, follows, accepted, rfl⟩
  rw [ends, if_neg (by simpa using List.ne_nil_of_mem inside)] at member
  simp at member

theorem closesName_notAhead (more : ∀ c, isWordOrDot c → accepts c) :
    ClosesName (notAhead (char accepts)) := by
  refine ⟨rfl, ?_⟩
  intro here there member continues
  obtain ⟨c, head, name⟩ := (Option.any_eq_true _ _).1 continues
  exact stops_of_mem_ends_notAhead member ((Option.any_eq_true _ _).2 ⟨c, head, more c name⟩)

variable {close : Pattern} {query : Text}

/-- The word that a search takes goes on to the end of the dotted name. -/
theorem exists_of_mem_ends_word (closes : ClosesName close) (on : here.IsOn line)
    (spells : line.Spells query)
    (member : there ∈ (seq (group .word (Wanted.fuzzy query).pattern) close).ends here) :
    ∃ stop : Cursor, there ∈ close.ends (stop.note .word here.column) ∧
      stop.rest = here.rest.dropWhile isWordOrDot ∧
      stop.column = here.column + (here.rest.takeWhile isWordOrDot).length ∧
      Text.HasQuery (here.rest.takeWhile isWordOrDot) query ∧
      there.noted.lookup .word = some ⟨here.column, stop.column⟩ := by
  obtain ⟨_, inGroup, inClose⟩ := List.mem_flatMap.1 member
  obtain ⟨stop, inWord, rfl⟩ := List.mem_map.1 inGroup
  obtain ⟨run, between, hasQuery, ofRun⟩ := hasQuery_of_mem_ends inWord
  have ofName : ∀ c ∈ run, isWordOrDot c := by
    intro c inRun
    rcases ofRun c inRun with name | ⟨q, isQuery, same⟩
    · exact name
    · have inRest : c ∈ line.drop here.column := by
        rw [← on.rest, between.rest]
        exact List.mem_append_left _ inRun
      have word := spells q isQuery c (List.mem_of_mem_drop inRest) same
      simp [isWordOrDot, word]
  have stops : ¬(stop.note .word here.column).rest.head?.any isWordOrDot := closes.behind inClose
  obtain ⟨isRun, isRest⟩ := Text.takeWhile_append_of_stops ofName stops
  rw [between.rest]
  refine ⟨stop, inClose, isRest.symm, ?_, isRun.symm ▸ hasQuery, ?_⟩
  · rw [between.column]
    exact congrArg _ (congrArg _ isRun.symm)
  · rw [noted_of_groups_eq_nil closes.groups inClose]
    rfl

theorem ends_word_ne_nil {word rest : Text} (split : here.rest = word ++ rest)
    (ofName : ∀ c ∈ word, isWordOrDot c) (hasQuery : word.HasQuery query)
    (closing : ∀ stop : Cursor, stop.rest = rest → close.ends stop ≠ []) :
    (seq (group .word (Wanted.fuzzy query).pattern) close).ends here ≠ [] := by
  obtain ⟨stop, inWord, left, _⟩ := exists_mem_ends_fuzzy split ofName hasQuery
  obtain ⟨there, inClose⟩ :=
    List.exists_mem_of_ne_nil _ (closing (stop.note .word here.column) left)
  exact List.ne_nil_of_mem
    (List.mem_flatMap.2 ⟨stop.note .word here.column, List.mem_map_of_mem inWord, inClose⟩)

theorem ends_wordEdge_seq (q : Pattern) (here : Cursor) :
    (seq wordEdge q).ends here = if here.atWordEdge then q.ends here else [] := by
  cases edge : here.atWordEdge <;> simp [ends, edge]

/-- The first of some results has the searched word in the given columns. -/
def TakesWord (found : List Cursor) (span : Span) : Prop :=
  ∃ there, found.head? = some there ∧ there.noted.lookup .word = some span

theorem TakesWord.append {found : List Cursor} {span : Span} (takes : TakesWord found span)
    (others : List Cursor) : TakesWord (found ++ others) span := by
  obtain ⟨there, first, isWord⟩ := takes
  exact ⟨there, by rw [List.head?_append, first]; rfl, isWord⟩

/-- A wanted word from an edge on, and a look at what follows. -/
def wantedThen (w : Wanted) (close : Pattern) : Pattern :=
  seq wordEdge (seq (group .word w.pattern) close)

/-- The same for a word that has a query. -/
def wordThen (query : Text) (close : Pattern) : Pattern :=
  seq wordEdge (seq (group .word (Wanted.fuzzy query).pattern) close)

end Pattern

/-- A line with a segment of word characters that nothing continues, at the end of a dotted name. -/
structure LastSegment (line lead word tail : Text) : Prop where
  split : line = lead ++ word ++ tail
  nonempty : word ≠ []
  ofWord : ∀ c ∈ word, isWordChar c
  before : ¬lead.getLast?.any isWordChar
  behind : ¬tail.head?.any isWordOrDot

/-- Places in a name from right to left, none of them behind the segment at its end. -/
structure Leads (line lead word : Text) (places : List Cursor) : Prop where
  decreasing : places.Pairwise fun a b => b.column < a.column
  inName : ∀ x ∈ places, x.IsOn line ∧ x.column ≤ (lead ++ word).length

namespace Leads

variable {line lead word : Text} {places : List Cursor}

theorem map_note (leads : Leads line lead word places) (g : Group) (start : Nat) :
    Leads line lead word (places.map (·.note g start)) := by
  refine ⟨List.pairwise_map.2 leads.decreasing, ?_⟩
  intro x member
  obtain ⟨y, isPlace, rfl⟩ := List.mem_map.1 member
  obtain ⟨on, upTo⟩ := leads.inName y isPlace
  exact ⟨on.note g start, upTo⟩

theorem append_singleton (leads : Leads line lead word places) {here : Cursor}
    (on : here.IsOn line) (upTo : here.column ≤ (lead ++ word).length)
    (before : ∀ x ∈ places, here.column < x.column) : Leads line lead word (places ++ [here]) := by
  refine ⟨List.pairwise_append.2 ⟨leads.decreasing, List.pairwise_singleton _ _, ?_⟩, ?_⟩
  · intro x isPlace y isHere
    rw [List.mem_singleton.1 isHere]
    exact before x isPlace
  · intro x member
    rcases List.mem_append.1 member with isPlace | isHere
    · exact leads.inName x isPlace
    · rw [List.mem_singleton.1 isHere]
      exact ⟨on, upTo⟩

end Leads

namespace LastSegment

open Cursor Pattern

variable {line lead word tail query : Text} {here : Cursor} {close : Pattern}
  (segment : LastSegment line lead word tail) (spells : line.Spells query)

include segment

theorem drop_lead : line.drop lead.length = word ++ tail := by
  rw [segment.split, List.append_assoc, List.drop_left]

/-- The segment has no mark, so the one of a label is in front of it. -/
theorem exists_run_of_marked {name front : Text} (marked : '@' :: name = front ++ word) :
    ∃ run, front = '@' :: run ∧ name = run ++ word := by
  rcases List.cons_eq_append_iff.1 marked with ⟨_, isWord⟩ | ⟨run, isFront, isName⟩
  · have ofWord : isWordChar '@' := segment.ofWord '@' (isWord ▸ List.mem_cons_self)
    exact absurd ofWord (by decide +kernel)
  · exact ⟨run, isFront, isName⟩

theorem of_span : Span.of ⟨lead.length, (lead ++ word).length⟩ line = word := by
  rw [Span.of, Text.slice, segment.split, List.take_left, List.drop_left]

theorem drop_word : line.drop (lead ++ word).length = tail := by
  rw [segment.split, List.drop_left]

theorem ofName : ∀ c ∈ word, isWordOrDot c := by
  intro c member
  simp [isWordOrDot, segment.ofWord c member]

/-- What is left of the name can be taken from here. -/
theorem leads_many {run : Text} (on : here.IsOn line) (follows : here.rest = run ++ tail)
    (ofRun : ∀ c ∈ run, isWordOrDot c)
    (column : here.column + run.length = (lead ++ word).length) :
    Leads line lead word ((many isWordOrDot).ends here) := by
  obtain ⟨isRun, _⟩ := Text.takeWhile_append_of_stops ofRun segment.behind
  refine ⟨pairwise_manyEnds _ _ _, ?_⟩
  intro x member
  have bound := column_le_of_mem_manyEnds member
  rw [follows, isRun, column] at bound
  exact ⟨isOn_of_mem_ends on member, bound⟩

/-- Inside the segment there is no edge of a word. -/
theorem not_atWordEdge (on : here.IsOn line) (inside : lead.length < here.column)
    (short : here.column < (lead ++ word).length) : here.atWordEdge = false := by
  have isChar : ∀ i, lead.length ≤ i → i < (lead ++ word).length →
      (line.drop i).head?.any isWordChar := by
    intro i after before
    rw [List.length_append] at before
    have inWord : i - lead.length < word.length := by omega
    rw [List.head?_drop, segment.split, List.append_assoc, List.getElem?_append_right after,
      List.getElem?_append_left inWord, List.getElem?_eq_getElem inWord]
    exact segment.ofWord _ (List.getElem_mem inWord)
  have next : here.rest.head?.any isWordChar := by
    rw [on.rest]
    exact isChar _ (Nat.le_of_lt inside) short
  have last : here.last.any isWordChar := by
    have bound : here.column ≤ line.length := by
      rw [segment.split, List.length_append]
      omega
    have isLast := isChar (here.column - 1) (by omega) (by omega)
    obtain ⟨c, isChar, isWord⟩ := (Option.any_eq_true _ _).1 isLast
    rw [on.last, List.getLast?_take, if_neg (by omega), ← List.head?_drop, isChar]
    exact isWord
  rw [atWordEdge, next, last]
  rfl

/-- At its start there is one. -/
theorem atWordEdge_start (on : here.IsOn line) (column : here.column = lead.length) :
    here.atWordEdge = true := by
  obtain ⟨c, more, isCons⟩ := List.exists_cons_of_ne_nil segment.nonempty
  have next : here.rest.head?.any isWordChar := by
    rw [on.rest, column, segment.drop_lead, isCons]
    exact segment.ofWord c (isCons ▸ List.mem_cons_self)
  have last : here.last.any isWordChar = false := by
    rw [on.last, column, segment.split, List.append_assoc, List.take_left]
    simpa using segment.before
  rw [atWordEdge, next, last]
  rfl

/-- A lead that takes as much as it can, and no more than the name, stops where the segment starts,
    if a word can be taken there and none from the end of the segment on. -/
theorem takesWord_of_leads {places : List Cursor} (leads : Leads line lead word places)
    (reaches : ∃ x ∈ places, x.column = lead.length) {p : Pattern} {span : Span}
    (takes : ∀ x : Cursor, x.IsOn line → x.column = lead.length → TakesWord (p.ends x) span)
    (none : ∀ x : Cursor, x.IsOn line → x.column = (lead ++ word).length → p.ends x = []) :
    TakesWord (places.flatMap (seq wordEdge p).ends) span := by
  obtain ⟨x, member, column⟩ := reaches
  have on := (leads.inName x member).1
  obtain ⟨there, first, isWord⟩ := takes x on column
  have atStart : ((seq wordEdge p).ends x).head? = some there := by
    rw [ends_wordEdge_seq, if_pos (segment.atWordEdge_start on column), first]
  refine ⟨there, head_flatMap_of_decreasing leads.decreasing member ?_ atStart, isWord⟩
  intro y isPlace beyond
  obtain ⟨onPlace, upTo⟩ := leads.inName y isPlace
  rw [ends_wordEdge_seq]
  split_ifs with edge
  · refine none y onPlace ?_
    by_contra differs
    rw [segment.not_atWordEdge onPlace (column ▸ beyond) (by omega)] at edge
    exact absurd edge (by decide)
  · rfl

include spells

/-- From its end no word with the query can be taken. -/
theorem ends_eq_nil (closes : ClosesName close) (asks : query ≠ []) (on : here.IsOn line)
    (atEnd : here.column = (lead ++ word).length) :
    (seq (group .word (Wanted.fuzzy query).pattern) close).ends here = [] := by
  refine List.eq_nil_iff_forall_not_mem.2 fun there member => asks ?_
  obtain ⟨_, _, _, _, hasQuery, _⟩ := exists_of_mem_ends_word closes on spells member
  have none : (line.drop (lead ++ word).length).takeWhile isWordOrDot = [] := by
    rw [segment.drop_word]
    exact (Text.takeWhile_append_of_stops (List.forall_mem_nil _) segment.behind).1
  rw [on.rest, atEnd, none, Text.HasQuery, List.map_nil, List.sublist_nil, List.map_eq_nil_iff]
    at hasQuery
  exact hasQuery

/-- At its start it is taken as a whole. -/
theorem takesWord (closes : ClosesName close) (hasQuery : word.HasQuery query)
    (closing : ∀ stop : Cursor, stop.rest = tail → close.ends stop ≠ []) (on : here.IsOn line)
    (column : here.column = lead.length) :
    TakesWord ((seq (group .word (Wanted.fuzzy query).pattern) close).ends here)
      ⟨lead.length, (lead ++ word).length⟩ := by
  have rest : here.rest = word ++ tail := by rw [on.rest, column, segment.drop_lead]
  obtain ⟨isWord, _⟩ := Text.takeWhile_append_of_stops segment.ofName segment.behind
  have nonempty := ends_word_ne_nil rest segment.ofName hasQuery closing
  obtain ⟨there, others, isCons⟩ := List.exists_cons_of_ne_nil nonempty
  have member : there ∈ (seq (group .word (Wanted.fuzzy query).pattern) close).ends here := by
    rw [isCons]
    exact List.mem_cons_self
  obtain ⟨stop, _, _, stops, _, noted⟩ := exists_of_mem_ends_word closes on spells member
  refine ⟨there, by rw [isCons, List.head?_cons], ?_⟩
  rw [noted, stops, rest, isWord, column, List.length_append]

/-- So the lead of a declaration stops where the segment starts. -/
theorem takesWord_flatMap (closes : ClosesName close) (asks : query ≠ [])
    (hasQuery : word.HasQuery query)
    (closing : ∀ stop : Cursor, stop.rest = tail → close.ends stop ≠ []) {places : List Cursor}
    (leads : Leads line lead word places) (reaches : ∃ x ∈ places, x.column = lead.length) :
    TakesWord (places.flatMap (wordThen query close).ends)
      ⟨lead.length, (lead ++ word).length⟩ :=
  segment.takesWord_of_leads leads reaches
    (fun _ on column => segment.takesWord spells closes hasQuery closing on column)
    fun _ on atEnd => segment.ends_eq_nil spells closes asks on atEnd

end LastSegment
end AsmAtlas
