import AsmAtlas.Proofs.FuzzyWords
import AsmAtlas.Proofs.ScopeAgreement
import AsmAtlas.Proofs.SegmentStart

/-!
# The shape of source labels

A label that a line of source declares stands behind blanks: perhaps an `@`, then a dotted name that
goes on as far as it can. Either a colon follows it, or it stands in the first column and is no
reserved word. Its last segment is a run of word characters behind blanks, a dot or the `@`.
-/

namespace AsmAtlas

theorem toNat_lt_of_isPlainStart {c : Char} (plain : isPlainStart c) : c.toNat < 0x80 := by
  have bound : ∀ {n : UInt32}, c.val ≤ n → c.toNat ≤ n.toNat := fun le =>
    UInt32.le_iff_toNat_le.1 le
  delta isPlainStart Char.isAlpha Char.isUpper Char.isLower at plain
  simp only [Bool.or_eq_true, Bool.and_eq_true, decide_eq_true_eq, beq_iff_eq] at plain
  rcases plain with (⟨_, upper⟩ | ⟨_, lower⟩) | rfl
  · exact Nat.lt_of_le_of_lt (bound upper) (by decide)
  · exact Nat.lt_of_le_of_lt (bound lower) (by decide)
  · decide

/-- Few characters beyond ASCII have a case form in ASCII, and they are letters. -/
theorem isWordChar_of_foreign {c : Char} (foreign : ¬c.toNat < 0x80)
    (plain : (caseKey c).toNat < 0x80) (proper : (caseKey c).toNat ≠ 0) : isWordChar c := by
  have few : ∀ run ∈ caseRuns, run.target < 0x80 →
      run.source.first = run.source.last ∧ isWordChar (Char.ofNat run.source.first) := by
    decide +kernel
  unfold caseKey at plain proper
  rw [if_neg foreign] at plain proper
  cases found : caseRuns.find? (·.source.contains c.toNat) with
  | none =>
    rw [found] at plain
    exact absurd plain foreign
  | some run =>
    simp only [found] at plain proper
    have contains := List.find?_some found
    simp only [CodeRun.contains, Bool.and_eq_true, decide_eq_true_eq] at contains
    rcases toNat_ofNat (run.target + (c.toNat - run.source.first)) with valid | null
    · obtain ⟨single, word⟩ := few run (List.mem_of_find?_eq_some found) (by omega)
      have isFirst : run.source.first = c.toNat := by omega
      rwa [isFirst, Char.ofNat_toNat] at word
    · exact absurd null proper

/-- The first character of a label is a word character. -/
theorem isWordChar_of_isNameStart {c : Char} (starts : isNameStart c) : isWordChar c := by
  by_cases ascii : c.toNat < 0x80
  · exact ascii_induction (fun c => isNameStart c → isWordChar c) (by decide +kernel) c ascii starts
  · have key : isPlainStart (caseKey c) := starts
    refine isWordChar_of_foreign ascii (toNat_lt_of_isPlainStart key) fun null => ?_
    rw [← Char.ofNat_toNat (caseKey c), null] at key
    exact absurd key (by decide)

theorem not_isDigit_of_isNameStart {c : Char} (starts : isNameStart c) : c.isDigit = false := by
  by_contra digit
  have isDigit : c.isDigit := by simpa using digit
  have ascii : c.toNat < 0x80 := by
    simp only [Char.isDigit, Bool.and_eq_true, decide_eq_true_eq, UInt32.le_iff_toNat_le] at isDigit
    exact Nat.lt_of_le_of_lt isDigit.2 (by decide)
  exact ascii_induction (fun c => isNameStart c → ¬c.isDigit) (by decide +kernel) c ascii starts
    isDigit

namespace LabelHit

/-- The last segment of a declared label, without marks. -/
def lastSegment (hit : LabelHit) (line : Text) : Text :=
  ((hit.span.of line).lastPart '.').dropWhile (· == '@')

/-- The columns of that segment. -/
def segment (hit : LabelHit) (line : Text) : Span :=
  ⟨hit.span.stop - (hit.lastSegment line).length, hit.span.stop⟩

theorem length_lastSegment_le (hit : LabelHit) (line : Text) :
    (hit.lastSegment line).length ≤ hit.span.stop - hit.span.start := by
  have inLabel : (hit.lastSegment line).length ≤ (hit.span.of line).length :=
    calc (hit.lastSegment line).length
        ≤ ((hit.span.of line).lastPart '.').length := (List.dropWhile_sublist _).length_le
      _ ≤ (hit.span.of line).length := by
        rw [Text.lastPart, List.length_reverse]
        exact (List.takeWhile_prefix _).length_le.trans (Nat.le_of_eq List.length_reverse)
  have ofLabel : (hit.span.of line).length ≤ hit.span.stop - hit.span.start := by
    rw [Span.of, Text.slice, List.length_drop, List.length_take]
    omega
  exact inLabel.trans ofLabel

end LabelHit

/-- A declared label lies in its line. -/
theorem LabelForm.span_in_line {form : LabelForm} {line : Text} {hit : LabelHit}
    (found : form.find? line = some hit) :
    hit.span.start ≤ hit.span.stop ∧ hit.span.stop ≤ line.length := by
  obtain ⟨m, isMatch, isSpan, _⟩ := match_of_find? found
  exact Pattern.group_in_line isMatch isSpan

theorem LabelForm.start_le_stop {form : LabelForm} {line : Text} {hit : LabelHit}
    (found : form.find? line = some hit) : hit.span.start ≤ hit.span.stop :=
  (span_in_line found).1

theorem isBlank_of_isWordOrDot {c : Char} (ofName : isWordOrDot c) : isBlank c = false := by
  rcases Bool.or_eq_true_iff.1 ofName with word | dot
  · have inert := Comment.isInert_of_isWordChar word
    simp only [Comment.isInert, Bool.not_eq_true', Bool.or_eq_false_iff] at inert
    exact inert.1
  · rw [beq_iff_eq.1 dot]
    decide

theorem not_isBlank_of_isLabelChar {c : Char} (ofLabel : Occurrence.isLabelChar c) :
    isBlank c = false := by
  rcases Bool.or_eq_true_iff.1 ofLabel with ofName | isAt
  · exact isBlank_of_isWordOrDot ofName
  · rw [beq_iff_eq.1 isAt]
    decide

theorem eq_nil_or_blank_last {t : Text} (blank : ∀ c ∈ t, isBlank c) :
    t = [] ∨ t.getLast?.any isBlank := by
  rcases t.eq_nil_or_concat with empty | ⟨front, last, rfl⟩
  · exact .inl empty
  · exact .inr (by simpa using blank last (by simp))

/-- No part of a label ends with a blank. -/
theorem rtakeWhile_of_blank {t : Text} (blank : t = [] ∨ t.getLast?.any isBlank) :
    t.rtakeWhile Occurrence.isLabelChar = [] := by
  refine List.rtakeWhile_eq_nil_iff.2 fun nonempty continues => ?_
  have last := blank.resolve_left nonempty
  rw [List.getLast?_eq_getLast_of_ne_nil nonempty, Option.any_some,
    not_isBlank_of_isLabelChar continues] at last
  exact Bool.false_ne_true last

/-- A line with a source label: an optional `@` and a dotted name behind blanks. -/
structure SourceLabel (line margin mark name tail : Text) : Prop where
  split : line = margin ++ (mark ++ name) ++ tail
  blank : ∀ c ∈ margin, isBlank c
  isMark : mark = [] ∨ mark = ['@']
  nonempty : name ≠ []
  ofName : ∀ c ∈ name, isWordOrDot c
  noDigit : ¬name.head?.any Char.isDigit
  behind : ¬tail.head?.any isWordOrDot

namespace SourceLabel

variable {line margin mark name tail : Text} (label : SourceLabel line margin mark name tail)

include label

theorem not_blank : ∀ c ∈ mark ++ name, isBlank c = false := by
  intro c member
  rcases List.mem_append.1 member with inMark | inName
  · rcases label.isMark with rfl | rfl
    · simp at inMark
    · rw [List.mem_singleton.1 inMark]
      decide
  · exact isBlank_of_isWordOrDot (label.ofName c inName)

theorem takeWhile_isBlank :
    line.takeWhile isBlank = margin ∧ line.dropWhile isBlank = mark ++ name ++ tail := by
  rw [label.split, List.append_assoc]
  refine Text.takeWhile_append_of_stops label.blank ?_
  obtain ⟨c, rest, isCons⟩ :=
    List.exists_cons_of_ne_nil (List.append_ne_nil_of_right_ne_nil mark label.nonempty)
  have visible := label.not_blank c (isCons ▸ List.mem_cons_self)
  rw [isCons]
  simp [visible]

theorem head_name (t : Text) : (name ++ t).head? ≠ some '@' := by
  obtain ⟨c, rest, rfl⟩ := List.exists_cons_of_ne_nil label.nonempty
  have ofName := label.ofName c List.mem_cons_self
  intro isAt
  rw [Option.some.inj isAt] at ofName
  exact absurd ofName (by decide +kernel)

/-- What stands behind the label is what is left behind blanks, the mark and the name. -/
theorem tail_eq : ((line.dropWhile isBlank).dropWhile (· == '@')).dropWhile isWordOrDot = tail := by
  have marks : ∀ c ∈ mark, (c == '@') = true := by
    rcases label.isMark with rfl | rfl <;> simp
  have stops : ¬(name ++ tail).head?.any (· == '@') := by
    intro isAt
    obtain ⟨c, head, same⟩ := (Option.any_eq_true _ _).1 isAt
    exact label.head_name tail (beq_iff_eq.1 same ▸ head)
  rw [label.takeWhile_isBlank.2, List.append_assoc, (Text.takeWhile_append_of_stops marks stops).2,
    (Text.takeWhile_append_of_stops label.ofName label.behind).2]

/-- A line has one label at most. -/
theorem unique {margin' mark' name' tail' : Text}
    (other : SourceLabel line margin' mark' name' tail') : margin = margin' ∧ tail = tail' :=
  ⟨label.takeWhile_isBlank.1.symm.trans other.takeWhile_isBlank.1,
    label.tail_eq.symm.trans other.tail_eq⟩

end SourceLabel

/-- The first of many results comes from one of the sources as its first. -/
theorem exists_of_head_flatMap {α β : Type} {xs : List α} {f : α → List β} {b : β}
    (first : (xs.flatMap f).head? = some b) : ∃ x ∈ xs, (f x).head? = some b := by
  induction xs with
  | nil => simp at first
  | cons x xs ih =>
    rw [List.flatMap_cons, List.head?_append] at first
    cases here : (f x).head? with
    | some y =>
      rw [here, Option.some_or] at first
      exact ⟨x, List.mem_cons_self, here.trans first⟩
    | none =>
      rw [here, Option.none_or] at first
      obtain ⟨y, isLater, gives⟩ := ih first
      exact ⟨y, List.mem_cons_of_mem x isLater, gives⟩

/-- If every source has a result, the first result comes from the first source. -/
theorem head_of_head_flatMap {α β : Type} {xs : List α} {f : α → List β} {b : β}
    (some : ∀ x, f x ≠ []) (first : (xs.flatMap f).head? = .some b) :
    ∃ x, xs.head? = .some x ∧ (f x).head? = .some b := by
  cases xs with
  | nil => simp at first
  | cons x xs =>
    obtain ⟨y, ys, isCons⟩ := List.exists_cons_of_ne_nil (some x)
    rw [List.flatMap_cons, isCons, List.cons_append, List.head?_cons] at first
    exact ⟨x, rfl, by rw [isCons, List.head?_cons, first]⟩

namespace Pattern

open Cursor

variable {here there : Cursor} {accepts : Char → Bool}

/-- A greedy repetition stops first where it cannot go on. -/
theorem stops_of_head_manyEnds {rest : Text} (follows : here.rest = rest)
    (first : (manyEnds accepts here rest).head? = some there) : ¬there.rest.head?.any accepts := by
  induction rest generalizing here with
  | nil =>
    obtain rfl := Option.some.inj first
    simp [follows]
  | cons c rest ih =>
    rw [manyEnds] at first
    split_ifs at first with accepted
    · obtain ⟨y, ys, isCons⟩ := List.exists_cons_of_ne_nil
        (List.ne_nil_of_mem (self_mem_manyEnds accepts (here.advance c rest) rest))
      rw [isCons, List.cons_append, List.head?_cons] at first
      exact ih (here.rest_advance c rest) (by rw [isCons, List.head?_cons, first])
    · obtain rfl := Option.some.inj first
      simpa [follows] using accepted

/-- A label is an optional `@` and a dotted name. -/
theorem between_of_mem_ends_labelName (member : there ∈ labelName.ends here) :
    ∃ mark name, Between [] here (mark ++ name) there ∧ (mark = [] ∨ mark = ['@']) ∧ name ≠ [] ∧
      (∀ c ∈ name, isWordOrDot c) ∧ ¬name.head?.any Char.isDigit := by
  obtain ⟨marked, inMark, member⟩ := List.mem_flatMap.1 member
  obtain ⟨_, inFirst, inRun⟩ := List.mem_flatMap.1 member
  obtain ⟨c, rest, follows, starts, rfl⟩ := mem_ends_char.1 inFirst
  obtain ⟨run, between, ofRun⟩ := between_of_mem_manyEnds rfl inRun
  have ofName : ∀ d ∈ c :: run, isWordOrDot d := by
    intro d inName
    rcases List.mem_cons.1 inName with rfl | inRun
    · simp [isWordOrDot, isWordChar_of_isNameStart starts]
    · exact ofRun d inRun
  have noDigit : ¬(c :: run).head?.any Char.isDigit := by
    simpa using not_isDigit_of_isNameStart starts
  have named : Between [] marked (c :: run) there := (Between.step follows).trans between
  rcases List.mem_append.1 inMark with withMark | without
  · obtain ⟨m, rest, followsMark, isMark, rfl⟩ := mem_ends_char.1 withMark
    have behindMark := (Between.step followsMark).trans named
    rcases Bool.or_eq_true_iff.1 isMark with isAt | isDot
    · obtain rfl := beq_iff_eq.1 isAt
      exact ⟨['@'], c :: run, behindMark, .inr rfl, by simp, ofName, noDigit⟩
    · obtain rfl := beq_iff_eq.1 isDot
      refine ⟨[], '.' :: c :: run, behindMark, .inl rfl, by simp, ?_, by simp⟩
      intro d inName
      rcases List.mem_cons.1 inName with rfl | inRest
      · rfl
      · exact ofName d inRest
  · obtain rfl := List.mem_singleton.1 without
    exact ⟨[], c :: run, named, .inl rfl, by simp, ofName, noDigit⟩

/-- It goes on as far as it can. -/
theorem stops_of_head_labelName (first : (labelName.ends here).head? = some there) :
    ¬there.rest.head?.any isWordOrDot := by
  obtain ⟨marked, _, first⟩ := exists_of_head_flatMap first
  obtain ⟨named, _, first⟩ := exists_of_head_flatMap first
  exact stops_of_head_manyEnds rfl first

end Pattern

namespace LabelForm

open Cursor Pattern

variable {line : Text} {here there start stop : Cursor}

/-- A label behind blanks that is read to its end. -/
theorem sourceLabel_of_between {groups : List Group} {margin : Text}
    (between : Between groups (.start line) margin start)
    (blank : ∀ c ∈ margin, isBlank c) (inName : stop ∈ labelName.ends start)
    (behind : ¬stop.rest.head?.any isWordOrDot) :
    ∃ mark name, SourceLabel line margin mark name stop.rest ∧
      start.column = margin.length ∧ stop.column = (margin ++ (mark ++ name)).length := by
  obtain ⟨mark, name, inside, isMark, nonempty, ofName, noDigit⟩ :=
    between_of_mem_ends_labelName inName
  have starts : start.column = margin.length := by
    rw [between.column]
    exact Nat.zero_add _
  have isLine : line = margin ++ (mark ++ name) ++ stop.rest := by
    rw [List.append_assoc, ← inside.rest]
    exact between.rest
  refine ⟨mark, name, ⟨isLine, blank, isMark, nonempty, ofName, noDigit, behind⟩, starts, ?_⟩
  rw [inside.column, starts, ← List.length_append]

theorem ends_optional_ne_nil (p : Pattern) (here : Cursor) : (p.optional).ends here ≠ [] := by
  simp [Pattern.optional, ends]

/-- Both colons of a label are taken. -/
theorem column_of_head_colons {after : Text} (follows : here.rest = ':' :: ':' :: after)
    (first : ((Pattern.optional (group .colon colons)).ends here).head? = some there) :
    there.column = here.column + 2 := by
  simp only [Pattern.optional, colons, exactly, ends, follows, beq_self_eq_true, if_true,
    List.flatMap_cons, List.flatMap_nil, List.append_nil, rest_advance, List.cons_append,
    List.nil_append, List.map_cons, List.head?_cons] at first
  exact (congrArg Cursor.column (Option.some.inj first)).symm

/-- How a source label is closed: by one colon or two, if such labels are switched on; or by
    nothing, if those are, in the first column and where no reserved word stands. -/
inductive Closed (rules : LabelRules) (line margin tail : Text) (hit : LabelHit) : Prop
  | colon (after : Text) (on : rules.withColons) (isColon : tail = ':' :: after)
      (single : hit.stop ≤ hit.span.stop + 1 → after.head? ≠ some ':')
  | bare (on : rules.withoutColons) (first : margin = []) (noColon : tail.head? ≠ some ':')
      (free : notReserved.ends (.start line) ≠ [])

/-- A label with a colon that is seen ahead. -/
theorem exists_of_markedAhead (ahead : there ∈ markedAhead.ends (.start line)) :
    ∃ margin mark name after, SourceLabel line margin mark name (':' :: after) := by
  have nonempty : (Pattern.all [blanks, labelName, colons]).ends (.start line) ≠ [] := by
    intro none
    rw [markedAhead, ends, none] at ahead
    simp at ahead
  obtain ⟨_, member⟩ := List.exists_mem_of_ne_nil _ nonempty
  obtain ⟨start, inBlanks, member⟩ := List.mem_flatMap.1 member
  obtain ⟨stop, inName, inColons⟩ := List.mem_flatMap.1 member
  obtain ⟨_, inColon, _⟩ := List.mem_flatMap.1 inColons
  obtain ⟨c, after, follows, isColon, _⟩ := mem_ends_char.1 inColon
  obtain rfl := beq_iff_eq.1 isColon
  obtain ⟨margin, between, blank⟩ := between_of_mem_manyEnds rfl inBlanks
  have behind : ¬stop.rest.head?.any isWordOrDot := by
    have colon : isWordOrDot ':' = false := by decide +kernel
    simp [follows, colon]
  obtain ⟨mark, name, label, _, _⟩ := sourceLabel_of_between between blank inName behind
  exact ⟨margin, mark, name, after, follows ▸ label⟩

/-- A label without a colon that is seen ahead. -/
theorem exists_of_bareAhead (ahead : there ∈ bareAhead.ends (.start line)) :
    ∃ mark name tail, SourceLabel line [] mark name tail ∧ tail.head? ≠ some ':' ∧
      notReserved.ends (.start line) ≠ [] := by
  have nonempty : (Pattern.all [notReserved, labelName,
      notAhead (char fun c => isWordOrDot c || c == ':')]).ends (.start line) ≠ [] := by
    intro none
    rw [bareAhead, ends, none] at ahead
    simp at ahead
  obtain ⟨_, member⟩ := List.exists_mem_of_ne_nil _ nonempty
  obtain ⟨start, free, member⟩ := List.mem_flatMap.1 member
  obtain ⟨stop, inName, inStop⟩ := List.mem_flatMap.1 member
  obtain rfl := eq_of_mem_ite free
  have stops := stops_of_mem_ends_notAhead inStop
  have behind : ¬stop.rest.head?.any isWordOrDot := by
    intro continues
    obtain ⟨c, head, ofName⟩ := (Option.any_eq_true _ _).1 continues
    exact stops ((Option.any_eq_true _ _).2 ⟨c, head, by simp [ofName]⟩)
  have noColon : stop.rest.head? ≠ some ':' := by
    intro colon
    exact stops (by simp [colon])
  obtain ⟨mark, name, label, _, _⟩ :=
    sourceLabel_of_between (.refl [] (.start line)) (List.forall_mem_nil _) inName behind
  exact ⟨mark, name, stop.rest, label, noColon, List.ne_nil_of_mem free⟩

/-- The label that a line of source declares. -/
theorem sourceLabel_of_find? {rules : LabelRules} {hit : LabelHit}
    (found : (LabelForm.of .source rules).find? line = some hit) :
    ∃ margin mark name tail, SourceLabel line margin mark name tail ∧
      hit.span = ⟨margin.length, (margin ++ (mark ++ name)).length⟩ ∧
      Closed rules line margin tail hit := by
  obtain ⟨m, isMatch, isSpan, isStop⟩ := match_of_find? found
  rw [matchStart_eq] at isMatch
  obtain ⟨farthest, first, rfl⟩ := Option.map_eq_some_iff.1 isMatch
  rcases pattern_of_source rules with none | ⟨kinds, kind, isPattern⟩
  · rw [none] at first
    simp [ends] at first
  · rw [isPattern] at first
    obtain ⟨begun, isBegin, first⟩ := exists_of_head_flatMap first
    obtain ⟨checked, isChecked, first⟩ := exists_of_head_flatMap first
    obtain ⟨_, inMargin, first⟩ := exists_of_head_flatMap first
    obtain ⟨_, inGroup, firstColon⟩ := head_of_head_flatMap (ends_optional_ne_nil _) first
    obtain ⟨start, inBlanks, rfl⟩ := List.mem_map.1 inMargin
    rw [ends, List.head?_map] at inGroup
    obtain ⟨stop, firstName, rfl⟩ := Option.map_eq_some_iff.1 inGroup
    obtain rfl := eq_of_mem_ends_lineStart isBegin
    obtain ⟨k, isKind, isAhead⟩ := exists_of_mem_ends_any isChecked
    have same : checked = .start line := by
      rcases kind k isKind with ⟨rfl, _⟩ | ⟨rfl, _⟩ <;> exact eq_of_mem_ends_ahead isAhead
    subst same
    obtain ⟨margin, between, blank⟩ := between_of_mem_manyEnds rfl inBlanks
    obtain ⟨mark, name, label, starts, stops⟩ := sourceLabel_of_between (between.note .margin _)
      blank (List.mem_of_head? firstName) (stops_of_head_labelName firstName)
    obtain ⟨_, behind⟩ := between_of_mem_ends (List.mem_of_head? firstColon)
    have isLabel : farthest.noted.lookup .label = some ⟨margin.length, stop.column⟩ := by
      rw [behind.lookup_noted (by decide), ← starts]
      rfl
    have span : hit.span = ⟨margin.length, (margin ++ (mark ++ name)).length⟩ := by
      rw [← stops]
      exact Option.some.inj (isSpan.symm.trans isLabel)
    refine ⟨margin, mark, name, stop.rest, label, span, ?_⟩
    rcases kind k isKind with ⟨rfl, on⟩ | ⟨rfl, on⟩
    · obtain ⟨_, _, tail, again, noColon, free⟩ := exists_of_bareAhead isAhead
      obtain ⟨isFirst, isTail⟩ := label.unique again
      exact .bare on isFirst (isTail ▸ noColon) free
    · obtain ⟨_, _, _, after, again⟩ := exists_of_markedAhead isAhead
      obtain ⟨_, isTail⟩ := label.unique again
      refine .colon after on isTail ?_
      intro short double
      obtain ⟨more, rfl⟩ := List.head?_eq_some_iff.1 double
      have doubled : farthest.column = (stop.note .label start.column).column + 2 :=
        column_of_head_colons isTail firstColon
      have ends : farthest.column = hit.stop := isStop
      rw [span, ← stops, ← ends, doubled] at short
      exact Nat.not_succ_le_self _ short

end LabelForm

namespace SourceLabel

variable {line margin mark name tail : Text} (label : SourceLabel line margin mark name tail)

include label

theorem isLabelChar : ∀ c ∈ mark ++ name, Occurrence.isLabelChar c := by
  intro c member
  rcases List.mem_append.1 member with inMark | inName
  · rcases label.isMark with rfl | rfl
    · simp at inMark
    · rw [List.mem_singleton.1 inMark]
      decide +kernel
  · exact Bool.or_eq_true_iff.2 (.inl (label.ofName c inName))

/-- No part of a label stands in the margin. -/
theorem rtakeWhile_margin : margin.rtakeWhile Occurrence.isLabelChar = [] :=
  rtakeWhile_of_blank (eq_nil_or_blank_last label.blank)

/-- An end of a label that does not start with its mark is an end of the name. -/
theorem suffix_name {lead segment : Text} (split : mark ++ name = lead ++ segment)
    (unmarked : segment.head? ≠ some '@') : segment <:+ name := by
  rcases label.isMark with rfl | rfl
  · exact ⟨lead, split.symm⟩
  · have isEnd : segment <:+ '@' :: name := ⟨lead, split.symm⟩
    rcases List.suffix_cons_iff.1 isEnd with rfl | inName
    · exact absurd rfl unmarked
    · exact inName

omit label in
theorem segment_eq {hit : LabelHit} {lead : Text}
    (span : hit.span = ⟨margin.length, (margin ++ (mark ++ name)).length⟩)
    (split : mark ++ name = lead ++ hit.lastSegment line) :
    hit.segment line =
      ⟨(margin ++ lead).length, (margin ++ lead ++ hit.lastSegment line).length⟩ := by
  have stop : (margin ++ (mark ++ name)).length =
      (margin ++ lead ++ hit.lastSegment line).length := by
    rw [split, List.append_assoc]
  have length : (margin ++ lead ++ hit.lastSegment line).length =
      (margin ++ lead).length + (hit.lastSegment line).length := List.length_append
  rw [LabelHit.segment, span, stop, length, Nat.add_sub_cancel]

/-- The last segment of a label is a run of word characters that nothing continues, and the label is
    the one that is found there. -/
theorem exists_lastSegment {hit : LabelHit}
    (span : hit.span = ⟨margin.length, (margin ++ (mark ++ name)).length⟩)
    (starts : (hit.lastSegment line).head?.any Occurrence.startsSegment) :
    ∃ lead, mark ++ name = lead ++ hit.lastSegment line ∧
      LastSegment line (margin ++ lead) (hit.lastSegment line) tail ∧
      Occurrence.SegmentAt line margin lead (hit.lastSegment line ++ tail) := by
  have isLabel : hit.span.of line = mark ++ name := by
    rw [span, Span.of, Text.slice, label.split, List.take_left, List.drop_left]
  have isSegment : ((mark ++ name).lastPart '.').dropWhile (· == '@') = hit.lastSegment line := by
    rw [LabelHit.lastSegment, isLabel]
  obtain ⟨lead, split, marks⟩ := Text.exists_lead (mark ++ name)
  rw [isSegment] at split
  obtain ⟨first, head, startsFirst⟩ := (Option.any_eq_true _ _).1 starts
  have isLine : line = margin ++ lead ++ hit.lastSegment line ++ tail := by
    rw [List.append_assoc margin, ← split]
    exact label.split
  have unmarked : (hit.lastSegment line).head? ≠ some '@' := by
    intro isAt
    rw [Option.some.inj (head.symm.trans isAt)] at startsFirst
    exact absurd startsFirst (by decide +kernel)
  have noDot : ∀ c ∈ hit.lastSegment line, c ≠ '.' := by
    intro c member
    rw [← isSegment] at member
    exact Text.ne_of_mem_lastPart ((List.dropWhile_sublist _).subset member)
  have ofWord : ∀ c ∈ hit.lastSegment line, isWordChar c := by
    intro c member
    rcases Bool.or_eq_true_iff.1 (label.ofName c ((label.suffix_name split unmarked).subset member))
      with word | dot
    · exact word
    · exact absurd (beq_iff_eq.1 dot) (noDot c member)
  have segment : Occurrence.SegmentAt line margin lead (hit.lastSegment line ++ tail) := by
    refine ⟨?_, label.rtakeWhile_margin, ?_, marks, ?_⟩
    · rw [← List.append_assoc (margin ++ lead)]
      exact isLine
    · intro c inLead
      exact label.isLabelChar c (split ▸ List.mem_append_left _ inLead)
    · rw [List.head?_append, head]
      exact startsFirst
  refine ⟨lead, split, ⟨isLine, ?_, ofWord, segment.not_wordChar_before, label.behind⟩, segment⟩
  intro empty
  rw [empty] at head
  simp at head

end SourceLabel
end AsmAtlas
