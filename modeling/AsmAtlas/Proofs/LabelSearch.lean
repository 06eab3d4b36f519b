import AsmAtlas.Proofs.LabelShape

/-!
# Source labels are found

The label that a line of source declares is found by every query that its last segment has: in the
first column by the pattern for its kind, and behind blanks as long as no later blank of the line
has something behind it that the query finds as well. A second colon keeps a label from being found.
-/

namespace AsmAtlas

namespace Text

/-- A text behind the mark at its beginning. -/
def unmarked : Text → Text
  | '@' :: t => t
  | t => t

theorem unmarked_of_head {t : Text} (other : t.head? ≠ some '@') : t.unmarked = t := by
  unfold unmarked
  split
  · exact absurd rfl other
  · rfl

/-- A text begins with a dotted name that has a query, perhaps behind a mark, and one colon. -/
def BeginsLikeLabel (t query : Text) : Prop :=
  HasQuery (t.unmarked.takeWhile isWordOrDot) query ∧
    (t.unmarked.dropWhile isWordOrDot).head? = some ':' ∧
    (t.unmarked.dropWhile isWordOrDot).tail.head? ≠ some ':'

instance (t query : Text) : Decidable (t.BeginsLikeLabel query) :=
  inferInstanceAs (Decidable (_ ∧ _ ∧ _))

end Text

namespace Pattern

open Cursor WordSearch

variable {here there : Cursor} {rest : Text}

theorem ends_nameStem_marked (follows : here.rest = '@' :: rest) :
    nameStem.ends here = (many isWordOrDot).ends (here.advance '@' rest) ++ [here] := by
  have mark : isWordOrDot '@' = false := by decide +kernel
  simp [nameStem, Pattern.optional, exactly, ends, follows, manyEnds, mark]

theorem ends_nameStem_unmarked (unmarked : here.rest.head? ≠ some '@') :
    nameStem.ends here = (many isWordOrDot).ends here := by
  cases follows : here.rest with
  | nil => simp [nameStem, Pattern.optional, exactly, ends, follows]
  | cons c rest =>
    have other : c ≠ '@' := by simpa [follows] using unmarked
    simp [nameStem, Pattern.optional, exactly, ends, follows, other]

/-- A label is closed by one colon. -/
theorem ends_closingColon_ne_nil (here : Cursor) :
    closingColon.ends here ≠ [] ↔
      ∃ after, here.rest = ':' :: after ∧ after.head? ≠ some ':' := by
  constructor
  · intro nonempty
    obtain ⟨_, member⟩ := List.exists_mem_of_ne_nil _ nonempty
    obtain ⟨_, inColon, inRest⟩ := List.mem_flatMap.1 member
    obtain ⟨c, after, follows, isColon, rfl⟩ := mem_ends_char.1 inColon
    refine ⟨after, beq_iff_eq.1 isColon ▸ follows, ?_⟩
    intro double
    obtain ⟨more, rfl⟩ := List.head?_eq_some_iff.1 double
    simp [ends] at inRest
  · rintro ⟨after, follows, single⟩
    cases after with
    | nil => simp [closingColon, exactly, ends, follows]
    | cons c after =>
      have other : c ≠ ':' := by simpa using single
      simp [closingColon, exactly, ends, follows, other]

/-- The words that are taken behind a blank at a cursor. -/
def wordsBehindBlank (query : Text) (here : Cursor) : List Cursor :=
  ((((char isBlank).ends here).flatMap nameStem.ends).map (·.note .before 0)).flatMap
    (wordThen query closingColon).ends

theorem wordsBehindBlank_of_blank (query : Text) {blank : Char}
    (follows : here.rest = blank :: rest) (isBlankHere : isBlank blank) :
    wordsBehindBlank query here =
      ((nameStem.ends (here.advance blank rest)).map (·.note .before 0)).flatMap
        (wordThen query closingColon).ends := by
  simp [wordsBehindBlank, ends, follows, isBlankHere]

/-- At the beginning of a line with a margin no word is taken. -/
theorem words_margin_eq_nil (query : Text) {line : Text} (blank : line.head?.any isBlank) :
    ((nameStem.ends (.start line)).map (·.note .before 0)).flatMap
      (wordThen query closingColon).ends = [] := by
  obtain ⟨c, head, isBlankHere⟩ := (Option.any_eq_true _ _).1 blank
  obtain ⟨rest, rfl⟩ := List.head?_eq_some_iff.1 head
  have other : c ≠ '@' := by
    rintro rfl
    exact absurd isBlankHere (by decide)
  have noName : isWordOrDot c = false := by
    by_contra ofName
    rw [isBlank_of_isWordOrDot (by simpa using ofName)] at isBlankHere
    exact Bool.false_ne_true isBlankHere
  have noWord : isWordChar c = false := (Bool.or_eq_false_iff.1 noName).1
  have stays : nameStem.ends (.start (c :: rest)) = [.start (c :: rest)] := by
    rw [ends_nameStem_unmarked (by simpa [Cursor.start] using other)]
    simp [ends, manyEnds, Cursor.start, noName]
  have noEdge : ((start (c :: rest)).note .before 0).atWordEdge = false := by
    simp [atWordEdge, Cursor.note, Cursor.start, noWord]
  rw [stays, List.map_singleton, List.flatMap_singleton, wordThen, ends_wordEdge_seq, noEdge]
  rfl

theorem split_of_mem_ends_nameStem (member : there ∈ nameStem.ends here) :
    there.rest.head? = some '@' ∨
      ∃ run, Text.unmarked here.rest = run ++ there.rest ∧ ∀ c ∈ run, isWordOrDot c := by
  by_cases marked : here.rest.head? = some '@'
  · obtain ⟨rest, follows⟩ := List.head?_eq_some_iff.1 marked
    rw [ends_nameStem_marked follows] at member
    rcases List.mem_append.1 member with behind | isHere
    · obtain ⟨run, between, ofRun⟩ := between_of_mem_manyEnds rfl behind
      refine .inr ⟨run, ?_, ofRun⟩
      rw [follows]
      exact between.rest
    · rw [List.mem_singleton.1 isHere]
      exact .inl marked
  · rw [ends_nameStem_unmarked marked] at member
    obtain ⟨run, between, ofRun⟩ := between_of_mem_manyEnds rfl member
    refine .inr ⟨run, ?_, ofRun⟩
    rw [Text.unmarked_of_head marked]
    exact between.rest

/-- Behind a blank no word is taken, unless the rest of the line begins like a label. -/
theorem wordsBehindBlank_eq_nil {line query : Text} (on : here.IsOn line) (asks : query ≠ [])
    (spells : line.Spells query) (clear : (line.drop here.column).head?.any isBlank →
      ¬Text.BeginsLikeLabel (line.drop (here.column + 1)) query) :
    wordsBehindBlank query here = [] := by
  refine List.eq_nil_iff_forall_not_mem.2 fun there member => ?_
  obtain ⟨_, inLead, inWord⟩ := List.mem_flatMap.1 member
  obtain ⟨start, inStem, rfl⟩ := List.mem_map.1 inLead
  obtain ⟨_, inBlank, inStem⟩ := List.mem_flatMap.1 inStem
  obtain ⟨c, rest, follows, blank, rfl⟩ := mem_ends_char.1 inBlank
  have onNext := on.advance follows
  have isBlankHere : (line.drop here.column).head?.any isBlank := by
    rw [← on.rest, follows]
    exact blank
  have isRest : line.drop (here.column + 1) = rest := onNext.rest.symm
  rw [wordThen, ends_wordEdge_seq] at inWord
  split_ifs at inWord
  · obtain ⟨stop, inClose, stops, _, hasQuery, _⟩ := exists_of_mem_ends_word
      closesName_closingColon ((isOn_of_mem_ends onNext inStem).note .before 0) spells inWord
    obtain ⟨after, isColon, single⟩ :=
      (ends_closingColon_ne_nil _).1 (List.ne_nil_of_mem inClose)
    replace stops : start.rest.dropWhile isWordOrDot = ':' :: after := stops.symm.trans isColon
    replace hasQuery : Text.HasQuery (start.rest.takeWhile isWordOrDot) query := hasQuery
    rcases split_of_mem_ends_nameStem inStem with marked | ⟨run, split, ofRun⟩
    · obtain ⟨more, isMark⟩ := List.head?_eq_some_iff.1 marked
      have noName : isWordOrDot '@' = false := by decide +kernel
      rw [isMark, List.takeWhile_cons_of_neg (by simp [noName])] at hasQuery
      exact asks (by simpa [Text.HasQuery] using hasQuery)
    · refine clear isBlankHere ?_
      rw [isRest]
      change Text.unmarked rest = _ at split
      rw [Text.BeginsLikeLabel, split, List.takeWhile_append_of_pos ofRun,
        List.dropWhile_append_of_pos ofRun, stops]
      refine ⟨?_, rfl, single⟩
      rw [Text.HasQuery, List.map_append]
      exact List.Sublist.trans hasQuery (List.sublist_append_right _ _)
  · simp at inWord

/-- A label with a colon is searched at the beginning of the line first, then behind its blanks from
    right to left. -/
theorem ends_labelWithColon (w : Wanted) (line : Text) :
    (labelWithColon w .source).ends (.start line) =
      ((nameStem.ends (.start line)).map (·.note .before 0)).flatMap
          (wantedThen w closingColon).ends ++
        ((many isInLine).ends (.start line)).flatMap fun here =>
          ((((char isBlank).ends here).flatMap nameStem.ends).map (·.note .before 0)).flatMap
            (wantedThen w closingColon).ends := by
  have atStart : ∀ p, (seq lineStart p).ends (.start line) = p.ends (.start line) := by
    intro p
    simp [ends, Cursor.start]
  have leads : (alt (seq lineStart nameStem)
      (all [lineStart, many isInLine, char isBlank, nameStem])).ends (.start line) =
        nameStem.ends (.start line) ++
          ((many isInLine).ends (.start line)).flatMap (seq (char isBlank) nameStem).ends :=
    congrArg₂ (· ++ ·) (atStart nameStem) (atStart _)
  change ((Pattern.ends _ (.start line)).map (·.note .before 0)).flatMap
    (wantedThen w closingColon).ends = _
  rw [leads, List.map_append, List.flatMap_append, List.map_flatMap, List.flatMap_assoc]
  rfl

/-- What may stand in front of the word in a label without a colon. -/
def bareStem : Pattern :=
  Pattern.optional (group .inner
    (seq (char fun c => !(c.isDigit || isBlank c)) (many isWordOrDot)))

theorem ends_bareStem {c : Char} (follows : here.rest = c :: rest)
    (noDigit : c.isDigit = false) (noBlank : isBlank c = false) :
    bareStem.ends here =
      ((many isWordOrDot).ends (here.advance c rest)).map (·.note .inner here.column) ++
        [here] := by
  simp [bareStem, Pattern.optional, ends, follows, noDigit, noBlank]

/-- A label without a colon is searched at the beginning of the line. -/
theorem ends_labelWithoutColon (w : Wanted) {line : Text}
    (free : notReserved.ends (.start line) ≠ []) :
    (labelWithoutColon w).ends (.start line) =
      ((bareStem.ends (.start line)).map (·.note .before 0)).flatMap
        (wantedThen w (notAhead (char fun c => isWordOrDot c || c == ':'))).ends := by
  have stays : notReserved.ends (.start line) = [.start line] := by
    obtain ⟨there, member⟩ := List.exists_mem_of_ne_nil _ free
    rw [notReserved, ends] at member ⊢
    split_ifs at member ⊢
    · rfl
    · simp at member
  have atStart : lineStart.ends (.start line) = [.start line] := by
    simp [ends, Cursor.start]
  change (lineStart.ends (.start line)).flatMap (seq notReserved _).ends = _
  rw [atStart, List.flatMap_singleton]
  change (notReserved.ends (.start line)).flatMap _ = _
  rw [stays, List.flatMap_singleton]
  rfl

theorem closingColon_ne_nil_of_tail {tail after : Text} (isColon : tail = ':' :: after)
    (single : after.head? ≠ some ':') (stop : Cursor) (behind : stop.rest = tail) :
    closingColon.ends stop ≠ [] :=
  (ends_closingColon_ne_nil stop).2 ⟨after, behind.trans isColon, single⟩

end Pattern

namespace SourceLabel

open Cursor Pattern WordSearch

variable {line margin mark name tail front word query : Text} {here : Cursor}
  (label : SourceLabel line margin mark name tail)
  (segment : LastSegment line (margin ++ front) word tail) (split : mark ++ name = front ++ word)

include label segment split

/-- The mark and the name in front of the last segment are taken, as far as the name goes. -/
theorem leads_nameStem (on : here.IsOn line) (column : here.column = margin.length) :
    Leads line (margin ++ front) word (nameStem.ends here) ∧
      ∃ x ∈ nameStem.ends here, x.column = (margin ++ front).length := by
  have follows : here.rest = mark ++ (name ++ tail) := by
    rw [on.rest, column, label.split]
    simp only [List.append_assoc, List.drop_left]
  have toEnd : (margin ++ front ++ word).length = margin.length + (mark ++ name).length := by
    rw [split, List.append_assoc, List.length_append]
  rcases label.isMark with rfl | rfl
  · obtain rfl : name = front ++ word := split
    have ofFront : ∀ c ∈ front, isWordOrDot c := fun c member =>
      label.ofName c (List.mem_append_left _ member)
    have unmarked : here.rest.head? ≠ some '@' := by
      rw [follows]
      exact label.head_name tail
    rw [ends_nameStem_unmarked unmarked]
    obtain ⟨x, member, _, reaches⟩ :=
      exists_mem_ends_many (follows.trans (List.append_assoc front word tail)) ofFront
    refine ⟨segment.leads_many on follows label.ofName ?_, x, member, ?_⟩
    · rw [column, toEnd]
      rfl
    · rw [reaches, column, List.length_append]
  · have starts : here.rest = '@' :: (name ++ tail) := follows
    obtain ⟨run, rfl, rfl⟩ := segment.exists_run_of_marked split
    have ofRun : ∀ c ∈ run, isWordOrDot c := fun c member =>
      label.ofName c (List.mem_append_left _ member)
    have next := on.advance starts
    have toEndNext : (here.advance '@' (run ++ word ++ tail)).column + (run ++ word).length =
        (margin ++ '@' :: run ++ word).length := by
      rw [toEnd, column_advance, column]
      simp only [List.length_append, List.length_cons, List.length_nil]
      omega
    rw [ends_nameStem_marked starts]
    obtain ⟨x, member, _, reaches⟩ := exists_mem_ends_many
      ((here.rest_advance '@' (run ++ word ++ tail)).trans (List.append_assoc run word tail)) ofRun
    refine ⟨(segment.leads_many next rfl label.ofName toEndNext).append_singleton on ?_ ?_, x,
      List.mem_append_left _ member, ?_⟩
    · rw [column, toEnd]
      exact Nat.le_add_right _ _
    · intro x member
      obtain ⟨_, between⟩ := between_of_mem_ends member
      exact between.column_le
    · rw [reaches, column_advance, column, List.length_append, List.length_cons]
      omega

/-- In the first column a label with one colon is found. -/
theorem takesWord_first (first : margin = []) (spells : line.Spells query) (asks : query ≠ [])
    (hasQuery : word.HasQuery query) {after : Text} (isColon : tail = ':' :: after)
    (single : after.head? ≠ some ':') :
    TakesWord ((labelWithColon (.fuzzy query) .source).ends (.start line))
      ⟨(margin ++ front).length, (margin ++ front ++ word).length⟩ := by
  obtain ⟨leads, x, member, reaches⟩ :=
    label.leads_nameStem segment split (isOn_start line) (congrArg List.length first).symm
  have takes := segment.takesWord_flatMap spells closesName_closingColon asks hasQuery
    (closingColon_ne_nil_of_tail isColon single) (leads.map_note .before 0)
    ⟨_, List.mem_map_of_mem member, reaches⟩
  rw [ends_labelWithColon]
  exact takes.append _

omit segment split in
/-- A blank behind the margin stands behind the label. -/
theorem le_of_isBlank {i : Nat} (inside : margin.length ≤ i)
    (blank : (line.drop i).head?.any isBlank) : (margin ++ (mark ++ name)).length ≤ i := by
  by_contra before
  obtain ⟨c, isChar, isBlankChar⟩ := (Option.any_eq_true _ _).1 blank
  rw [List.head?_drop, label.split, List.getElem?_append_left (Nat.not_le.1 before),
    List.getElem?_append_right inside] at isChar
  rw [label.not_blank c (List.mem_of_getElem? isChar)] at isBlankChar
  exact Bool.false_ne_true isBlankChar

/-- Behind blanks it is found as well, unless something behind a later blank is taken first. -/
theorem takesWord_indented (indented : margin ≠ []) (inLine : ∀ c ∈ line, isInLine c)
    (spells : line.Spells query) (asks : query ≠ []) (hasQuery : word.HasQuery query) {after : Text}
    (isColon : tail = ':' :: after) (single : after.head? ≠ some ':')
    (clear : ∀ i, (margin ++ (mark ++ name)).length < i → (line.drop i).head?.any isBlank →
      ¬Text.BeginsLikeLabel (line.drop (i + 1)) query) :
    TakesWord ((labelWithColon (.fuzzy query) .source).ends (.start line))
      ⟨(margin ++ front).length, (margin ++ front ++ word).length⟩ := by
  rcases List.eq_nil_or_concat margin with none | ⟨blanks, blank, isMargin⟩
  · exact absurd none indented
  obtain rfl : margin = blanks ++ [blank] := isMargin.trans List.concat_eq_append
  have isBlankLast : isBlank blank := label.blank blank (by simp)
  have follows : line = blanks ++ (blank :: (mark ++ name ++ tail)) := by
    rw [label.split]
    simp only [List.append_assoc, List.cons_append, List.nil_append]
  have blankFirst : line.head?.any isBlank := by
    obtain ⟨c, more, isCons⟩ := List.exists_cons_of_ne_nil indented
    rw [label.split, isCons]
    exact label.blank c (isCons ▸ List.mem_cons_self)
  have onStart := isOn_start line
  -- The last blank of the margin is where the label is found.
  obtain ⟨x, member, rest, column⟩ : ∃ x ∈ (many isInLine).ends (.start line),
      x.rest = blank :: (mark ++ name ++ tail) ∧ x.column = (start line).column + blanks.length :=
    exists_mem_ends_many follows fun c inBlanks =>
      inLine c (follows ▸ List.mem_append_left _ inBlanks)
  have columnX : x.column = blanks.length := column.trans (Nat.zero_add _)
  have columnNext :
      (x.advance blank (mark ++ name ++ tail)).column = (blanks ++ [blank]).length := by
    rw [column_advance, columnX, List.length_append, List.length_singleton]
  obtain ⟨leads, y, isLead, reaches⟩ := label.leads_nameStem segment split
    ((isOn_of_mem_ends onStart member).advance rest) columnNext
  obtain ⟨there, isHead, isWord⟩ := segment.takesWord_flatMap spells closesName_closingColon asks
    hasQuery (closingColon_ne_nil_of_tail isColon single) (leads.map_note .before 0)
    ⟨_, List.mem_map_of_mem isLead, reaches⟩
  rw [← wordsBehindBlank_of_blank query rest isBlankLast] at isHead
  have isFound : (labelWithColon (.fuzzy query) .source).ends (.start line) =
      ((nameStem.ends (.start line)).map (·.note .before 0)).flatMap
          (wordThen query closingColon).ends ++
        ((many isInLine).ends (.start line)).flatMap (wordsBehindBlank query) :=
    ends_labelWithColon (.fuzzy query) line
  refine ⟨there, ?_, isWord⟩
  rw [isFound, words_margin_eq_nil query blankFirst, List.nil_append]
  refine head_flatMap_of_decreasing (pairwise_manyEnds _ _ _) member ?_ isHead
  intro y isPlace beyond
  refine wordsBehindBlank_eq_nil (isOn_of_mem_ends onStart isPlace) asks spells ?_
  intro blankHere
  have inside : (blanks ++ [blank]).length ≤ y.column := by
    rw [List.length_append, List.length_singleton]
    omega
  have notColon : y.column ≠ (blanks ++ [blank] ++ (mark ++ name)).length := by
    intro atColon
    rw [atColon, label.split, isColon, List.drop_left] at blankHere
    have isBlankColon : isBlank ':' := blankHere
    exact absurd isBlankColon (by decide)
  have behind := label.le_of_isBlank inside blankHere
  exact clear _ (by omega) blankHere

/-- In the first column the first character of a label may stand in front of the word. -/
theorem leads_bareStem (first : margin = []) :
    Leads line (margin ++ front) word (bareStem.ends (.start line)) ∧
      ∃ x ∈ bareStem.ends (.start line), x.column = (margin ++ front).length := by
  obtain ⟨c, more, isCons⟩ :=
    List.exists_cons_of_ne_nil (List.append_ne_nil_of_right_ne_nil mark label.nonempty)
  have follows : (Cursor.start line).rest = c :: (more ++ tail) := by
    change line = _
    rw [label.split, first, isCons]
    rfl
  have noDigit : c.isDigit = false ∧ ∀ d ∈ more, isWordOrDot d := by
    rcases label.isMark with rfl | rfl
    · have isName : name = c :: more := isCons
      have starts := label.noDigit
      rw [isName] at starts
      exact ⟨by simpa using starts, fun d member =>
        label.ofName d (isName ▸ List.mem_cons_of_mem c member)⟩
    · obtain ⟨rfl, rfl⟩ := List.cons.inj isCons
      exact ⟨by decide, label.ofName⟩
  have noBlank := label.not_blank c (isCons ▸ List.mem_cons_self)
  have onStart := isOn_start line
  have onNext := onStart.advance follows
  have toEnd : 1 + more.length = (margin ++ front ++ word).length := by
    rw [first, List.nil_append, ← split, isCons, List.length_cons, Nat.add_comm]
  rw [ends_bareStem follows noDigit.1 noBlank]
  refine ⟨((segment.leads_many onNext rfl noDigit.2 toEnd).map_note .inner 0).append_singleton
    onStart (Nat.zero_le _) ?_, ?_⟩
  · intro x member
    obtain ⟨y, inMany, rfl⟩ := List.mem_map.1 member
    obtain ⟨_, between⟩ := between_of_mem_ends inMany
    exact between.column_le
  · rcases List.cons_eq_append_iff.1 (isCons.symm.trans split) with ⟨rfl, _⟩ | ⟨run, rfl, isMore⟩
    · exact ⟨.start line, List.mem_append_right _ (List.mem_singleton_self _), by rw [first]; rfl⟩
    · obtain ⟨x, member, _, reaches⟩ : ∃ x ∈ (many isWordOrDot).ends ((start line).advance c
          (more ++ tail)), x.rest = word ++ tail ∧ x.column = 1 + run.length := by
        refine exists_mem_ends_many ?_ fun d member => noDigit.2 d ?_
        · rw [rest_advance, isMore, List.append_assoc]
        · exact isMore ▸ List.mem_append_left _ member
      refine ⟨_, List.mem_append_left _ (List.mem_map_of_mem member), ?_⟩
      change x.column = _
      rw [reaches, first, List.nil_append, List.length_cons, Nat.add_comm]

omit segment split in
/-- What stands behind a label without a colon closes it. -/
theorem notAhead_ne_nil (noColon : tail.head? ≠ some ':') (stop : Cursor)
    (rest : stop.rest = tail) :
    (notAhead (char fun c => isWordOrDot c || c == ':')).ends stop ≠ [] := by
  have behind := label.behind
  cases isTail : tail with
  | nil => simp [Pattern.ends, rest, isTail]
  | cons c more =>
    rw [isTail] at behind noColon
    simp only [List.head?_cons, Option.any_some, Bool.not_eq_true] at behind
    have other : c ≠ ':' := by simpa using noColon
    simp [Pattern.ends, rest, isTail, behind, other]

/-- Without a colon it is found in the first column, where no reserved word stands. -/
theorem takesWord_bare (first : margin = []) (spells : line.Spells query) (asks : query ≠ [])
    (hasQuery : word.HasQuery query) (noColon : tail.head? ≠ some ':')
    (free : notReserved.ends (.start line) ≠ []) :
    TakesWord ((labelWithoutColon (.fuzzy query)).ends (.start line))
      ⟨(margin ++ front).length, (margin ++ front ++ word).length⟩ := by
  obtain ⟨leads, x, member, reaches⟩ := label.leads_bareStem segment split first
  rw [ends_labelWithoutColon (.fuzzy query) free]
  exact segment.takesWord_flatMap spells (closesName_notAhead fun c ofName => by simp [ofName]) asks
    hasQuery (label.notAhead_ne_nil noColon) (leads.map_note .before 0)
    ⟨_, List.mem_map_of_mem member, reaches⟩

end SourceLabel
end AsmAtlas
