import AsmAtlas.Proofs.ReservedWords

/-!
# The grammar of labels

A line of source declares a label if a token stands in the first column that is no reserved word and
that no colon follows, or if one with a colon stands behind the blanks of the line. A line of a
listing declares the first token behind a blank that a single colon follows, or else the one in the
first column. The label is the whole token. Reserved words are compared with whole tokens, so it
does not matter in which order they are tried.
-/

namespace AsmAtlas

theorem isWordOrDot_colon : isWordOrDot ':' = false := by
  decide +kernel

namespace Pattern

open Cursor

variable {here there stop : Cursor} {p q : Pattern}

/-- What is preferred of a sequence, if what is preferred of the first part can be gone on from. -/
theorem head_ends_seq (first : (p.ends here).head? = some there)
    (next : (q.ends there).head? = some stop) : ((seq p q).ends here).head? = some stop := by
  obtain ⟨rest, isCons⟩ := List.head?_eq_some_iff.1 first
  rw [ends, isCons, List.head?_flatMap, List.findSome?_cons, next]

/-- No label is read where a blank stands. -/
theorem ends_labelName_of_blank (blank : here.rest.head?.any isBlank) :
    labelName.ends here = [] := by
  refine List.eq_nil_iff_forall_not_mem.2 fun stop member => ?_
  obtain ⟨token, between, isToken⟩ := isToken_of_mem_ends_labelName member
  obtain ⟨c, rest, rfl, visible⟩ := isToken.visible
  simp [between.rest, visible] at blank

theorem ends_colons_ne_nil : colons.ends here ≠ [] ↔ here.rest.head? = some ':' := by
  rw [ends_ne_nil_iff]
  constructor
  · rintro ⟨there, member⟩
    obtain ⟨middle, inColon, -⟩ := List.mem_flatMap.1 member
    obtain ⟨c, rest, follows, isColon, -⟩ := mem_ends_char.1 inColon
    rw [follows, beq_iff_eq.1 isColon, List.head?_cons]
  · intro isColon
    obtain ⟨rest, follows⟩ := List.head?_eq_some_iff.1 isColon
    refine ⟨here.advance ':' rest, List.mem_flatMap.2 ⟨here.advance ':' rest, ?_, ?_⟩⟩
    · exact mem_ends_char.2 ⟨':', rest, follows, beq_self_eq_true _, rfl⟩
    · exact List.mem_append_right _ (List.mem_singleton_self _)

end Pattern

/-- The one or two colons that a text begins with, if there are any. -/
def leadingColons (t : Text) : Text :=
  (t.takeWhile (· == ':')).take 2

theorem leadingColons_append (t : Text) :
    leadingColons t ++ t.drop (leadingColons t).length = t :=
  List.prefix_iff_eq_append.1 ((List.take_prefix _ _).trans (List.takeWhile_prefix _))

/-- A match that shows a label: what it takes is a margin, a token and colons. -/
structure ShowsLabel (m : Match) (margin token colons : Text) : Prop where
  span : m.span = ⟨0, (margin ++ (token ++ colons)).length⟩
  atMargin : m.group? .margin = some ⟨0, margin.length⟩
  atLabel : m.group? .label = some ⟨margin.length, (margin ++ token).length⟩
  atColon : m.group? .colon = if colons = [] then none else
    some ⟨(margin ++ token).length, (margin ++ (token ++ colons)).length⟩

/-! ### Stretches that a match notes -/

namespace Cursor

/-- The place `n` characters further on, where the stretch up to it is noted. -/
def noting (here : Cursor) (g : Group) (n : Nat) : Cursor :=
  (here.forward n).note g here.column

variable {here : Cursor} {g : Group} {n : Nat} {line margin token colons rest : Text}

@[simp] theorem rest_noting : (here.noting g n).rest = here.rest.drop n :=
  here.rest_forward n

@[simp] theorem rest_note {start : Nat} : (here.note g start).rest = here.rest :=
  rfl

theorem column_noting (inside : n ≤ here.rest.length) :
    (here.noting g n).column = here.column + n :=
  here.column_forward inside

theorem noted_noting (inside : n ≤ here.rest.length) :
    (here.noting g n).noted = (g, ⟨here.column, here.column + n⟩) :: here.noted := by
  rw [noting, note, here.column_forward inside, here.noted_forward]

/-- What is left of a line behind some of its text. -/
theorem rest_start_forward (split : line = margin ++ rest) :
    ((Cursor.start line).forward margin.length).rest = rest := by
  have isRest : (Cursor.start line).rest = margin ++ rest := split
  rw [rest_forward, isRest, List.drop_left]

theorem column_start_forward (split : line = margin ++ rest) :
    ((Cursor.start line).forward margin.length).column = margin.length :=
  (column_forward _ (by simp [start, split])).trans (Nat.zero_add _)

/-- The place behind a margin. -/
def indented (line margin : Text) : Cursor :=
  (Cursor.start line).noting .margin margin.length

/-- The place behind a margin and a label. -/
def labelled (line margin token : Text) : Cursor :=
  (indented line margin).noting .label token.length

/-- The place behind a margin, a label and its colons, if there are any. -/
def closed (line margin token colons : Text) : Cursor :=
  if colons = [] then labelled line margin token
  else (labelled line margin token).noting .colon colons.length

theorem rest_indented (split : line = margin ++ rest) : (indented line margin).rest = rest :=
  rest_start_forward split

theorem column_indented (split : line = margin ++ rest) :
    (indented line margin).column = margin.length :=
  column_start_forward split

theorem noted_indented (split : line = margin ++ rest) :
    (indented line margin).noted = [(.margin, ⟨0, margin.length⟩)] := by
  have inside : margin.length ≤ (Cursor.start line).rest.length := by simp [start, split]
  exact (noted_noting inside).trans (by simp [start])

theorem rest_labelled (split : line = margin ++ (token ++ rest)) :
    (labelled line margin token).rest = rest := by
  rw [labelled, rest_noting, rest_indented split, List.drop_left]

theorem column_labelled (split : line = margin ++ (token ++ rest)) :
    (labelled line margin token).column = (margin ++ token).length := by
  have inside : token.length ≤ (indented line margin).rest.length := by
    simp [rest_indented split]
  rw [labelled, column_noting inside, column_indented split, List.length_append]

theorem noted_labelled (split : line = margin ++ (token ++ rest)) :
    (labelled line margin token).noted =
      [(.label, ⟨margin.length, (margin ++ token).length⟩), (.margin, ⟨0, margin.length⟩)] := by
  have inside : token.length ≤ (indented line margin).rest.length := by
    simp [rest_indented split]
  rw [labelled, noted_noting inside, column_indented split, noted_indented split,
    List.length_append]

/-- A match up to there shows the label. -/
theorem showsLabel_closed (split : line = margin ++ (token ++ (colons ++ rest))) :
    ShowsLabel (Pattern.matchTo (.start line) (closed line margin token colons)) margin token
      colons := by
  have inside : colons.length ≤ (labelled line margin token).rest.length := by
    simp [rest_labelled split]
  have length : (margin ++ (token ++ colons)).length =
      (margin ++ token).length + colons.length := by
    rw [← List.append_assoc, List.length_append]
  by_cases none : colons = []
  · subst none
    have isClosed : closed line margin token [] = labelled line margin token := rfl
    constructor <;>
      simp only [Match.group?, Pattern.matchTo, isClosed, column_labelled split,
        noted_labelled split, List.append_nil] <;> rfl
  · have isClosed : closed line margin token colons =
        (labelled line margin token).noting .colon colons.length := if_neg none
    constructor <;>
      simp only [Match.group?, Pattern.matchTo, isClosed, column_noting inside, noted_noting inside,
        column_labelled split, noted_labelled split, length, if_neg none] <;> rfl

end Cursor

namespace LabelForm

open Cursor Pattern

variable {here there : Cursor} {line token after : Text}

/-! ### Labels of a source -/

/-- Neither the rest of a name nor a colon may follow a label without a colon. -/
theorem mem_ends_noColon :
    there ∈ (notAhead (char fun c => isWordOrDot c || c == ':')).ends here ↔
      there = here ∧ ¬here.rest.head?.any isWordOrDot ∧ here.rest.head? ≠ some ':' := by
  rw [mem_ends_notAhead, ends_char_eq_nil]
  cases here.rest.head? <;> simp

theorem ends_colons_of_continues {stop : Cursor} (continues : stop.rest.head?.any isWordOrDot) :
    colons.ends stop = [] := by
  by_contra nonempty
  rw [ends_colons_ne_nil.1 nonempty, Option.any_some, isWordOrDot_colon] at continues
  exact Bool.false_ne_true continues

/-- A label without a colon is seen ahead: a token in the first column that no colon follows and
    that is no reserved word. -/
theorem bareAhead_iff : bareAhead.ends (.start line) ≠ [] ↔
    ∃ token after, TokenAt line [] token after ∧ after.head? ≠ some ':' ∧
      ¬Keyword.IsReserved token := by
  have refuses : ∀ stop : Cursor, stop.rest.head?.any isWordOrDot →
      (notAhead (char fun c => isWordOrDot c || c == ':')).ends stop = [] := by
    intro stop continues
    exact List.eq_nil_iff_forall_not_mem.2 fun there member =>
      (mem_ends_noColon.1 member).2.1 continues
  rw [bareAhead, ends_ahead_ne_nil, ends_ne_nil_iff]
  constructor
  · rintro ⟨there, member⟩
    obtain ⟨free, isFree, member⟩ := List.mem_flatMap.1 member
    obtain rfl := (mem_ends_notAhead.1 isFree).1
    obtain ⟨token, after, split, isToken, maximal, behind⟩ :=
      (mem_flatMap_labelName refuses).1 member
    have tokenAt : TokenAt line [] token after := ⟨split, isToken, maximal⟩
    have noColon := (mem_ends_noColon.1 behind).2.2
    rw [rest_forward, split, List.drop_left] at noColon
    exact ⟨token, after, tokenAt, noColon, (tokenAt.mem_ends_notReserved.1 isFree).2⟩
  · rintro ⟨token, after, tokenAt, noColon, isFree⟩
    have follows : ((Cursor.start line).forward token.length).rest = after :=
      rest_start_forward tokenAt.split
    refine ⟨(Cursor.start line).forward token.length, List.mem_flatMap.2
      ⟨.start line, tokenAt.mem_ends_notReserved.2 ⟨rfl, isFree⟩, ?_⟩⟩
    refine (mem_flatMap_labelName refuses).2
      ⟨token, after, tokenAt.split, tokenAt.isToken, tokenAt.maximal, ?_⟩
    rw [mem_ends_noColon, follows]
    exact ⟨rfl, tokenAt.maximal, noColon⟩

/-- A label with a colon is seen ahead: a token behind the blanks of the line that a colon
    follows. -/
theorem markedAhead_iff : markedAhead.ends (.start line) ≠ [] ↔
    ∃ token after, TokenAt line (line.takeWhile isBlank) token after ∧ after.head? = some ':' := by
  have isRest := rest_start_forward (line.takeWhile_append_dropWhile (p := isBlank)).symm
  have behindBlanks : (Pattern.all [blanks, labelName, colons]).ends (.start line) =
      (labelName.ends ((Cursor.start line).forward (line.takeWhile isBlank).length)).flatMap
        colons.ends := by
    refine flatMap_manyEnds rfl fun stop blank => ?_
    simp only [Pattern.all, ends, ends_labelName_of_blank blank, List.flatMap_nil]
  rw [markedAhead, ends_ahead_ne_nil, ends_ne_nil_iff]
  simp only [behindBlanks, mem_flatMap_labelName fun _ => ends_colons_of_continues]
  constructor
  · rintro ⟨there, token, after, split, isToken, maximal, behind⟩
    refine ⟨token, after, ⟨?_, isToken, maximal⟩, ?_⟩
    · rw [← split, isRest, List.takeWhile_append_dropWhile]
    · have isColon := ends_colons_ne_nil.1 (List.ne_nil_of_mem behind)
      rwa [rest_forward, split, List.drop_left] at isColon
  · rintro ⟨token, after, tokenAt, isColon⟩
    have split := rest_start_forward tokenAt.split
    have follows : (((Cursor.start line).forward (line.takeWhile isBlank).length).forward
        token.length).rest = after := by
      rw [rest_forward, split, List.drop_left]
    obtain ⟨there, behind⟩ := ends_ne_nil_iff.1 (ends_colons_ne_nil.2 (follows ▸ isColon))
    exact ⟨there, token, after, split, tokenAt.isToken, tokenAt.maximal, behind⟩

/-! What each part of the source pattern prefers. -/

theorem head_ends_margin : ((group .margin blanks).ends here).head? =
    some (here.noting .margin (here.rest.takeWhile isBlank).length) := by
  rw [ends, List.head?_map, blanks, ends, head_manyEnds rfl]
  rfl

theorem head_ends_label (split : here.rest = token ++ after) (isToken : IsToken token)
    (maximal : ¬after.head?.any isWordOrDot) :
    ((group .label labelName).ends here).head? = some (here.noting .label token.length) := by
  rw [ends, List.head?_map, head_ends_labelName split isToken maximal]
  rfl

/-- Two colons are taken where there are two, then one, then none. -/
theorem head_ends_colons (follows : here.rest = after) :
    ((Pattern.optional (group .colon colons)).ends here).head? = some
      (if leadingColons after = [] then here
        else here.noting .colon (leadingColons after).length) := by
  rcases after with _ | ⟨c, rest⟩
  · simp [Pattern.optional, colons, exactly, ends, follows, leadingColons]
  by_cases first : c = ':'
  · rcases rest with _ | ⟨d, rest⟩
    · simp [Pattern.optional, colons, exactly, ends, follows, leadingColons, first, noting, forward]
    by_cases second : d = ':' <;>
      simp [Pattern.optional, colons, exactly, ends, follows, leadingColons, first, second, noting,
        forward]
  · simp [Pattern.optional, colons, exactly, ends, follows, leadingColons, first]

/-- The kinds of source labels that are switched on. -/
def sourceKinds (rules : LabelRules) : List Pattern :=
  (if rules.withoutColons then [bareAhead] else []) ++
    if rules.withColons then [markedAhead] else []

theorem matchStart_source (rules : LabelRules) (line : Text) :
    (LabelForm.of .source rules).pattern.matchStart line =
      (inSource (sourceKinds rules)).matchStart line := by
  obtain ⟨withColons, withoutColons⟩ := rules
  cases withColons <;> cases withoutColons <;> rfl

theorem mem_sourceKinds {rules : LabelRules} {kind : Pattern} : kind ∈ sourceKinds rules ↔
    rules.withoutColons ∧ kind = bareAhead ∨ rules.withColons ∧ kind = markedAhead := by
  simp [sourceKinds]

/-- Kinds of labels are seen ahead and take nothing. -/
theorem eq_of_mem_sourceKinds {rules : LabelRules}
    (member : there ∈ (any (sourceKinds rules)).ends here) : there = here := by
  obtain ⟨kind, isKind, isAhead⟩ := exists_of_mem_ends_any member
  rcases mem_sourceKinds.1 isKind with ⟨-, rfl⟩ | ⟨-, rfl⟩ <;> exact eq_of_mem_ends_ahead isAhead

/-- A token that a line of source declares as its label. -/
inductive SourceToken (rules : LabelRules) (line token after : Text) : Prop
  | bare (on : rules.withoutColons) (tokenAt : TokenAt line [] token after)
      (noColon : after.head? ≠ some ':') (free : ¬Keyword.IsReserved token)
  | marked (on : rules.withColons) (tokenAt : TokenAt line (line.takeWhile isBlank) token after)
      (isColon : after.head? = some ':')

theorem SourceToken.tokenAt {rules : LabelRules} (declared : SourceToken rules line token after) :
    TokenAt line (line.takeWhile isBlank) token after := by
  cases declared with
  | bare on tokenAt => rwa [tokenAt.takeWhile_isBlank (List.forall_mem_nil _)]
  | marked on tokenAt => exact tokenAt

/-- Source labels are seen ahead where a token is declared. -/
theorem ends_sourceKinds_ne_nil {rules : LabelRules} :
    (any (sourceKinds rules)).ends (.start line) ≠ [] ↔
      ∃ token after, SourceToken rules line token after := by
  rw [ends_ne_nil_iff]
  constructor
  · rintro ⟨there, member⟩
    obtain ⟨kind, isKind, isAhead⟩ := exists_of_mem_ends_any member
    rcases mem_sourceKinds.1 isKind with ⟨on, rfl⟩ | ⟨on, rfl⟩
    · obtain ⟨token, after, tokenAt, noColon, free⟩ := bareAhead_iff.1 (List.ne_nil_of_mem isAhead)
      exact ⟨token, after, .bare on tokenAt noColon free⟩
    · obtain ⟨token, after, tokenAt, isColon⟩ := markedAhead_iff.1 (List.ne_nil_of_mem isAhead)
      exact ⟨token, after, .marked on tokenAt isColon⟩
  · rintro ⟨token, after, declared⟩
    cases declared with
    | bare on tokenAt noColon free =>
      obtain ⟨there, isAhead⟩ :=
        ends_ne_nil_iff.1 (bareAhead_iff.2 ⟨token, after, tokenAt, noColon, free⟩)
      exact ⟨there, mem_ends_any.2 ⟨bareAhead, mem_sourceKinds.2 (.inl ⟨on, rfl⟩), isAhead⟩⟩
    | marked on tokenAt isColon =>
      obtain ⟨there, isAhead⟩ :=
        ends_ne_nil_iff.1 (markedAhead_iff.2 ⟨token, after, tokenAt, isColon⟩)
      exact ⟨there, mem_ends_any.2 ⟨markedAhead, mem_sourceKinds.2 (.inr ⟨on, rfl⟩), isAhead⟩⟩

/-- A line of source that declares a token is matched, and the match shows the token behind all
    blanks and with its colons. -/
theorem exists_shows_of_sourceToken {rules : LabelRules}
    (declared : SourceToken rules line token after) :
    ∃ m, (LabelForm.of .source rules).pattern.matchStart line = some m ∧
      ShowsLabel m (line.takeWhile isBlank) token (leadingColons after) := by
  have tokenAt := declared.tokenAt
  have seen : ((any (sourceKinds rules)).ends (.start line)).head? = some (.start line) := by
    obtain ⟨first, more, isCons⟩ :=
      List.exists_cons_of_ne_nil (ends_sourceKinds_ne_nil.2 ⟨token, after, declared⟩)
    have isStart := eq_of_mem_sourceKinds (isCons ▸ List.mem_cons_self)
    rw [isCons, List.head?_cons, isStart]
  have atStart : (lineStart.ends (.start line)).head? = some (.start line) := rfl
  have isEnd : ((inSource (sourceKinds rules)).ends (.start line)).head? =
      some (.closed line (line.takeWhile isBlank) token (leadingColons after)) :=
    head_ends_seq atStart <| head_ends_seq seen <| head_ends_seq head_ends_margin <|
      head_ends_seq (head_ends_label (rest_indented tokenAt.split) tokenAt.isToken tokenAt.maximal)
        (head_ends_colons (rest_labelled tokenAt.split))
  have split : line = line.takeWhile isBlank ++
      (token ++ (leadingColons after ++ after.drop (leadingColons after).length)) := by
    rw [leadingColons_append]
    exact tokenAt.split
  refine ⟨_, ?_, showsLabel_closed split⟩
  rw [matchStart_source, matchStart_eq, isEnd]
  rfl

/-- A line of source is matched if it declares a token, and the match shows such a token. -/
theorem source_iff (rules : LabelRules) (line : Text) :
    ((LabelForm.of .source rules).pattern.accepts line ↔
        ∃ token after, SourceToken rules line token after) ∧
      ∀ m, (LabelForm.of .source rules).pattern.matchStart line = some m →
        ∃ token after, SourceToken rules line token after ∧
          ShowsLabel m (line.takeWhile isBlank) token (leadingColons after) := by
  have declares : (LabelForm.of .source rules).pattern.accepts line →
      ∃ token after, SourceToken rules line token after := by
    rw [accepts, matchStart_source, ← accepts, accepts_iff]
    rintro ⟨there, member⟩
    obtain ⟨begun, isBegin, member⟩ := List.mem_flatMap.1 member
    obtain ⟨checked, isChecked, -⟩ := List.mem_flatMap.1 member
    obtain rfl := eq_of_mem_ends_lineStart isBegin
    exact ends_sourceKinds_ne_nil.1 (List.ne_nil_of_mem isChecked)
  refine ⟨⟨declares, ?_⟩, fun m isMatch => ?_⟩
  · rintro ⟨token, after, declared⟩
    obtain ⟨m, isMatch, -⟩ := exists_shows_of_sourceToken declared
    exact Option.isSome_iff_exists.2 ⟨m, isMatch⟩
  · obtain ⟨token, after, declared⟩ := declares (Option.isSome_iff_exists.2 ⟨m, isMatch⟩)
    obtain ⟨_, again, shown⟩ := exists_shows_of_sourceToken declared
    obtain rfl := Option.some.inj (again.symm.trans isMatch)
    exact ⟨token, after, declared, shown⟩

/-! ### Labels of a listing -/

/-- A token with a single colon, in the first column or right behind a blank. -/
structure ListedAt (line before token rest : Text) : Prop where
  tokenAt : TokenAt line before token (':' :: rest)
  place : before = [] ∨ before.getLast?.any isBlank
  single : rest.head? ≠ some ':'

/-- What is read behind the margin of a listing. -/
def listedTail : Pattern :=
  Pattern.all [group .label labelName, group .colon (exactly ':'), notAhead (exactly ':')]

/-- Where the label of a listing may begin: behind each blank from left to right, and at last in the
    first column. -/
def listedStarts (line : Text) : List Cursor :=
  (fewEnds isInLine (.start line) line).flatMap (char isBlank).ends ++ [.start line]

theorem ends_listed (line : Text) : listed.pattern.ends (.start line) =
    (listedStarts line).flatMap fun start => listedTail.ends (start.note .margin 0) := by
  have begun : listed.pattern.ends (.start line) =
      [Cursor.start line].flatMap (seq (group .margin _) listedTail).ends := rfl
  rw [begun, List.flatMap_singleton, ends, ends, List.flatMap_map]
  rfl

/-- A single colon is read where no second one follows. -/
theorem mem_ends_singleColon :
    there ∈ (seq (group .colon (exactly ':')) (notAhead (exactly ':'))).ends here ↔
      ∃ rest, here.rest = ':' :: rest ∧ rest.head? ≠ some ':' ∧ there = here.noting .colon 1 := by
  constructor
  · intro member
    obtain ⟨noted, inGroup, behind⟩ := List.mem_flatMap.1 member
    obtain ⟨stop, inColon, rfl⟩ := List.mem_map.1 inGroup
    obtain ⟨c, rest, follows, isColon, rfl⟩ := mem_ends_char.1 inColon
    obtain rfl := beq_iff_eq.1 isColon
    obtain ⟨rfl, refused⟩ := mem_ends_notAhead.1 behind
    refine ⟨rest, follows, ?_, by rw [noting, ← forward_advance follows, forward]⟩
    intro double
    have noColon := ends_char_eq_nil.1 refused
    rw [rest_note, rest_advance, double] at noColon
    exact noColon rfl
  · rintro ⟨rest, follows, single, rfl⟩
    have isNoted : here.noting .colon 1 = (here.advance ':' rest).note .colon here.column := by
      rw [noting, ← forward_advance follows, forward]
    rw [isNoted]
    refine List.mem_flatMap.2 ⟨_, List.mem_map_of_mem (mem_ends_char.2 ⟨':', rest, follows,
      beq_self_eq_true _, rfl⟩), mem_ends_notAhead.2 ⟨rfl, ends_char_eq_nil.2 fun isColon => ?_⟩⟩
    obtain ⟨c, head, same⟩ := (Option.any_eq_true _ _).1 isColon
    exact single (beq_iff_eq.1 same ▸ head)

/-- A label of a listing is a token with a single colon. -/
theorem mem_ends_listedTail : there ∈ listedTail.ends here ↔
    ∃ token rest, here.rest = token ++ ':' :: rest ∧ IsToken token ∧ rest.head? ≠ some ':' ∧
      there = (here.noting .label token.length).noting .colon 1 := by
  have tail : listedTail.ends here = (labelName.ends here).flatMap fun stop =>
      (seq (group .colon (exactly ':')) (notAhead (exactly ':'))).ends
        (stop.note .label here.column) := List.flatMap_map ..
  rw [tail, mem_flatMap_labelName]
  · constructor
    · rintro ⟨token, after, split, isToken, maximal, behind⟩
      obtain ⟨rest, follows, single, rfl⟩ := mem_ends_singleColon.1 behind
      have isAfter : after = ':' :: rest := by
        rwa [rest_note, rest_forward, split, List.drop_left] at follows
      exact ⟨token, rest, isAfter ▸ split, isToken, single, rfl⟩
    · rintro ⟨token, rest, split, isToken, single, rfl⟩
      refine ⟨token, ':' :: rest, split, isToken, by simp [isWordOrDot_colon], ?_⟩
      refine mem_ends_singleColon.2 ⟨rest, ?_, single, rfl⟩
      rw [rest_note, rest_forward, split, List.drop_left]
  · intro stop continues
    refine List.eq_nil_iff_forall_not_mem.2 fun there behind => ?_
    obtain ⟨rest, follows, -⟩ := mem_ends_singleColon.1 behind
    rw [rest_note] at follows
    simp [follows, isWordOrDot_colon] at continues

/-- Labels of listings begin in the first column and behind blanks. -/
theorem exists_of_mem_listedStarts (member : here ∈ listedStarts line) :
    ∃ before rest, line = before ++ rest ∧ (before = [] ∨ before.getLast?.any isBlank) ∧
      here = (Cursor.start line).forward before.length := by
  have isRest : (Cursor.start line).rest = line := rfl
  rw [listedStarts, List.mem_append, List.mem_singleton, mem_behindBlank isRest] at member
  rcases member with ⟨before, b, after, rfl, -, blank, rfl⟩ | rfl
  · exact ⟨before ++ [b], after, by simp, .inr (by simpa using blank), by simp⟩
  · exact ⟨[], line, rfl, .inl rfl, rfl⟩

/-- In a line without a line feed they begin behind every blank. -/
theorem mem_listedStarts (noFeed : '\n' ∉ line) : here ∈ listedStarts line ↔
    ∃ before rest, line = before ++ rest ∧ (before = [] ∨ before.getLast?.any isBlank) ∧
      here = (Cursor.start line).forward before.length := by
  refine ⟨exists_of_mem_listedStarts, ?_⟩
  rintro ⟨before, rest, split, place, rfl⟩
  have isRest : (Cursor.start line).rest = line := rfl
  rw [listedStarts, List.mem_append, List.mem_singleton, mem_behindBlank isRest]
  rcases before.eq_nil_or_concat with rfl | ⟨front, b, rfl⟩
  · exact .inr rfl
  · refine .inl ⟨front, b, rest, by simp [split], ?_, by simpa using place, by simp⟩
    intro c inFront
    refine bne_iff_ne.2 ?_
    rintro rfl
    exact noFeed (split ▸ by simp [inFront])

/-- Places behind blanks are tried from left to right, and the first column last. -/
def Sooner (a b : Cursor) : Prop :=
  a.column ≠ 0 ∧ (b.column ≠ 0 → a.column < b.column)

theorem pairwise_listedStarts (line : Text) : (listedStarts line).Pairwise Sooner := by
  have isRest : (Cursor.start line).rest = line := rfl
  have behind : ∀ place ∈ (fewEnds isInLine (.start line) line).flatMap (char isBlank).ends,
      place.column ≠ 0 := by
    intro place member
    obtain ⟨before, b, after, split, -, -, rfl⟩ := (mem_behindBlank isRest).1 member
    rw [column_forward _ (by simp [Cursor.start, split])]
    exact Nat.succ_ne_zero _
  refine List.pairwise_append.2 ⟨?_, List.pairwise_singleton _ _, ?_⟩
  · exact (pairwise_behindBlank isInLine isRest).imp_of_mem fun isNear _ nearer =>
      ⟨behind _ isNear, fun _ => nearer⟩
  · intro near isNear far isFar
    obtain rfl := List.mem_singleton.1 isFar
    exact ⟨behind near isNear, fun first => absurd rfl first⟩

/-- What is read where a label of a listing begins is a label, and a match up to there shows it. -/
theorem exists_listedAt {before rest : Text} (split : line = before ++ rest)
    (place : before = [] ∨ before.getLast?.any isBlank)
    (member : there ∈ listedTail.ends (indented line before)) :
    ∃ token rest, ListedAt line before token rest ∧
      ShowsLabel (matchTo (.start line) there) before token [':'] := by
  obtain ⟨token, rest, follows, isToken, single, rfl⟩ := mem_ends_listedTail.1 member
  rw [rest_indented split] at follows
  have isLine : line = before ++ (token ++ ([':'] ++ rest)) := follows ▸ split
  exact ⟨token, rest, ⟨⟨isLine, isToken, by simp [isWordOrDot_colon]⟩, place, single⟩,
    showsLabel_closed isLine⟩

/-- A place where a label of a listing begins leads on to a label. -/
theorem ends_listedTail_ne_nil {before rest : Text} (split : line = before ++ rest)
    (place : before = [] ∨ before.getLast?.any isBlank) :
    listedTail.ends (indented line before) ≠ [] ↔
      ∃ token rest, ListedAt line before token rest := by
  rw [ends_ne_nil_iff]
  constructor
  · rintro ⟨there, member⟩
    obtain ⟨token, rest, listedAt, -⟩ := exists_listedAt split place member
    exact ⟨token, rest, listedAt⟩
  · rintro ⟨token, rest, listed⟩
    exact ⟨_, mem_ends_listedTail.2 ⟨token, rest, rest_indented listed.tokenAt.split,
      listed.tokenAt.isToken, listed.single, rfl⟩⟩

/-- A line of a listing is matched if it has such a token. -/
theorem accepts_of_listedAt (noFeed : '\n' ∉ line) {before rest : Text}
    (listedAt : ListedAt line before token rest) : listed.pattern.accepts line := by
  have isStart : (Cursor.start line).forward before.length ∈ listedStarts line :=
    (mem_listedStarts noFeed).2 ⟨before, _, listedAt.tokenAt.split, listedAt.place, rfl⟩
  obtain ⟨there, member⟩ := ends_ne_nil_iff.1
    ((ends_listedTail_ne_nil listedAt.tokenAt.split listedAt.place).2 ⟨token, rest, listedAt⟩)
  refine accepts_iff.2 ⟨there, ?_⟩
  rw [ends_listed]
  exact List.mem_flatMap.2 ⟨_, isStart, member⟩

/-- A match in a listing shows a label of the line. -/
theorem exists_listedAt_of_match {m : Match} (isMatch : listed.pattern.matchStart line = some m) :
    ∃ before token rest, ListedAt line before token rest ∧ ShowsLabel m before token [':'] := by
  rw [matchStart_eq, ends_listed] at isMatch
  obtain ⟨stop, first, rfl⟩ := Option.map_eq_some_iff.1 isMatch
  obtain ⟨start, isStart, member⟩ := List.mem_flatMap.1 (List.mem_of_head? first)
  obtain ⟨before, rest, split, place, rfl⟩ := exists_of_mem_listedStarts isStart
  exact ⟨before, exists_listedAt split place member⟩

/-- A match in a listing shows the first token behind a blank, or else the one in the first
    column. -/
theorem listedAt_of_match (noFeed : '\n' ∉ line) {m : Match}
    (isMatch : listed.pattern.matchStart line = some m) :
    ∃ before token rest, ListedAt line before token rest ∧ ShowsLabel m before token [':'] ∧
      ∀ other otherToken otherRest, ListedAt line other otherToken otherRest → other ≠ [] →
        before ≠ [] ∧ before.length ≤ other.length := by
  rw [matchStart_eq, ends_listed, List.head?_flatMap] at isMatch
  obtain ⟨stop, first, rfl⟩ := Option.map_eq_some_iff.1 isMatch
  obtain ⟨front, start, back, isList, isFirst, sooner⟩ := List.findSome?_eq_some_iff.1 first
  have isStart : start ∈ listedStarts line := by simp [isList]
  obtain ⟨before, rest, split, place, rfl⟩ := (mem_listedStarts noFeed).1 isStart
  obtain ⟨token, rest, listedAt, shown⟩ := exists_listedAt split place (List.mem_of_head? isFirst)
  refine ⟨before, token, rest, listedAt, shown, ?_⟩
  intro other otherToken otherRest otherAt nonempty
  -- The other place is not among those that were tried in vain, so it is this one or a later one.
  have isOther : (Cursor.start line).forward other.length ∈ listedStarts line :=
    (mem_listedStarts noFeed).2 ⟨other, _, otherAt.tokenAt.split, otherAt.place, rfl⟩
  have columnOther := column_start_forward otherAt.tokenAt.split
  have column := column_start_forward split
  have later : (Cursor.start line).forward other.length ∉ front := by
    intro inFront
    have none := List.head?_eq_none_iff.1 (sooner _ inFront)
    exact (ends_listedTail_ne_nil otherAt.tokenAt.split otherAt.place).2 ⟨_, _, otherAt⟩ none
  rw [isList, List.mem_append, or_iff_right later, List.mem_cons] at isOther
  rcases isOther with same | inBack
  · have length : other.length = before.length := by rw [← columnOther, same, column]
    exact ⟨List.length_pos_iff.1 (length ▸ List.length_pos_iff.2 nonempty), length.ge⟩
  · have ordered := isList ▸ pairwise_listedStarts line
    obtain ⟨behind, nearer⟩ :=
      (List.pairwise_cons.1 (List.pairwise_append.1 ordered).2.1).1 _ inBack
    rw [column, columnOther] at nearer
    rw [column] at behind
    exact ⟨List.length_pos_iff.1 (Nat.pos_of_ne_zero behind),
      (nearer (List.length_pos_iff.2 nonempty).ne').le⟩

/-- A line of a listing is matched if labels with colons are on and it has such a token. -/
theorem listing_iff (rules : LabelRules) (noFeed : '\n' ∉ line) :
    ((LabelForm.of .listing rules).pattern.accepts line ↔
        rules.withColons ∧ ∃ before token rest, ListedAt line before token rest) ∧
      ∀ m, (LabelForm.of .listing rules).pattern.matchStart line = some m →
        ∃ before token rest, ListedAt line before token rest ∧ ShowsLabel m before token [':'] ∧
          ∀ other otherToken otherRest, ListedAt line other otherToken otherRest → other ≠ [] →
            before ≠ [] ∧ before.length ≤ other.length := by
  obtain ⟨withColons, withoutColons⟩ := rules
  cases withColons with
  | false =>
    have none : (LabelForm.of .listing ⟨false, withoutColons⟩).pattern.matchStart line = none := rfl
    exact ⟨by simp [accepts, none], by simp [none]⟩
  | true =>
    have isListed : LabelForm.of .listing ⟨true, withoutColons⟩ = listed := rfl
    rw [isListed]
    refine ⟨⟨fun accepted => ⟨rfl, ?_⟩, ?_⟩, fun m => listedAt_of_match noFeed⟩
    · obtain ⟨m, isMatch⟩ := Option.isSome_iff_exists.1 accepted
      obtain ⟨before, token, rest, listedAt, -⟩ := listedAt_of_match noFeed isMatch
      exact ⟨before, token, rest, listedAt⟩
    · rintro ⟨-, before, token, rest, listedAt⟩
      exact accepts_of_listedAt noFeed listedAt

/-! ### Reserved words in any order -/

/-- A label without a colon, where these words are the reserved ones. -/
def bareAheadOf (words : List Text) : Pattern :=
  ahead (Pattern.all
    [notOneOf words, labelName, notAhead (char fun c => isWordOrDot c || c == ':')])

/-- The pattern of a form that tries the reserved words in the given order. -/
def patternOf (words : List Text) : LabelForm → Pattern
  | bare => inSource [bareAheadOf words]
  | either => inSource [bareAheadOf words, markedAhead]
  | form => form.pattern

theorem pattern_eq_patternOf (form : LabelForm) :
    form.pattern = form.patternOf (longestFirst Keyword.reserved) := by
  cases form <;> rfl

/-- Words that are the same but for their order make no difference. -/
theorem matchStart_patternOf_congr {words others : List Text}
    (same : ∀ word, word ∈ words ↔ word ∈ others) (form : LabelForm) (line : Text) :
    (form.patternOf words).matchStart line = (form.patternOf others).matchStart line := by
  have bare : ∀ here, (bareAheadOf words).ends here = (bareAheadOf others).ends here := by
    intro here
    have isAhead : ∀ words, bareAheadOf words = ahead (seq (notOneOf words) _) := fun _ => rfl
    rw [isAhead, isAhead, ends, ends, ends, ends, ends_notOneOf_congr same]
  rw [matchStart_eq, matchStart_eq]
  cases form <;> simp only [patternOf, inSource, Pattern.all, any, ends, bare]

/-- The grammar of labels. In source a line is matched if it declares a token, without or with a
    colon, and the match takes the blanks in front, the token and the colons behind it. In a listing
    it is matched if it has a token with a single colon, behind a blank or in the first column, and
    the match takes the first one behind a blank if there is any. Neither depends on the order of
    the reserved words. -/
theorem label_grammar (rules : LabelRules) {line : Text} (noFeed : '\n' ∉ line) :
    ((LabelForm.of .source rules).pattern.accepts line ↔
        ∃ token after, SourceToken rules line token after) ∧
      (∀ m, (LabelForm.of .source rules).pattern.matchStart line = some m →
        ∃ token after, SourceToken rules line token after ∧
          ShowsLabel m (line.takeWhile isBlank) token (leadingColons after)) ∧
      ((LabelForm.of .listing rules).pattern.accepts line ↔
        rules.withColons ∧ ∃ before token rest, ListedAt line before token rest) ∧
      (∀ m, (LabelForm.of .listing rules).pattern.matchStart line = some m →
        ∃ before token rest, ListedAt line before token rest ∧ ShowsLabel m before token [':'] ∧
          ∀ other otherToken otherRest, ListedAt line other otherToken otherRest → other ≠ [] →
            before ≠ [] ∧ before.length ≤ other.length) ∧
      ∀ dialect words, (∀ word, word ∈ words ↔ word ∈ Keyword.reserved) →
        ((LabelForm.of dialect rules).patternOf words).matchStart line =
          (LabelForm.of dialect rules).pattern.matchStart line := by
  obtain ⟨declares, shows⟩ := source_iff rules line
  obtain ⟨lists, showsListed⟩ := listing_iff rules noFeed
  refine ⟨declares, shows, lists, showsListed, fun dialect words same => ?_⟩
  rw [pattern_eq_patternOf (LabelForm.of dialect rules)]
  exact matchStart_patternOf_congr (fun word => (same word).trans mem_longestFirst.symm) _ line

/-- `.macro` declares no label in source, but `.macros` does, though it begins with `.mac` and with
    `.macro`; and a listing has a label there once a colon follows. -/
theorem macros_label_grammar :
    ('\n' ∉ ".macro x".toList ∧ ¬∃ token after, SourceToken {} ".macro x".toList token after) ∧
      ('\n' ∉ ".macros x".toList ∧ ∃ token after, SourceToken {} ".macros x".toList token after) ∧
      '\n' ∉ "0 .macro: x".toList ∧
        ∃ before token rest, ListedAt "0 .macro: x".toList before token rest := by
  have reserved : '\n' ∉ ".macro x".toList := by decide
  have longer : '\n' ∉ ".macros x".toList := by decide
  have listed : '\n' ∉ "0 .macro: x".toList := by decide
  refine ⟨⟨reserved, fun declared => ?_⟩, ⟨longer, ?_⟩, listed, ?_⟩
  · exact absurd ((label_grammar {} reserved).1.2 declared) (by decide +kernel)
  · exact (label_grammar {} longer).1.1 (by decide +kernel)
  · exact ((label_grammar {} listed).2.2.1.1 (by decide +kernel)).2

end LabelForm
end AsmAtlas
