import AsmAtlas.Proofs.CaseForms
import AsmAtlas.Proofs.MatchSpans
import AsmAtlas.Proofs.ScopeStack
import AsmAtlas.Reference.Scope

/-!
# The outline and the scope table

Two passes over the lines of a document decide which modules are open and which label owns the
relative ones: the scan that builds the outline, and the scope table that names are qualified by.
What both keep is a `ScopeState`, and one reading of a line says how it changes. The scan follows
every reading. The scope table follows the lines of a source document that have no directive of
CA65, define no macro, declare no excluded label and neither open nor close anything behind a
relative one; on excluded labels and behind relative ones the two part.
-/

namespace AsmAtlas

namespace ScopeState

/-- The state after a line that was read: an absolute label becomes the owner, and a scope is opened
    or closed. -/
def take (r : Reading) (s : ScopeState) : ScopeState where
  modules :=
    match r.opened? with
    | some name => s.modules ++ [foldCase ((name.map (·.text)).getD [])]
    | none => if r.closes then s.modules.dropLast else s.modules
  owner := if r.closes then none else (r.absoluteLabel?.map fun l => foldCase l.text) <|> s.owner

theorem take_label {label : Named} (absolute : label.absolute? = some label) (statement : Statement)
    (s : ScopeState) :
    s.take (.plain (some label) statement) =
      ({ s with owner := some (foldCase label.text) } : ScopeState).take
        (.plain none statement) := by
  cases statement with
  | scope kind name =>
    cases name <;> simp [take, Reading.opened?, Reading.closes, Reading.absoluteLabel?, absolute]
  | _ => simp [take, Reading.opened?, Reading.closes, Reading.absoluteLabel?, absolute]

/-- The state after some lines. -/
def after (form : LabelForm) (dialect : Dialect) (s : ScopeState) (lines : List Text) :
    ScopeState :=
  lines.foldl (fun s line => (s.step form dialect line).2) s

/-- A line of the table has the modules before it and the owner behind it. -/
theorem getElem_table (form : LabelForm) (dialect : Dialect) (s : ScopeState) {lines : List Text}
    {n : Nat} (inside : n < lines.length) :
    (table form dialect s lines)[n]? =
      some ⟨Text.joinWith ['.'] (s.after form dialect (lines.take n)).modules,
        (s.after form dialect (lines.take (n + 1))).owner⟩ := by
  induction lines generalizing s n with
  | nil => simp at inside
  | cons line lines ih =>
    cases n with
    | zero => simp [table, after, step]
    | succ n =>
      have later := ih (s.step form dialect line).2 (Nat.lt_of_succ_lt_succ inside)
      simpa [table, after] using later

end ScopeState

namespace Scan

/-- The name of the label that `.local` labels belong to. -/
def ownerName? (s : Scan) : Option Text :=
  (s.owner.bind fun i => s.entries[i]?).map (·.symbol.name)

/-- What a scan knows about scopes. -/
def scopeState (s : Scan) : ScopeState :=
  ⟨s.frames.reverse.map fun f => foldCase f.name, s.ownerName?.map foldCase⟩

theorem ownerName_eq_sketch (s : Scan) : s.ownerName? = s.sketch.owner.map (·.name) := by
  cases owned : s.owner with
  | none => simp [ownerName?, sketch, owned]
  | some i =>
    simp only [ownerName?, sketch, owned, Option.bind_some, placeAt, layout, List.getElem?_map,
      Option.map_map]
    rfl

/-- The names of the frames after a line. -/
theorem frames_step (options : OutlineOptions) (n : Nat) (r : Reading) (s : Scan) :
    (s.step options n r).frames.map (·.name) =
      match r.opened? with
      | some name => (name.map (·.text)).getD [] :: s.frames.map (·.name)
      | none => if r.closes then (s.frames.map (·.name)).tail else s.frames.map (·.name) := by
  have heads := congrArg (List.map Prod.fst) (heads_step options n r s)
  have names : Prod.fst ∘ Frame.head = Frame.name := rfl
  rw [List.map_map, names] at heads
  refine heads.trans ?_
  cases r with
  | macroLabel name => simp [History.stackAfter, Reading.opening?, Reading.opened?, Reading.closes,
      names]
  | plain label statement =>
    cases statement with
    | scope kind name => cases name <;> simp [History.stackAfter, Reading.opening?, Reading.opened?,
        Reading.closes, OpenScope.head, names]
    | _ => simp [History.stackAfter, Reading.opening?, Reading.opened?, Reading.closes,
        OpenScope.head, List.map_tail, names]

/-- The scan follows every reading. -/
theorem Valid.scopeState_step {s : Scan} (valid : s.Valid) (options : OutlineOptions) (n : Nat)
    (r : Reading) : (s.step options n r).scopeState = s.scopeState.take r := by
  have frames := frames_step options n r s
  have owner : (s.step options n r).ownerName? =
      if r.closes then none else (r.absoluteLabel?.map (·.text)) <|> s.ownerName? := by
    rw [ownerName_eq_sketch, ownerName_eq_sketch, (valid.step options n r).2]
    simp only [Sketch.step, History.ownerAfter]
    split_ifs
    · rfl
    · cases r.absoluteLabel? <;> simp [Named.onLine]
  have modules : (s.step options n r).scopeState.modules = (s.scopeState.take r).modules := by
    have names := congrArg (fun names => (names.map foldCase).reverse) frames
    simp only [List.map_map] at names
    rw [scopeState, List.map_reverse]
    refine names.trans ?_
    simp only [ScopeState.take, scopeState]
    cases r.opened? with
    | some name => simp
    | none => split_ifs <;> simp [List.map_tail, Function.comp_def]
  have owners : (s.step options n r).scopeState.owner = (s.scopeState.take r).owner := by
    simp only [ScopeState.take, scopeState, owner]
    split_ifs
    · rfl
    · cases r.absoluteLabel? <;> simp
  calc (s.step options n r).scopeState
      = ⟨(s.step options n r).scopeState.modules, (s.step options n r).scopeState.owner⟩ := rfl
    _ = s.scopeState.take r := by rw [modules, owners]

end Scan

/-! Keywords of scopes are read behind blanks, where a relative label has its mark. -/

namespace Pattern

variable {here there : Cursor}

theorem exists_of_mem_ends_any {ps : List Pattern} (member : there ∈ (any ps).ends here) :
    ∃ p ∈ ps, there ∈ p.ends here := by
  induction ps with
  | nil => simp [any, ends] at member
  | cons p ps ih =>
    cases ps with
    | nil => exact ⟨p, List.mem_cons_self, member⟩
    | cons q ps =>
      rcases List.mem_append.1 member with first | later
      · exact ⟨p, List.mem_cons_self, first⟩
      · obtain ⟨r, isLater, inEnds⟩ := ih later
        exact ⟨r, List.mem_cons_of_mem p isLater, inEnds⟩

/-- A spelled word starts with its first letter, up to case. -/
theorem head_of_mem_ends_spelled {c : Char} {word : Text}
    (member : there ∈ (spelled (c :: word)).ends here) :
    ∃ d rest, here.rest = d :: rest ∧ sameLetter c d := by
  obtain ⟨middle, first, _⟩ := List.mem_flatMap.1 member
  simp only [letter, ends] at first
  split at first
  · simp at first
  · next d rest follows =>
    split_ifs at first with same
    · exact ⟨d, rest, follows, same⟩
    · simp at first

end Pattern

/-- A case form of an ASCII word character is neither a blank nor a mark. -/
theorem visible_of_sameLetter {c d : Char} (plain : isWordChar c ∧ c.toNat < 0x80)
    (same : sameLetter c d) : isBlank d = false ∧ d ≠ '.' ∧ d ≠ '@' := by
  have word : isWordChar (caseKey d) := by
    rw [← beq_iff_eq.1 same, isWordChar_caseKey c plain.2]
    exact plain.1
  refine ⟨?_, ?_, ?_⟩
  · by_contra blank
    have active : Comment.isInert d = false := by simp [Comment.isInert, blank]
    rw [Comment.caseKey_of_active d active, Comment.isWordChar_of_active d active] at word
    exact absurd word (by decide)
  · rintro rfl
    exact absurd word (by decide +kernel)
  · rintro rfl
    exact absurd word (by decide +kernel)

namespace Directive

open Pattern

/-- A line with a keyword has a case form of its first letter behind the blanks. -/
theorem dropWhile_of_keyword {keywords : List String} {line : Text}
    (letters : ∀ word ∈ keywords, word.toList.head?.any fun c => isWordChar c && c.toNat < 0x80)
    (found : (keywordAndName .source keywords).accepts line) :
    ∃ d rest, line.dropWhile isBlank = d :: rest ∧ d ≠ '.' ∧ d ≠ '@' := by
  rw [accepts, matchStart_eq, Option.isSome_map, List.isSome_head?] at found
  obtain ⟨stop, isEnd⟩ := List.exists_mem_of_ne_nil _ (by simpa using found)
  obtain ⟨start, inLead, behind⟩ := List.mem_flatMap.1 isEnd
  obtain ⟨begun, inBegin, inBlanks⟩ := List.mem_flatMap.1 inLead
  obtain ⟨noted, inKeyword, _⟩ := List.mem_flatMap.1 behind
  obtain ⟨spelt, inSpelt, rfl⟩ := List.mem_map.1 inKeyword
  obtain ⟨p, isWord, inWord⟩ := exists_of_mem_ends_any inSpelt
  obtain ⟨word, isKeyword, rfl⟩ := List.mem_map.1 isWord
  obtain ⟨c, head, plain⟩ := (Option.any_eq_true _ _).1 (letters word isKeyword)
  obtain ⟨tail, isWord⟩ := List.head?_eq_some_iff.1 head
  rw [isWord] at inWord
  obtain ⟨d, rest, follows, same⟩ := head_of_mem_ends_spelled inWord
  obtain ⟨visible, noDot, noAt⟩ := visible_of_sameLetter (by simpa using plain) same
  obtain rfl := eq_of_mem_ends_lineStart inBegin
  obtain ⟨run, between, blank⟩ := between_of_mem_manyEnds rfl inBlanks
  refine ⟨d, rest, ?_, noDot, noAt⟩
  have isLine : line = run ++ d :: rest := by
    rw [← follows]
    exact between.rest
  rw [isLine, List.dropWhile_append_of_pos blank, List.dropWhile_cons_of_neg (by simp [visible])]

end Directive

namespace LabelForm

open Pattern

/-- A source label stands behind blanks. -/
theorem split_of_inSource {kinds : List Pattern} (ahead : ∀ k ∈ kinds, ∃ body, k = .ahead body)
    {line : Text} {m : Match} (found : (inSource kinds).matchStart line = some m) {span : Span}
    (isSpan : m.group? .label = some span) :
    ∃ margin rest, line = margin ++ span.of line ++ rest ∧ ∀ c ∈ margin, isBlank c := by
  rw [matchStart_eq] at found
  obtain ⟨stop, first, rfl⟩ := Option.map_eq_some_iff.1 found
  obtain ⟨begun, isBegin, member⟩ := List.mem_flatMap.1 (List.mem_of_head? first)
  obtain ⟨checked, isChecked, member⟩ := List.mem_flatMap.1 member
  obtain ⟨_, inMargin, member⟩ := List.mem_flatMap.1 member
  obtain ⟨_, inLabel, inColon⟩ := List.mem_flatMap.1 member
  obtain ⟨start, inBlanks, rfl⟩ := List.mem_map.1 inMargin
  obtain ⟨behind, inName, rfl⟩ := List.mem_map.1 inLabel
  obtain rfl := eq_of_mem_ends_lineStart isBegin
  obtain ⟨kind, isKind, isAhead⟩ := exists_of_mem_ends_any isChecked
  obtain ⟨body, rfl⟩ := ahead kind isKind
  obtain rfl := eq_of_mem_ends_ahead isAhead
  obtain ⟨margin, beforeLabel, blank⟩ := between_of_mem_manyEnds rfl inBlanks
  obtain ⟨label, inside⟩ := between_of_mem_ends inName
  obtain ⟨colon, after⟩ := between_of_mem_ends inColon
  have isLabel : stop.noted.lookup .label = some ⟨start.column, behind.column⟩ := by
    rw [after.lookup_noted (by decide)]
    rfl
  obtain rfl : ⟨start.column, behind.column⟩ = span := Option.some.inj (isLabel.symm.trans isSpan)
  have isLine : line = margin ++ (label ++ behind.rest) := by
    rw [← inside.rest]
    exact beforeLabel.rest
  have starts : start.column = margin.length := by simpa [Cursor.start] using beforeLabel.column
  have stops : behind.column = (margin ++ label).length := by
    rw [inside.column, Cursor.note, starts, List.length_append]
  have isText : Span.of ⟨start.column, behind.column⟩ line = label := by
    rw [Span.of, Text.slice, starts, stops, isLine, ← List.append_assoc, List.take_left,
      List.drop_left]
  exact ⟨margin, behind.rest, by rw [isText, List.append_assoc, ← isLine], blank⟩

/-- All source labels are written behind a look at what follows, of a kind that is switched on. -/
theorem pattern_of_source (rules : LabelRules) :
    (LabelForm.of .source rules).pattern = never ∨
      ∃ kinds, (∀ k ∈ kinds,
          k = bareAhead ∧ rules.withoutColons ∨ k = markedAhead ∧ rules.withColons) ∧
        (LabelForm.of .source rules).pattern = inSource kinds := by
  obtain ⟨withColons, withoutColons⟩ := rules
  cases withColons <;> cases withoutColons
  · exact .inl rfl
  · exact .inr ⟨[bareAhead], by simp, rfl⟩
  · exact .inr ⟨[markedAhead], by simp, rfl⟩
  · exact .inr ⟨[bareAhead, markedAhead], by simp, rfl⟩

theorem match_of_find? {form : LabelForm} {line : Text} {hit : LabelHit}
    (found : form.find? line = some hit) :
    ∃ m, form.pattern.matchStart line = some m ∧ m.group? .label = some hit.span ∧
      m.span.stop = hit.stop := by
  rw [find?] at found
  split at found
  · simp at found
  · next m isMatch =>
    obtain ⟨span, isSpan, rfl⟩ := Option.map_eq_some_iff.1 found
    exact ⟨m, isMatch, isSpan, rfl⟩

/-- Behind the blanks of its line a relative label has its mark. -/
theorem dropWhile_of_relative {rules : LabelRules} {line : Text} {hit : LabelHit}
    (found : (LabelForm.of .source rules).find? line = some hit)
    (relative : ScopeState.isRelative (hit.span.of line)) :
    ∃ mark rest, line.dropWhile isBlank = mark :: rest ∧ (mark = '.' ∨ mark = '@') := by
  obtain ⟨m, isMatch, isSpan, _⟩ := match_of_find? found
  have split : ∃ margin rest, line = margin ++ hit.span.of line ++ rest ∧
      ∀ c ∈ margin, isBlank c := by
    rcases pattern_of_source rules with none | ⟨kinds, kind, isPattern⟩
    · rw [none, matchStart_eq] at isMatch
      simp [ends] at isMatch
    · rw [isPattern] at isMatch
      refine split_of_inSource ?_ isMatch isSpan
      intro k isKind
      rcases kind k isKind with ⟨rfl, _⟩ | ⟨rfl, _⟩
      · exact ⟨_, rfl⟩
      · exact ⟨_, rfl⟩
  obtain ⟨margin, rest, isLine, blank⟩ := split
  obtain ⟨mark, head, isMark⟩ := (Option.any_eq_true _ _).1 relative
  obtain ⟨name, isLabel⟩ := List.head?_eq_some_iff.1 head
  have marks : mark = '.' ∨ mark = '@' := by simpa using isMark
  have visible : isBlank mark = false := by
    rcases marks with rfl | rfl <;> decide
  refine ⟨mark, name ++ rest, ?_, marks⟩
  rw [isLine, isLabel, List.append_assoc, List.dropWhile_append_of_pos blank, List.cons_append,
    List.dropWhile_cons_of_neg (by simp [visible])]

end LabelForm

/-- A line with a relative label opens and closes nothing when it is read as a whole. -/
theorem Statement.scopeLine_of_relative {rules : LabelRules} {line : Text} {hit : LabelHit}
    (found : (LabelForm.of .source rules).find? line = some hit)
    (relative : ScopeState.isRelative (hit.span.of line)) : scopeLine? .source line = none := by
  obtain ⟨mark, rest, isLine, isMark⟩ := LabelForm.dropWhile_of_relative found relative
  have none : ∀ keywords : List String,
      (∀ word ∈ keywords, word.toList.head?.any fun c => isWordChar c && c.toNat < 0x80) →
        (Directive.keywordAndName .source keywords).matchStart line = none := by
    intro keywords letters
    rw [← Option.not_isSome_iff_eq_none]
    intro accepted
    obtain ⟨d, tail, again, noDot, noAt⟩ := Directive.dropWhile_of_keyword letters accepted
    obtain ⟨rfl, _⟩ := List.cons.inj (isLine.symm.trans again)
    exact isMark.elim noDot noAt
  rw [scopeLine?, Directive.moduleLine, Directive.structLine, none, none]
  · rfl
  · decide +kernel
  · decide +kernel

/-- Whether a text begins with a directive of CA65 or defines a macro. -/
def Directive.isBlockOrMacro (dialect : Dialect) (text : Text) : Bool :=
  (blockLine dialect).accepts text || (blockEndLine dialect).accepts text ||
    (macroLine dialect).accepts text

/-- Whether a line has a directive of CA65 or a macro, behind its label if it has one. -/
def Reading.hasBlockOrMacro (options : OutlineOptions) (line : Text) : Bool :=
  match label? options line with
  | none => Directive.isBlockOrMacro options.dialect line
  | some hit =>
    Directive.macroAfterLabel.accepts (hit.after line) ||
      Directive.isBlockOrMacro options.dialect (hit.after line)

/-- Reads a text for modules and structures only. -/
def Statement.ofScopes (dialect : Dialect) (text : Text) : Statement :=
  match scopeLine? dialect text with
  | some m => ofScopeLine m text
  | none => operand text

/-- Without a directive of CA65 or a macro, only modules and structures are left. -/
theorem Statement.read_eq {dialect : Dialect} {text : Text}
    (plain : Directive.isBlockOrMacro dialect text = false) :
    read dialect text = ofScopes dialect text := by
  simp only [Directive.isBlockOrMacro, Bool.or_eq_false_iff] at plain
  obtain ⟨⟨noBlock, noEnd⟩, noMacro⟩ := plain
  rw [Pattern.accepts, Option.isSome_eq_false_iff, Option.isNone_iff_eq_none] at noBlock noMacro
  rw [read, noBlock, noEnd, noMacro]
  rfl

namespace ScopeState

/-- A directive is taken as it is read for modules and structures. -/
theorem takeDirective_eq (dialect : Dialect) (text : Text) (s : ScopeState) :
    s.takeDirective dialect text = s.take (.plain none (Statement.ofScopes dialect text)) := by
  rw [takeDirective, Statement.ofScopes]
  cases Statement.scopeLine? dialect text with
  | none => simp [take, Reading.opened?, Reading.closes, Reading.absoluteLabel?]
  | some m =>
    simp only [Option.map_some, Statement.ofScopeLine]
    split_ifs <;> cases m.named? .name text <;>
      simp [take, Reading.opened?, Reading.closes, Reading.absoluteLabel?]

/-- A line that the scope table takes as it is read: it has no directive of CA65 and no macro, its
    label is not excluded, and behind a relative label nothing is opened or closed. -/
structure InStep (options : OutlineOptions) (line : Text) : Prop where
  plain : Reading.hasBlockOrMacro options line = false
  shown : ∀ hit ∈ options.labelForm.find? line, ¬options.isExcluded (hit.span.of line)
  quiet : ∀ hit ∈ options.labelForm.find? line, isRelative (hit.span.of line) →
    (Reading.ofLine options line).opens = false ∧ (Reading.ofLine options line).closes = false

instance (options : OutlineOptions) (line : Text) : Decidable (InStep options line) :=
  decidable_of_iff (_ ∧ _ ∧ _)
    ⟨fun ⟨plain, shown, quiet⟩ => ⟨plain, shown, quiet⟩,
      fun inStep => ⟨inStep.plain, inStep.shown, inStep.quiet⟩⟩

theorem absolute_of_not_relative {name : Named} (absolute : isRelative name.text = false) :
    name.absolute? = some name := by
  unfold Named.absolute?
  split
  · next head => simp [isRelative, head] at absolute
  · next head => simp [isRelative, head] at absolute
  · rfl

theorem absolute_of_relative {name : Named} (relative : isRelative name.text) :
    name.absolute? = none := by
  obtain ⟨mark, head, isMark⟩ := (Option.any_eq_true _ _).1 relative
  have marks : mark = '.' ∨ mark = '@' := by simpa using isMark
  rcases marks with rfl | rfl <;> simp [Named.absolute?, head]

/-- The scope table follows the reading of such a line. -/
theorem InStep.step_eq {options : OutlineOptions} {line : Text} (inStep : InStep options line)
    (source : options.dialect = .source) (s : ScopeState) :
    (s.step options.labelForm .source line).2 = s.take (.ofLine options line) := by
  have plain := inStep.plain
  change (s.takeLabel options.labelForm line).1.takeDirective .source
    (s.takeLabel options.labelForm line).2 = _
  cases found : options.labelForm.find? line with
  | none =>
    have label : Reading.label? options line = none := by rw [Reading.label?, found]; rfl
    rw [Reading.hasBlockOrMacro, label, source] at plain
    rw [takeLabel, found, Reading.ofLine, label, source, Statement.read_eq plain]
    exact takeDirective_eq .source line s
  | some hit =>
    have label : Reading.label? options line = some hit := by
      rw [Reading.label?, found, Option.filter_some, if_pos (by simp [inStep.shown hit found])]
    rw [Reading.hasBlockOrMacro, label, Bool.or_eq_false_iff, source] at plain
    have reading : Reading.ofLine options line =
        .plain (some ⟨hit.span.of line, hit.span.start⟩)
          (Statement.read .source (hit.after line)) := by
      simp [Reading.ofLine, label, plain.1, source]
    cases relative : isRelative (hit.span.of line) with
    | true =>
      have taken : s.takeLabel options.labelForm line = (s, line) := by
        simp [takeLabel, found, relative]
      obtain ⟨opens, closes⟩ := inStep.quiet hit found relative
      have noDirective : Statement.scopeLine? .source line = none := by
        rw [OutlineOptions.labelForm, source] at found
        exact Statement.scopeLine_of_relative found relative
      have noOwner : (Reading.ofLine options line).absoluteLabel? = none := by
        rw [reading]
        exact absolute_of_relative relative
      have noScope : (Reading.ofLine options line).opened? = none := by
        simpa [Reading.opens] using opens
      rw [taken, takeDirective, noDirective, take, noOwner, noScope, closes]
      rfl
    | false =>
      have taken : s.takeLabel options.labelForm line =
          ({ s with owner := some (foldCase (hit.span.of line)) }, hit.after line) := by
        simp [takeLabel, found, relative]
      rw [taken, reading, take_label (absolute_of_not_relative relative),
        Statement.read_eq plain.2]
      exact takeDirective_eq .source (hit.after line) _

end ScopeState

/-- After lines that the scope table takes as they are read, it has the state of the scan. -/
theorem Scan.Valid.scopeState_feed {s : Scan} (valid : s.Valid) {options : OutlineOptions}
    (source : options.dialect = .source) {lines : List Text}
    (inStep : ∀ line ∈ lines, ScopeState.InStep options line) (n : Nat) :
    (s.feed options n lines).scopeState =
      s.scopeState.after options.labelForm .source lines := by
  induction lines generalizing s n with
  | nil => rfl
  | cons line lines ih =>
    have here := (inStep line List.mem_cons_self).step_eq source s.scopeState
    rw [← valid.scopeState_step options n] at here
    rw [Scan.feed, ih (valid.step options n _).1 fun other member =>
      inStep other (List.mem_cons_of_mem line member)]
    rw [ScopeState.after, ScopeState.after, List.foldl_cons, here]

/-- On source lines that it takes as they are read, the scope table agrees with the outline: before
    every line the same scopes are open, and behind it relative labels have the same owner. -/
theorem scopes_agree_with_outline {options : OutlineOptions} (source : options.dialect = .source)
    {lines : List Text} (inStep : ∀ line ∈ lines, ScopeState.InStep options line) (path : Path)
    {n : Nat} (inside : n < lines.length) :
    (Document.scopes ⟨path, .source, lines⟩ options.labelForm)[n]? =
      some
        { modules := Text.joinWith ['.']
            ((Scan.ofLines options (lines.take n)).frames.reverse.map fun f => foldCase f.name)
          owner := (Scan.ofLines options (lines.take (n + 1))).ownerName?.map foldCase } := by
  have state : ∀ k, (Scan.ofLines options (lines.take k)).scopeState =
      ScopeState.after options.labelForm .source {} (lines.take k) := fun k =>
    Scan.valid_empty.scopeState_feed source
      (fun line member => inStep line (List.mem_of_mem_take member)) 0
  rw [Document.scopes, ScopeState.getElem_table _ _ _ inside, ← state, ← state]
  rfl

/-- A module that is closed again, a structure that is opened behind a label, and a relative label
    in it. -/
def nestedScopes : List Text :=
  ["MODULE Outer", "first: ENDMODULE", "Main: STRUCT Inner", ".loop: nop"].map String.toList

/-- Where labels need a colon. -/
def markedOnly : OutlineOptions :=
  { rules := { withoutColons := false } }

/-- In the structure names are qualified with it alone, and the label before it owns the relative
    one. -/
theorem nestedScopes_agree :
    (Document.scopes ⟨⟨[]⟩, .source, nestedScopes⟩ markedOnly.labelForm)[3]? =
        some ⟨"inner".toList, some "main".toList⟩ ∧
      (Scan.ofLines markedOnly nestedScopes).ownerName? = some "Main".toList := by
  have inStep : ∀ line ∈ nestedScopes, ScopeState.InStep markedOnly line := by decide +kernel
  have source : markedOnly.dialect = .source := rfl
  have inside : 3 < nestedScopes.length := by decide
  have agree := scopes_agree_with_outline source inStep ⟨[]⟩ inside
  have frames : (Scan.ofLines markedOnly (nestedScopes.take 3)).frames.map (·.name) =
      ["Inner".toList] := by decide +kernel
  have owner : (Scan.ofLines markedOnly nestedScopes).ownerName? = some "Main".toList := by
    decide +kernel
  refine ⟨agree.trans ?_, owner⟩
  have whole : nestedScopes.take (3 + 1) = nestedScopes := rfl
  rw [whole, owner, ← Function.comp_def foldCase, ← List.map_map, List.map_reverse, frames]
  decide +kernel

/-- An excluded label without a colon, and a module that is opened behind a relative label. -/
def driftingScopes : List Text :=
  ["main:", "include \"x\"", ".loop: MODULE m", "foo"].map String.toList

/-- There the two part. The scope table makes the excluded label the owner, which the outline passes
    over, and it misses the module, which the outline opens. -/
theorem driftingScopes_part :
    (∀ line ∈ driftingScopes, Reading.hasBlockOrMacro {} line = false) ∧
      (Document.scopes ⟨⟨[]⟩, .source, driftingScopes⟩ (LabelForm.of .source {}))[1]? =
        some ⟨[], some "include".toList⟩ ∧
      (Scan.ofLines {} (driftingScopes.take 2)).ownerName? = some "main".toList ∧
      (Document.scopes ⟨⟨[]⟩, .source, driftingScopes⟩ (LabelForm.of .source {}))[3]? =
        some ⟨[], some "foo".toList⟩ ∧
      (Scan.ofLines {} (driftingScopes.take 3)).frames.map (·.name) = ["m".toList] := by
  decide +kernel

end AsmAtlas
