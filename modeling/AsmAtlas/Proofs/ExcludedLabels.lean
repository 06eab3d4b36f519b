import AsmAtlas.Proofs.DeclarationsLeftOut
import AsmAtlas.Proofs.DefinitionAtLabel
import AsmAtlas.Proofs.RankedNames
import AsmAtlas.Proofs.UnreferencedLabels
import AsmAtlas.Request.Structure

/-!
# Excluded labels

A label is excluded by its whole text. The outline, the reference counts and the search for labels
that nothing refers to look at the whole label of every line, so none of them shows an excluded one;
only the name of a directive may stand in its place, and that in a listing. All other requests look
at the word that they search for or find. On a label that is a single word they find nothing less
than the label. Of a label with a mark or with dots they find a part, which need not be excluded.
-/

namespace AsmAtlas

/-! ## Names behind directives -/

/-- Only a blank is a case form of a blank. -/
theorem not_isBlank_of_sameLetter {c d : Char} (visible : isBlank (caseKey c) = false)
    (same : sameLetter c d) : isBlank d = false := by
  by_contra blank
  have active : Comment.isInert d = false := by simp [Comment.isInert, blank]
  rw [beq_iff_eq.1 same, Comment.caseKey_of_active d active] at visible
  exact blank visible

namespace Directive

open Pattern Cursor

/-- A name at a column of a line stands behind a blank, and that behind something else. -/
structure NameAt (line : Text) (column : Nat) : Prop where
  blank : (line.take column).getLast?.any isBlank
  visible : ∃ c ∈ line.take column, isBlank c = false

/-- A pattern that begins with something else than a blank. -/
def IsVisible (p : Pattern) : Prop :=
  ∀ ⦃here there : Cursor⦄, there ∈ p.ends here → here.rest.head?.any fun c => !isBlank c

variable {line : Text} {here there : Cursor} {span : Span}

theorem isVisible_spelled {word : Text}
    (visible : word.head?.any fun c => !isBlank (caseKey c)) : IsVisible (spelled word) := by
  intro here there member
  obtain ⟨c, head, isVisible⟩ := (Option.any_eq_true _ _).1 visible
  obtain ⟨tail, rfl⟩ := List.head?_eq_some_iff.1 head
  obtain ⟨d, rest, follows, same⟩ := head_of_mem_ends_spelled member
  simpa [follows] using not_isBlank_of_sameLetter (by simpa using isVisible) same

theorem isVisible_any {words : List Text}
    (visible : ∀ word ∈ words, word.head?.any fun c => !isBlank (caseKey c)) :
    IsVisible (any (words.map spelled)) := by
  intro here there member
  obtain ⟨p, isWord, inWord⟩ := exists_of_mem_ends_any member
  obtain ⟨word, inWords, rfl⟩ := List.mem_map.1 isWord
  exact isVisible_spelled (visible word inWords) inWord

/-- A pattern behind which a name stands only behind a blank. -/
def NamesBehindGap (line : Text) (p : Pattern) : Prop :=
  ∀ ⦃here there : Cursor⦄ ⦃span : Span⦄, here.IsOn line → here.noted.lookup .name = none →
    there ∈ p.ends here → there.noted.lookup .name = some span →
    here.column < span.start ∧ (line.take span.start).getLast?.any isBlank

theorem namesBehindGap (line : Text) (body : Pattern) :
    NamesBehindGap line (seq gap (group .name body)) := by
  intro here there span on _ member named
  obtain ⟨start, inGap, inGroup⟩ := List.mem_flatMap.1 member
  obtain ⟨stop, _, rfl⟩ := List.mem_map.1 inGroup
  obtain rfl : ⟨start.column, stop.column⟩ = span := Option.some.inj named
  obtain ⟨first, inFirst, inMore⟩ := List.mem_flatMap.1 inGap
  obtain ⟨c, rest, _, _, rfl⟩ := mem_ends_char.1 inFirst
  obtain ⟨_, more⟩ := between_of_mem_ends inMore
  refine ⟨Nat.lt_of_succ_le more.column_le, ?_⟩
  rw [← (isOn_of_mem_ends on inGap).last]
  exact last_of_mem_gap inGap

/-- The name may be missing, and something may be looked at before it. -/
theorem NamesBehindGap.optional {p look : Pattern} (names : NamesBehindGap line p)
    (still : ∀ {here there : Cursor}, there ∈ look.ends here → there = here) :
    NamesBehindGap line (seq look p.optional) := by
  intro here there span on unnamed member named
  obtain ⟨_, isLook, inName⟩ := List.mem_flatMap.1 member
  obtain rfl := still isLook
  rcases List.mem_append.1 inName with inside | missing
  · exact names on unnamed inside named
  · rw [List.mem_singleton.1 missing, unnamed] at named
    simp at named

/-- The name behind a keyword. -/
theorem nameAt_of_mem_ends {g : Group} {keyword more : Pattern} (visible : IsVisible keyword)
    (plain : keyword.groups = []) (other : g ≠ .name) (names : NamesBehindGap line more)
    (member : there ∈ (seq (lead .source) (seq (group g keyword) more)).ends (.start line))
    (named : there.noted.lookup .name = some span) : NameAt line span.start := by
  obtain ⟨start, inLead, inRest⟩ := List.mem_flatMap.1 member
  obtain ⟨_, inGroup, inMore⟩ := List.mem_flatMap.1 inRest
  obtain ⟨stop, inKeyword, rfl⟩ := List.mem_map.1 inGroup
  have on := isOn_of_mem_ends (isOn_start line) inLead
  have unnamed : (stop.note g start.column).noted.lookup .name = none := by
    rw [Cursor.note, noted_of_groups_eq_nil plain inKeyword, noted_of_groups_eq_nil rfl inLead]
    have differ : (Group.name == g) = false := by simpa using Ne.symm other
    simp [Cursor.start, List.lookup_cons, differ]
  obtain ⟨behind, blank⟩ :=
    names ((isOn_of_mem_ends on inKeyword).note g start.column) unnamed inMore named
  obtain ⟨_, between⟩ := between_of_mem_ends inKeyword
  have before : start.column < span.start := between.column_le.trans_lt behind
  obtain ⟨c, head, isVisible⟩ := (Option.any_eq_true _ _).1 (visible inKeyword)
  refine ⟨blank, c, ?_, by simpa using isVisible⟩
  rw [on.rest, List.head?_drop] at head
  exact List.mem_of_getElem? ((List.getElem?_take_of_lt before).trans head)

/-- All directives that name something. -/
def naming (dialect : Dialect) : List Pattern :=
  [blockLine dialect, macroLine dialect, moduleLine dialect, structLine dialect]

/-- In source the name of a directive stands behind its keyword. -/
theorem nameAt_of_naming {p : Pattern} (isNaming : p ∈ naming .source) {m : Match}
    (found : p.matchStart line = some m) (named : m.group? .name = some span) :
    NameAt line span.start := by
  rw [matchStart_eq] at found
  obtain ⟨there, first, rfl⟩ := Option.map_eq_some_iff.1 found
  have member := List.mem_of_head? first
  have lookedAt : ∀ {here there : Cursor}, there ∈ nameEnd.ends here → there = here :=
    eq_of_mem_ite
  have atEdge : ∀ {here there : Cursor}, there ∈ wordEdge.ends here → there = here :=
    eq_of_mem_ite
  have scopes : ∀ words : List String,
      (∀ word ∈ words.map String.toList, word.head?.any fun c => !isBlank (caseKey c)) →
      (any (words.map fun word => spelled word.toList)).groups = [] →
      p = keywordAndName .source words → NameAt line span.start := by
    rintro words visible plain rfl
    have keyword : IsVisible (any (words.map fun word => spelled word.toList)) := by
      have whole := isVisible_any visible
      rwa [List.map_map] at whole
    exact nameAt_of_mem_ends keyword plain (by decide) ((namesBehindGap line _).optional atEdge)
      member named
  simp only [naming, List.mem_cons, List.not_mem_nil, or_false] at isNaming
  rcases isNaming with rfl | rfl | isModule | isStruct
  · exact nameAt_of_mem_ends (isVisible_any (by decide +kernel)) (by decide +kernel) (by decide)
      ((namesBehindGap line _).optional lookedAt) member named
  · exact nameAt_of_mem_ends (isVisible_spelled (by decide +kernel)) (by decide +kernel)
      (by decide) (namesBehindGap line _) member named
  · exact scopes _ (by decide +kernel) rfl isModule
  · exact scopes _ (by decide +kernel) rfl isStruct

end Directive

namespace Emission

/-- Whatever a line enters behind its label is the name of a directive. -/
theorem exists_of_mem_behindLabel {dialect : Dialect} {text : Text} {e : Emission}
    (member : e ∈ behindLabel dialect text) :
    ∃ p ∈ Directive.naming dialect, ∃ m, p.matchStart text = some m ∧
      m.named? .name text = some e.named := by
  have named : ∀ {m : Match} {kind : Named → Emission}, (∀ name, (kind name).named = name) →
      e ∈ (m.named? .name text).toList.map kind → m.named? .name text = some e.named := by
    intro m kind isKind inName
    obtain ⟨name, isName, rfl⟩ := List.mem_map.1 inName
    rw [isKind]
    exact Option.mem_toList.1 isName
  unfold behindLabel at member
  split at member
  · next m found =>
    exact ⟨_, by simp [Directive.naming], m, found, named (fun _ => rfl) member⟩
  · split_ifs at member
    · simp at member
    · split at member
      · next m found =>
        exact ⟨_, by simp [Directive.naming], m, found, named (fun _ => rfl) member⟩
      · split at member
        · simp at member
        · next m found =>
          simp only at member
          split_ifs at member
          · simp at member
          · have isNamed := named (fun _ => rfl) member
            rw [Statement.scopeLine?, Option.orElse_eq_orElse, Option.orElse_eq_or,
              Option.or_eq_some_iff] at found
            rcases found with isModule | ⟨_, isStruct⟩
            · exact ⟨_, by simp [Directive.naming], m, isModule, isNamed⟩
            · exact ⟨_, by simp [Directive.naming], m, isStruct, isNamed⟩

end Emission

/-- No directive names anything on the label of its line. -/
theorem SourceLabel.not_nameAt {line margin mark name tail : Text} {column : Nat}
    (label : SourceLabel line margin mark name tail) (begins : margin.length ≤ column)
    (ends : column < (margin ++ (mark ++ name)).length) : ¬Directive.NameAt line column := by
  rintro ⟨blank, c, member, visible⟩
  obtain ⟨k, rfl⟩ := Nat.exists_eq_add_of_le begins
  have inLabel : k < (mark ++ name).length := by
    simp only [List.length_append] at ends ⊢
    omega
  have before : line.take (margin.length + k) = margin ++ (mark ++ name).take k := by
    rw [label.split, List.append_assoc, List.take_length_add_append,
      List.take_append_of_le_length (Nat.le_of_lt inLabel)]
  rw [before] at blank member
  cases k with
  | zero =>
    rw [List.take_zero, List.append_nil] at member
    rw [label.blank c member] at visible
    exact Bool.false_ne_true visible.symm
  | succ k =>
    obtain ⟨d, isLast, isBlankThere⟩ := (Option.any_eq_true _ _).1 blank
    have nonempty : (mark ++ name).take (k + 1) ≠ [] := by
      rw [← List.length_pos_iff_ne_nil, List.length_take]
      omega
    rw [List.getLast?_append_of_ne_nil _ nonempty] at isLast
    rw [label.not_blank d (List.mem_of_mem_take (List.mem_of_getLast? isLast))] at isBlankThere
    exact Bool.false_ne_true isBlankThere

/-- The names of the outline are those that the lines enter. -/
theorem exists_of_mem_walk_outline {options : OutlineOptions} {lines : List Text} {symbol : Symbol}
    (member : symbol ∈ (outline options lines).walk) :
    ∃ line, lines[symbol.line]? = some line ∧
      ∃ e ∈ Emission.ofLine options line, e.named.onLine symbol.line = symbol.place := by
  rw [← SymbolForest.map_snd_links none] at member
  obtain ⟨link, isLink, rfl⟩ := List.mem_map.1 member
  have entered := (links_outline options lines).subset (List.mem_map_of_mem isLink)
  rw [links_run_lines] at entered
  obtain ⟨⟨line, n⟩, isLine, inLine⟩ := List.mem_flatMap.1 entered
  obtain ⟨e, isEmission, same⟩ := List.mem_map.1 inLine
  have place : e.named.onLine n = link.2.place := (Prod.mk.inj same).2
  obtain rfl : n = link.2.line := congrArg Place.line place
  exact ⟨line, List.mem_zipIdx_iff_getElem?.1 isLine, e, isEmission, place⟩

theorem line_lt_of_mem_walk_outline {options : OutlineOptions} {lines : List Text} {symbol : Symbol}
    (member : symbol ∈ (outline options lines).walk) : symbol.line < lines.length := by
  obtain ⟨line, isLine, _⟩ := exists_of_mem_walk_outline member
  exact (List.getElem?_eq_some_iff.1 isLine).1

/-! ## Requests -/

namespace Scene

/-- A label that a file declares and some settings exclude. -/
structure ExcludedLabel (s : Scene) (c : Config) where
  document : Document
  line : Nat
  text : Text
  hit : LabelHit
  held : s.workspace.Holds document
  isLine : document.lines[line]? = some text
  declared : (c.labelForm document.dialect).find? text = some hit
  excluded : c.isExcluded (hit.span.of text)

namespace ExcludedLabel

variable {s : Scene} {c : Config} (label : s.ExcludedLabel c)

/-- The place of the file. -/
def path : Path :=
  label.document.path

/-- The columns of the label. -/
def span : Span :=
  label.hit.span

/-- A location lies on the label. -/
structure Has (l : Location) : Prop where
  path : l.path = label.path
  line : l.line = label.line
  starts : label.span.start ≤ l.start
  inside : l.start < label.span.stop
  ends : l.stop ≤ label.span.stop

/-- The label is a single word, without marks and dots. -/
def IsWord : Prop :=
  ∀ ch ∈ label.span.of label.text, isWordChar ch

variable {label}

/-- The line of a location on the label. -/
theorem Has.text_eq {l : Location} (has : label.Has l) {d : Document} {line : Text}
    (held : s.workspace.Holds d) (path : l.path = d.path) (isLine : d.lines[l.line]? = some line) :
    line = label.text := by
  have same : d = label.document := by
    rw [Workspace.Holds, ← path, has.path] at held
    exact Option.some.inj (held.symm.trans label.held)
  rw [same, has.line, label.isLine] at isLine
  exact (Option.some.inj isLine).symm

theorem IsWord.at_column (isWord : label.IsWord) {i : Nat} (starts : label.span.start ≤ i)
    (inside : i < label.span.stop) : label.text[i]?.any isWordChar := by
  have inLine := (LabelForm.span_in_line label.declared).2
  have isChar : label.text[i]? = some (label.text.get ⟨i, inside.trans_le inLine⟩) :=
    List.getElem?_eq_getElem _
  have inLabel : (label.span.of label.text)[i - label.span.start]? = label.text[i]? := by
    rw [Span.of, Text.getElem_slice, Nat.add_sub_cancel' starts, if_pos inside]
  rw [isChar] at inLabel ⊢
  simpa using isWord _ (List.mem_of_getElem? inLabel)

/-- What stands on a single word between other characters is all of it. -/
theorem IsWord.whole (isWord : label.IsWord) {l : Location} (has : label.Has l)
    (ordered : l.start ≤ l.stop)
    (before : ¬(label.text.take l.start).getLast?.any isWordChar)
    (behind : ¬label.text[l.stop]?.any isWordChar) :
    label.text.slice l.start l.stop = label.span.of label.text := by
  have begins : l.start = label.span.start := by
    by_contra later
    have starts := has.starts
    have word := isWord.at_column (i := l.start - 1) (by omega) (by have := has.inside; omega)
    obtain ⟨ch, isChar, isWordThere⟩ := (Option.any_eq_true _ _).1 word
    have last : (label.text.take l.start).getLast? = some ch := by
      rw [List.getLast?_take, if_neg (by omega), isChar]
      rfl
    exact before (by simp [last, isWordThere])
  have stops : l.stop = label.span.stop := by
    by_contra earlier
    have starts := has.starts
    have ends := has.ends
    exact behind (isWord.at_column (by omega) (by omega))
  rw [begins, stops]
  rfl

/-- A search for declarations finds nothing less than the label. -/
theorem IsWord.symbol_eq (isWord : label.IsWord) {w : Wanted} {dialect : Dialect}
    {rules : LabelRules} {files : List Path} {f : Finding}
    (found : f ∈ s.workspace.findings (WordSearch.declarations w dialect rules) files)
    (has : label.Has f.location) : f.symbol = label.span.of label.text := by
  have symbol := Workspace.symbol_of_mem_findings found
  obtain ⟨d, line, held, _, path, isText, isLine, p, isDeclaration, m, isMatch, isSpan⟩ :=
    Workspace.exists_of_mem_findings found
  obtain rfl := has.text_eq held path isLine
  obtain ⟨start, stop, taken, isWordSpan⟩ :=
    Pattern.exists_takenFrom_of_mem_findAll isDeclaration isMatch
  obtain ⟨isStart, isStop⟩ := Span.mk.inj (isSpan.symm.trans isWordSpan)
  obtain ⟨_, between⟩ := Pattern.between_of_mem_ends taken.word
  have stopOn := Pattern.isOn_of_mem_ends taken.on taken.word
  rw [symbol, isText]
  refine isWord.whole has ?_ ?_ ?_
  · rw [isStart, isStop]
    exact between.column_le
  · -- A word character follows, so the edge of a word has none before it.
    have next : start.rest.head?.any isWordChar := by
      rw [taken.on.rest, List.head?_drop, ← isStart]
      exact isWord.at_column has.starts has.inside
    rw [isStart, ← taken.on.last]
    rcases taken.begins with edge | blank
    · simpa [Cursor.atWordEdge, next] using edge
    · obtain ⟨ch, isLast, isBlankThere⟩ := (Option.any_eq_true _ _).1 blank
      intro word
      rw [isLast, Option.any_some] at word
      rw [isBlank_of_isWordOrDot (by simp [isWordOrDot, word])] at isBlankThere
      exact Bool.false_ne_true isBlankThere
  · rw [isStop, ← List.head?_drop, ← stopOn.rest]
    intro word
    obtain ⟨ch, isNext, isWordThere⟩ := (Option.any_eq_true _ _).1 word
    exact taken.closed (by simp [isNext, isWordOrDot, isWordThere])

/-- So it finds no word that is not excluded. -/
theorem IsWord.isExcluded_symbol (isWord : label.IsWord) {w : Wanted} {dialect : Dialect}
    {rules : LabelRules} {files : List Path} {f : Finding}
    (found : f ∈ s.workspace.findings (WordSearch.declarations w dialect rules) files)
    (has : label.Has f.location) : c.isExcluded f.symbol := by
  rw [isWord.symbol_eq found has]
  exact label.excluded

/-- A use of a word that is kept is the whole label, so the word is excluded. -/
theorem IsWord.isExcluded_word (isWord : label.IsWord) {d : Document} {position : Position}
    {found : Occurrence} {q : Inquiry} {scope : LineScope} {files : List Path} {f : Finding}
    (located : d.occurrence? isWordChar position = some found)
    (isUse : f ∈ (files.filterMap s.workspace.load?).flatMap fun e =>
      e.find (WordSearch.uses found.word))
    (keeps : q.keeps found (.of scope found.label) f) (has : label.Has f.location) :
    c.isExcluded found.word := by
  obtain ⟨_, _, inLine⟩ := Document.isIn_of_occurrence? located
  obtain ⟨e, isDocument, inDocument⟩ := List.mem_flatMap.1 isUse
  obtain ⟨_, _, loaded⟩ := List.mem_filterMap.1 isDocument
  obtain ⟨document, path, stop, line, isLine, hasWord⟩ :=
    Document.hasWordAt_of_mem_find inLine.nonempty inDocument
  obtain rfl := has.text_eq (Workspace.holds_of_load loaded) path isLine
  have isText : f.text = label.text := by
    rw [Finding.text, document, Document.line, isLine, Option.getD_some]
  have spells := hasWord.spells
  have before : ¬(label.text.take f.location.start).getLast?.any isWordChar := by
    intro word
    obtain ⟨ch, isLast, isWordThere⟩ := (Option.any_eq_true _ _).1 word
    exact hasWord.starts (by simp [isLast, isWordThere])
  have behind := hasWord.ends
  rw [← stop] at spells behind
  have whole := isWord.whole has (by omega) before behind
  have folded := Inquiry.foldCase_of_keeps inLine scope keeps (isText ▸ spells)
  rw [isText, whole] at folded
  have excluded := label.excluded
  rw [Config.isExcluded, listsName, ← folded]
  exact excluded

end ExcludedLabel

variable {s : Scene} {c : Config} {patience : Patience}

/-- Reported symbols come from a root that reports them. -/
theorem exists_of_mem_symbols {query : Text} {found : List Declared}
    (answered : ((s.symbols query).start patience).1 = .ok found) {e : Declared}
    (member : e ∈ found) :
    ∃ c ∈ s.context.configs, ∃ files, s.filesOf c = .ok files ∧
      e ∈ s.reported query c files := by
  have below : ∃ configs ⊆ s.context.configs, s.symbolsBelow query configs = .ok found := by
    let a := s.workspace.archive
    cases patience with
    | none =>
      exact ⟨_, List.Subset.refl _, (a.symbols_start s.context query).symm.trans answered⟩
    | some n =>
      obtain ⟨finished, _, _, _, below⟩ := a.exists_finished s.context query s.context.configs
      exact ⟨_, List.take_subset _ _, (below n []).symm.trans answered⟩
  obtain ⟨configs, subset, given⟩ := below
  obtain ⟨owns, mapped, rfl⟩ := exists_of_map_eq_ok given
  obtain ⟨own, isOwn, inOwn⟩ := List.mem_flatten.1 member
  obtain ⟨c, isConfig, ended⟩ := exists_of_mem_mapM mapped own isOwn
  refine ⟨c, subset isConfig, ?_⟩
  have gives := Task.CanGive.of_start ended
  rw [symbolsOf, Archive.symbolsOf] at gives
  split_ifs at gives
  · rw [← gives.eq_of_pure] at inOwn
    simp at inOwn
  · obtain ⟨hits, searched, gives⟩ := gives.exists_of_bind
    obtain ⟨files, collected, rfl⟩ := findings_of_search (s := s) searched
    refine ⟨files, collected, ?_⟩
    rw [← gives.eq_of_pure] at inOwn
    exact inOwn

/-- Labels without references come from a root, and are declared by its settings. -/
theorem exists_of_mem_unreferenced {found : List Declared}
    (answered : (s.unreferenced.start patience).1 = .ok (some found)) {e : Declared}
    (member : e ∈ found) :
    ∃ c ∈ s.context.configs, e.location.path.isWithin c.root ∧
      ∃ d, s.workspace.Holds d ∧ e.location.path = d.path ∧
        ∃ decl ∈ declarationsIn c d, e.name = decl.label ∧ e.location.line = decl.line := by
  obtain ⟨attempted, gives, made⟩ := (Task.CanGive.of_start answered).exists_of_bind
  obtain ⟨owns, rfl, rfl⟩ := Option.map_eq_some_iff.1 made.eq_of_pure
  obtain ⟨own, isOwn, inOwn⟩ := List.mem_flatten.1 member
  obtain ⟨c, isConfig, gives⟩ := gives.of_attempt.exists_of_mapM isOwn
  refine ⟨c, isConfig, ?_⟩
  cases collected : s.filesOf c with
  | error e =>
    have words : (s.wordsOf c).Takes 0 (.error (.failed e)) :=
      (takes_filesBelow_error collected).bind_error
    exact nomatch gives.eq_of_takes words.bind_error
  | ok files =>
    have same := (gives.start_none (s.steady_unreferencedOf c)).symm.trans
      (unreferencedOf_gives collected).start
    rw [Except.ok.inj same] at inOwn
    refine ⟨Collection.isWithin_of_collect collected _ (path_of_mem_unreferencedAmong inOwn), ?_⟩
    obtain ⟨d, isDocument, inDocument⟩ := List.mem_flatMap.1 inOwn
    obtain ⟨_, _, loaded⟩ := List.mem_filterMap.1 isDocument
    obtain ⟨decl, declared, _, _, location, name, _⟩ := exists_of_mem_unreferencedAnew inDocument
    refine ⟨d, Workspace.holds_of_load loaded, ?_, decl, declared, name, ?_⟩
    · rw [location]
    · rw [location]

/-- What is counted are declared labels. -/
theorem exists_of_mem_countAll {d : Document} {index : WordIndex} {cache : ScopeCache}
    {decls : List LabelDeclaration} {counted : Counted}
    (member : counted ∈ (countAll c d index cache decls).1) :
    counted.location.path = d.path ∧ ∃ decl ∈ decls, counted.location.line = decl.line := by
  induction decls generalizing cache with
  | nil => simp [countAll] at member
  | cons decl decls ih =>
    rcases List.mem_append.1 member with here | later
    · split at here
      · simp at here
      · rw [List.mem_singleton.1 here]
        exact ⟨rfl, decl, List.mem_cons_self, rfl⟩
    · obtain ⟨path, other, isLater, line⟩ := ih later
      exact ⟨path, other, List.mem_cons_of_mem decl isLater, line⟩

/-- The lenses of a file stand on lines with declared labels. -/
theorem exists_of_mem_lenses {p : Path} {lenses : List Lens}
    (answered : ((s.lenses p).start patience).1 = .ok (some lenses)) {lens : Lens}
    (member : lens ∈ lenses) :
    ∃ c d, s.context.configFor? p = some c ∧ s.workspace.load? p = some d ∧
      lens.location.path = d.path ∧
      ∃ decl ∈ declarationsIn c d, lens.location.line = decl.line := by
  have gives := Task.CanGive.of_start answered
  unfold AsmAtlas.Scene.lenses at gives
  split at gives
  · exact nomatch gives.eq_of_pure
  · next c d opened =>
    obtain ⟨⟨ds, index⟩, _, made⟩ := gives.of_attempt.exists_of_bind
    rw [← made.eq_of_pure] at member
    obtain ⟨counted, isCounted, rfl⟩ := List.mem_map.1 member
    exact ⟨c, d, config_of_open opened, loaded_of_open opened, exists_of_mem_countAll isCounted⟩

/-- The names to propose for a query that are declared in some files. -/
def proposedIn (s : Scene) (c : Config) (d : Document) (line : Int) (query : Text)
    (files : List Path) : List Text :=
  (((s.workspace.findings (WordSearch.declarations (.fuzzy query) d.dialect c.rules) files).filter
    (isProposal c d line)).map (·.symbol)).eraseDups

/-- They are the words of findings. -/
theorem exists_of_mem_proposedIn {d : Document} {line : Int} {query name : Text}
    {files : List Path} (member : name ∈ s.proposedIn c d line query files) :
    ∃ f ∈ s.workspace.findings (WordSearch.declarations (.fuzzy query) d.dialect c.rules) files,
      isProposal c d line f ∧ f.symbol = name := by
  obtain ⟨f, kept, isName⟩ := List.mem_map.1 (eraseDupsBy_subset _ _ member)
  obtain ⟨isFinding, proposal⟩ := List.mem_filter.1 kept
  exact ⟨f, isFinding, proposal, isName⟩

/-- An answer ranks what the files of the root declare, unless too little was typed. -/
theorem exists_of_complete {p : Path} {position : Position} {names : List Text}
    (answered : ((s.complete p position).start patience).1 = .ok (some names)) :
    ∃ c d line, s.open? p (·.completions) = some (c, d) ∧ d.lineAt? position.line = some line ∧
      (names = [] ∨ ∃ files, s.filesOf c = .ok files ∧
        names = Ranking.rank (typedAt line position.column)
          (s.proposedIn c d position.line (typedAt line position.column) files)) := by
  have gives := Task.CanGive.of_start answered
  unfold complete at gives
  split at gives
  · exact nomatch gives.eq_of_pure
  · next c d opened =>
    split at gives
    · exact nomatch gives.eq_of_pure
    · next line isLine =>
      refine ⟨c, d, line, opened, isLine, ?_⟩
      simp only at gives
      split_ifs at gives
      · exact .inl (Option.some.inj gives.eq_of_pure).symm
      · obtain ⟨hits, searched, made⟩ := gives.of_attempt.exists_of_bind
        obtain ⟨files, collected, rfl⟩ := findings_of_search searched
        exact .inr ⟨files, collected, made.eq_of_pure.symm⟩

/-- Every name of it is the word of a finding. -/
theorem exists_of_mem_complete {p : Path} {position : Position} {names : List Text}
    (answered : ((s.complete p position).start patience).1 = .ok (some names)) {name : Text}
    (member : name ∈ names) :
    ∃ c d line files, s.open? p (·.completions) = some (c, d) ∧
      ∃ f ∈ s.workspace.findings (WordSearch.declarations
          (.fuzzy (typedAt line position.column)) d.dialect c.rules) files,
        isProposal c d position.line f ∧ f.symbol = name := by
  obtain ⟨c, d, line, opened, _, rfl | ⟨files, _, rfl⟩⟩ := exists_of_complete answered
  · simp at member
  · exact ⟨c, d, line, files, opened,
      exists_of_mem_proposedIn ((Ranking.perm_rank _ _).mem_iff.1 member)⟩

/-- No name is proposed that is excluded. -/
theorem not_isExcluded_of_complete {p : Path} {position : Position} {names : List Text}
    (config : s.context.configFor? p = some c)
    (answered : ((s.complete p position).start patience).1 = .ok (some names)) {name : Text}
    (member : name ∈ names) : ¬c.isExcluded name := by
  obtain ⟨_, _, _, _, opened, f, _, passes, rfl⟩ := exists_of_mem_complete answered member
  obtain rfl := Option.some.inj ((config_of_open opened).symm.trans config)
  simp only [isProposal, Bool.and_eq_true, Bool.not_eq_true'] at passes
  simp [passes.1.2]

namespace ExcludedLabel

variable {label : s.ExcludedLabel c}

/-- No label is declared on the line as far as its settings say. -/
theorem line_ne {decl : LabelDeclaration} (declared : decl ∈ declarationsIn c label.document) :
    decl.line ≠ label.line := by
  intro sameLine
  obtain ⟨⟨line, n⟩, isLine, inLine⟩ := List.mem_filterMap.1 declared
  obtain ⟨hit, found, inLine⟩ := Option.bind_eq_some_iff.1 inLine
  obtain ⟨_, _, inLine⟩ := Option.bind_eq_some_iff.1 inLine
  split_ifs at inLine with excluded
  have isNumber : n = label.line := by
    rw [← sameLine, ← Option.some.inj inLine]
  have isText : line = label.text := by
    have there := List.mem_zipIdx_iff_getElem?.1 isLine
    rw [isNumber, label.isLine] at there
    exact (Option.some.inj there).symm
  rw [isText, label.declared] at found
  rw [isText, ← Option.some.inj found] at excluded
  exact excluded label.excluded

/-- The outline reads no label on the line. -/
theorem label?_eq_none (label : s.ExcludedLabel c) :
    Reading.label? (c.outlineOptions label.document.dialect) label.text = none := by
  have passed : (c.outlineOptions label.document.dialect).isExcluded
      (label.hit.span.of label.text) := by
    rw [OutlineOptions.isExcluded, listsName, List.any_append, Bool.or_eq_true]
    exact .inl label.excluded
  rw [Reading.label?]
  change Option.filter _ ((c.labelForm label.document.dialect).find? label.text) = none
  rw [label.declared, Option.filter_some, if_neg (by simp [passed])]

/-- The outline shows the label only as the name of a directive. -/
theorem mem_behindLabel_of_outline {forest : SymbolForest}
    (config : s.context.configFor? label.path = some c)
    (answered : s.outline label.path = some forest) {symbol : Symbol}
    (member : symbol ∈ forest.walk) (line : symbol.line = label.line)
    (starts : label.span.start ≤ symbol.column) (inside : symbol.column < label.span.stop) :
    label.document.dialect = .listing ∧
      ∃ e ∈ Emission.behindLabel .listing label.text,
        e.named.onLine label.line = symbol.place := by
  obtain ⟨⟨c', d⟩, opened, rfl⟩ := Option.map_eq_some_iff.1 answered
  obtain rfl : c' = c := Option.some.inj ((config_of_open opened).symm.trans config)
  obtain rfl : d = label.document :=
    Option.some.inj ((loaded_of_open opened).symm.trans label.held)
  obtain ⟨text, isText, e, isEmission, place⟩ := exists_of_mem_walk_outline member
  rw [line] at isText place
  obtain rfl := Option.some.inj (label.isLine.symm.trans isText)
  rw [Emission.ofLine, label.label?_eq_none] at isEmission
  have entered : e ∈ Emission.behindLabel label.document.dialect label.text := isEmission
  cases dialect : label.document.dialect with
  | listing => exact ⟨rfl, e, dialect ▸ entered, place⟩
  | source =>
    rw [dialect] at entered
    obtain ⟨p, isNaming, m, found, named⟩ := Emission.exists_of_mem_behindLabel entered
    obtain ⟨there, isSpan, isNamed⟩ := Option.map_eq_some_iff.1 named
    have column : there.start = symbol.column :=
      (congrArg Named.column isNamed).trans (congrArg Place.column place)
    have declared := label.declared
    rw [dialect] at declared
    obtain ⟨margin, mark, name, tail, sourceLabel, isLabel, _⟩ :=
      LabelForm.sourceLabel_of_find? declared
    rw [span, isLabel] at starts inside
    refine absurd (Directive.nameAt_of_naming isNaming found isSpan)
      (sourceLabel.not_nameAt ?_ ?_)
    · rw [column]
      exact starts
    · rw [column]
      exact inside

theorem not_has_of_lenses {lenses : List Lens} (config : s.context.configFor? label.path = some c)
    (answered : ((s.lenses label.path).start patience).1 = .ok (some lenses)) :
    ∀ lens ∈ lenses, ¬label.Has lens.location := by
  intro lens member has
  obtain ⟨c', d, config', loaded, _, decl, declared, line⟩ := exists_of_mem_lenses answered member
  obtain rfl : c' = c := Option.some.inj (config'.symm.trans config)
  obtain rfl : d = label.document := Option.some.inj (loaded.symm.trans label.held)
  exact line_ne declared (line.symm.trans has.line)

/-- Only another root can report the label as one that nothing refers to. -/
theorem exists_other_of_unreferenced {found : List Declared}
    (answered : (s.unreferenced.start patience).1 = .ok (some found)) {e : Declared}
    (member : e ∈ found) (has : label.Has e.location) :
    ∃ other ∈ s.context.configs, other ≠ c ∧ label.path.isWithin other.root := by
  obtain ⟨other, isConfig, within, d, held, path, decl, declared, _, line⟩ :=
    exists_of_mem_unreferenced answered member
  refine ⟨other, isConfig, ?_, has.path ▸ within⟩
  rintro rfl
  obtain rfl : d = label.document := by
    rw [Workspace.Holds, ← path, has.path] at held
    exact Option.some.inj (held.symm.trans label.held)
  exact line_ne declared (line.symm.trans has.line)

namespace IsWord

variable (isWord : label.IsWord) {p : Path} {position : Position}

include isWord

theorem not_has_of_symbols (distinct : (s.context.configs.map (·.root)).Nodup)
    (config : s.context.configFor? label.path = some c) {query : Text} {found : List Declared}
    (answered : ((s.symbols query).start patience).1 = .ok found) :
    ∀ e ∈ found, ¬label.Has e.location := by
  intro e member has
  obtain ⟨c', isConfig, files, collected, reported⟩ := exists_of_mem_symbols answered member
  obtain ⟨owner, included⟩ := owner_of_mem_reported distinct isConfig collected reported
  obtain rfl : c' = c := by
    rw [has.path, config] at owner
    exact (Option.some.inj owner).symm
  obtain ⟨f, kept, rfl⟩ := List.mem_map.1 reported
  exact included (isWord.isExcluded_symbol (List.mem_of_mem_filter kept) has)

theorem not_has_of_referencesFrom {d : Document} {includeDeclaration : Bool}
    {locations : List Location} (held : s.workspace.Holds d)
    (gives : (s.referencesFrom c d position includeDeclaration).CanGive locations) :
    ∀ l ∈ locations, ¬label.Has l := by
  intro l member has
  rcases referencesFrom_of_ok held gives with none | ⟨found, files, located, ⟨_, word⟩, isKept⟩
  · simp [none] at member
  · rw [isKept] at member
    obtain ⟨f, kept, rfl⟩ := List.mem_map.1 member
    obtain ⟨isUse, keeps⟩ := List.mem_filter.1 kept
    exact word (isWord.isExcluded_word located isUse keeps has)

variable (config : s.context.configFor? p = some c)

include config

theorem not_has_of_references {includeDeclaration : Bool} {locations : List Location}
    (answered :
      ((s.references p position includeDeclaration).start patience).1 = .ok (some locations)) :
    ∀ l ∈ locations, ¬label.Has l := by
  have gives := Task.CanGive.of_start answered
  unfold references at gives
  split at gives
  · exact nomatch gives.eq_of_pure
  · next c' d opened =>
    obtain rfl : c' = c := Option.some.inj ((config_of_open opened).symm.trans config)
    exact isWord.not_has_of_referencesFrom (holds_of_open opened) gives.of_attempt

theorem not_has_of_rename {name : Text} {task : Task (Option (List FileEdits))}
    {edits : List FileEdits} (accepted : s.rename p position name = .ok task)
    (answered : (task.start patience).1 = .ok (some edits)) :
    ∀ file ∈ edits, ∀ e ∈ file.edits, ¬label.Has e.location := by
  intro file isFile e isEdit
  unfold rename at accepted
  split_ifs at accepted
  obtain rfl := Except.ok.inj accepted
  have gives := Task.CanGive.of_start answered
  unfold editsFor at gives
  split at gives
  · exact nomatch gives.eq_of_pure
  · next c' d opened =>
    obtain rfl : c' = c := Option.some.inj ((config_of_open opened).symm.trans config)
    obtain ⟨attempted, found, made⟩ := gives.exists_of_bind
    obtain ⟨locations, rfl, rfl⟩ := Option.map_eq_some_iff.1 made.eq_of_pure
    rw [edits_of_mem_byFile isFile] at isEdit
    obtain ⟨l, isLocation, rfl⟩ := List.mem_map.1 (List.mem_of_mem_filter isEdit)
    exact isWord.not_has_of_referencesFrom (holds_of_open opened) found.of_attempt l isLocation

end IsWord

end ExcludedLabel

/-- Excluded labels are not shown. Let some settings exclude a label that a file declares by their
    rules. The outline of the file by these settings has no symbol on the label, except the name of
    a directive in a listing. Neither has it a reference count there, and the label is not among
    those that nothing refers to, unless another root reports it. If the label is a single word,
    then also no search for symbols that reports the file for these settings shows it, and from no
    file with these settings is it proposed, found as a reference, or renamed. -/
theorem excluded_label_not_shown {t : FileTree} {user : Option ByteArray} {roots : List Path}
    (built : s.context = .build t user roots) (label : s.ExcludedLabel c) (patience : Patience) :
    (s.context.configFor? label.path = some c →
      (∀ forest, s.outline label.path = some forest → ∀ symbol ∈ SymbolForest.walk forest,
        symbol.line = label.line → label.span.start ≤ symbol.column →
        symbol.column < label.span.stop →
        label.document.dialect = .listing ∧
          ∃ e ∈ Emission.behindLabel .listing label.text,
            e.named.onLine label.line = symbol.place) ∧
      ∀ lenses, ((s.lenses label.path).start patience).1 = .ok (some lenses) →
        ∀ lens ∈ lenses, ¬label.Has lens.location) ∧
    (∀ found, (s.unreferenced.start patience).1 = .ok (some found) →
      ∀ e ∈ found, label.Has e.location →
        ∃ other ∈ s.context.configs, other ≠ c ∧ label.path.isWithin other.root) ∧
    (label.IsWord →
      (s.context.configFor? label.path = some c →
        ∀ query found, ((s.symbols query).start patience).1 = .ok found →
          ∀ e ∈ found, ¬label.Has e.location) ∧
      ∀ p position, s.context.configFor? p = some c →
        (∀ names, ((s.complete p position).start patience).1 = .ok (some names) →
          ∀ query dialect files, ∀ f ∈ s.workspace.findings
            (WordSearch.declarations (.fuzzy query) dialect c.rules) files,
              label.Has f.location → f.symbol ∉ names) ∧
        (∀ includeDeclaration locations,
          ((s.references p position includeDeclaration).start patience).1 = .ok (some locations) →
            ∀ l ∈ locations, ¬label.Has l) ∧
        ∀ name task edits, s.rename p position name = .ok task →
          (task.start patience).1 = .ok (some edits) →
            ∀ file ∈ edits, ∀ e ∈ file.edits, ¬label.Has e.location) := by
  have distinct : (s.context.configs.map (·.root)).Nodup := by
    rw [built]
    exact Context.nodup_roots_build t user roots
  refine ⟨fun config => ⟨?_, ?_⟩, ?_, fun isWord => ⟨?_, fun p position config => ⟨?_, ?_, ?_⟩⟩⟩
  · intro forest answered symbol member line starts inside
    exact ExcludedLabel.mem_behindLabel_of_outline config answered member line starts inside
  · intro lenses answered
    exact ExcludedLabel.not_has_of_lenses config answered
  · intro found answered e member has
    exact ExcludedLabel.exists_other_of_unreferenced answered member has
  · intro config query found answered
    exact isWord.not_has_of_symbols distinct config answered
  · intro names answered query dialect files f found has member
    exact not_isExcluded_of_complete config answered member (isWord.isExcluded_symbol found has)
  · intro includeDeclaration locations answered
    exact isWord.not_has_of_references config answered
  · intro name task edits accepted answered
    exact isWord.not_has_of_rename config accepted answered

/-- A file with a label that is always excluded and another one. -/
def includingFiles : FileTree :=
  .folder [("a.asm".toList, .file "include: jp go\ngo: ret".toUTF8)]

/-- A root with that file. -/
def including : Scene :=
  { workspace := { files := includingFiles }, context := .build includingFiles none [⟨[]⟩] }

/-- The label that is excluded. -/
def includingLabel : including.ExcludedLabel (.load includingFiles none ⟨[]⟩) where
  document := ⟨lonePath, .source, ["include: jp go".toList, "go: ret".toList]⟩
  line := 0
  text := "include: jp go".toList
  hit := ⟨⟨0, 7⟩, 8⟩
  held := by
    unfold Workspace.Holds
    decide +kernel
  isLine := rfl
  declared := by decide +kernel
  excluded := List.any_eq_true.2
    ⟨"include".toList, by decide +kernel, beq_iff_eq.2 (congrArg foldCase rfl)⟩

/-- A search for symbols shows the other one. -/
theorem including_label_not_shown :
    includingLabel.IsWord ∧
      ((including.symbols "go".toList).start none).1 = .ok [⟨"go".toList, ⟨lonePath, 1, 0, 2⟩⟩] ∧
      ∀ e ∈ [(⟨"go".toList, ⟨lonePath, 1, 0, 2⟩⟩ : Declared)], ¬includingLabel.Has e.location := by
  have isWord : includingLabel.IsWord := List.all_eq_true.1 (by decide +kernel)
  have answered : ((including.symbols "go".toList).start none).1 =
      .ok [⟨"go".toList, ⟨lonePath, 1, 0, 2⟩⟩] := by decide +kernel
  obtain ⟨_, _, words⟩ := excluded_label_not_shown (s := including) rfl includingLabel none
  exact ⟨isWord, answered, (words isWord).1 rfl _ _ answered⟩

/-- Settings of a root that exclude a relative label. -/
def dottedConfig : Config :=
  { loneConfig with labelsExcludes := ["include".toList, ".on".toList] }

/-- A root with these settings and a file that declares the label and uses it. -/
def dotted : Scene :=
  { lone "go: ret\n.on: jp go.on" with context := ⟨[dottedConfig]⟩ }

/-- The relative label. -/
def dottedLabel : dotted.ExcludedLabel dottedConfig where
  document := ⟨lonePath, .source, ["go: ret".toList, ".on: jp go.on".toList]⟩
  line := 1
  text := ".on: jp go.on".toList
  hit := ⟨⟨0, 3⟩, 4⟩
  held := by
    unfold Workspace.Holds
    decide +kernel
  isLine := rfl
  declared := by decide +kernel
  excluded := List.any_eq_true.2 ⟨".on".toList, by decide, beq_iff_eq.2 (congrArg foldCase rfl)⟩

/-- A search for symbols shows it, and so do the references from its use. -/
theorem dotted_label_shown :
    dottedLabel.span.of dottedLabel.text = ".on".toList ∧
      dottedLabel.Has ⟨lonePath, 1, 1, 3⟩ ∧
      ((dotted.symbols "on".toList).start none).1 = .ok [⟨"on".toList, ⟨lonePath, 1, 1, 3⟩⟩] ∧
      ((dotted.references lonePath ⟨1, 11⟩ true).start none).1 =
        .ok (some [⟨lonePath, 1, 1, 3⟩, ⟨lonePath, 1, 11, 13⟩]) := by
  have loaded : dotted.workspace.load? lonePath = some dottedLabel.document := dottedLabel.held
  have located : dottedLabel.document.occurrence? isWordChar ⟨1, 11⟩ =
      some ⟨"go.on".toList, "on".toList, 11, 13⟩ := by decide +kernel
  have collected : dotted.filesOf dottedConfig = .ok [lonePath] := lone_collected _
  have gives := referencesFrom_keeps collected dottedLabel.held located (by decide +kernel)
    (by decide +kernel) true
  rw [List.filterMap_cons, loaded, List.filterMap_nil] at gives
  refine ⟨by decide +kernel, ⟨rfl, rfl, by decide, by decide, by decide⟩, by decide +kernel, ?_⟩
  rw [references, open_eq (c := dottedConfig) rfl rfl loaded, gives.attempt.start]
  decide +kernel

end Scene
end AsmAtlas
