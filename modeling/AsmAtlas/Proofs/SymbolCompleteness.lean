import AsmAtlas.Proofs.DeclaredWords
import AsmAtlas.Proofs.SymbolReports

/-!
# Every label is among the symbols

What the outline shows as a label, the search for symbols finds by every query that the last segment
has, and reports up to the end of the label. Patterns of different kinds may find a word at one
place, and only the first of them counts; but all of them take the word up to the end of its dotted
name, so it does not matter which one it is.
-/

namespace AsmAtlas

namespace Pattern

open Cursor WordSearch

variable {p : Pattern} {query line : Text} {here there : Cursor} {rules : LabelRules}

/-- Patterns that take a word at their end and look at what follows its name. -/
inductive EndsWithWord (query : Text) : Pattern → Prop
  | word {close : Pattern} (closes : ClosesName close) :
      EndsWithWord query (seq (group .word (Wanted.fuzzy query).pattern) close)
  | behind (p : Pattern) {q : Pattern} (ends : EndsWithWord query q) :
      EndsWithWord query (seq p q)

/-- They take the word up to the end of its name. -/
theorem EndsWithWord.lookup_word (endsWith : EndsWithWord query p) (on : here.IsOn line)
    (spells : line.Spells query) (member : there ∈ p.ends here) :
    ∃ start, there.noted.lookup .word =
      some ⟨start, start + ((line.drop start).takeWhile isWordOrDot).length⟩ := by
  induction endsWith generalizing here with
  | word closes =>
    obtain ⟨stop, _, _, column, _, isWord⟩ := exists_of_mem_ends_word closes on spells member
    refine ⟨here.column, ?_⟩
    rw [isWord, column, on.rest]
  | behind p ends ih =>
    obtain ⟨middle, inFirst, inSecond⟩ := List.mem_flatMap.1 member
    exact ih (isOn_of_mem_ends on inFirst) inSecond

/-- All declarations are searched by such patterns. -/
theorem Declares.endsWithWord (declares : Declares (.fuzzy query) p) : EndsWithWord query p := by
  induction declares with
  | edge closes => exact .behind _ (.word closes)
  | blank _ closes => exact .behind _ (.word closes)
  | behind p _ ih => exact .behind p ih

/-- A declared word goes to the end of its name. -/
theorem stop_of_mem_findAll {m : Match} (endsWith : EndsWithWord query p)
    (spells : line.Spells query) (found : m ∈ p.findAll line) :
    m.wordSpan.stop =
      m.wordSpan.start + ((line.drop m.wordSpan.start).takeWhile isWordOrDot).length := by
  obtain ⟨here, isCursor, atHere⟩ := exists_of_mem_findFrom found
  obtain ⟨there, isEnd, rfl⟩ := exists_of_mem_matchesAt atHere
  obtain ⟨start, isWord⟩ := endsWith.lookup_word (isOn_of_mem_through isCursor) spells isEnd
  rw [wordSpan_matchTo isWord]

end Pattern

namespace Search

open Pattern WordSearch

/-- A declaration that is found is among the tidied ones, as found by whichever pattern. -/
theorem exists_mem_tidy {d : Document} {n : Nat} {query line : Text} {rules : LabelRules}
    (isLine : d.lines[n]? = some line) (spells : line.Spells query) {p : Pattern}
    (isDeclaration : p ∈ declarations (.fuzzy query) .source rules) {m : Match}
    (found : m ∈ p.findAll line) :
    ∃ f ∈ tidy ((declarations (.fuzzy query) .source rules).flatMap d.find),
      f.location = ⟨d.path, n, m.wordSpan.start, m.wordSpan.stop⟩ ∧
      f.symbol = m.wordSpan.of line := by
  have isFound : Finding.ofMatch d (0 + n) line p m ∈
      (declarations (.fuzzy query) .source rules).flatMap d.find :=
    List.mem_flatMap.2 ⟨p, isDeclaration, Document.mem_findIn.2 ⟨n, line, m, isLine, found, rfl⟩⟩
  obtain ⟨f, isLeft, sameLine, sameStart⟩ := exists_mem_tidy_at isFound
  obtain ⟨q, isOther, inDocument⟩ := List.mem_flatMap.1 (mem_of_mem_tidy isLeft)
  obtain ⟨k, line', other, isLine', foundOther, rfl⟩ := Document.mem_findIn.1 inDocument
  have isN : 0 + k = 0 + n := sameLine
  obtain rfl : n = k := by omega
  obtain rfl : line = line' := Option.some.inj (isLine.symm.trans isLine')
  have start : other.wordSpan.start = m.wordSpan.start := sameStart
  have stop : other.wordSpan.stop = m.wordSpan.stop := by
    rw [stop_of_mem_findAll (declares_of_mem_declarations isOther).endsWithWord spells foundOther,
      stop_of_mem_findAll (declares_of_mem_declarations isDeclaration).endsWithWord spells found,
      start]
  have span : other.wordSpan = m.wordSpan :=
    calc other.wordSpan = ⟨other.wordSpan.start, other.wordSpan.stop⟩ := rfl
      _ = m.wordSpan := by rw [start, stop]
  refine ⟨_, isLeft, ?_, ?_⟩
  · change (⟨d.path, 0 + n, other.wordSpan.start, other.wordSpan.stop⟩ : Location) = _
    rw [start, stop, Nat.zero_add]
  · change other.wordSpan.of line = _
    rw [span]

end Search

namespace LabelHit

/-- No other label of the line is taken in place of this one: it stands in the first column, or no
    later blank has something behind it that begins like a label with the query. -/
def IsUnrivalled (hit : LabelHit) (line query : Text) : Prop :=
  hit.span.start = 0 ∨ ∀ i < line.length, hit.stop ≤ i → (line.drop i).head?.any isBlank →
    ¬Text.BeginsLikeLabel (line.drop (i + 1)) query

instance (hit : LabelHit) (line query : Text) : Decidable (hit.IsUnrivalled line query) :=
  inferInstanceAs (Decidable (_ ∨ _))

open Pattern WordSearch

variable {rules : LabelRules} {line query : Text} {hit : LabelHit}

theorem IsUnrivalled.not_beginsLikeLabel (unrivalled : hit.IsUnrivalled line query)
    (indented : hit.span.start ≠ 0) {i : Nat} (behind : hit.stop ≤ i)
    (blank : (line.drop i).head?.any isBlank) :
    ¬Text.BeginsLikeLabel (line.drop (i + 1)) query := by
  rcases unrivalled with atStart | clear
  · exact absurd atStart indented
  · refine clear i ?_ behind blank
    by_contra beyond
    rw [List.drop_eq_nil_iff.2 (Nat.not_lt.1 beyond)] at blank
    simp at blank

/-- The last segment of a label is found as a declaration. -/
theorem exists_declaration (found : (LabelForm.of .source rules).find? line = some hit)
    (inLine : ∀ c ∈ line, isInLine c) (asks : query ≠ [])
    (starts : (hit.lastSegment line).head?.any Occurrence.startsSegment)
    (hasQuery : (hit.lastSegment line).HasQuery query) (spells : line.Spells query)
    (single : hit.stop ≤ hit.span.stop + 1) (unrivalled : hit.IsUnrivalled line query) :
    ∃ p ∈ declarations (.fuzzy query) .source rules, ∃ m ∈ p.findAll line,
      m.wordSpan = hit.segment line ∧ m.wordSpan.of line = hit.lastSegment line := by
  obtain ⟨margin, mark, name, tail, label, span, closed⟩ := LabelForm.sourceLabel_of_find? found
  obtain ⟨front, split, segment, _⟩ := label.exists_lastSegment span starts
  have matched : ∀ p ∈ declarations (.fuzzy query) .source rules,
      TakesWord (p.ends (.start line))
        ⟨(margin ++ front).length, (margin ++ front ++ hit.lastSegment line).length⟩ →
      ∃ p ∈ declarations (.fuzzy query) .source rules, ∃ m ∈ p.findAll line,
        m.wordSpan = hit.segment line ∧ m.wordSpan.of line = hit.lastSegment line := by
    rintro p isDeclaration ⟨there, isHead, isWord⟩
    refine ⟨p, isDeclaration, _, mem_findAll_of_head isHead, ?_, ?_⟩
    · rw [wordSpan_matchTo isWord, SourceLabel.segment_eq span split]
    · rw [wordSpan_matchTo isWord, segment.of_span]
  cases closed with
  | colon after on isColon closing =>
    have isDeclaration : labelWithColon (.fuzzy query) .source ∈
        declarations (.fuzzy query) .source rules := by
      simp [declarations, labels, on]
    by_cases first : margin = []
    · exact matched _ isDeclaration
        (label.takesWord_first segment split first spells asks hasQuery isColon (closing single))
    · have indented : hit.span.start ≠ 0 := by
        rw [span]
        exact fun atStart => first (List.length_eq_zero_iff.1 atStart)
      have clear : ∀ i, (margin ++ (mark ++ name)).length < i → (line.drop i).head?.any isBlank →
          ¬Text.BeginsLikeLabel (line.drop (i + 1)) query := by
        intro i behind blank
        rw [span] at single
        exact unrivalled.not_beginsLikeLabel indented (single.trans behind) blank
      exact matched _ isDeclaration (label.takesWord_indented segment split first inLine spells asks
        hasQuery isColon (closing single) clear)
  | bare on first noColon free =>
    have isDeclaration : labelWithoutColon (.fuzzy query) ∈
        declarations (.fuzzy query) .source rules := by
      simp [declarations, labels, on]
    exact matched _ isDeclaration
      (label.takesWord_bare segment split first spells asks hasQuery noColon free)

end LabelHit

namespace Scene

variable {s : Scene} {query line : Text} {c : Config} {files : List Path} {p : Path} {d : Document}
  {n : Nat} {hit : LabelHit}

/-- A file that was collected for its innermost root has its labels reported there. -/
theorem mem_reported (owner : s.context.configFor? p = some c) (isFile : p ∈ files)
    (loaded : s.workspace.load? p = some d) (isLine : d.lines[n]? = some line)
    (found : (c.labelForm .source).find? line = some hit) (asks : query ≠ [])
    (starts : (hit.lastSegment line).head?.any Occurrence.startsSegment)
    (included : ¬c.isExcluded (hit.lastSegment line))
    (hasQuery : (hit.lastSegment line).HasQuery query) (spells : line.Spells query)
    (single : hit.stop ≤ hit.span.stop + 1) (unrivalled : hit.IsUnrivalled line query) :
    ⟨hit.lastSegment line, ⟨p, n, (hit.segment line).start, hit.span.stop⟩⟩ ∈
      s.reported query c files := by
  have inLine : ∀ c ∈ line, isInLine c := by
    obtain ⟨text, _, rfl⟩ := Option.map_eq_some_iff.1 loaded
    exact Document.isInLine_of_mem_ofText p text line (List.mem_of_getElem? isLine)
  obtain ⟨pattern, isDeclaration, m, isMatch, span, isText⟩ := LabelHit.exists_declaration found
    inLine asks starts hasQuery spells single unrivalled
  obtain ⟨f, isFinding, location, symbol⟩ :=
    Search.exists_mem_tidy isLine spells isDeclaration isMatch
  rw [span, Workspace.path_of_load loaded] at location
  rw [isText] at symbol
  refine List.mem_map.2 ⟨f, List.mem_filter.2 ⟨?_, ?_⟩, ?_⟩
  · exact List.mem_flatMap.2 ⟨d, List.mem_filterMap.2 ⟨p, isFile, loaded⟩, isFinding⟩
  · simp [Context.isReported, symbol, included, location, owner]
  · rw [symbol, location]
    rfl

/-- Every label of the outline is among the symbols. Let a line of a source file declare a label, by
    the rules of the innermost root that the file is collected for, and let that root be asked for
    a query that the last segment of the label has. Then the search for symbols finds the segment on
    that line, up to the end of the label. This is so for a label with one colon at most; a label
    behind blanks must have no rival on its line, and no character that is none of a word may be a
    case form of one of the query. -/
theorem labels_among_symbols (owner : s.context.configFor? p = some c) (asked : c.asks query)
    (gathers : ∀ c ∈ s.context.configs, c.asks query → ∃ files, s.filesOf c = .ok files)
    (collected : s.filesOf c = .ok files) (isFile : p ∈ files)
    (loaded : s.workspace.load? p = some d) (source : d.dialect = .source)
    (isLine : d.lines[n]? = some line) (found : (c.labelForm d.dialect).find? line = some hit)
    (asks : query ≠ []) (starts : (hit.lastSegment line).head?.any Occurrence.startsSegment)
    (included : ¬c.isExcluded (hit.lastSegment line))
    (hasQuery : (hit.lastSegment line).HasQuery query) (spells : line.Spells query)
    (single : hit.stop ≤ hit.span.stop + 1) (unrivalled : hit.IsUnrivalled line query) :
    ∃ found, ((s.symbols query).start none).1 = .ok found ∧
      ⟨hit.lastSegment line, ⟨p, n, (hit.segment line).start, hit.span.stop⟩⟩ ∈ found := by
  obtain ⟨own, answered, reports⟩ := exists_own gathers
  obtain ⟨isConfig, _⟩ := Context.innermost_of_configFor? owner
  rw [source] at found
  refine ⟨_, answered, List.mem_flatMap.2 ⟨c, isConfig, ?_⟩⟩
  rcases reports c isConfig with ⟨unasked, _⟩ | ⟨_, again, collectedAgain, isOwn⟩
  · rw [unasked] at asked
    exact absurd asked Bool.false_ne_true
  · obtain rfl : files = again := Except.ok.inj (collected.symm.trans collectedAgain)
    rw [isOwn]
    exact mem_reported owner isFile loaded isLine found asks starts included hasQuery spells single
      unrivalled

/-- A label behind a blank, with a use of its last segment behind another one. -/
def innerLabel : String :=
  " Main.loop: djnz loop"

/-- It is found by two of the characters of its last segment. -/
theorem innerLabel_among_symbols :
    ∃ found, (((lone innerLabel).symbols "lp".toList).start none).1 = .ok found ∧
      ⟨"loop".toList, ⟨lonePath, 0, 6, 10⟩⟩ ∈ found := by
  have loaded : (lone innerLabel).workspace.load? lonePath = some (loneDocument innerLabel) := by
    decide +kernel
  have collected : (lone innerLabel).filesOf loneConfig = .ok [lonePath] :=
    lone_collected innerLabel
  have gathers : ∀ c ∈ (lone innerLabel).context.configs, c.asks "lp".toList →
      ∃ files, (lone innerLabel).filesOf c = .ok files := by
    intro c isConfig _
    obtain rfl : c = loneConfig := List.mem_singleton.1 isConfig
    exact ⟨_, collected⟩
  have isLine : (loneDocument innerLabel).lines[0]? = some innerLabel.toList := by
    decide +kernel
  have found : (loneConfig.labelForm (loneDocument innerLabel).dialect).find? innerLabel.toList =
      some ⟨⟨1, 10⟩, 11⟩ := by
    decide +kernel
  have ascii : ∀ t ∈ [innerLabel.toList, "lp".toList], Text.IsAscii t := by
    have all : [innerLabel.toList, "lp".toList].all (fun t => t.all (·.toNat < 0x80)) = true := by
      decide +kernel
    intro t member c inText
    simpa using List.all_eq_true.1 (List.all_eq_true.1 all t member) c inText
  have spells : Text.Spells innerLabel.toList "lp".toList :=
    Text.spells_of_isAscii (ascii _ (by simp)) (ascii _ (by simp))
      (List.all_eq_true.1 (by decide +kernel))
  exact labels_among_symbols (c := loneConfig) rfl (by decide +kernel) gathers collected
    (List.mem_singleton_self _) loaded (by decide +kernel) isLine found (by decide +kernel)
    (by decide +kernel) (by decide +kernel) (by decide +kernel) spells (by decide +kernel)
    (by decide +kernel)

/-- A label with two colons is none of the symbols, though its segment has the query. -/
theorem doubleColon_missing :
    (lone "foo:: nop").context.configFor? lonePath = some loneConfig ∧
      loneConfig.asks "fo".toList ∧ (lone "foo:: nop").filesOf loneConfig = .ok [lonePath] ∧
      (lone "foo:: nop").workspace.load? lonePath = some (loneDocument "foo:: nop") ∧
      (loneDocument "foo:: nop").dialect = .source ∧
      (loneDocument "foo:: nop").lines[0]? = some "foo:: nop".toList ∧
      ∃ hit : LabelHit, (loneConfig.labelForm .source).find? "foo:: nop".toList = some hit ∧
        hit.span = ⟨0, 3⟩ ∧ hit.lastSegment "foo:: nop".toList = "foo".toList ∧
        ¬loneConfig.isExcluded "foo".toList ∧ Text.HasQuery "foo".toList "fo".toList ∧
        (((lone "foo:: nop").symbols "fo".toList).start none).1 = .ok [] := by
  refine ⟨rfl, by decide +kernel, lone_collected _, by decide +kernel, by decide +kernel,
    by decide +kernel, ⟨⟨0, 3⟩, 5⟩, by decide +kernel, rfl, by decide +kernel, by decide +kernel,
    by decide +kernel, by decide +kernel⟩

end Scene
end AsmAtlas
