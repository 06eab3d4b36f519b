import AsmAtlas.Proofs.OutlineColumns
import AsmAtlas.Proofs.TerminalText

/-!
# Where answers come from

Every place that a request answers with is in a file. The names that it answers with are made of
label characters, apart from what a query for symbols has itself, because a search for names takes
the characters of its query as they are.
-/

namespace AsmAtlas

open Terminal

theorem Workspace.isFile_of_load {w : Workspace} {p : Path} {d : Document}
    (loaded : w.load? p = some d) : w.files.isFile p := by
  obtain ⟨text, isText, _⟩ := Option.map_eq_some_iff.1 loaded
  obtain ⟨content, read, _⟩ := Option.map_eq_some_iff.1 isText
  unfold FileTree.read? at read
  split at read
  · next found => exact FileTree.isFile_iff.2 ⟨_, _, FileTree.get?_of_visit found⟩
  · cases read

theorem Workspace.isFile_of_mem_findings {w : Workspace} {patterns : List Pattern}
    {files : List Path} {f : Finding} (member : f ∈ w.findings patterns files) :
    w.files.isFile f.location.path := by
  obtain ⟨d, _, held, _, path, _⟩ := Workspace.exists_of_mem_findings member
  rw [path]
  exact isFile_of_load held

/-- A control character in a name that a query finds is one of the query. -/
theorem Workspace.mem_query_of_mem_findings {w : Workspace} {query : Text} {dialect : Dialect}
    {rules : LabelRules} {files : List Path} {f : Finding}
    (member : f ∈ w.findings (WordSearch.declarations (.fuzzy query) dialect rules) files) :
    ∀ c ∈ f.symbol, isControl c → c ∈ query := by
  obtain ⟨_, line, _, _, _, isText, _, p, isDeclaration, m, isMatch, wordSpan⟩ :=
    Workspace.exists_of_mem_findings member
  obtain ⟨start, stop, taken, isSpan⟩ :=
    Pattern.exists_takenFrom_of_mem_findAll isDeclaration isMatch
  obtain ⟨starts, stops⟩ := Span.mk.inj (wordSpan.symm.trans isSpan)
  rw [Workspace.symbol_of_mem_findings member, isText, starts, stops]
  exact Pattern.holds_of_takesOnly (Wanted.takesOnly_fuzzy query) taken.on taken.word

namespace Scene

variable {s : Scene} {c : Config} {p : Path} {d : Document} {position : Position}
  {patience : Patience}

theorem isFile_of_open {feature : Config → Bool} (opened : s.open? p feature = some (c, d)) :
    s.workspace.files.isFile p :=
  Workspace.isFile_of_load (loaded_of_open opened)

/-- Whatever is left of the findings of a search is in a file. -/
theorem isFile_of_mem_reduce {patterns : List Pattern} {hits : List Finding}
    (searched : (s.search c patterns).CanGive hits) (q : Inquiry) :
    ∀ l ∈ (q.reduce (hits.map Finding.candidate)).locations,
      s.workspace.files.isFile l.path := by
  intro l member
  obtain ⟨files, _, rfl⟩ := findings_of_search searched
  obtain ⟨candidate, isCandidate, rfl⟩ := q.exists_of_mem_reduce member
  obtain ⟨f, isFinding, rfl⟩ := List.mem_map.1 isCandidate
  exact Workspace.isFile_of_mem_findings isFinding

theorem isFile_of_referencesFrom {includeDeclaration : Bool} {locations : List Location}
    (gives : (s.referencesFrom c d position includeDeclaration).CanGive locations) :
    ∀ l ∈ locations, s.workspace.files.isFile l.path := by
  have none : ([] : List Location) = locations →
      ∀ l ∈ locations, s.workspace.files.isFile l.path := by
    rintro rfl l member
    simp at member
  unfold referencesFrom at gives
  split at gives
  · exact none gives.eq_of_pure
  · split_ifs at gives
    · exact none gives.eq_of_pure
    · obtain ⟨hits, searched, made⟩ := gives.exists_of_bind
      rw [← made.eq_of_pure]
      exact isFile_of_mem_reduce searched _

theorem isFile_of_references {includeDeclaration : Bool} {locations : List Location}
    (answered :
      ((s.references p position includeDeclaration).start patience).1 = .ok (some locations)) :
    ∀ l ∈ locations, s.workspace.files.isFile l.path := by
  have gives := Task.CanGive.of_start answered
  unfold references at gives
  split at gives
  · exact nomatch gives.eq_of_pure
  · exact isFile_of_referencesFrom gives.of_attempt

/-- Edits are in files, and all of them put the new name there. -/
theorem isFile_of_rename {name : Text} {task : Task (Option (List FileEdits))}
    {edits : List FileEdits} (accepted : s.rename p position name = .ok task)
    (answered : (task.start patience).1 = .ok (some edits)) :
    ∀ file ∈ edits, ∀ e ∈ file.edits,
      s.workspace.files.isFile e.location.path ∧ e.newText = name := by
  intro file isFile e isEdit
  unfold rename at accepted
  split_ifs at accepted
  obtain rfl := Except.ok.inj accepted
  have gives := Task.CanGive.of_start answered
  unfold editsFor at gives
  split at gives
  · exact nomatch gives.eq_of_pure
  · obtain ⟨attempted, found, made⟩ := gives.exists_of_bind
    obtain ⟨locations, rfl, rfl⟩ := Option.map_eq_some_iff.1 made.eq_of_pure
    rw [edits_of_mem_byFile isFile] at isEdit
    obtain ⟨l, isLocation, rfl⟩ := List.mem_map.1 (List.mem_of_mem_filter isEdit)
    exact ⟨isFile_of_referencesFrom found.of_attempt l isLocation, rfl⟩

theorem isFile_of_declarationsOf {found : Occurrence} {candidates : List Candidate}
    (declared : (s.declarationsOf c d found).CanGive candidates) (q : Inquiry) :
    ∀ l ∈ (q.reduce candidates).locations, s.workspace.files.isFile l.path := by
  obtain ⟨hits, searched, mapped⟩ := declared.exists_of_bind
  rw [← mapped.eq_of_pure]
  exact isFile_of_mem_reduce searched q

theorem isFile_of_definition {r : Reduction}
    (answered : ((s.definition p position).start patience).1 = .ok (some r)) :
    ∀ l ∈ r.locations ++ r.ambiguous, s.workspace.files.isFile l.path := by
  intro l member
  have gives := Task.CanGive.of_start answered
  unfold definition at gives
  split at gives
  · exact nomatch gives.eq_of_pure
  · split_ifs at gives
    · exact nomatch gives.eq_of_pure
    · split at gives
      · rw [← Option.some.inj gives.eq_of_pure] at member
        simp at member
      · obtain ⟨candidates, declared, made⟩ := gives.of_attempt.exists_of_bind
        rw [← made.eq_of_pure] at member
        exact isFile_of_declarationsOf declared _ l ((Inquiry.reduceUnique_of_reduce _ _).2 member)

theorem isFile_of_hover {found : List HoverText}
    (answered : ((s.hover p position).start patience).1 = .ok (some found)) :
    ∀ h ∈ found, s.workspace.files.isFile h.location.path := by
  intro h member
  have gives := Task.CanGive.of_start answered
  unfold hover at gives
  split at gives
  · exact nomatch gives.eq_of_pure
  · split_ifs at gives
    · exact nomatch gives.eq_of_pure
    · split at gives
      · rw [← Option.some.inj gives.eq_of_pure] at member
        simp at member
      · obtain ⟨candidates, declared, made⟩ := gives.of_attempt.exists_of_bind
        rw [← made.eq_of_pure] at member
        obtain ⟨l, survives, shown⟩ := List.mem_filterMap.1 member
        unfold hoverText? at shown
        simp only at shown
        split_ifs at shown
        rw [← Option.some.inj shown]
        exact isFile_of_declarationsOf declared _ l survives

theorem isFile_of_lenses {lenses : List Lens}
    (answered : ((s.lenses p).start patience).1 = .ok (some lenses)) :
    ∀ lens ∈ lenses, s.workspace.files.isFile lens.location.path := by
  intro lens member
  obtain ⟨_, d, _, loaded, path, _⟩ := exists_of_mem_lenses answered member
  rw [path]
  exact Workspace.isFile_of_load (Workspace.holds_of_load loaded)

theorem isFile_of_symbols {query : Text} {found : List Declared}
    (answered : ((s.symbols query).start patience).1 = .ok found) :
    ∀ e ∈ found, s.workspace.files.isFile e.location.path ∧
      ∀ c ∈ e.name, isControl c → c ∈ query := by
  intro e member
  obtain ⟨_, _, files, _, isReported⟩ := exists_of_mem_symbols answered member
  obtain ⟨f, kept, rfl⟩ := List.mem_map.1 isReported
  have isFinding := List.mem_of_mem_filter kept
  exact ⟨Workspace.isFile_of_mem_findings isFinding,
    Workspace.mem_query_of_mem_findings isFinding⟩

/-- What a document declares is made of label characters. -/
theorem isSafe_of_mem_declarationsIn {decl : LabelDeclaration}
    (declared : decl ∈ declarationsIn c d) : IsSafe decl.label := by
  obtain ⟨⟨line, n⟩, _, inLine⟩ := List.mem_filterMap.1 declared
  obtain ⟨hit, found, inHit⟩ := Option.bind_eq_some_iff.1 inLine
  obtain ⟨_, _, isDeclaration⟩ := Option.bind_eq_some_iff.1 inHit
  split_ifs at isDeclaration
  rw [← Option.some.inj isDeclaration]
  exact isSafe_of_labelChars (LabelForm.standsIn_of_find? found).ofLabel

theorem isSafe_of_outline {forest : SymbolForest} (outlined : s.outline p = some forest) :
    ∀ symbol ∈ SymbolForest.walk forest, IsSafe symbol.name := by
  intro symbol member
  obtain ⟨_, _, rfl⟩ := Option.map_eq_some_iff.1 outlined
  exact isSafe_of_labelChars (isLabelChar_of_mem_walk_outline member)

theorem isFile_of_unreferenced {found : List Declared}
    (answered : (s.unreferenced.start patience).1 = .ok (some found)) :
    ∀ e ∈ found, s.workspace.files.isFile e.location.path ∧ IsSafe e.name := by
  intro e member
  obtain ⟨_, _, _, d, held, path, decl, declared, name, _⟩ :=
    exists_of_mem_unreferenced answered member
  rw [path, name]
  exact ⟨Workspace.isFile_of_load held, isSafe_of_mem_declarationsIn declared⟩

/-- What is proposed fits what was typed, which is part of a name. -/
theorem isSafe_of_complete {names : List Text}
    (answered : ((s.complete p position).start patience).1 = .ok (some names)) :
    ∀ name ∈ names, IsSafe name := by
  intro name member
  obtain ⟨_, _, line, _, _, f, isFinding, _, rfl⟩ := exists_of_mem_complete answered member
  -- A control character of a proposal would have been typed, and so would be part of a name.
  intro c inName
  by_contra control
  have typed := Workspace.mem_query_of_mem_findings isFinding c inName (by simpa using control)
  exact control (isSafe_typedAt line position.column c typed)

end Scene

end AsmAtlas
