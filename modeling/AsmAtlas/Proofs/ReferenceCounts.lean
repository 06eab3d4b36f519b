import AsmAtlas.Proofs.ScopeCaching
import AsmAtlas.Proofs.SegmentStart
import AsmAtlas.Proofs.WordPlaces
import AsmAtlas.Request.Navigation

/-!
# Reference counts and references

The reference counts of a file come from one index of all identifiers and one cache of scope tables,
the references to a label from a search of their own. On ASCII files the count at a label is the
number of its references.
-/

namespace AsmAtlas

namespace Document

theorem document_of_mem_findIn {d : Document} {p : Pattern} {n : Nat} {lines : List Text}
    {f : Finding} (member : f ∈ d.findIn p n lines) : f.document = d := by
  induction lines generalizing n with
  | nil => simp [findIn] at member
  | cons line lines ih =>
    rcases List.mem_append.1 member with here | later
    · obtain ⟨m, _, rfl⟩ := List.mem_map.1 here
      rfl
    · exact ih later

/-- The label at a position on a line of the document. -/
theorem occurrence_eq {d : Document} {n : Nat} {line : Text} (isLine : d.lines[n]? = some line)
    (boundary : Char → Bool) (column : Nat) :
    d.occurrence? boundary ⟨n, column⟩ = Occurrence.at? boundary line column := by
  have lineAt : d.lineAt? (n : Int) = some line := by
    rw [lineAt?, if_neg (by omega), Int.toNat_natCast, isLine]
  rw [occurrence?, lineAt, Option.bind_some]

end Document

namespace Scene

/-- A declared label has the column at which some label of its line starts its last segment. -/
theorem column_of_mem_declarationsIn {c : Config} {d : Document} {decl : LabelDeclaration}
    (member : decl ∈ declarationsIn c d) :
    ∃ line column found, d.lines[decl.line]? = some line ∧
      Occurrence.at? isWordChar line column = some found ∧ decl.column = found.start := by
  obtain ⟨⟨line, n⟩, isLine, declared⟩ := List.mem_filterMap.1 member
  obtain ⟨hit, _, declared⟩ := Option.bind_eq_some_iff.1 declared
  obtain ⟨found, located, declared⟩ := Option.bind_eq_some_iff.1 declared
  split_ifs at declared
  obtain rfl := Option.some.inj declared
  exact ⟨line, _, found, List.mem_zipIdx_iff_getElem?.1 isLine, located, rfl⟩

/-- The word at a declared label of an ASCII document can be looked up in an index. -/
theorem occurrence_of_mem_declarationsIn {c : Config} {d : Document} (ascii : d.IsAscii)
    {decl : LabelDeclaration} (member : decl ∈ declarationsIn c d) :
    ∃ found, d.occurrence? isWordChar ⟨decl.line, decl.column⟩ = some found ∧
      found.start = decl.column ∧ (∀ ch ∈ found.word, isWordChar ch) ∧ found.word.IsAscii ∧
      found.word.head?.any isPlainStart := by
  obtain ⟨line, column, first, isLine, located, isColumn⟩ := column_of_mem_declarationsIn member
  obtain ⟨found, again, start, word, starts⟩ := Occurrence.at?_start located
  have asciiLine := ascii line (List.mem_of_getElem? isLine)
  have asciiWord : found.word.IsAscii := by
    intro ch inWord
    rw [word] at inWord
    exact asciiLine ch (List.mem_of_mem_drop (List.takeWhile_subset _ inWord))
  refine ⟨found, ?_, start.trans isColumn.symm, ?_, asciiWord, ?_⟩
  · rw [Document.occurrence_eq isLine, isColumn, again]
  · intro ch inWord
    rw [word] at inWord
    exact List.mem_takeWhile_imp inWord
  · obtain ⟨ch, head, startsSegment⟩ := (Option.any_eq_true _ _).1 starts
    have asciiHead := asciiWord ch (List.mem_of_head? head)
    rw [head, Option.any_some, ← isLetter_or_underscore ch asciiHead]
    exact startsSegment

/-- The places in an index lie in the documents that it was made from. -/
theorem isHeld_wordIndex {w : Workspace} {ds : List Document} (held : ∀ d ∈ ds, w.Holds d) :
    ∀ entry ∈ wordIndex ds, entry.2.IsHeld w := by
  intro entry isEntry e isDocument
  obtain ⟨f, found, rfl⟩ := List.mem_map.1 isEntry
  obtain ⟨d, member, inDocument⟩ := List.mem_flatMap.1 found
  have same : f.document = d := Document.document_of_mem_findIn inDocument
  obtain rfl : f.document = e := Option.some.inj isDocument
  exact same ▸ held d member

/-- The reference counts of a document, every label counted on its own, among the identifiers of
    the given documents. -/
def lensesAnew (c : Config) (d : Document) (ds : List Document) : List Lens :=
  ((declarationsIn c d).filterMap (countAnew c d (wordIndex ds))).map fun l =>
    ⟨l.location, l.references⟩

section

variable {s : Scene} {p : Path} {c : Config} {d : Document} {files : List Path}

theorem open_eq {feature : Config → Bool} (config : s.context.configFor? p = some c)
    (on : feature c = true) (loaded : s.workspace.load? p = some d) :
    s.open? p feature = some (c, d) := by
  rw [open?, config?, config, Option.filter_some, if_pos on, loaded]
  rfl

/-- The documents of ASCII files are ASCII. -/
theorem isAscii_of_mem_load
    (ascii : ∀ q ∈ files, ∀ text, s.workspace.text? q = some text → text.IsAscii) :
    ∀ e ∈ files.filterMap s.workspace.load?, e.IsAscii := by
  intro e isDocument
  obtain ⟨q, isFile, load⟩ := List.mem_filterMap.1 isDocument
  obtain ⟨text, read, rfl⟩ := Option.map_eq_some_iff.1 load
  exact Document.isAscii_ofText q (ascii q isFile text read)

variable
  (collected : s.filesOf c = .ok files)

include collected

/-- The references to a label that is not excluded are what is left of the uses of its word. -/
theorem referencesFrom_gives {position : Position} {found : Occurrence}
    (located : d.occurrence? isWordChar position = some found)
    (label : ¬c.isExcluded found.label) (word : ¬c.isExcluded found.word)
    (includeDeclaration : Bool) :
    (s.referencesFrom c d position includeDeclaration).Gives
      (({ inquiry c d position with includeDeclaration } : Inquiry).reduce
        (((files.filterMap s.workspace.load?).flatMap fun e =>
          Search.tidy (e.find (WordSearch.uses found.word))).map Finding.candidate)).locations := by
  have kept : (c.isExcluded found.label || c.isExcluded found.word) = false := by
    simp [label, word]
  simp only [referencesFrom, located, kept]
  exact (Workspace.search_gives collected (WordSearch.uses found.word)).bind (.pure _)

/-- The documents of a root, and the index of their identifiers. -/
theorem wordsOf_gives_tidy :
    (s.wordsOf c).Gives
      (files.filterMap s.workspace.load?,
        indexWords ((files.filterMap s.workspace.load?).flatMap fun e =>
          Search.tidy (e.find WordSearch.identifiers))) :=
  (Workspace.filesBelow_gives collected).bind
    ((s.workspace.readAll_gives files).bind
      ((Search.documents_gives WordSearch.identifiers _).bind (.pure _)))

variable (ascii : ∀ e ∈ files.filterMap s.workspace.load?, e.IsAscii)

include ascii

theorem wordsOf_gives :
    (s.wordsOf c).Gives
      (files.filterMap s.workspace.load?, wordIndex (files.filterMap s.workspace.load?)) := by
  rw [wordIndex, ← flatMap_tidy_find Pattern.takesRuns_identifiers ascii]
  exact wordsOf_gives_tidy collected

/-- A document among those of its root is not indexed a second time, and the cache that its labels
    share makes no difference. -/
theorem lensesOf_gives (loaded : d ∈ files.filterMap s.workspace.load?) :
    (s.lensesOf c d).Gives (lensesAnew c d (files.filterMap s.workspace.load?)) := by
  set ds := files.filterMap s.workspace.load? with isDocuments
  have held : ∀ e ∈ ds, s.workspace.Holds e := by
    intro e member
    obtain ⟨q, _, load⟩ := List.mem_filterMap.1 member
    exact Workspace.holds_of_load load
  have own : ds.any (·.path == d.path) = true := List.any_eq_true.2 ⟨d, loaded, by simp⟩
  have counted := countAll_of_faithful c (ScopeCache.faithful_nil s.workspace) (held d loaded)
    (isHeld_wordIndex held) (declarationsIn c d)
  refine (wordsOf_gives collected ascii).bind ?_
  simp only [← isDocuments, own, if_true, counted]
  exact .pure _

/-- The reference counts of a collected file are those of its labels, each counted on its own. -/
theorem lenses_start (config : s.context.configFor? p = some c) (lensing : c.lenses = true)
    (loaded : s.workspace.load? p = some d) (member : p ∈ files) :
    ((s.lenses p).start none).1 =
      .ok (some (lensesAnew c d (files.filterMap s.workspace.load?))) := by
  have isDocument : d ∈ files.filterMap s.workspace.load? :=
    List.mem_filterMap.2 ⟨p, member, loaded⟩
  rw [lenses, open_eq config lensing loaded]
  exact (lensesOf_gives collected ascii isDocument).attempt.start

end

/-- The reference count shown at a label is the number of its references. Let `p` be one of the
    files collected for its settings, all of them ASCII. Then its reference counts are there, each
    of them stands at a label, and if neither this label nor its last segment is excluded, the
    references to it, declarations left out, are as many as it counts. -/
theorem lenses_count_references {s : Scene} {p : Path} {c : Config} {d : Document}
    {files : List Path} (config : s.context.configFor? p = some c) (lensing : c.lenses = true)
    (referring : c.references = true) (loaded : s.workspace.load? p = some d)
    (collected : s.filesOf c = .ok files)
    (member : p ∈ files)
    (ascii : ∀ q ∈ files, ∀ text, s.workspace.text? q = some text → text.IsAscii) :
    ∃ lenses, ((s.lenses p).start none).1 = .ok (some lenses) ∧
      ∀ lens ∈ lenses, ∃ found,
        d.occurrence? isWordChar ⟨lens.location.line, lens.location.start⟩ = some found ∧
        (¬c.isExcluded found.label → ¬c.isExcluded found.word →
          ∃ locations,
            ((s.references p ⟨lens.location.line, lens.location.start⟩ false).start none).1 =
              .ok (some locations) ∧
            lens.references = locations.length) := by
  have asciiAll := isAscii_of_mem_load ascii
  have asciiHere := asciiAll d (List.mem_filterMap.2 ⟨p, member, loaded⟩)
  refine ⟨_, lenses_start collected asciiAll config lensing loaded member, ?_⟩
  intro lens isLens
  obtain ⟨counted, isCounted, rfl⟩ := List.mem_map.1 isLens
  obtain ⟨decl, declared, anew⟩ := List.mem_filterMap.1 isCounted
  obtain ⟨found, located, start, ofWord, asciiWord, plain⟩ :=
    occurrence_of_mem_declarationsIn asciiHere declared
  rw [countAnew, located, Option.map_some] at anew
  obtain rfl := Option.some.inj anew
  dsimp only
  rw [start, references, open_eq config referring loaded]
  refine ⟨found, located, ?_⟩
  intro label word
  refine ⟨_, (referencesFrom_gives collected located label word false).attempt.start, ?_⟩
  -- The lens stands where its segment starts, so both ask the same question about the same places.
  rw [placesOf_wordIndex ofWord asciiWord plain asciiAll]
  rfl

/-- A file with a label, a relative one that belongs to it, and uses of both in other case. -/
def sampleFile : String :=
  "go: jp Go\n.on: jp go.ON ; go"

/-- The place of that file. -/
def samplePath : Path :=
  ⟨["a.asm".toList]⟩

/-- A root with nothing but that file. -/
def sample : Scene :=
  { workspace := { files := .folder [("a.asm".toList, .file sampleFile.toUTF8)] }
    context := ⟨[{ root := ⟨[]⟩ }]⟩ }

/-- The labels of the sample count two references and one, and that is what a search for the second
    label finds. -/
theorem sample_lenses_count_references :
    ((sample.lenses samplePath).start none).1 =
        .ok (some [⟨⟨samplePath, 0, 0, 2⟩, 2⟩, ⟨⟨samplePath, 1, 1, 3⟩, 1⟩]) ∧
      ∃ locations,
        ((sample.references samplePath ⟨1, 1⟩ false).start none).1 = .ok (some locations) ∧
          1 = locations.length := by
  have text : sample.workspace.text? samplePath = some sampleFile.toList := by decide +kernel
  have isAscii : sampleFile.toList.all (fun ch => ch.toNat < 0x80) = true := by decide +kernel
  have ascii : ∀ q ∈ [samplePath], ∀ t, sample.workspace.text? q = some t → t.IsAscii := by
    intro q member t read
    rw [List.mem_singleton.1 member, text] at read
    intro ch inText
    rw [← Option.some.inj read] at inText
    exact of_decide_eq_true (List.all_eq_true.1 isAscii ch inText)
  have loaded : sample.workspace.load? samplePath =
      some (.ofText samplePath sampleFile.toList) := by rw [Workspace.load?, text]; rfl
  have collected : sample.filesOf { root := ⟨[]⟩ } = .ok [samplePath] := by decide +kernel
  have answer : ((sample.lenses samplePath).start none).1 =
      .ok (some [⟨⟨samplePath, 0, 0, 2⟩, 2⟩, ⟨⟨samplePath, 1, 1, 3⟩, 1⟩]) := by
    rw [lenses_start (c := { root := ⟨[]⟩ }) collected (isAscii_of_mem_load ascii) rfl rfl loaded
      (List.mem_singleton.2 rfl)]
    decide +kernel
  refine ⟨answer, ?_⟩
  obtain ⟨lenses, answered, agree⟩ := lenses_count_references (s := sample) (p := samplePath)
    (c := { root := ⟨[]⟩ }) rfl rfl rfl loaded collected (List.mem_singleton.2 rfl) ascii
  rw [answer] at answered
  obtain rfl := Option.some.inj (Except.ok.inj answered)
  have located : Document.occurrence? (.ofText samplePath sampleFile.toList) isWordChar ⟨1, 1⟩ =
      some ⟨".on".toList, "on".toList, 1, 3⟩ := by decide +kernel
  obtain ⟨found, same, counts⟩ := agree ⟨⟨samplePath, 1, 1, 3⟩, 1⟩ (by simp)
  obtain rfl := Option.some.inj (same.symm.trans located)
  exact counts (by decide +kernel) (by decide +kernel)

end Scene
end AsmAtlas
