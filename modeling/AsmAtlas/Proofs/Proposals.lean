import AsmAtlas.Proofs.AnswerOrigins
import AsmAtlas.Proofs.Scores

/-!
# Proposals

Completion finds names by patterns that ignore case and ranks them by scores of folded texts. The
patterns choose which part of a dotted label becomes the name, and whichever part it is, it has the
characters of the query in their order. In ASCII files ignoring case and folding come to the same,
so every name that is found has a score.
-/

namespace AsmAtlas

/-- What is declared where a query is searched has the query. -/
theorem Pattern.TakenFrom.hasQuery {query line : Text} {start stop : Cursor}
    (taken : TakenFrom (.fuzzy query) line start stop) :
    Text.HasQuery (line.slice start.column stop.column) query := by
  obtain ⟨run, between, hasQuery, _⟩ := hasQuery_of_mem_ends taken.word
  exact between.slice_eq taken.on ▸ hasQuery

/-- In ASCII, names that have a query have a score. -/
theorem Text.HasQuery.isSome_score {name query : Text} (has : name.HasQuery query)
    (ascii : name.IsAscii) (asciiQuery : query.IsAscii) : (Ranking.score query name).isSome := by
  rw [Ranking.isSome_score_iff, foldCase_ascii ascii, foldCase_ascii asciiQuery]
  exact has

namespace Workspace

variable {w : Workspace} {query : Text} {dialect : Dialect} {rules : LabelRules}
  {patterns : List Pattern} {files : List Path} {f : Finding}

theorem mem_files_of_mem_findings (member : f ∈ w.findings patterns files) :
    f.location.path ∈ files := by
  obtain ⟨d, isDocument, inDocument⟩ := List.mem_flatMap.1 member
  obtain ⟨q, isFile, loaded⟩ := List.mem_filterMap.1 isDocument
  obtain ⟨p, _, found⟩ := List.mem_flatMap.1 (Search.mem_of_mem_tidy inDocument)
  rw [Document.path_of_mem_find found, path_of_load loaded]
  exact isFile

end Workspace

namespace Scene

variable {s : Scene} {c : Config} {d : Document} {p : Path} {position : Position}
  {patience : Patience} {line query : Text} {names : List Text}

/-- What was typed stands in the line. -/
theorem typedAt_subset (line : Text) (column : Nat) : typedAt line column ⊆ line := by
  intro c member
  have inLast := List.mem_reverse.1 ((List.dropWhile_sublist _).subset member)
  have inTyped := List.mem_reverse.1 ((List.takeWhile_sublist _).subset inLast)
  have inFront := (List.takeWhile_sublist _).subset (List.mem_reverse.1 inTyped)
  exact List.mem_of_mem_take (List.mem_reverse.1 inFront)

/-- A name to propose for a query. -/
structure IsProposed (s : Scene) (c : Config) (d : Document) (line : Int) (query name : Text) :
    Prop where
  nonempty : name ≠ []
  included : ¬c.isExcluded name
  scored : (Ranking.score query name).isSome
  /-- It is the word of a declaration that is found in a file of the root, on another line. -/
  declared : ∃ files, s.filesOf c = .ok files ∧
    ∃ q ∈ files, ∃ (e : Document) (n : Nat) (text : Text),
      s.workspace.load? q = some e ∧ e.lines[n]? = some text ∧ ¬(q = d.path ∧ (n : Int) = line) ∧
      ∃ pattern ∈ WordSearch.declarations (.fuzzy query) d.dialect c.rules,
        ∃ m ∈ pattern.findAll text, m.wordSpan.of text = name

/-- In ASCII files what is found is ASCII. -/
theorem isAscii_of_mem_findings {patterns : List Pattern} {files : List Path} {f : Finding}
    (ascii : ∀ q ∈ files, ∀ text, s.workspace.text? q = some text → text.IsAscii)
    (member : f ∈ s.workspace.findings patterns files) : f.symbol.IsAscii := by
  obtain ⟨e, line, held, _, path, isText, isLine, _⟩ := Workspace.exists_of_mem_findings member
  have isFile := Workspace.mem_files_of_mem_findings member
  rw [path] at isFile
  have asciiDocument := isAscii_of_mem_load ascii e (List.mem_filterMap.2 ⟨e.path, isFile, held⟩)
  rw [Workspace.symbol_of_mem_findings member, isText]
  intro c inSymbol
  exact asciiDocument line (List.mem_of_getElem? isLine) c
    (List.mem_of_mem_take (List.mem_of_mem_drop inSymbol))

theorem isProposed_of_mem_proposedIn {files : List Path} {n : Int} {name : Text}
    (collected : s.filesOf c = .ok files)
    (ascii : ∀ q ∈ files, ∀ text, s.workspace.text? q = some text → text.IsAscii)
    (asciiQuery : query.IsAscii) (member : name ∈ s.proposedIn c d n query files) :
    s.IsProposed c d n query name := by
  obtain ⟨f, isFinding, proposal, rfl⟩ := exists_of_mem_proposedIn member
  obtain ⟨e, line, held, _, path, isText, isLine, pattern, isDeclaration, m, isMatch, wordSpan⟩ :=
    Workspace.exists_of_mem_findings isFinding
  have symbol := Workspace.symbol_of_mem_findings isFinding
  have isFile := Workspace.mem_files_of_mem_findings isFinding
  obtain ⟨start, stop, taken, isSpan⟩ :=
    Pattern.exists_takenFrom_of_mem_findAll isDeclaration isMatch
  obtain ⟨starts, stops⟩ := Span.mk.inj (wordSpan.symm.trans isSpan)
  have hasQuery : Text.HasQuery f.symbol query := by
    rw [symbol, isText, starts, stops]
    exact taken.hasQuery
  simp only [isProposal, Bool.and_eq_true, Bool.not_eq_true', List.isEmpty_eq_false_iff] at proposal
  obtain ⟨⟨nonempty, included⟩, elsewhere⟩ := proposal
  refine ⟨nonempty, by simp [included],
    hasQuery.isSome_score (isAscii_of_mem_findings ascii isFinding) asciiQuery, files, collected,
    e.path, path ▸ isFile, e, f.location.line, line, held, isLine, ?_, pattern, isDeclaration, m,
    isMatch, ?_⟩
  · rintro ⟨samePath, sameLine⟩
    simp [path, samePath, sameLine] at elsewhere
  · rw [symbol, isText, wordSpan]
    rfl

theorem proposals_gives {files : List Path} (collected : s.filesOf c = .ok files) (d : Document)
    (line : Int) (query : Text) :
    (s.proposals c d line query).Gives (Ranking.rank query (s.proposedIn c d line query files)) :=
  (Workspace.search_gives_all collected _).bind (.pure _)

/-- What was typed in an ASCII file is ASCII. -/
theorem isAscii_typedAt {feature : Config → Bool} {n : Int}
    (opened : s.open? p feature = some (c, d))
    (ascii : ∀ text, s.workspace.text? p = some text → text.IsAscii)
    (isLine : d.lineAt? n = some line) (column : Nat) : (typedAt line column).IsAscii := by
  obtain ⟨text, read, rfl⟩ := Option.map_eq_some_iff.1 (loaded_of_open opened)
  unfold Document.lineAt? at isLine
  split_ifs at isLine
  intro character isTyped
  exact Document.isAscii_ofText _ (ascii text read) line (List.mem_of_getElem? isLine) character
    (typedAt_subset line column isTyped)

/-- In ASCII files every proposed name is there once, has a score and stands where its score puts
    it. -/
theorem completions_are_ranked (opened : s.open? p (·.completions) = some (c, d))
    (ascii : ∀ files, s.filesOf c = .ok files → ∀ q ∈ p :: files, ∀ text,
      s.workspace.text? q = some text → text.IsAscii)
    (answered : ((s.complete p position).start patience).1 = .ok (some names)) :
    ∃ line, d.lineAt? position.line = some line ∧ names.Nodup ∧
      names.Pairwise (Ranking.Precedes (typedAt line position.column)) ∧
      ∀ name ∈ names, s.IsProposed c d position.line (typedAt line position.column) name := by
  obtain ⟨_, _, line, same, isLine, answer⟩ := exists_of_complete answered
  obtain ⟨rfl, rfl⟩ := Prod.mk.inj (Option.some.inj (opened.symm.trans same))
  refine ⟨line, isLine, ?_⟩
  rcases answer with rfl | ⟨files, collected, rfl⟩
  · simp
  · obtain ⟨asciiHere, asciiAll⟩ := List.forall_mem_cons.1 (ascii files collected)
    have asciiQuery := isAscii_typedAt opened asciiHere isLine position.column
    have proposed : ∀ name ∈ s.proposedIn c d position.line (typedAt line position.column) files,
        s.IsProposed c d position.line (typedAt line position.column) name :=
      fun name => isProposed_of_mem_proposedIn collected asciiAll asciiQuery
    have perm := Ranking.perm_rank (typedAt line position.column)
      (s.proposedIn c d position.line (typedAt line position.column) files)
    refine ⟨perm.nodup_iff.2 (nodup_eraseDups _), ?_, fun name member =>
      proposed name (perm.mem_iff.1 member)⟩
    rw [Ranking.rank_eq_best fun name member => (proposed name member).scored]
    exact Ranking.pairwise_best _ _

/-- Two labels that have what is typed on the last line in them. -/
def halfTyped : String :=
  "SetAndReturn: ret\nSync: ret\n jp sn"

theorem halfTyped_proposedIn :
    (lone halfTyped).proposedIn loneConfig (loneDocument halfTyped) 2 "sn".toList [lonePath] =
      ["SetAndReturn".toList, "Sync".toList] := by
  have loaded : [lonePath].filterMap (lone halfTyped).workspace.load? =
      [loneDocument halfTyped] := by decide +kernel
  have ordered : ((WordSearch.declarations (.fuzzy "sn".toList) .source loneConfig.rules).flatMap
      (loneDocument halfTyped).find |>.eraseDupsBy Finding.samePlace).Pairwise
        fun a b => Finding.le a b = true := by decide +kernel
  have source : (loneDocument halfTyped).dialect = .source := by decide +kernel
  rw [proposedIn, Workspace.findings, loaded, List.flatMap_singleton, source, Search.tidy,
    List.mergeSort_of_pairwise ordered]
  decide +kernel

theorem halfTyped_rank :
    Ranking.rank "sn".toList ["SetAndReturn".toList, "Sync".toList] =
      ["Sync".toList, "SetAndReturn".toList] := by
  have swapped : (Ranking.scored "sn".toList ["SetAndReturn".toList, "Sync".toList]).Perm
      (Ranking.scored "sn".toList ["Sync".toList, "SetAndReturn".toList]) := by decide +kernel
  have sorted : (Ranking.scored "sn".toList ["Sync".toList, "SetAndReturn".toList]).Pairwise
      fun a b => Ranking.le a b = true := by decide +kernel
  rw [Ranking.rank, Ranking.mergeSort_eq_of_perm swapped, List.mergeSort_of_pairwise sorted]
  decide +kernel

/-- Both are proposed, the shorter one first. -/
theorem halfTyped_completed :
    (((lone halfTyped).complete lonePath ⟨2, 6⟩).start none).1 =
        .ok (some ["Sync".toList, "SetAndReturn".toList]) ∧
      ∃ line, (loneDocument halfTyped).lineAt? 2 = some line ∧
        ["Sync".toList, "SetAndReturn".toList].Nodup ∧
        ["Sync".toList, "SetAndReturn".toList].Pairwise (Ranking.Precedes (typedAt line 6)) ∧
        ∀ name ∈ ["Sync".toList, "SetAndReturn".toList],
          (lone halfTyped).IsProposed loneConfig (loneDocument halfTyped) 2 (typedAt line 6)
            name := by
  have isText : (lone halfTyped).workspace.text? lonePath = some halfTyped.toList := by
    decide +kernel
  have loaded : (lone halfTyped).workspace.load? lonePath = some (loneDocument halfTyped) := by
    rw [Workspace.load?, isText]
    rfl
  have opened : (lone halfTyped).open? lonePath (·.completions) =
      some (loneConfig, loneDocument halfTyped) := open_eq (c := loneConfig) rfl rfl loaded
  have collected : (lone halfTyped).filesOf loneConfig = .ok [lonePath] := lone_collected halfTyped
  have isLine : (loneDocument halfTyped).lineAt? 2 = some " jp sn".toList := by decide +kernel
  have typed : typedAt " jp sn".toList 6 = "sn".toList := by decide +kernel
  have answered : (((lone halfTyped).complete lonePath ⟨2, 6⟩).start none).1 =
      .ok (some ["Sync".toList, "SetAndReturn".toList]) := by
    have gives := (proposals_gives collected (loneDocument halfTyped) 2 "sn".toList).attempt
    rw [halfTyped_proposedIn, halfTyped_rank] at gives
    simp only [complete, opened, isLine, typed]
    exact gives.start
  refine ⟨answered, completions_are_ranked opened ?_ answered⟩
  intro files isFiles q member text read
  obtain rfl := Except.ok.inj (collected.symm.trans isFiles)
  obtain rfl : q = lonePath := by simpa using member
  obtain rfl := Option.some.inj (isText.symm.trans read)
  intro c inText
  have all : halfTyped.toList.all (·.toNat < 0x80) = true := by decide +kernel
  simpa using List.all_eq_true.1 all c inText

end Scene
end AsmAtlas
