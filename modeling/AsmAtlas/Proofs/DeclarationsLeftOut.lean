import AsmAtlas.Proofs.LabelShape
import AsmAtlas.Proofs.RenamePlaces

/-!
# References without declarations

Asked for without declarations, the references to a label hold neither the word under the cursor nor
the last segment of a label that its line declares. What declares a label is decided for all files
by the dialect of the file with the cursor. So the declarations in files of that dialect are left
out, and in files of the other dialect those that look like one in both.
-/

namespace AsmAtlas

/-- The last segment of a declared label is taken for a declaration. -/
theorem Inquiry.isDeclaration_segment {form : LabelForm} {line : Text} {hit : LabelHit}
    (found : form.find? line = some hit) :
    isDeclaration form line (hit.segment line).start (hit.segment line).stop := by
  have inLabel := hit.length_lastSegment_le line
  have ordered := LabelForm.start_le_stop found
  have begins : hit.span.start ≤ hit.span.stop - (hit.lastSegment line).length := by omega
  simp [isDeclaration, found, begins, LabelHit.segment]

namespace Scene

variable {s : Scene} {p : Path} {c : Config} {d : Document} {position : Position}
  {includeDeclaration : Bool} {locations : List Location}

/-- What the references from a position are: none, or, if neither the label nor its word is
    excluded, the uses of the word that are kept. -/
theorem referencesFrom_of_ok (held : s.workspace.Holds d)
    (gives : (s.referencesFrom c d position includeDeclaration).CanGive locations) :
    locations = [] ∨ ∃ found, ∃ files : List Path, d.occurrence? isWordChar position = some found ∧
      (¬c.isExcluded found.label ∧ ¬c.isExcluded found.word) ∧
      locations = (((files.filterMap s.workspace.load?).flatMap fun e =>
          e.find (WordSearch.uses found.word)).filter
        (({ inquiry c d position with includeDeclaration } : Inquiry).keeps found
          (d.names (c.labelForm d.dialect) position.line.toNat found.label))).map (·.location) := by
  cases located : d.occurrence? isWordChar position with
  | none =>
    simp only [referencesFrom, located] at gives
    exact .inl gives.eq_of_pure.symm
  | some found =>
    by_cases excluded : c.isExcluded found.label ∨ c.isExcluded found.word
    · have dropped : (c.isExcluded found.label || c.isExcluded found.word) = true := by
        simpa using excluded
      simp only [referencesFrom, located, dropped] at gives
      exact .inl gives.eq_of_pure.symm
    · obtain ⟨label, word⟩ := not_or.1 excluded
      cases collected : s.filesOf c with
      | error e =>
        have failed := takes_referencesFrom_error located collected label word includeDeclaration
        cases gives.eq_of_takes failed
      | ok files =>
        have given := referencesFrom_keeps collected held located label word includeDeclaration
        have same := (gives.start_none (s.steady_referencesFrom ..)).symm.trans given.start
        exact .inr ⟨found, files, rfl, ⟨label, word⟩, Except.ok.inj same⟩

/-- What the references to a label that were answered are: none, or the uses of its word that are
    kept. -/
theorem references_of_answer (opened : s.open? p (·.references) = some (c, d))
    (answered :
      ((s.references p position includeDeclaration).start none).1 = .ok (some locations)) :
    locations = [] ∨ ∃ found, ∃ files : List Path, d.occurrence? isWordChar position = some found ∧
      locations = (((files.filterMap s.workspace.load?).flatMap fun e =>
          e.find (WordSearch.uses found.word)).filter
        (({ inquiry c d position with includeDeclaration } : Inquiry).keeps found
          (d.names (c.labelForm d.dialect) position.line.toNat found.label))).map (·.location) := by
  have unfolded : s.references p position includeDeclaration =
      (s.referencesFrom c d position includeDeclaration).attempt := by rw [references, opened]
  rw [unfolded] at answered
  rcases referencesFrom_of_ok (holds_of_open opened) (Task.CanGive.of_start answered).of_attempt
    with none | ⟨found, files, located, _, isLocations⟩
  · exact .inl none
  · exact .inr ⟨found, files, located, isLocations⟩

/-- Let the references to the label at a position be answered without declarations. None of them is
    the word under the cursor, none is the last segment of a label that its line declares by the
    rules for the dialect of the file with the cursor, and so none in a file of that dialect is the
    last segment of a label that the file declares. -/
theorem references_leave_out_declarations {origin : Document}
    (opened : s.open? p (·.references) = some (c, origin))
    (answered : ((s.references p position false).start none).1 = .ok (some locations)) :
    ∀ l ∈ locations,
      (∀ found, origin.occurrence? isWordChar position = some found →
        ¬(l.path = origin.path ∧ (l.line : Int) = position.line ∧ l.start = found.start)) ∧
      ∃ d line, s.workspace.load? l.path = some d ∧ d.lines[l.line]? = some line ∧
        (∀ hit, (c.labelForm origin.dialect).find? line = some hit →
          hit.segment line ≠ ⟨l.start, l.stop⟩) ∧
        (d.dialect = origin.dialect → ∀ hit, (c.labelForm d.dialect).find? line = some hit →
          hit.segment line ≠ ⟨l.start, l.stop⟩) := by
  intro l member
  rcases references_of_answer opened answered with rfl | ⟨found, files, located, rfl⟩
  · simp at member
  · obtain ⟨f, kept, rfl⟩ := List.mem_map.1 member
    obtain ⟨isUse, keeps⟩ := List.mem_filter.1 kept
    obtain ⟨d, isDocument, inDocument⟩ := List.mem_flatMap.1 isUse
    obtain ⟨q, _, loaded⟩ := List.mem_filterMap.1 isDocument
    obtain ⟨_, _, inLine⟩ := Document.isIn_of_occurrence? located
    obtain ⟨document, path, _, line, isLine, _⟩ :=
      Document.hasWordAt_of_mem_find inLine.nonempty inDocument
    have isText : f.text = line := by
      rw [Finding.text, document, Document.line, isLine, Option.getD_some]
    have admitted := (Bool.and_eq_true_iff.1 keeps).1
    simp only [Inquiry.admits, isText, Bool.false_or, Bool.and_eq_true, Bool.not_eq_true',
      Bool.or_eq_false_iff] at admitted
    obtain ⟨-, elsewhere, undeclared⟩ := admitted
    have noSegment : ∀ hit, (c.labelForm origin.dialect).find? line = some hit →
        hit.segment line ≠ ⟨f.location.start, f.location.stop⟩ := by
      intro hit found same
      have declared := Inquiry.isDeclaration_segment found
      rw [same] at declared
      exact Bool.false_ne_true (undeclared.symm.trans declared)
    refine ⟨?_, d, line, ?_, isLine, noSegment, ?_⟩
    · rintro again locatedAgain ⟨samePath, sameLine, sameStart⟩
      obtain rfl := Option.some.inj (located.symm.trans locatedAgain)
      simp [Inquiry.isOrigin, inquiry, samePath, sameLine, sameStart] at elsewhere
    · rw [path, Workspace.path_of_load loaded]
      exact loaded
    · intro sameDialect hit found
      rw [sameDialect] at found
      exact noSegment hit found

/-- A source file with a label and a listing with a use of it. -/
def mixed : Scene :=
  { workspace :=
      { files := .folder [("a.asm".toList, .file "foo nop".toUTF8),
          ("b.list".toList, .file " jp foo".toUTF8)] }
    context := ⟨[loneConfig]⟩ }

/-- The source file. -/
def mixedSource : Document :=
  ⟨⟨["a.asm".toList]⟩, .source, ["foo nop".toList]⟩

/-- The listing. -/
def mixedListing : Document :=
  ⟨⟨["b.list".toList]⟩, .listing, [" jp foo".toList]⟩

theorem mixed_load : mixed.workspace.load? mixedSource.path = some mixedSource ∧
    mixed.workspace.load? mixedListing.path = some mixedListing := by
  decide +kernel

theorem mixed_collected :
    mixed.filesOf loneConfig = .ok [mixedSource.path, mixedListing.path] := by
  have walked : Collection.walk mixed.workspace.files {} loneConfig.filter [] loneConfig.root =
      .ok [mixedSource.path, mixedListing.path] := by decide +kernel
  have distinct : [mixedSource.path, mixedListing.path].Nodup := by decide +kernel
  have ordered : [mixedSource.path, mixedListing.path].Pairwise fun a b =>
      decide ((foldCase (a.textFrom loneConfig.root)).le
        (foldCase (b.textFrom loneConfig.root))) = true := by decide +kernel
  change (Collection.walk _ {} _ _ _).map _ = _
  rw [walked]
  refine congrArg Except.ok ?_
  rw [Collection.sorted, eraseDups_of_nodup distinct, List.mergeSort_of_pairwise ordered]

/-- The references to the label at a position of one of the two files. -/
theorem mixed_references {d : Document} {position : Position} {found : Occurrence}
    (loaded : mixed.workspace.load? d.path = some d)
    (located : d.occurrence? isWordChar position = some found)
    (label : ¬loneConfig.isExcluded found.label) (word : ¬loneConfig.isExcluded found.word) :
    ((mixed.references d.path position false).start none).1 =
      .ok (some ((([mixedSource, mixedListing].flatMap fun e =>
          e.find (WordSearch.uses found.word)).filter
        (({ inquiry loneConfig d position with includeDeclaration := false } : Inquiry).keeps found
          (d.names (loneConfig.labelForm d.dialect) position.line.toNat found.label))).map
            (·.location))) := by
  have documents : [mixedSource.path, mixedListing.path].filterMap mixed.workspace.load? =
      [mixedSource, mixedListing] := by
    rw [List.filterMap_cons, mixed_load.1, List.filterMap_cons, mixed_load.2, List.filterMap_nil]
  have gives := referencesFrom_keeps mixed_collected (Workspace.holds_of_load loaded) located label
    word false
  rw [documents] at gives
  rw [references, open_eq (c := loneConfig) rfl rfl loaded]
  exact gives.attempt.start

/-- From its declaration in the source file the label is found in the listing, where it is used and
    not declared. -/
theorem mixed_leaves_out_declaration :
    ((mixed.references mixedSource.path ⟨0, 0⟩ false).start none).1 =
        .ok (some [⟨mixedListing.path, 0, 4, 7⟩]) ∧
      ∃ d line, mixed.workspace.load? mixedListing.path = some d ∧ d.lines[0]? = some line ∧
        ∀ hit, (loneConfig.labelForm .source).find? line = some hit →
          hit.segment line ≠ ⟨4, 7⟩ := by
  have located : mixedSource.occurrence? isWordChar ⟨0, 0⟩ =
      some ⟨"foo".toList, "foo".toList, 0, 3⟩ := by decide +kernel
  have answer : ((mixed.references mixedSource.path ⟨0, 0⟩ false).start none).1 =
      .ok (some [⟨mixedListing.path, 0, 4, 7⟩]) := by
    rw [mixed_references mixed_load.1 located (by decide +kernel) (by decide +kernel)]
    decide +kernel
  have opened : mixed.open? mixedSource.path (·.references) = some (loneConfig, mixedSource) :=
    open_eq rfl rfl mixed_load.1
  obtain ⟨-, d, line, loaded, isLine, undeclared, -⟩ :=
    references_leave_out_declarations opened answer _ (List.mem_singleton_self _)
  exact ⟨answer, d, line, loaded, isLine, undeclared⟩

/-- From its use in the listing it is found in the source file, where it is declared: without a
    colon it would be no label in a listing. -/
theorem mixed_returns_declaration :
    ((mixed.references mixedListing.path ⟨0, 4⟩ false).start none).1 =
        .ok (some [⟨mixedSource.path, 0, 0, 3⟩]) ∧
      ∃ hit, (loneConfig.labelForm mixedSource.dialect).find? "foo nop".toList = some hit ∧
        hit.segment "foo nop".toList = ⟨0, 3⟩ := by
  have located : mixedListing.occurrence? isWordChar ⟨0, 4⟩ =
      some ⟨"foo".toList, "foo".toList, 4, 7⟩ := by decide +kernel
  refine ⟨?_, ⟨⟨0, 3⟩, 3⟩, by decide +kernel, by decide +kernel⟩
  rw [mixed_references mixed_load.2 located (by decide +kernel) (by decide +kernel)]
  decide +kernel

end Scene
end AsmAtlas
