import AsmAtlas.Proofs.SymbolReports

/-!
# Labels that nothing refers to

Unreferenced labels are found root by root, in one index of all identifiers; the references to a
label come from a search for its word, in the files of the innermost root. The index goes by full
case folding and holds words with a plain start only, the search goes by case forms and takes any
word. Still a reference that is an identifier is in the index: two words with the same case forms in
labels that share a name have the same folding. So a label that is reported for its innermost root
has no reference that is an identifier, and below roots that do not lie within each other no label
is reported twice.
-/

namespace AsmAtlas

/-- A character that folds to several, of which the last is no case form of its own. But for the
    dotted I the folding depends on the case form only. -/
structure FoldsLong (c : Char) : Prop where
  long : 2 ≤ (foldChar c).length
  last : (foldChar c).getLast? ≠ some 'ı' ∧ (foldChar c).getLast? ≠ some (caseKey c)
  form : c = 'İ' ∨ foldChar c = foldChar (caseKey c)

theorem foldsLong_of_mem {e : Nat × List Nat} (inTable : e ∈ foldExpansions) :
    FoldsLong (Char.ofNat e.1) := by
  have each : ∀ e ∈ foldExpansions, 2 ≤ (foldChar (Char.ofNat e.1)).length ∧
      ((foldChar (Char.ofNat e.1)).getLast? ≠ some 'ı' ∧
        (foldChar (Char.ofNat e.1)).getLast? ≠ some (caseKey (Char.ofNat e.1))) ∧
      (Char.ofNat e.1 = 'İ' ∨
        foldChar (Char.ofNat e.1) = foldChar (caseKey (Char.ofNat e.1))) := by decide +kernel
  obtain ⟨long, last, form⟩ := each e inTable
  exact ⟨long, last, form⟩

/-- Every other character folds to its case form, or to the dotless i. -/
theorem foldChar_cases (c : Char) :
    FoldsLong c ∨ ∃ d, foldChar c = [d] ∧ (d = caseKey c ∨ d = 'ı') := by
  by_cases ascii : c.toNat < 0x80
  · exact .inr ⟨caseKey c, by rw [foldChar, caseKey, if_pos ascii, if_pos ascii], .inl rfl⟩
  · cases found : foldExpansions.find? (·.1 == c.toNat) with
    | some e =>
      have isCode := beq_iff_eq.1 (List.find?_some found :)
      have folds := foldsLong_of_mem (List.mem_of_find?_eq_some found)
      rw [isCode, Char.ofNat_toNat] at folds
      exact .inl folds
    | none =>
      refine .inr ⟨if c == 'ı' then c else caseKey c, ?_, ?_⟩
      · rw [foldChar, if_neg ascii, found]
      · split_ifs with dotless
        · exact .inr (beq_iff_eq.1 dotless)
        · exact .inl rfl

/-- Case forms of one letter of which one folding ends with the other have the same folding. -/
theorem foldChar_eq_of_suffix {a b : Char} (same : caseKey a = caseKey b)
    (suffix : foldChar a <:+ foldChar b) : foldChar a = foldChar b := by
  have dotted : foldChar (caseKey 'İ') = ['i'] := by decide +kernel
  have short : ∀ {c : Char}, caseKey c = caseKey 'İ' → foldChar c = foldChar (caseKey c) →
      ¬FoldsLong c := by
    intro c sameKey form folds
    have long := folds.long
    rw [form, sameKey, dotted] at long
    exact absurd long (by decide)
  rcases foldChar_cases a with longA | ⟨d, single, isForm⟩
  · rcases foldChar_cases b with longB | ⟨d, single, _⟩
    · rcases longA.form with rfl | formA
      · rcases longB.form with rfl | formB
        · rfl
        · exact absurd longB (short same.symm formB)
      · rcases longB.form with rfl | formB
        · exact absurd longA (short same formA)
        · rw [formA, formB, same]
    · have shorter := suffix.length_le
      have long := longA.long
      rw [single, List.length_singleton] at shorter
      omega
  · rcases foldChar_cases b with longB | ⟨e, singleB, _⟩
    · -- The only character that `a` folds to would be the last of several.
      obtain ⟨front, isB⟩ := suffix
      have last : (foldChar b).getLast? = some d := by rw [← isB, single, List.getLast?_concat]
      rcases isForm with rfl | rfl
      · exact absurd (same ▸ last) longB.last.2
      · exact absurd last longB.last.1
    · exact suffix.eq_of_length (by rw [single, singleB]; rfl)

theorem foldCase_append (t u : Text) : foldCase (t ++ u) = foldCase t ++ foldCase u :=
  List.flatMap_append

/-- Words with the same case forms whose foldings end one text have the same folding. -/
theorem foldCase_eq_of_suffix {word other name : Text} (same : word.map caseKey = other.map caseKey)
    (first : foldCase word <:+ name) (second : foldCase other <:+ name) :
    foldCase word = foldCase other := by
  induction word using List.reverseRecOn generalizing other name with
  | nil =>
    obtain rfl : other = [] := List.map_eq_nil_iff.1 same.symm
    rfl
  | append_singleton word c ih =>
    rcases List.eq_nil_or_concat other with rfl | ⟨other, d, rfl⟩
    · simp at same
    · rw [List.concat_eq_append] at same second ⊢
      rw [List.map_append, List.map_append] at same
      obtain ⟨sameFront, sameLast⟩ := List.append_inj' same rfl
      have sameKey : caseKey c = caseKey d := List.head_eq_of_cons_eq sameLast
      rw [foldCase_append] at first second ⊢
      rw [foldCase_append]
      have single : ∀ c, foldCase [c] = foldChar c := fun c => List.flatMap_singleton _ _
      rw [single] at first second ⊢
      rw [single]
      have sameFolding : foldChar c = foldChar d := by
        rcases List.suffix_or_suffix_of_suffix ((List.suffix_append _ _).trans first)
          ((List.suffix_append _ _).trans second) with less | less
        · exact foldChar_eq_of_suffix sameKey less
        · exact (foldChar_eq_of_suffix sameKey.symm less).symm
      rw [sameFolding] at first ⊢
      obtain ⟨front, rfl⟩ := first
      rw [← List.append_assoc, List.suffix_append_self_iff] at second
      rw [ih sameFront (List.suffix_append front _) second]

namespace Qualified

/-- The names of a label end with its folding. -/
theorem suffix_of (scope : LineScope) (label : Text) :
    foldCase label <:+ (Qualified.of scope label).plain ∧
      foldCase label <:+ (Qualified.of scope label).full := by
  have plain : foldCase label <:+ (Qualified.of scope label).plain := by
    dsimp only [Qualified.of]
    split_ifs
    · exact List.suffix_append _ _
    · exact List.suffix_refl _
  have full : (Qualified.of scope label).full =
      if scope.modules.isEmpty then (Qualified.of scope label).plain
      else scope.modules ++ '.' :: (Qualified.of scope label).plain := rfl
  refine ⟨plain, plain.trans ?_⟩
  cases empty : scope.modules.isEmpty with
  | true =>
    have unqualified := full.trans (if_pos empty)
    exact unqualified ▸ List.suffix_refl _
  | false =>
    rw [full, if_neg (by simp [empty])]
    exact (List.suffix_cons _ _).trans (List.suffix_append _ _)

/-- Labels that share a name end with foldings of one text. -/
theorem exists_of_meets {scope scope' : LineScope} {label label' : Text}
    (meets : (Qualified.of scope label).meets (Qualified.of scope' label')) :
    ∃ name, foldCase label <:+ name ∧ foldCase label' <:+ name := by
  obtain ⟨plain, full⟩ := suffix_of scope label
  obtain ⟨plain', full'⟩ := suffix_of scope' label'
  simp only [Qualified.meets, Bool.or_eq_true, beq_iff_eq] at meets
  rcases meets with ((same | same) | same) | same
  · exact ⟨_, plain, same ▸ plain'⟩
  · exact ⟨_, plain, same ▸ full'⟩
  · exact ⟨_, full, same ▸ plain'⟩
  · exact ⟨_, full, same ▸ full'⟩

end Qualified

namespace Text

/-- An identifier: a plain start, and word characters only. -/
def isIdentifier (t : Text) : Bool :=
  t.head?.any isPlainStart && t.all isWordChar

/-- Of ASCII texts with the same case forms both are identifiers or none. -/
theorem isIdentifier_of_ascii {t word : Text} (ascii : t.IsAscii) (asciiWord : word.IsAscii)
    (same : t.map caseKey = word.map caseKey) (ofWord : word.isIdentifier) : t.isIdentifier := by
  have all : ∀ {u : Text}, u.IsAscii → u.all isWordChar = (u.map caseKey).all isWordChar := by
    intro u asciiText
    rw [List.all_map, Bool.eq_iff_iff, List.all_eq_true, List.all_eq_true]
    refine forall₂_congr fun c member => ?_
    rw [Function.comp_apply, isWordChar_caseKey c (asciiText c member)]
  rw [isIdentifier, head_isPlainStart asciiWord, all asciiWord] at ofWord
  rwa [isIdentifier, head_isPlainStart ascii, all ascii, same]

theorem slice_suffix (t : Text) {start middle : Nat} (before : start ≤ middle) (stop : Nat) :
    t.slice middle stop <:+ t.slice start stop := by
  have split : t.slice middle stop = (t.slice start stop).drop (middle - start) := by
    rw [slice, slice, List.drop_drop, Nat.add_sub_cancel' before]
  rw [split]
  exact List.drop_suffix _ _

/-- A stretch that the next character does not continue is what is taken from its start on. -/
theorem takeWhile_drop_eq_slice {t : Text} {start stop : Nat} {accepts : Char → Bool}
    (ordered : start ≤ stop) (accepted : ∀ c ∈ t.slice start stop, accepts c)
    (ends : ¬t[stop]?.any accepts) : (t.drop start).takeWhile accepts = t.slice start stop := by
  have split : t.drop start = t.slice start stop ++ t.drop stop := by
    have taken := List.take_append_drop (stop - start) (t.drop start)
    rw [List.drop_drop, Nat.add_sub_cancel' ordered, ← List.drop_take] at taken
    exact taken.symm
  rw [split]
  refine (takeWhile_append_of_stops accepted ?_).1
  rwa [List.head?_drop]

end Text

namespace Document

open Pattern WordSearch

/-- A use of a word that is an identifier is found among the identifiers. -/
theorem exists_identifier {d : Document} {word : Text} (nonempty : word ≠ []) {f : Finding}
    (isUse : f ∈ d.find (uses word))
    (plain : (f.text.slice f.location.start f.location.stop).isIdentifier) :
    ∃ g ∈ d.find identifiers, g.location = f.location ∧
      g.symbol = f.text.slice f.location.start f.location.stop := by
  obtain ⟨document, path, stop, line, isLine, hasWord⟩ := hasWordAt_of_mem_find nonempty isUse
  have isText : f.text = line := by rw [Finding.text, document, Document.line, isLine]; rfl
  rw [isText] at plain ⊢
  have inside := hasWord.le_length nonempty
  obtain ⟨here, isCursor, column⟩ :=
    Cursor.exists_mem_through (.start line) line (n := f.location.start) (by omega)
  have isColumn : here.column = f.location.start := by simpa [Cursor.start] using column
  have rest : here.rest = line.drop here.column := (Cursor.of_mem_through rfl rfl rfl isCursor).2
  obtain ⟨starts, ofWord⟩ := Bool.and_eq_true_iff.1 plain
  have isRun : here.run = line.slice f.location.start f.location.stop := by
    rw [Cursor.run, rest, isColumn]
    exact Text.takeWhile_drop_eq_slice (by omega) (List.all_eq_true.1 ofWord)
      (stop ▸ hasWord.ends)
  have startsWord : here.startsWord := by
    rw [Cursor.startsWord, Cursor.last_of_mem_through rfl rfl isCursor, isColumn]
    simpa using hasWord.starts
  have length : here.run.length = word.length := by
    rw [isRun, Text.slice, List.length_drop, List.length_take]
    omega
  have found := runMatch_mem_findAll_identifiers isCursor startsWord (isRun ▸ starts)
  refine ⟨_, mem_findIn.2 ⟨_, line, _, isLine, found, rfl⟩, ?_, ?_⟩
  · change (⟨d.path, 0 + f.location.line, here.column, here.column + here.run.length⟩ : Location)
      = _
    rw [Nat.zero_add, isColumn, length, ← stop, ← path]
  · rw [← isRun]
    exact Cursor.of_wordSpan_runMatch rest

/-- The uses of an identifier in an ASCII document are identifiers. -/
theorem isIdentifier_of_mem_find {d : Document} {word : Text} (ascii : d.IsAscii)
    (asciiWord : word.IsAscii) (plain : word.isIdentifier) {f : Finding}
    (isUse : f ∈ d.find (uses word)) :
    (f.text.slice f.location.start f.location.stop).isIdentifier := by
  have nonempty : word ≠ [] := by
    rintro rfl
    simp [Text.isIdentifier] at plain
  obtain ⟨document, _, stop, line, isLine, hasWord⟩ := hasWordAt_of_mem_find nonempty isUse
  have isText : f.text = line := by rw [Finding.text, document, Document.line, isLine]; rfl
  rw [isText, stop]
  refine Text.isIdentifier_of_ascii ?_ asciiWord hasWord.spells plain
  intro c member
  exact ascii line (List.mem_of_getElem? isLine) c
    (List.mem_of_mem_take (List.mem_of_mem_drop member))

end Document

namespace Inquiry

/-- Whether a finding is kept depends on its place only. -/
theorem keeps_congr {f g : Finding} (location : f.location = g.location)
    (document : f.document = g.document) (q : Inquiry) (found : Occurrence) (name : Qualified) :
    q.keeps found name f = q.keeps found name g := by
  rw [keeps, keeps, Finding.text, Finding.text, location, document]

/-- A use that is kept has the folding of the word at the cursor. -/
theorem foldCase_of_keeps {q : Inquiry} {found : Occurrence} {line : Text} {f : Finding}
    (inLine : found.IsIn line) (scope : LineScope)
    (keeps : q.keeps found (.of scope found.label) f)
    (spells : (f.text.slice f.location.start f.location.stop).map caseKey =
      found.word.map caseKey) :
    foldCase (f.text.slice f.location.start f.location.stop) = foldCase found.word := by
  have folded : ∀ {t u : Text}, t <:+ u → foldCase t <:+ foldCase u := by
    rintro t _ ⟨front, rfl⟩
    rw [foldCase_append]
    exact List.suffix_append _ _
  have inLabel : ∀ (t : Text) (start stop : Nat),
      t.slice start stop <:+ t.slice (Occurrence.tokenStart t start) stop := fun t start stop =>
    t.slice_suffix (Nat.sub_le _ _) stop
  have ofLabel : found.word <:+ found.label := by
    rw [← inLine.word, ← inLine.label]
    exact inLabel line found.start found.stop
  obtain ⟨name, first, second⟩ := Qualified.exists_of_meets (Bool.and_eq_true_iff.1 keeps).2
  exact foldCase_eq_of_suffix spells ((folded (inLabel _ _ _)).trans first)
    ((folded ofLabel).trans second)

end Inquiry

namespace Scene

open ScopeCache

/-- The labels of a document that nothing refers to, every label counted on its own. -/
def unreferencedAnew (c : Config) (index : WordIndex) (d : Document) : List Declared :=
  (((declarationsIn c d).filterMap (countAnew c d index)).filter (·.references == 0)).map
    fun l => ⟨l.label, l.location⟩

/-- Those of some files, among the identifiers of these files. -/
def unreferencedAmong (s : Scene) (c : Config) (files : List Path) : List Declared :=
  let ds := files.filterMap s.workspace.load?
  ds.flatMap (unreferencedAnew c (wordIndex ds))

section

variable {w : Workspace} {c : Config} {index : WordIndex}

/-- The cache that the labels of all documents share makes no difference. -/
theorem unreferencedIn_gives {cache : ScopeCache} {ds : List Document}
    (faithful : Faithful w cache) (held : ∀ d ∈ ds, w.Holds d)
    (heldAll : ∀ entry ∈ index, entry.2.IsHeld w) :
    (unreferencedIn c index cache ds).Gives (ds.flatMap (unreferencedAnew c index)) := by
  induction ds generalizing cache with
  | nil => exact .pure []
  | cons d ds ih =>
    have heldHere := held d List.mem_cons_self
    have rest := ih (faithful_countAll c faithful heldHere heldAll (declarationsIn c d))
      fun e member => held e (List.mem_cons_of_mem d member)
    have counted := countAll_of_faithful c faithful heldHere heldAll (declarationsIn c d)
    refine Task.checkpoint_gives.bind (rest.bind ?_)
    rw [counted]
    exact .pure _

variable {s : Scene} {files : List Path}

theorem unreferencedOf_gives (collected : s.filesOf c = .ok files) :
    (s.unreferencedOf c).Gives (s.unreferencedAmong c files) := by
  have held : ∀ d ∈ files.filterMap s.workspace.load?, s.workspace.Holds d := by
    intro d member
    obtain ⟨_, _, loaded⟩ := List.mem_filterMap.1 member
    exact Workspace.holds_of_load loaded
  have words := wordsOf_gives_tidy collected
  have tidied : ((files.filterMap s.workspace.load?).flatMap fun e =>
      Search.tidy (e.find WordSearch.identifiers)) =
      (files.filterMap s.workspace.load?).flatMap fun e => e.find WordSearch.identifiers :=
    List.flatMap_congr fun e _ => Document.tidy_find_words Pattern.findsWords_identifiers e
  rw [tidied] at words
  exact words.bind
    (unreferencedIn_gives (faithful_nil s.workspace) held (isHeld_wordIndex held))

/-- The labels of all roots, one root after the other. -/
theorem unreferenced_gives {own : Config → List Declared}
    (gives : ∀ c ∈ s.context.configs, (s.unreferencedOf c).Gives (own c)) :
    s.unreferenced.Gives (some (s.context.configs.flatMap own)) :=
  (Task.Gives.mapM gives).attempt.bind (.pure _)

/-- A label that is reported was declared in its document, and counts no reference. -/
theorem exists_of_mem_unreferencedAnew {d : Document} {e : Declared}
    (member : e ∈ unreferencedAnew c index d) :
    ∃ decl ∈ declarationsIn c d, ∃ found,
      d.occurrence? isWordChar ⟨decl.line, decl.column⟩ = some found ∧
      e.location = ⟨d.path, decl.line, found.start, found.stop⟩ ∧ e.name = decl.label ∧
      ((countInquiry c d decl).reduce (placesOf index found.word)).locations = [] := by
  obtain ⟨counted, kept, rfl⟩ := List.mem_map.1 member
  obtain ⟨isCounted, none⟩ := List.mem_filter.1 kept
  obtain ⟨decl, declared, anew⟩ := List.mem_filterMap.1 isCounted
  obtain ⟨found, located, rfl⟩ := Option.map_eq_some_iff.1 anew
  exact ⟨decl, declared, found, located, rfl, rfl, List.length_eq_zero_iff.1 (beq_iff_eq.1 none)⟩

/-- A line declares one label at most, so no two labels of a document are reported on one line. -/
theorem pairwise_unreferencedAnew (c : Config) (index : WordIndex) (d : Document) :
    (unreferencedAnew c index d).Pairwise fun a b => a.location.line ≠ b.location.line := by
  have lineOf : ∀ {n : Nat} {line : Text} {decl : LabelDeclaration},
      declarationIn? c (c.labelForm d.dialect) n line = some decl → decl.line = n := by
    intro n line decl declared
    obtain ⟨hit, _, declared⟩ := Option.bind_eq_some_iff.1 declared
    obtain ⟨found, _, declared⟩ := Option.bind_eq_some_iff.1 declared
    split_ifs at declared
    rw [← Option.some.inj declared]
  have numbers : (d.lines.zipIdx.map Prod.snd).Nodup := by
    rw [List.zipIdx_map_snd]
    exact List.nodup_range'
  have declared : (declarationsIn c d).Pairwise fun a b => a.line ≠ b.line := by
    refine List.pairwise_filterMap.2 ((List.pairwise_map.1 numbers).imp ?_)
    intro a b differ decl isDecl other isOther same
    rw [lineOf isDecl, lineOf isOther] at same
    exact differ same
  have counted : ((declarationsIn c d).filterMap (countAnew c d index)).Pairwise fun a b =>
      a.location.line ≠ b.location.line := by
    refine List.pairwise_filterMap.2 (declared.imp ?_)
    intro a b differ first isFirst second isSecond
    obtain ⟨_, _, rfl⟩ := Option.map_eq_some_iff.1 isFirst
    obtain ⟨_, _, rfl⟩ := Option.map_eq_some_iff.1 isSecond
    exact differ
  exact List.pairwise_map.2 (counted.filter _)

theorem path_of_mem_unreferencedAmong {e : Declared} (member : e ∈ s.unreferencedAmong c files) :
    e.location.path ∈ files := by
  obtain ⟨d, isDocument, inDocument⟩ := List.mem_flatMap.1 member
  obtain ⟨_, isFile, loaded⟩ := List.mem_filterMap.1 isDocument
  obtain ⟨_, _, _, _, location, _⟩ := exists_of_mem_unreferencedAnew inDocument
  rw [location, Workspace.path_of_load loaded]
  exact isFile

/-- For one root no location is reported twice. -/
theorem nodup_unreferencedAmong (nodup : files.Nodup) :
    ((s.unreferencedAmong c files).map (·.location)).Nodup := by
  refine List.pairwise_map.2 (List.pairwise_flatMap.2 ⟨?_, ?_⟩)
  · intro d _
    refine (pairwise_unreferencedAnew c _ d).imp ?_
    intro a b differ same
    exact differ (congrArg Location.line same)
  · refine (pairwise_load nodup).imp ?_
    intro d e differ a inFirst b inSecond same
    obtain ⟨_, _, _, _, location, _⟩ := exists_of_mem_unreferencedAnew inFirst
    obtain ⟨_, _, _, _, location', _⟩ := exists_of_mem_unreferencedAnew inSecond
    rw [location, location'] at same
    exact differ (congrArg Location.path same)

/-- What a search finds for a label that counts no reference is no identifier. -/
theorem not_isIdentifier_of_keeps {d : Document} {decl : LabelDeclaration} {found : Occurrence}
    (nodup : files.Nodup) (held : s.workspace.Holds d)
    (located : d.occurrence? isWordChar ⟨decl.line, decl.column⟩ = some found)
    (none : ((countInquiry c d decl).reduce
      (placesOf (wordIndex (files.filterMap s.workspace.load?)) found.word)).locations = [])
    {f : Finding}
    (isUse : f ∈ (files.filterMap s.workspace.load?).flatMap fun e =>
      e.find (WordSearch.uses found.word))
    (keeps : (countInquiry c d decl).keeps found
      (d.names (c.labelForm d.dialect) decl.line found.label) f) :
    ¬(f.text.slice f.location.start f.location.stop).isIdentifier := by
  intro plain
  obtain ⟨line, _, inLine⟩ := Document.isIn_of_occurrence? located
  obtain ⟨e, isDocument, inDocument⟩ := List.mem_flatMap.1 isUse
  obtain ⟨g, isIdentifier, sameLocation, symbol⟩ :=
    Document.exists_identifier inLine.nonempty inDocument plain
  have sameDocument : g.document = f.document := by
    rw [Document.document_of_mem_findIn isIdentifier, Document.document_of_mem_findIn inDocument]
  have spells : (f.text.slice f.location.start f.location.stop).map caseKey =
      found.word.map caseKey := by
    obtain ⟨document, _, stop, text, isText, hasWord⟩ :=
      Document.hasWordAt_of_mem_find inLine.nonempty inDocument
    rw [Finding.text, document, Document.line, isText, stop]
    exact hasWord.spells
  have folded : foldCase g.symbol = foldCase found.word := by
    rw [symbol]
    exact Inquiry.foldCase_of_keeps inLine _ keeps spells
  rw [wordIndex, placesOf_indexWords, Inquiry.locations_reduce_words (q := countInquiry c d decl)
    Pattern.findsWords_identifiers nodup held located List.filter_sublist,
    List.map_eq_nil_iff, List.filter_eq_nil_iff] at none
  refine none g (List.mem_filter.2 ⟨List.mem_flatMap.2 ⟨e, isDocument, isIdentifier⟩, ?_⟩) ?_
  · exact beq_iff_eq.2 folded
  · rw [Inquiry.keeps_congr sameLocation sameDocument]
    exact keeps

/-- A declared label is found where its last segment starts. -/
theorem start_of_mem_declarationsIn {d : Document} {decl : LabelDeclaration} {found : Occurrence}
    (member : decl ∈ declarationsIn c d)
    (located : d.occurrence? isWordChar ⟨decl.line, decl.column⟩ = some found) :
    found.start = decl.column := by
  obtain ⟨line, column, first, isLine, inLine, isColumn⟩ := column_of_mem_declarationsIn member
  obtain ⟨again, locatedAgain, start, _, _⟩ := Occurrence.at?_start inLine
  rw [Document.occurrence_eq isLine, isColumn, locatedAgain] at located
  obtain rfl := Option.some.inj located
  rw [start, isColumn]

/-- The references to a label that is reported for its innermost root: none of them is an
    identifier, and in ASCII files there are none. -/
theorem references_of_mem_unreferencedAmong {e : Declared} (collected : s.filesOf c = .ok files)
    (member : e ∈ s.unreferencedAmong c files)
    (owner : s.context.configFor? e.location.path = some c) (referring : c.references = true) :
    ∃ locations,
      ((s.references e.location.path ⟨e.location.line, e.location.start⟩ false).start none).1 =
        .ok (some locations) ∧
      (∀ r ∈ locations, ∃ d line, s.workspace.load? r.path = some d ∧
        d.lines[r.line]? = some line ∧ ¬(line.slice r.start r.stop).isIdentifier) ∧
      ((∀ q ∈ files, ∀ text, s.workspace.text? q = some text → text.IsAscii) →
        locations = []) := by
  obtain ⟨d, isDocument, inDocument⟩ := List.mem_flatMap.1 member
  obtain ⟨decl, declared, found, located, location, _, none⟩ :=
    exists_of_mem_unreferencedAnew inDocument
  obtain ⟨p, _, loaded⟩ := List.mem_filterMap.1 isDocument
  have held := Workspace.holds_of_load loaded
  have nodup := Collection.nodup_collect collected
  rw [location] at owner ⊢
  rw [start_of_mem_declarationsIn declared located, references, open_eq owner referring held]
  by_cases excluded : c.isExcluded found.label ∨ c.isExcluded found.word
  · have dropped : (c.isExcluded found.label || c.isExcluded found.word) = true := by
      simpa using excluded
    refine ⟨[], ?_, by simp, fun _ => rfl⟩
    simp only [referencesFrom, located, dropped]
    rfl
  · obtain ⟨label, word⟩ := not_or.1 excluded
    obtain ⟨_, _, inLine⟩ := Document.isIn_of_occurrence? located
    refine ⟨_, (referencesFrom_keeps collected held located label word false).attempt.start, ?_, ?_⟩
    · intro r isReference
      obtain ⟨f, kept, rfl⟩ := List.mem_map.1 isReference
      obtain ⟨isUse, keeps⟩ := List.mem_filter.1 kept
      have other := not_isIdentifier_of_keeps nodup held located none isUse keeps
      obtain ⟨e', isOther, inOther⟩ := List.mem_flatMap.1 isUse
      obtain ⟨q, _, loadedOther⟩ := List.mem_filterMap.1 isOther
      obtain ⟨document, path, _, line, isLine, _⟩ :=
        Document.hasWordAt_of_mem_find inLine.nonempty inOther
      rw [Finding.text, document, Document.line, isLine] at other
      refine ⟨e', line, ?_, isLine, other⟩
      rw [path]
      exact Workspace.holds_of_load loadedOther
    · intro ascii
      have asciiAll := isAscii_of_mem_load ascii
      obtain ⟨again, locatedAgain, _, ofWord, asciiWord, plain⟩ :=
        occurrence_of_mem_declarationsIn (asciiAll d isDocument) declared
      obtain rfl := Option.some.inj (located.symm.trans locatedAgain)
      have isIdentifier : found.word.isIdentifier :=
        Bool.and_eq_true_iff.2 ⟨plain, List.all_eq_true.2 ofWord⟩
      rw [List.map_eq_nil_iff, List.filter_eq_nil_iff]
      intro f isUse keeps
      obtain ⟨e', isOther, inOther⟩ := List.mem_flatMap.1 isUse
      exact not_isIdentifier_of_keeps nodup held located none isUse keeps
        (Document.isIdentifier_of_mem_find (asciiAll e' isOther) asciiWord isIdentifier inOther)

end

/-- Labels that nothing refers to are found for every root on its own, if the files of all roots can
    be collected, and for one root no location is reported twice. If no root lies within another, no
    location is reported twice at all. A label that is reported for the innermost root of its file
    has no reference that is an identifier, and none at all if the files of that root are ASCII. -/
theorem unreferenced_not_referenced {s : Scene}
    (gathers : ∀ c ∈ s.context.configs, ∃ files, s.filesOf c = .ok files) :
    ∃ own : Config → List Declared,
      (∀ c ∈ s.context.configs, ((s.unreferencedOf c).start none).1 = .ok (own c)) ∧
      (s.unreferenced.start none).1 = .ok (some (s.context.configs.flatMap own)) ∧
      (∀ c ∈ s.context.configs, ((own c).map (·.location)).Nodup) ∧
      ((s.context.configs.Pairwise fun a b => ¬a.root.isWithin b.root ∧ ¬b.root.isWithin a.root) →
        ((s.context.configs.flatMap own).map (·.location)).Nodup) ∧
      ∀ c ∈ s.context.configs, ∀ e ∈ own c,
        s.context.configFor? e.location.path = some c → c.references = true →
        ∃ locations,
          ((s.references e.location.path ⟨e.location.line, e.location.start⟩ false).start none).1 =
            .ok (some locations) ∧
          (∀ r ∈ locations, ∃ d line, s.workspace.load? r.path = some d ∧
            d.lines[r.line]? = some line ∧ ¬(line.slice r.start r.stop).isIdentifier) ∧
          ((∀ files, s.filesOf c = .ok files →
              ∀ q ∈ files, ∀ text, s.workspace.text? q = some text → text.IsAscii) →
            locations = []) := by
  choose! files collected using gathers
  have within : ∀ c ∈ s.context.configs, ∀ e ∈ s.unreferencedAmong c (files c),
      e.location.path.isWithin c.root := by
    intro c isConfig e member
    exact Collection.isWithin_of_collect (collected c isConfig) _
      (path_of_mem_unreferencedAmong member)
  have gives : ∀ c ∈ s.context.configs,
      (s.unreferencedOf c).Gives (s.unreferencedAmong c (files c)) := fun c isConfig =>
    unreferencedOf_gives (collected c isConfig)
  have nodup : ∀ c ∈ s.context.configs,
      ((s.unreferencedAmong c (files c)).map (·.location)).Nodup := fun c isConfig =>
    nodup_unreferencedAmong (Collection.nodup_collect (collected c isConfig))
  refine ⟨fun c => s.unreferencedAmong c (files c), fun c isConfig => (gives c isConfig).start,
    (unreferenced_gives gives).start, nodup, ?_, ?_⟩
  · intro disjoint
    rw [List.map_flatMap]
    refine List.pairwise_flatMap.2 ⟨nodup, disjoint.imp_of_mem ?_⟩
    intro a b isA isB apart x inFirst y inSecond same
    obtain ⟨e, isFirst, rfl⟩ := List.mem_map.1 inFirst
    obtain ⟨e', isSecond, rfl⟩ := List.mem_map.1 inSecond
    -- The roots around one file lie within each other.
    have inA := Path.isWithin_iff.1 (within a isA e isFirst)
    have inB := Path.isWithin_iff.1 (same ▸ within b isB e' isSecond)
    rcases List.prefix_or_prefix_of_prefix inA inB with inside | inside
    · exact apart.2 (Path.isWithin_iff.2 inside)
    · exact apart.1 (Path.isWithin_iff.2 inside)
  · intro c isConfig e member owner referring
    obtain ⟨locations, answered, noIdentifier, none⟩ :=
      references_of_mem_unreferencedAmong (collected c isConfig) member owner referring
    exact ⟨locations, answered, noIdentifier, fun ascii => none (ascii _ (collected c isConfig))⟩

/-- The label in the folder is reported for the root in which it lies, and has no references. -/
theorem nestedScene_unreferenced :
    ((nestedScene.unreferencedOf (.load nestedFiles none ⟨["lib".toList]⟩)).start none).1 =
        .ok [⟨"SetAndReturn".toList, ⟨⟨["lib".toList, "b.asm".toList]⟩, 0, 0, 12⟩⟩] ∧
      ((nestedScene.references ⟨["lib".toList, "b.asm".toList]⟩ ⟨0, 0⟩ false).start none).1 =
        .ok (some []) := by
  let c := Config.load nestedFiles none ⟨["lib".toList]⟩
  let p : Path := ⟨["lib".toList, "b.asm".toList]⟩
  have isConfig : c ∈ nestedScene.context.configs :=
    List.mem_map.2 ⟨⟨["lib".toList]⟩, by decide +kernel, rfl⟩
  have collected : nestedScene.filesOf c = .ok [p] := by decide +kernel
  have reported : ((nestedScene.unreferencedOf c).start none).1 =
      .ok [⟨"SetAndReturn".toList, ⟨p, 0, 0, 12⟩⟩] := by
    rw [(unreferencedOf_gives collected).start]
    decide +kernel
  have text : nestedScene.workspace.text? p = some "SetAndReturn: ret".toList := by decide +kernel
  have isAscii : "SetAndReturn: ret".toList.all (fun ch => ch.toNat < 0x80) = true := by
    decide +kernel
  have ascii : ∀ files, nestedScene.filesOf c = .ok files →
      ∀ q ∈ files, ∀ t, nestedScene.workspace.text? q = some t → t.IsAscii := by
    intro files isFiles q member t read ch inText
    obtain rfl := Except.ok.inj (collected.symm.trans isFiles)
    rw [List.mem_singleton.1 member, text] at read
    rw [← Option.some.inj read] at inText
    exact of_decide_eq_true (List.all_eq_true.1 isAscii ch inText)
  obtain ⟨own, gives, _, _, _, sound⟩ := unreferenced_not_referenced nestedScene_gathers
  have isOwn := Except.ok.inj ((gives c isConfig).symm.trans reported)
  obtain ⟨locations, answered, _, none⟩ := sound c isConfig ⟨"SetAndReturn".toList, ⟨p, 0, 0, 12⟩⟩
    (isOwn ▸ List.mem_singleton_self _) rfl rfl
  rw [none ascii] at answered
  exact ⟨reported, answered⟩

/-- A file in a folder, with a label whose last segment starts with no ASCII letter and a use of
    it. -/
def accentFiles : FileTree :=
  .folder [("lib".toList, .folder [("a.asm".toList, .file "go.é: jp go.é".toUTF8)])]

/-- Roots around that file: the top and the folder. -/
def accentScene : Scene :=
  { workspace := { files := accentFiles }
    context := .build accentFiles none [⟨[]⟩, ⟨["lib".toList]⟩] }

/-- The label is reported for both roots, and it is referred to. -/
theorem accentScene_reported_twice :
    (accentScene.unreferenced.start none).1 =
        .ok (some [⟨"go.é".toList, ⟨⟨["lib".toList, "a.asm".toList]⟩, 0, 3, 4⟩⟩,
          ⟨"go.é".toList, ⟨⟨["lib".toList, "a.asm".toList]⟩, 0, 3, 4⟩⟩]) ∧
      ((accentScene.references ⟨["lib".toList, "a.asm".toList]⟩ ⟨0, 3⟩ false).start none).1 =
        .ok (some [⟨⟨["lib".toList, "a.asm".toList]⟩, 0, 12, 13⟩]) := by
  let p : Path := ⟨["lib".toList, "a.asm".toList]⟩
  let d : Document := ⟨p, .source, ["go.é: jp go.é".toList]⟩
  have all : accentScene.context.configs.all
      (fun c => decide (accentScene.filesOf c = .ok [p])) = true := by decide +kernel
  have collected : ∀ c ∈ accentScene.context.configs, accentScene.filesOf c = .ok [p] :=
    fun c isConfig => of_decide_eq_true (List.all_eq_true.1 all c isConfig)
  have loaded : accentScene.workspace.load? p = some d := by decide +kernel
  have located : d.occurrence? isWordChar ⟨0, 3⟩ = some ⟨"go.é".toList, "é".toList, 3, 4⟩ := by
    decide +kernel
  constructor
  · rw [(unreferenced_gives fun c isConfig => unreferencedOf_gives (collected c isConfig)).start]
    decide +kernel
  · have documents : [p].filterMap accentScene.workspace.load? = [d] := by
      rw [List.filterMap_cons, loaded, List.filterMap_nil]
    have gives := referencesFrom_keeps
      (collected (.load accentFiles none ⟨["lib".toList]⟩)
        (List.mem_map.2 ⟨⟨["lib".toList]⟩, by decide +kernel, rfl⟩))
      (Workspace.holds_of_load loaded) located (by decide +kernel) (by decide +kernel) false
    rw [documents] at gives
    rw [references, open_eq rfl rfl loaded, gives.attempt.start]
    decide +kernel

end Scene
end AsmAtlas
