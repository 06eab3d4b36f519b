import AsmAtlas.Proofs.Cancellation
import AsmAtlas.Proofs.FileTrees
import AsmAtlas.Proofs.ReferenceCounts
import AsmAtlas.Proofs.WordUses

/-!
# The places that are renamed

A label is renamed wherever its word is used and the label around the use shares a name with it. The
places depend on the word up to case, on the two names and on the form of labels, and on nothing
else of the cursor. So from any of the places that goes by the same two names the same places are
found. From one that shares only one of the names others may be found: to share a name is not
transitive.
-/

namespace AsmAtlas

namespace Inquiry

open ScopeCache

/-- Whether a finding is kept, with the scope table of its document at hand. -/
def keeps (q : Inquiry) (found : Occurrence) (name : Qualified) (f : Finding) : Bool :=
  q.admits found f.text f.location &&
    (Qualified.of (scopeAt (f.document.scopes q.form) f.location.line)
      (labelAt f.text f.location)).meets name

/-- The names of the label that ends where a finding does. -/
def namesOf (q : Inquiry) (f : Finding) : Qualified :=
  Qualified.of (scopeAt (f.document.scopes q.form) f.location.line) (labelAt f.text f.location)

/-- Of findings that start at different places the ones that are kept survive. -/
theorem firstSurvivors_findings (q : Inquiry) (found : Occurrence) {fs : List Finding}
    (apart : fs.Pairwise fun a b => sameStart a.location b.location = false) :
    q.firstSurvivors found (fs.map Finding.candidate) =
      (fs.filter (q.keeps found (q.names found))).map Finding.candidate := by
  have survives : ∀ f : Finding,
      decide (q.Survives found f.candidate) = q.keeps found (q.names found) f := by
    intro f
    rw [Bool.eq_iff_iff, decide_eq_true_iff, ← accepts_iff]
    rfl
  have filtered : (fs.map Finding.candidate).filter (fun c => q.Survives found c) =
      (fs.filter (q.keeps found (q.names found))).map Finding.candidate := by
    rw [List.filter_map]
    exact congrArg (List.map Finding.candidate) (List.filter_congr fun f _ => survives f)
  rw [firstSurvivors, filtered]
  refine eraseDupsBy_of_pairwise (List.pairwise_map.2 ((apart.filter _).imp ?_))
  intro a b differ
  exact (sameStart_comm b.location a.location).trans differ

/-- They are compared by the names that end where they do. -/
theorem compared_findings {w : Workspace} {q : Inquiry} {found : Occurrence} {fs : List Finding}
    (heldOrigin : w.Holds q.origin)
    (located : q.origin.occurrence? q.boundary q.position = some found)
    (held : ∀ f ∈ fs, w.Holds f.document)
    (apart : fs.Pairwise fun a b => sameStart a.location b.location = false) :
    q.comparand [] = q.names found ∧
      q.compared [] (fs.map Finding.candidate) =
        (fs.filter (q.keeps found (q.names found))).map fun f => (f.location, q.namesOf f) := by
  have fresh := trueTo_nil {d | w.Holds d}
  have isOver : q.IsOver {d | w.Holds d} (fs.map Finding.candidate) := by
    refine ⟨heldOrigin, fun c member d document => ?_⟩
    obtain ⟨f, isFinding, rfl⟩ := List.mem_map.1 member
    obtain rfl : f.document = d := Option.some.inj document
    exact held f isFinding
  refine ⟨comparand_eq fresh heldOrigin located, ?_⟩
  rw [compared_eq w.injOn_holds fresh isOver located, firstSurvivors_findings q found apart,
    List.filterMap_map, ← List.filterMap_eq_map]
  rfl

/-- What is left of findings that start at different places are those that are kept. -/
theorem locations_reduce {w : Workspace} {q : Inquiry} {found : Occurrence} {fs : List Finding}
    (heldOrigin : w.Holds q.origin)
    (located : q.origin.occurrence? q.boundary q.position = some found)
    (held : ∀ f ∈ fs, w.Holds f.document)
    (apart : fs.Pairwise fun a b => sameStart a.location b.location = false) :
    (q.reduce (fs.map Finding.candidate)).locations =
      (fs.filter (q.keeps found
        (Qualified.of (scopeAt (q.origin.scopes q.form) q.position.line.toNat) found.label))).map
          (·.location) := by
  rw [reduce, reduceWith_fst, (compared_findings heldOrigin located held apart).2, List.map_map]
  rfl

end Inquiry

/-- No word character touches a stretch that stands between others. -/
theorem Inquiry.isTouched_eq_false {text : Text} {start stop : Nat}
    (before : ¬(text.take start).getLast?.any isWordChar)
    (behind : ¬text[stop]?.any isWordChar) : isTouched isWordChar text start stop = false := by
  have untouched : (0 < start && text[start - 1]?.any isWordChar) = false := by
    by_contra touched
    simp only [Bool.not_eq_false, Bool.and_eq_true, decide_eq_true_eq] at touched
    obtain ⟨positive, word⟩ := touched
    obtain ⟨c, isChar, isWord⟩ := (Option.any_eq_true _ _).1 word
    have last : (text.take start).getLast? = some c := by
      rw [List.getLast?_take, if_neg (by omega), isChar]
      rfl
    exact before (by simp [last, isWord])
  rw [isTouched, untouched, Bool.false_or]
  exact Bool.eq_false_iff.2 behind

/-- A label at a position was found in the line of the position. -/
theorem Document.isIn_of_occurrence? {d : Document} {position : Position} {found : Occurrence}
    (located : d.occurrence? isWordChar position = some found) :
    ∃ line, d.lines[position.line.toNat]? = some line ∧ found.IsIn line := by
  obtain ⟨line, isLine, inLine⟩ := Option.bind_eq_some_iff.1 located
  exact ⟨line, getElem_of_lineAt isLine, Occurrence.isIn_of_at? inLine⟩

/-- Whether the label around a finding shares a name with the given one, by a table of scopes. -/
def Finding.goesByIn (t : ScopeTable) (name : Qualified) (f : Finding) : Bool :=
  !Inquiry.isTouched isWordChar f.text f.location.start f.location.stop &&
    (Qualified.of (Inquiry.scopeAt t f.location.line)
      (Inquiry.labelAt f.text f.location)).meets name

/-- The same, by the scopes of its document. -/
def Finding.goesBy (form : LabelForm) (name : Qualified) (f : Finding) : Bool :=
  f.goesByIn (f.document.scopes form) name

/-- The uses of a word in some documents where the label around them shares a name with the given
    one. -/
def usesNamed (form : LabelForm) (name : Qualified) (word : Text) (ds : List Document) :
    List Finding :=
  (ds.flatMap fun d => d.find (WordSearch.uses word)).filter (Finding.goesBy form name)

theorem usesNamed_congr {word other : Text} (same : word.map caseKey = other.map caseKey)
    (form : LabelForm) (name : Qualified) (ds : List Document) :
    usesNamed form name word ds = usesNamed form name other ds := by
  rw [usesNamed, usesNamed, Pattern.uses_congr same]

/-- Words in documents at different places come file by file, in each of them in order and without
    overlap. -/
theorem pairwise_flatMap_find {p : Pattern} (finds : p.FindsWords) {ds : List Document}
    (distinct : ds.Pairwise fun a b => a.path ≠ b.path) :
    (ds.flatMap fun d => d.find p).Pairwise fun a b =>
      a.location.path = b.location.path → a.location.Before b.location := by
  refine List.pairwise_flatMap.2 ⟨?_, ?_⟩
  · intro d _
    refine (Document.pairwise_find finds d).imp ?_
    intro a b before _
    exact before
  · refine distinct.imp ?_
    intro d e differ a inFirst b inSecond same
    rw [Document.path_of_mem_find inFirst, Document.path_of_mem_find inSecond] at same
    exact absurd same differ

/-- Files without repetitions have documents at different places. -/
theorem pairwise_load {w : Workspace} {files : List Path} (nodup : files.Nodup) :
    (files.filterMap w.load?).Pairwise fun a b => a.path ≠ b.path := by
  refine List.pairwise_filterMap.2 (nodup.imp ?_)
  intro p q differ d loaded e loadedOther same
  rw [Workspace.path_of_load loaded, Workspace.path_of_load loadedOther] at same
  exact differ same

/-- What is left of words that were found in files, or of some of them, are those that are kept. -/
theorem Inquiry.locations_reduce_words {w : Workspace} {q : Inquiry} {found : Occurrence}
    {p : Pattern} (finds : p.FindsWords) {files : List Path} (nodup : files.Nodup)
    (heldOrigin : w.Holds q.origin)
    (located : q.origin.occurrence? q.boundary q.position = some found) {fs : List Finding}
    (among : fs.Sublist ((files.filterMap w.load?).flatMap fun d => d.find p)) :
    (q.reduce (fs.map Finding.candidate)).locations =
      (fs.filter (q.keeps found
        (q.origin.names q.form q.position.line.toNat found.label))).map (·.location) := by
  refine locations_reduce heldOrigin located ?_ ?_
  · intro f member
    obtain ⟨e, isDocument, inDocument⟩ := List.mem_flatMap.1 (among.subset member)
    obtain ⟨_, _, loaded⟩ := List.mem_filterMap.1 isDocument
    rw [Document.document_of_mem_findIn inDocument]
    exact Workspace.holds_of_load loaded
  · refine ((pairwise_flatMap_find finds (pairwise_load nodup)).sublist among).imp ?_
    intro a b before
    simp only [sameStart, Bool.and_eq_false_iff, beq_eq_false_iff_ne]
    by_cases samePath : a.location.path = b.location.path
    · rcases before samePath with earlier | ⟨_, start, _⟩ <;> omega
    · exact .inl (.inl samePath)

namespace Scene

variable {s : Scene} {p : Path} {c : Config} {d : Document} {position : Position}
  {found : Occurrence} {files : List Path}

/-- The references to a label are the uses of its word that are kept. -/
theorem referencesFrom_keeps
    (collected : s.filesOf c = .ok files)
    (held : s.workspace.Holds d) (located : d.occurrence? isWordChar position = some found)
    (label : ¬c.isExcluded found.label) (word : ¬c.isExcluded found.word)
    (includeDeclaration : Bool) :
    (s.referencesFrom c d position includeDeclaration).Gives
      ((((files.filterMap s.workspace.load?).flatMap fun e =>
          e.find (WordSearch.uses found.word)).filter
        (({ inquiry c d position with includeDeclaration } : Inquiry).keeps found
          (d.names (c.labelForm d.dialect) position.line.toNat found.label))).map
        (·.location)) := by
  obtain ⟨_, _, inLine⟩ := Document.isIn_of_occurrence? located
  have finds := Pattern.findsWords_uses inLine.nonempty
  have gives := referencesFrom_gives collected located label word includeDeclaration
  have tidied : ((files.filterMap s.workspace.load?).flatMap fun e =>
      Search.tidy (e.find (WordSearch.uses found.word))) =
      (files.filterMap s.workspace.load?).flatMap fun e => e.find (WordSearch.uses found.word) :=
    List.flatMap_congr fun e _ => Document.tidy_find_words finds e
  rw [tidied, Inquiry.locations_reduce_words finds (Collection.nodup_collect collected) held located
    (List.Sublist.refl _)] at gives
  exact gives

/-- The references to a label, its declarations among them, are the uses of its word in labels that
    share a name with it. -/
theorem referencesFrom_usesNamed
    (collected : s.filesOf c = .ok files)
    (held : s.workspace.Holds d) (located : d.occurrence? isWordChar position = some found)
    (label : ¬c.isExcluded found.label) (word : ¬c.isExcluded found.word) :
    (s.referencesFrom c d position true).Gives
      ((usesNamed (c.labelForm d.dialect)
        (d.names (c.labelForm d.dialect) position.line.toNat found.label) found.word
        (files.filterMap s.workspace.load?)).map (·.location)) := by
  have gives := referencesFrom_keeps collected held located label word true
  have goesBy : ∀ name, ({ inquiry c d position with includeDeclaration := true } : Inquiry).keeps
      found name = Finding.goesBy (c.labelForm d.dialect) name := by
    intro name
    funext f
    simp only [Inquiry.keeps, Inquiry.admits, Bool.true_or, Bool.and_true]
    rfl
  rw [goesBy] at gives
  exact gives

theorem takes_filesBelow_error {e : Failure}
    (failed : s.filesOf c = .error e) :
    (s.workspace.filesBelow c.filter c.root).Takes 0 (.error (.failed e)) := by
  have takes := Task.Takes.ofCollection (s.workspace.collection c.filter c.root)
  rwa [show (s.workspace.collection c.filter c.root).files = .error e from failed] at takes

/-- A search fails if the files cannot be collected. -/
theorem takes_search_error {e : Failure} (patterns : List Pattern)
    (failed : s.filesOf c = .error e) : (s.search c patterns).Takes 0 (.error (.failed e)) := by
  have all : (s.workspace.archive.filesBelowAll c.filter [c.root]).Takes 0
      (.error (.failed e)) := by
    rw [Archive.filesBelowAll, List.mapM_cons]
    exact (takes_filesBelow_error failed).bind_error.bind_error
  exact all.bind_error

/-- So do the references to a label that is not excluded. -/
theorem takes_referencesFrom_error {e : Failure}
    (located : d.occurrence? isWordChar position = some found)
    (failed : s.filesOf c = .error e) (label : ¬c.isExcluded found.label)
    (word : ¬c.isExcluded found.word) (includeDeclaration : Bool) :
    (s.referencesFrom c d position includeDeclaration).Takes 0 (.error (.failed e)) := by
  have kept : (c.isExcluded found.label || c.isExcluded found.word) = false := by
    simp [label, word]
  simp only [referencesFrom, located, kept]
  exact (takes_search_error _ failed).bind_error

theorem config_of_open {feature : Config → Bool} (opened : s.open? p feature = some (c, d)) :
    s.context.configFor? p = some c := by
  obtain ⟨settings, isConfig, loaded⟩ := Option.bind_eq_some_iff.1 opened
  obtain ⟨_, _, pair⟩ := Option.map_eq_some_iff.1 loaded
  rw [← (Prod.mk.inj pair).1]
  exact (Option.filter_eq_some_iff.1 isConfig).1

theorem loaded_of_open {feature : Config → Bool} (opened : s.open? p feature = some (c, d)) :
    s.workspace.load? p = some d := by
  obtain ⟨settings, _, loaded⟩ := Option.bind_eq_some_iff.1 opened
  obtain ⟨document, isDocument, pair⟩ := Option.map_eq_some_iff.1 loaded
  rw [isDocument, (Prod.mk.inj pair).2]

theorem holds_of_open {feature : Config → Bool} (opened : s.open? p feature = some (c, d)) :
    s.workspace.Holds d :=
  Workspace.holds_of_load (loaded_of_open opened)

/-- The edits that give the uses of a word in labels that share a name with the given one another
    name. -/
def editsNamed (s : Scene) (form : LabelForm) (names : Qualified) (word : Text) (files : List Path)
    (name : Text) : List FileEdits :=
  byFile (((usesNamed form names word (files.filterMap s.workspace.load?)).map (·.location)).map
    (⟨·, name⟩))

section

variable (opened : s.open? p (·.rename) = some (c, d))
  (located : d.occurrence? isWordChar position = some found)

include opened located

/-- A label is renamed where its word is used in labels that share a name with it. -/
theorem editsFor_start
    (collected : s.filesOf c = .ok files)
    (label : ¬c.isExcluded found.label) (word : ¬c.isExcluded found.word) (name : Text) :
    ((s.editsFor p position name).start none).1 =
      .ok (some (s.editsNamed (c.labelForm d.dialect)
        (d.names (c.labelForm d.dialect) position.line.toNat found.label) found.word files
        name)) := by
  have gives := referencesFrom_usesNamed collected (holds_of_open opened) located label word
  rw [editsFor, opened]
  exact Task.Gives.start (gives.attempt.bind (.pure _))

/-- A renaming fails if the files cannot be collected. -/
theorem editsFor_error {e : Failure}
    (failed : s.filesOf c = .error e) (label : ¬c.isExcluded found.label)
    (word : ¬c.isExcluded found.word) (name : Text) :
    ((s.editsFor p position name).start none).1 = .error (.failed e) := by
  obtain ⟨after, ran⟩ :=
    (takes_referencesFrom_error located failed label word true).attempt_unlimited []
  rw [editsFor, opened]
  simp only [Task.start, Task.bind_apply, ran]
  rfl

/-- An excluded label is not renamed anywhere. -/
theorem editsFor_excluded (excluded : c.isExcluded found.label ∨ c.isExcluded found.word)
    (name : Text) : ((s.editsFor p position name).start none).1 = .ok (some []) := by
  have dropped : (c.isExcluded found.label || c.isExcluded found.word) = true := by
    simpa using excluded
  rw [editsFor, opened]
  simp only [referencesFrom, located, dropped]
  rfl

/-- What a renaming that was answered edits. -/
theorem edits_of_answer {name : Text} {edits : List FileEdits}
    (answered : ((s.editsFor p position name).start none).1 = .ok (some edits)) :
    ((c.isExcluded found.label ∨ c.isExcluded found.word) ∧ edits = []) ∨
      (¬c.isExcluded found.label ∧ ¬c.isExcluded found.word) ∧
        ∃ files,
          s.filesOf c =
            .ok files ∧
          edits = s.editsNamed (c.labelForm d.dialect)
            (d.names (c.labelForm d.dialect) position.line.toNat found.label) found.word files
            name := by
  by_cases excluded : c.isExcluded found.label ∨ c.isExcluded found.word
  · rw [editsFor_excluded opened located excluded] at answered
    exact .inl ⟨excluded, (Option.some.inj (Except.ok.inj answered)).symm⟩
  · obtain ⟨label, word⟩ := not_or.1 excluded
    right
    refine ⟨⟨label, word⟩, ?_⟩
    cases collected : s.filesOf c with
    | error e =>
      rw [editsFor_error opened located collected label word] at answered
      simp at answered
    | ok files =>
      rw [editsFor_start opened located collected label word] at answered
      exact ⟨files, rfl, (Option.some.inj (Except.ok.inj answered)).symm⟩

end

/-- The edits of a file are the edits at its path. -/
theorem edits_of_mem_byFile {edits : List TextEdit} {file : FileEdits}
    (isFile : file ∈ byFile edits) :
    file.edits = edits.filter fun e => e.location.path == file.path := by
  obtain ⟨path, _, rfl⟩ := List.mem_map.1 isFile
  rfl

end Scene

/-- A place that is renamed is a use of the word in its document. -/
theorem hasWordAt_of_mem_usesNamed {w : Workspace} {form : LabelForm} {name : Qualified}
    {word : Text} (nonempty : word ≠ []) {files : List Path} {l : Location}
    (member : l ∈ (usesNamed form name word (files.filterMap w.load?)).map (·.location)) :
    ∃ d line, w.load? l.path = some d ∧ d.lines[l.line]? = some line ∧
      line.HasWordAt word l.start ∧ l.stop = l.start + word.length := by
  obtain ⟨f, isUse, rfl⟩ := List.mem_map.1 member
  obtain ⟨d, isDocument, inDocument⟩ := List.mem_flatMap.1 (List.mem_of_mem_filter isUse)
  obtain ⟨q, _, loaded⟩ := List.mem_filterMap.1 isDocument
  obtain ⟨_, path, stop, line, isLine, hasWord⟩ :=
    Document.hasWordAt_of_mem_find nonempty inDocument
  refine ⟨d, line, ?_, isLine, hasWord, stop⟩
  rw [path, Workspace.path_of_load loaded]
  exact loaded

namespace Scene

/-- The document of the file in a lone root. -/
def loneDocument (source : String) : Document :=
  .ofText lonePath source.toList

/-- An edit in that file. -/
def loneEdit (line start stop : Nat) (name : String) : TextEdit :=
  ⟨⟨lonePath, line, start, stop⟩, name.toList⟩

/-- The settings of that root. -/
def loneConfig : Config :=
  { root := ⟨[]⟩ }

theorem lone_open {source : String}
    (text : (lone source).workspace.text? lonePath = some source.toList) :
    (lone source).open? lonePath (·.rename) = some (loneConfig, loneDocument source) := by
  have loaded : (lone source).workspace.load? lonePath = some (loneDocument source) := by
    rw [Workspace.load?, text]
    rfl
  exact open_eq (c := loneConfig) rfl rfl loaded

/-- The files of that root, whatever is in the one that it has. -/
theorem lone_collected (source : String) : (lone source).filesOf loneConfig = .ok [lonePath] := by
  have seen : ∀ prunes, (lone source).workspace.files.seenBelow prunes 990 loneConfig.root =
      [some lonePath] := by
    intro prunes
    exact FileTree.seenBelow_lone "a.asm".toList source.toUTF8
  have there : Collection.leadsToFile (lone source).workspace.files lonePath = .ok true := rfl
  have walked : Collection.walk (lone source).workspace.files {} loneConfig.filter []
      loneConfig.root = .ok [lonePath] := by
    rw [Collection.walk]
    simp only [seen, Collection.takeAll, Collection.takes, there]
    decide +kernel
  have sorted : Collection.sorted loneConfig.root [lonePath] = [lonePath] := by decide +kernel
  change (Collection.walk _ {} _ _ _).map _ = _
  rw [walked]
  exact congrArg Except.ok sorted

/-- The scopes of that file. -/
def loneScopes (source : String) : ScopeTable :=
  (loneDocument source).scopes (loneConfig.labelForm .source)

/-- The uses in that file are kept by its scopes. -/
theorem lone_usesNamed (source : String) (names : Qualified) (word : Text) :
    usesNamed (loneConfig.labelForm .source) names word [loneDocument source] =
      ((loneDocument source).find (WordSearch.uses word)).filter
        (Finding.goesByIn (loneScopes source) names) := by
  rw [usesNamed, List.flatMap_singleton]
  refine List.filter_congr ?_
  intro f isUse
  rw [Finding.goesBy, Document.document_of_mem_findIn isUse, loneScopes]

/-- What a renaming in a lone root edits, with the scopes of its file at hand. -/
theorem lone_rename {source : String} {position : Position} {found : Occurrence} {t : ScopeTable}
    (name : String) (edits : List FileEdits) (isName : newName.accepts name.toList)
    (text : (lone source).workspace.text? lonePath = some source.toList)
    (located : (loneDocument source).occurrence? isWordChar position = some found)
    (label : ¬loneConfig.isExcluded found.label) (word : ¬loneConfig.isExcluded found.word)
    (scopes : loneScopes source = t)
    (isEdits : byFile (((((loneDocument source).find (WordSearch.uses found.word)).filter
      (Finding.goesByIn t (Qualified.of (Inquiry.scopeAt t position.line.toNat) found.label))).map
        (·.location)).map (⟨·, name.toList⟩)) = edits) :
    ∃ task, (lone source).rename lonePath position name.toList = .ok task ∧
      (task.start none).1 = .ok (some edits) := by
  have loaded := loaded_of_open (lone_open text)
  have documents : [lonePath].filterMap (lone source).workspace.load? = [loneDocument source] := by
    rw [List.filterMap_cons, loaded, List.filterMap_nil]
  refine ⟨_, if_pos isName, ?_⟩
  rw [editsFor_start (lone_open text) located (lone_collected source) label word, editsNamed,
    documents]
  change Except.ok (some (byFile ((List.map _ (usesNamed (loneConfig.labelForm .source) _ _ _)).map
    _))) = _
  rw [lone_usesNamed, ← isEdits, ← scopes]
  rfl

/-- It makes no difference from which of its places a label is renamed, as long as the label found
    there is the same: let a renaming be answered, and let `b` be one of its edits, in a file with
    the same settings and dialect, where the label found at its start ends with it, is not excluded
    and goes by the same two names. Then the renaming from there has the same edits. -/
theorem rename_from_any_place {s : Scene} {p : Path} {position : Position} {name : Text}
    {task : Task (Option (List FileEdits))} {edits : List FileEdits} {c : Config}
    {origin other : Document} {found again : Occurrence} {file : FileEdits} {b : TextEdit}
    (accepted : s.rename p position name = .ok task)
    (answered : (task.start none).1 = .ok (some edits))
    (opened : s.open? p (·.rename) = some (c, origin))
    (located : origin.occurrence? isWordChar position = some found)
    (isFile : file ∈ edits) (isEdit : b ∈ file.edits)
    (openedThere : s.open? b.location.path (·.rename) = some (c, other))
    (dialect : other.dialect = origin.dialect)
    (locatedThere :
      other.occurrence? isWordChar ⟨b.location.line, b.location.start⟩ = some again)
    (whole : again.start = b.location.start ∧ again.stop = b.location.stop)
    (label : ¬c.isExcluded again.label) (word : ¬c.isExcluded again.word)
    (sameNames : other.names (c.labelForm other.dialect) b.location.line again.label =
      origin.names (c.labelForm origin.dialect) position.line.toNat found.label) :
    ∃ taskThere,
      s.rename b.location.path ⟨b.location.line, b.location.start⟩ name = .ok taskThere ∧
        (taskThere.start none).1 = .ok (some edits) := by
  rw [rename] at accepted ⊢
  split_ifs at accepted ⊢ with isName
  obtain rfl := Except.ok.inj accepted
  refine ⟨_, rfl, ?_⟩
  obtain ⟨_, _, inLine⟩ := Document.isIn_of_occurrence? located
  rcases edits_of_answer opened located answered with
    ⟨_, rfl⟩ | ⟨_, files, collected, isEdits⟩
  · simp at isFile
  · rw [isEdits] at isFile
    rw [edits_of_mem_byFile isFile, List.mem_filter] at isEdit
    obtain ⟨l, isPlace, rfl⟩ := List.mem_map.1 isEdit.1
    obtain ⟨document, line, loaded, isLine, hasWord, stop⟩ :=
      hasWordAt_of_mem_usesNamed inLine.nonempty isPlace
    obtain rfl : document = other :=
      Option.some.inj (loaded.symm.trans (loaded_of_open openedThere))
    obtain ⟨lineThere, isLineThere, inLineThere⟩ := Document.isIn_of_occurrence? locatedThere
    obtain rfl : lineThere = line := by
      rw [Int.toNat_natCast] at isLineThere
      exact Option.some.inj (isLineThere.symm.trans isLine)
    have sameWord : again.word.map caseKey = found.word.map caseKey := by
      rw [← inLineThere.word, whole.1, whole.2, stop]
      exact hasWord.spells
    rw [editsFor_start openedThere locatedThere collected label word, isEdits, Int.toNat_natCast,
      sameNames, dialect, editsNamed, usesNamed_congr sameWord]
    rfl

/-- From the use `go.ON` of the relative label `.on` the same two places are renamed as from the
    label itself. -/
theorem sampleFile_rename_from_any_place :
    ∃ first second,
      (lone sampleFile).rename lonePath ⟨1, 1⟩ "off".toList = .ok first ∧
        (first.start none).1 =
          .ok (some [⟨lonePath, [loneEdit 1 1 3 "off", loneEdit 1 11 13 "off"]⟩]) ∧
      (lone sampleFile).rename lonePath ⟨1, 11⟩ "off".toList = .ok second ∧
        (second.start none).1 =
          .ok (some [⟨lonePath, [loneEdit 1 1 3 "off", loneEdit 1 11 13 "off"]⟩]) := by
  have text : (lone sampleFile).workspace.text? lonePath = some sampleFile.toList := by
    decide +kernel
  have located : (loneDocument sampleFile).occurrence? isWordChar ⟨1, 1⟩ =
      some ⟨".on".toList, "on".toList, 1, 3⟩ := by decide +kernel
  have locatedThere : (loneDocument sampleFile).occurrence? isWordChar ⟨1, 11⟩ =
      some ⟨"go.ON".toList, "ON".toList, 11, 13⟩ := by decide +kernel
  have scopes : loneScopes sampleFile = [⟨[], some "go".toList⟩, ⟨[], some "go".toList⟩] := by
    decide +kernel
  have sameNames : (loneDocument sampleFile).names (loneConfig.labelForm .source) 1 "go.ON".toList =
      (loneDocument sampleFile).names (loneConfig.labelForm .source) 1 ".on".toList := by
    change Qualified.of (Inquiry.scopeAt (loneScopes sampleFile) 1) _ =
      Qualified.of (Inquiry.scopeAt (loneScopes sampleFile) 1) _
    rw [scopes]
    decide +kernel
  obtain ⟨first, accepted, answered⟩ := lone_rename "off"
    [⟨lonePath, [loneEdit 1 1 3 "off", loneEdit 1 11 13 "off"]⟩] (by decide +kernel) text located
    (by decide +kernel) (by decide +kernel) scopes (by decide +kernel)
  obtain ⟨second, acceptedThere, answeredThere⟩ := rename_from_any_place accepted answered
    (lone_open text) located (List.mem_singleton_self _) (b := loneEdit 1 11 13 "off")
    (by simp) (lone_open text) rfl locatedThere ⟨rfl, rfl⟩ (by decide +kernel) (by decide +kernel)
    sameNames
  exact ⟨first, second, accepted, answered, acceptedThere, answeredThere⟩

/-- A label of a module that is also used outside of it, with and without the name of the module. -/
def memberUses : String :=
  " MODULE m\nfoo: nop\n ENDMODULE\n jp foo\n jp m.foo\n"

/-- From its declaration the label is renamed in all three places. From the second of them the third
    is left out: outside the module `foo` and `m.foo` have no name in common. -/
theorem memberUses_rename_differs :
    (∃ task, (lone memberUses).rename lonePath ⟨1, 0⟩ "bar".toList = .ok task ∧
      (task.start none).1 = .ok (some [⟨lonePath,
        [loneEdit 1 0 3 "bar", loneEdit 3 4 7 "bar", loneEdit 4 6 9 "bar"]⟩])) ∧
    (∃ task, (lone memberUses).rename lonePath ⟨3, 4⟩ "bar".toList = .ok task ∧
      (task.start none).1 = .ok (some [⟨lonePath,
        [loneEdit 1 0 3 "bar", loneEdit 3 4 7 "bar"]⟩])) := by
  have text : (lone memberUses).workspace.text? lonePath = some memberUses.toList := by
    decide +kernel
  have located : (loneDocument memberUses).occurrence? isWordChar ⟨1, 0⟩ =
      some ⟨"foo".toList, "foo".toList, 0, 3⟩ := by decide +kernel
  have locatedThere : (loneDocument memberUses).occurrence? isWordChar ⟨3, 4⟩ =
      some ⟨"foo".toList, "foo".toList, 4, 7⟩ := by decide +kernel
  have scopes : loneScopes memberUses = [⟨[], none⟩, ⟨"m".toList, some "foo".toList⟩,
      ⟨"m".toList, none⟩, ⟨[], none⟩, ⟨[], none⟩, ⟨[], none⟩] := by decide +kernel
  constructor
  · exact lone_rename _ _ (by decide +kernel) text located (by decide +kernel) (by decide +kernel)
      scopes (by decide +kernel)
  · exact lone_rename _ _ (by decide +kernel) text locatedThere (by decide +kernel)
      (by decide +kernel) scopes (by decide +kernel)

end Scene
end AsmAtlas
