import AsmAtlas.CommandLine.Report
import AsmAtlas.Proofs.AnswerOrigins

/-!
# Control characters on the terminal

Where no name of a file has a control character, none is printed but those of an operand in an
outline, of a line in a hover text, and of the arguments of the command line. These are printed as
they are; only the lines of references and definitions are made safe before.
-/

namespace AsmAtlas

open Terminal

/-- No file or folder has a control character in its name. -/
def FileTree.HasSafeNames (t : FileTree) : Prop :=
  ∀ parts u, t.get? parts = some u → ∀ name ∈ parts, IsSafe name

theorem FileTree.HasSafeNames.of_isFile {t : FileTree} (named : t.HasSafeNames) {p : Path}
    (isFile : t.isFile p) : ∀ name ∈ p.parts, IsSafe name := by
  unfold FileTree.isFile at isFile
  split at isFile
  · next found => exact named _ _ found
  · simp at isFile

/-- A folder with one file. -/
theorem FileTree.hasSafeNames_of_file {name : Text} (safe : IsSafe name) (content : ByteArray) :
    (folder [(name, file content)]).HasSafeNames := by
  intro parts u found part member
  rcases parts with _ | ⟨first, rest⟩
  · simp at member
  · by_cases isName : first = name
    · subst isName
      rcases rest with _ | ⟨second, rest⟩
      · rwa [List.mem_singleton.1 member]
      · simp [get?] at found
    · have other : (first == name) = false := by simpa using isName
      simp [get?, List.lookup_cons, other] at found

/-- What is made of the result of a task. -/
theorem Task.start_map {α β : Type} (task : Task α) (f : α → β) (patience : Patience) :
    ((task >>= fun a => pure (f a)).start patience).1 = (task.start patience).1.map f := by
  simp only [start, bind_apply]
  rcases task ⟨patience, []⟩ with ⟨_ | _, _⟩ <;> rfl

theorem Task.tryCatch_apply {α : Type} (task : Task α) (handler : Halt → Task α)
    (session : Session) :
    (tryCatch task handler) session =
      match task session with
      | (.ok a, session) => (.ok a, session)
      | (.error e, session) => handler e session := by
  rcases result : task session with ⟨_ | _, _⟩
  all_goals
    simp only [tryCatch, tryCatchThe, MonadExceptOf.tryCatch, ExceptT.tryCatch, ExceptT.mk, bind,
      StateT.bind, result]
  rfl

/-- A written path has the characters of its text, apart from slashes and the dot for nothing. -/
theorem WrittenPath.mem_of_mem_text {t : Text} {c : Char} (control : isControl c)
    (member : c ∈ (ofText t).text) : c ∈ t := by
  have notDot := ne_of_control (d := '.') control (by decide)
  have notSlash := ne_of_control (d := '/') control (by decide)
  unfold text at member
  split_ifs at member
  · exact absurd (List.mem_singleton.1 member) notDot
  · rcases List.mem_append.1 member with slash | inParts
    · exact absurd (List.eq_of_mem_replicate slash) notSlash
    · rcases Text.mem_joinWith inParts with slash | ⟨part, isPart, inPart⟩
      · exact absurd (List.mem_singleton.1 slash) notSlash
      · exact Text.mem_of_mem_splitOn (List.mem_of_mem_filter isPart) inPart

namespace CommandLine

variable {c : Char}

theorem mem_unlines (control : isControl c) {rows : List Text} :
    c ∈ unlines rows ↔ ∃ row ∈ rows, c ∈ row := by
  have notFeed := ne_of_control (d := '\n') control (by decide)
  simp [unlines, notFeed]

namespace Report

theorem isSafe_relativeText {parts : List Text} (safe : ∀ part ∈ parts, IsSafe part) :
    IsSafe (Path.relativeText parts) := by
  unfold Path.relativeText
  split_ifs
  · decide
  · exact isSafe_joinWith (by decide) safe

theorem isSafe_absoluteText {p : Path} (safe : ∀ part ∈ p.parts, IsSafe part) :
    IsSafe p.absoluteText :=
  isSafe_cons.2 ⟨by decide, isSafe_joinWith (by decide) safe⟩

theorem isSafe_pathText {p : Path} (safe : ∀ part ∈ p.parts, IsSafe part) (roots : List Path) :
    IsSafe (pathText roots p) := by
  unfold pathText
  split
  · next root _ =>
    unfold Path.textFrom Path.partsFrom?
    split_ifs
    · exact isSafe_relativeText fun part isPart => safe part (List.mem_of_mem_drop isPart)
    · exact isSafe_absoluteText safe
  · exact isSafe_absoluteText safe

theorem isSafe_ordinal (n : Nat) : IsSafe (ordinal n) :=
  isSafe_ofNat (n + 1)

section

variable {s : Scene} (named : s.workspace.files.HasSafeNames) {l : Location}
  (isFile : s.workspace.files.isFile l.path)

include named isFile

/-- In front of the text of a row stands its place, which is safe. -/
theorem mem_textRow (control : isControl c) (text : Text) :
    c ∈ textRow s l text ↔ c ∈ text := by
  let place : Text := pathText (s.context.configs.map (·.root)) l.path ++ ':' :: ordinal l.line ++
    ':' :: ordinal l.start ++ [':', ' ']
  have safe : IsSafe place := by
    have colon : isControl ':' = false := by decide
    have space : isControl ' ' = false := by decide
    simp [place, isSafe_pathText (named.of_isFile isFile), isSafe_ordinal, colon, space]
  have isRow : textRow s l text = place ++ text := by simp [textRow, place]
  rw [isRow, safe.mem_append control]

theorem isSafe_textRow {text : Text} (safe : IsSafe text) : IsSafe (textRow s l text) := by
  intro c member
  by_contra control
  exact control (safe c ((mem_textRow named isFile (by simpa using control) text).1 member))

theorem isSafe_lineRow : IsSafe (lineRow s l) :=
  isSafe_textRow named isFile (isSafe_showLine _)

theorem mem_hoverRows (control : isControl c) (lines : List Text) :
    (∃ row ∈ hoverRows s ⟨l, lines⟩, c ∈ row) ↔ ∃ line ∈ lines, c ∈ line.trim := by
  have first := mem_textRow named isFile control
  have notSpace := ne_of_control (d := ' ') control (by decide)
  -- The declaration is the last line and stands in the first row, so lines are taken from the end.
  cases lines using List.reverseRecOn with
  | nil =>
    have nothing : Text.trim [] = [] := rfl
    simp [hoverRows, first, nothing]
  | append_singleton above last =>
    simp [hoverRows, first, notSpace, or_comm]

end

theorem isSafe_lensRow {s : Scene} (named : s.workspace.files.HasSafeNames) {lens : Scene.Lens}
    (isFile : s.workspace.files.isFile lens.location.path) : IsSafe (lensRow s lens) := by
  refine isSafe_textRow named isFile ?_
  rw [isSafe_append, isSafe_append]
  refine ⟨⟨isSafe_ofNat _, by decide⟩, ?_⟩
  split_ifs <;> decide

theorem isSafe_rangeRow {s : Scene} (named : s.workspace.files.HasSafeNames) {p : Path}
    (isFile : s.workspace.files.isFile p) (r : Scene.FoldingRange) : IsSafe (rangeRow s p r) := by
  have colon : isControl ':' = false := by decide
  have dash : isControl '-' = false := by decide
  simp [rangeRow, isSafe_pathText (named.of_isFile isFile), isSafe_ordinal, colon, dash]

/-- What a row of the outline shows as it is, is the detail of its symbol. -/
theorem mem_symbolRow (control : isControl c) {symbol : Symbol} (safe : IsSafe symbol.name)
    (depth : Nat) : c ∈ symbolRow depth symbol ↔ c ∈ symbol.detail := by
  have kind : IsSafe symbol.kind.text := by
    cases symbol.kind <;> decide
  have head : IsSafe (List.replicate (2 * depth) ' ' ++ symbol.kind.text.padRight 8 ++
      " L".toList ++ (ordinal symbol.line).padLeft 5 ++ "  ".toList ++ symbol.name) := by
    have gap : IsSafe "  ".toList := by decide
    have mark : IsSafe " L".toList := by decide
    simp only [isSafe_append]
    exact ⟨⟨⟨⟨⟨isSafe_replicate (by decide) _, isSafe_padRight kind 8⟩, mark⟩,
      isSafe_padLeft (isSafe_ordinal _) 5⟩, gap⟩, safe⟩
  rw [symbolRow, head.mem_append control]
  split_ifs with empty
  · rw [List.isEmpty_iff.1 empty]
  · exact IsSafe.mem_append (by decide) control

mutual

theorem mem_treeRows (control : isControl c) (depth : Nat) :
    ∀ tree : SymbolTree, (∀ symbol ∈ tree.walk, IsSafe symbol.name) →
      ((∃ row ∈ treeRows depth tree, c ∈ row) ↔ ∃ symbol ∈ tree.walk, c ∈ symbol.detail)
  | .node symbol children, safe => by
    obtain ⟨own, below⟩ := List.forall_mem_cons.1 safe
    simp only [treeRows, SymbolTree.walk, List.exists_mem_cons_iff, mem_symbolRow control own,
      mem_forestRows control (depth + 1) children below]

/-- The outline shows the details of its symbols as they are, and nothing else. -/
theorem mem_forestRows (control : isControl c) (depth : Nat) :
    ∀ forest : SymbolForest, (∀ symbol ∈ forest.walk, IsSafe symbol.name) →
      ((∃ row ∈ forestRows depth forest, c ∈ row) ↔ ∃ symbol ∈ forest.walk, c ∈ symbol.detail)
  | [], _ => by simp [forestRows, SymbolForest.walk]
  | tree :: rest, safe => by
    obtain ⟨first, others⟩ := List.forall_mem_append.1 safe
    simp only [forestRows, SymbolForest.walk, List.mem_append, or_and_right, exists_or,
      mem_treeRows control depth tree first, mem_forestRows control depth rest others]

end

end Report

/-- A control character does not appear on the terminal, except in the output, and there if and only
    if it is `shown`. -/
structure Outcome.Shows (outcome : Outcome) (c : Char) (shown : Prop) : Prop where
  output : c ∈ outcome.output ↔ shown
  notes : c ∉ outcome.notes
  message : ∀ message, outcome.exit = .failure message → c ∉ message

variable {patience : Patience} {outcome : Outcome}

theorem Outcome.Shows.congr {shown other : Prop} (shows : outcome.Shows c shown)
    (same : shown ↔ other) : outcome.Shows c other :=
  ⟨shows.output.trans same, shows.notes, shows.message⟩

/-- What stands in the rows of an answer. -/
theorem shows_of_rowsOf {α : Type} {answer : Task (Option α)} {rows : α → List Text}
    (control : isControl c) (ran : ((rowsOf answer rows).start patience).1 = .ok outcome) :
    outcome.Shows c (∃ found, (answer.start patience).1 = .ok (some found) ∧
      ∃ row ∈ rows found, c ∈ row) := by
  rw [rowsOf, Task.start_map] at ran
  obtain ⟨answered, isAnswer, rfl⟩ := exists_of_map_eq_ok ran
  refine ⟨?_, List.not_mem_nil, by simp⟩
  rw [isAnswer]
  cases answered with
  | none => simp [unlines]
  | some found => simp [mem_unlines control]

/-- Rows that are safe. -/
theorem shows_of_safe_rows {α : Type} {answer : Task (Option α)} {rows : α → List Text}
    (control : isControl c)
    (safe : ∀ found, (answer.start patience).1 = .ok (some found) → ∀ row ∈ rows found, IsSafe row)
    (ran : ((rowsOf answer rows).start patience).1 = .ok outcome) : outcome.Shows c False := by
  refine (shows_of_rowsOf control ran).congr (iff_false_intro ?_)
  rintro ⟨found, answered, row, isRow, member⟩
  exact ne_of_control control (safe found answered row isRow c member) rfl

/-- A name that cannot be listed ends a task with a safe message. -/
theorem cases_of_refusingBadNames {task : Task Outcome}
    (ran : ((refusingBadNames task).start patience).1 = .ok outcome) :
    (task.start patience).1 = .ok outcome ∨
      outcome = { exit := .failure "embedded null byte".toList } := by
  rw [Task.start, refusingBadNames, Task.tryCatch_apply] at ran
  rw [Task.start]
  rcases result : task ⟨patience, []⟩ with ⟨halt | given, after⟩ <;> rw [result] at ran
  · rcases halt with _ | failure
    · cases ran
    · cases failure with
      | badName => exact .inr (Except.ok.inj ran).symm
      | _ => cases ran
  · exact .inl ran

theorem shows_of_message {message : Text} (control : isControl c) (safe : IsSafe message) :
    Outcome.Shows { exit := .failure message } c False := by
  refine ⟨by simp, List.not_mem_nil, ?_⟩
  intro other isMessage member
  obtain rfl := Exit.failure.inj isMessage
  exact ne_of_control control (safe c member) rfl

/-- The control characters that get through to the output of a query: those of operands in an
    outline, of lines in a hover text, and of a query for symbols. -/
def Query.LetsThrough (s : Scene) (p : Path) (patience : Patience) (c : Char) : Query → Prop
  | .outline =>
    ∃ forest, s.outline p = some forest ∧ ∃ symbol ∈ SymbolForest.walk forest, c ∈ symbol.detail
  | .hover line column =>
    ∃ found, ((s.hover p (place line column)).start patience).1 = .ok (some found) ∧
      ∃ h ∈ found, ∃ text ∈ h.lines, c ∈ text.trim
  | .symbols query =>
    c ∈ query ∧ ∃ found, ((s.symbols query).start patience).1 = .ok found ∧
      ∃ e ∈ found, c ∈ e.name
  | _ => False

/-- What is settled at once ends as it is settled. -/
theorem ok_of_ofExcept {α : Type} {result : Except Failure α} {a : α}
    (ended : ((Task.ofExcept result).start patience).1 = .ok a) : result = .ok a := by
  cases result with
  | error e => cases ended
  | ok given => exact congrArg _ (Except.ok.inj ended)

/-- An outline that is shown is the outline of the file. -/
theorem outline_of_shownOutline {s : Scene} {p : Path} {shown : Option SymbolForest}
    (ended : shownOutline s p = .ok shown) : s.outline p = shown := by
  unfold shownOutline at ended
  cases outlined : s.outline p with
  | none =>
    rw [outlined] at ended
    exact Except.ok.inj ended
  | some forest =>
    simp only [outlined] at ended
    split_ifs at ended
    exact Except.ok.inj ended

/-- An outline shows the details of its symbols. -/
theorem shows_of_outline {s : Scene} {p : Path} (control : isControl c)
    (ran : ((answerQuery s p .outline).start patience).1 = .ok outcome) :
    outcome.Shows c (Query.outline.LetsThrough s p patience c) := by
  obtain ⟨shown, ended, _⟩ := exists_of_map_eq_ok ((Task.start_map _ _ patience).symm.trans ran)
  have isOutline := outline_of_shownOutline (ok_of_ofExcept ended)
  refine (shows_of_rowsOf control ran).congr (exists_congr fun forest => ?_)
  rw [ended, Except.ok.injEq, isOutline]
  refine and_congr_right fun outlined => ?_
  exact Report.mem_forestRows control 0 forest (Scene.isSafe_of_outline (isOutline.trans outlined))

/-- Ranges are found in a file that is read. -/
theorem isFile_of_folding {s : Scene} {p : Path} {found : List Scene.FoldingRange}
    (answered : s.folding p = .ok (some found)) : s.workspace.files.isFile p := by
  unfold Scene.folding at answered
  split at answered
  · cases answered
  · next opened => exact Scene.isFile_of_open opened

section

variable {s : Scene} {p : Path} (named : s.workspace.files.HasSafeNames) (control : isControl c)

include named control

theorem shows_of_definition {line column : Nat}
    (ran : ((answerQuery s p (.definition line column)).start patience).1 = .ok outcome) :
    outcome.Shows c False := by
  rw [answerQuery, definitionRows, Task.start_map] at ran
  obtain ⟨answered, isAnswer, rfl⟩ := exists_of_map_eq_ok ran
  have rows : ∀ l ∈ (answered.getD {}).locations ++ (answered.getD {}).ambiguous,
      c ∉ Report.lineRow s l := by
    cases answered with
    | none => simp
    | some r =>
      intro l isLocation member
      have isFile := Scene.isFile_of_definition isAnswer l isLocation
      exact ne_of_control control (Report.isSafe_lineRow named isFile c member) rfl
  -- The best definition goes to the output, those that are as good go to the notes.
  obtain ⟨found, others⟩ := List.forall_mem_append.1 rows
  refine ⟨?_, ?_, by simp⟩
  · simpa [mem_unlines control] using found
  · rw [mem_unlines control]
    rintro ⟨row, isRow, member⟩
    obtain ⟨l, isOther, rfl⟩ := List.mem_map.1 isRow
    exact others l isOther ((IsSafe.mem_append (by decide) control).1 member)

theorem shows_of_rename {line column : Nat} {name : Text}
    (ran : ((answerQuery s p (.rename line column name)).start patience).1 = .ok outcome) :
    outcome.Shows c False := by
  rw [answerQuery] at ran
  cases accepted : s.rename p (place line column) name with
  | error e =>
    rw [accepted] at ran
    obtain rfl := Except.ok.inj ran
    exact shows_of_message control e.isSafe_message
  | ok edits =>
    rw [accepted] at ran
    have safeName : IsSafe name := by
      unfold Scene.rename at accepted
      split_ifs at accepted with isName
      exact Scene.isSafe_of_newName isName
    rcases cases_of_refusingBadNames ran with ran | rfl
    · refine shows_of_safe_rows control ?_ ran
      intro found answered row isRow
      obtain ⟨file, isFile, inFile⟩ := List.mem_flatMap.1 isRow
      obtain ⟨e, isEdit, rfl⟩ := List.mem_map.1 inFile
      obtain ⟨there, isName⟩ :=
        Scene.isFile_of_rename accepted answered file (List.mem_mergeSort.1 isFile) e isEdit
      rw [isName]
      exact Report.isSafe_textRow named there (isSafe_append.2 ⟨by decide, safeName⟩)
    · exact shows_of_message control (by decide)

/-- A hover text shows its lines, without the blanks around them. -/
theorem shows_of_hover {line column : Nat}
    (ran : ((answerQuery s p (.hover line column)).start patience).1 = .ok outcome) :
    outcome.Shows c ((Query.hover line column).LetsThrough s p patience c) := by
  refine (shows_of_rowsOf control ran).congr
    (exists_congr fun found => and_congr_right fun answered => ?_)
  have rows : ∀ h ∈ found, (∃ row ∈ Report.hoverRows s h, c ∈ row) ↔
      ∃ text ∈ h.lines, c ∈ text.trim := fun h isHover =>
    Report.mem_hoverRows named (Scene.isFile_of_hover answered h isHover) control h.lines
  constructor
  · rintro ⟨row, isRow, member⟩
    obtain ⟨h, isHover, inHover⟩ := List.mem_flatMap.1 isRow
    exact ⟨h, isHover, (rows h isHover).1 ⟨row, inHover, member⟩⟩
  · rintro ⟨h, isHover, shown⟩
    obtain ⟨row, inHover, member⟩ := (rows h isHover).2 shown
    exact ⟨row, List.mem_flatMap.2 ⟨h, isHover, inHover⟩, member⟩

/-- A search for symbols shows names, and their control characters are those of the query. -/
theorem shows_of_symbols {query : Text}
    (ran : ((answerQuery s p (.symbols query)).start patience).1 = .ok outcome) :
    outcome.Shows c ((Query.symbols query).LetsThrough s p patience c) := by
  have isAnswer : ∀ found, ((some <$> s.symbols query).start patience).1 = .ok (some found) ↔
      ((s.symbols query).start patience).1 = .ok found := by
    intro found
    rw [map_eq_pure_bind, Task.start_map]
    cases ((s.symbols query).start patience).1 <;> simp [Except.map]
  refine (shows_of_rowsOf control ran).congr ⟨?_, ?_⟩
  · rintro ⟨found, answered, row, isRow, member⟩
    have answered := (isAnswer found).1 answered
    obtain ⟨e, isDeclared, rfl⟩ := List.mem_map.1 isRow
    obtain ⟨isFile, ofQuery⟩ := Scene.isFile_of_symbols answered e isDeclared
    have inName := (Report.mem_textRow named isFile control _).1 member
    exact ⟨ofQuery c inName control, found, answered, e, isDeclared, inName⟩
  · rintro ⟨_, found, answered, e, isDeclared, inName⟩
    obtain ⟨isFile, _⟩ := Scene.isFile_of_symbols answered e isDeclared
    refine ⟨found, (isAnswer found).2 answered, _, List.mem_map_of_mem isDeclared, ?_⟩
    exact (Report.mem_textRow named isFile control _).2 inName

/-- What is printed for a query has the control characters that the query lets through, and no
    others. -/
theorem shows_of_answerQuery (query : Query)
    (ran : ((answerQuery s p query).start patience).1 = .ok outcome) :
    outcome.Shows c (query.LetsThrough s p patience c) := by
  cases query with
  | outline => exact shows_of_outline control ran
  | lenses =>
    refine shows_of_safe_rows control ?_ ran
    intro found answered row isRow
    obtain ⟨lens, isLens, rfl⟩ := List.mem_map.1 isRow
    exact Report.isSafe_lensRow named (Scene.isFile_of_lenses answered lens isLens)
  | folding =>
    refine shows_of_safe_rows control ?_ ran
    intro found answered row isRow
    obtain ⟨range, _, rfl⟩ := List.mem_map.1 isRow
    exact Report.isSafe_rangeRow named (isFile_of_folding (ok_of_ofExcept answered)) range
  | references line column included =>
    refine shows_of_safe_rows control ?_ ran
    intro found answered row isRow
    obtain ⟨l, isLocation, rfl⟩ := List.mem_map.1 isRow
    exact Report.isSafe_lineRow named (Scene.isFile_of_references answered l isLocation)
  | definition line column => exact shows_of_definition named control ran
  | complete line column =>
    refine shows_of_safe_rows control ?_ ran
    intro found answered
    exact Scene.isSafe_of_complete answered
  | hover line column => exact shows_of_hover named control ran
  | rename line column name => exact shows_of_rename named control ran
  | symbols query => exact shows_of_symbols named control ran
  | unreferenced =>
    refine shows_of_safe_rows control ?_ ran
    intro found answered row isRow
    obtain ⟨e, isDeclared, rfl⟩ := List.mem_map.1 isRow
    obtain ⟨isFile, safe⟩ := Scene.isFile_of_unreferenced answered e isDeclared
    exact Report.isSafe_textRow named isFile safe

end

namespace Arguments

/-- The place that is asked about. -/
def target? (here : Path) (a : Arguments) : Option Path :=
  a.file.map fun file => (WrittenPath.ofText file).resolve here

/-- What the query is answered for. -/
def scene (w : Workspace) (here : Path) (a : Arguments) : Scene :=
  ⟨w, Context.build w.files w.userSettings (rootsFor w here a.roots (a.target? here))⟩

end Arguments

/-- A command line asks a query. If it names a file, then one that is there. -/
structure Asks (w : Workspace) (here : Path) (words : List Text) (a : Arguments) (query : Query) :
    Prop where
  read : Arguments.read words = .ok a
  isQuery : a.query = some query
  isThere : ∀ file, a.file = some file →
    ∃ t, (WrittenPath.ofText file).visit w.files here = .ok t

variable {w : Workspace} {here : Path} {words : List Text}

theorem Asks.unique {a a' : Arguments} {query query' : Query} (asks : Asks w here words a query)
    (asks' : Asks w here words a' query') : a = a' ∧ query = query' := by
  obtain rfl := Except.ok.inj (asks.read.symm.trans asks'.read)
  exact ⟨rfl, Option.some.inj (asks.isQuery.symm.trans asks'.isQuery)⟩

/-- A query was asked, and the outcome is that of the query. -/
def Answered (w : Workspace) (here : Path) (words : List Text) (patience : Patience)
    (outcome : Outcome) : Prop :=
  ∃ a query, Asks w here words a query ∧ ((answerQuery (a.scene w here)
    ((a.target? here).getD here) query).start patience).1 = .ok outcome

/-- Nothing is asked, and the run ends without output. At most it says which path is not there. -/
structure Unasked (w : Workspace) (here : Path) (words : List Text) (outcome : Outcome) : Prop where
  not_asks : ∀ a query, ¬Asks w here words a query
  output : outcome.output = []
  notes : outcome.notes = []
  message : ∀ message, outcome.exit = .failure message →
    ∃ a file, Arguments.read words = .ok a ∧ a.file = some file ∧
      message = "Path not found: ".toList ++ (WrittenPath.ofText file).text

theorem unasked_of_exit {exit : Exit} (none : ∀ a query, ¬Asks w here words a query)
    (noFailure : ∀ message, exit ≠ .failure message) : Unasked w here words { exit } :=
  ⟨none, rfl, rfl, fun message isFailure => absurd isFailure (noFailure message)⟩

theorem not_asks_of_refused {refusal : Refusal} (refused : Arguments.read words = .error refusal)
    (a : Arguments) (query : Query) : ¬Asks w here words a query := by
  intro asks
  exact nomatch refused.symm.trans asks.read

/-- Once the words are read and the file is there, only the query may be missing. -/
theorem cases_of_runAt {a : Arguments} (read : Arguments.read words = .ok a)
    (isThere : ∀ file, a.file = some file →
      ∃ t, (WrittenPath.ofText file).visit w.files here = .ok t)
    (ran : ((runAt w here a (a.target? here)).start patience).1 = .ok outcome) :
    Answered w here words patience outcome ∨ Unasked w here words outcome := by
  unfold runAt at ran
  split_ifs at ran
  · cases ran
  · split at ran
    · next noQuery =>
      obtain rfl := Except.ok.inj ran
      refine .inr (unasked_of_exit (fun a' query asks => ?_) (by simp))
      obtain rfl := Except.ok.inj (read.symm.trans asks.read)
      exact nomatch noQuery.symm.trans asks.isQuery
    · next query isQuery => exact .inl ⟨a, query, ⟨read, isQuery, isThere⟩, ran⟩

/-- A run that ends answers a query, or nothing was asked. -/
theorem cases_of_run (ran : ((run w here words).start patience).1 = .ok outcome) :
    Answered w here words patience outcome ∨ Unasked w here words outcome := by
  unfold run at ran
  split at ran
  · next refused =>
    obtain rfl := Except.ok.inj ran
    exact .inr (unasked_of_exit (not_asks_of_refused refused) (by simp))
  · next refused =>
    obtain rfl := Except.ok.inj ran
    exact .inr (unasked_of_exit (not_asks_of_refused refused) (by simp))
  · next a read =>
    split at ran
    · next noFile =>
      refine cases_of_runAt read (by simp [noFile]) ?_
      rw [Arguments.target?, noFile]
      exact ran
    · next file isFile =>
      simp only at ran
      split at ran
      · next t visited =>
        refine cases_of_runAt read ?_ ?_
        · intro other isOther
          obtain rfl := Option.some.inj (isFile.symm.trans isOther)
          exact ⟨t, visited⟩
        · rw [Arguments.target?, isFile]
          exact ran
      · cases ran
      · cases ran
      · next visited =>
        obtain rfl := Except.ok.inj ran
        refine .inr ⟨fun a' query asks => ?_, rfl, rfl, ?_⟩
        · obtain rfl := Except.ok.inj (read.symm.trans asks.read)
          obtain ⟨t, isThere⟩ := asks.isThere file isFile
          exact nomatch visited.symm.trans isThere
        · intro message failed
          exact ⟨a, file, read, isFile, (Exit.failure.inj failed).symm⟩

/-- Which control characters a run prints, where no file or folder has one in its name. In the
    output they are those that the query lets through; among the notes there is none; and a message
    about a failure has none, unless it names a path that is not there, and the path has it. -/
theorem control_characters_printed (named : w.files.HasSafeNames)
    (ran : ((run w here words).start patience).1 = .ok outcome) (control : isControl c) :
    (c ∈ outcome.output ↔ ∃ a query, Asks w here words a query ∧
      query.LetsThrough (a.scene w here) ((a.target? here).getD here) patience c) ∧
    c ∉ outcome.notes ∧
    ∀ message, outcome.exit = .failure message → c ∈ message →
      ∃ a file, Arguments.read words = .ok a ∧ a.file = some file ∧
        message = "Path not found: ".toList ++ (WrittenPath.ofText file).text ∧ c ∈ file := by
  rcases cases_of_run ran with ⟨a, query, asks, answered⟩ | unasked
  · have shows := shows_of_answerQuery (s := a.scene w here) named control query answered
    refine ⟨?_, shows.notes, fun message failed member => absurd member (shows.message _ failed)⟩
    rw [shows.output]
    constructor
    · intro through
      exact ⟨a, query, asks, through⟩
    · rintro ⟨a', query', asks', through⟩
      obtain ⟨rfl, rfl⟩ := asks.unique asks'
      exact through
  · refine ⟨?_, ?_, ?_⟩
    · rw [unasked.output]
      simp [unasked.not_asks]
    · simp [unasked.notes]
    · intro message failed member
      obtain ⟨a, file, read, isFile, isMessage⟩ := unasked.message message failed
      refine ⟨a, file, read, isFile, isMessage, ?_⟩
      rw [isMessage, IsSafe.mem_append (by decide) control] at member
      exact WrittenPath.mem_of_mem_text control member

/-- A file with an escape character in a comment and in an operand. -/
def escapes : Workspace :=
  { files := .folder
      [("a.asm".toList, .file "; \x1b[2J\ngo: db \"\x1b\"".toUTF8)] }

theorem escapes_hasSafeNames : escapes.files.HasSafeNames :=
  FileTree.hasSafeNames_of_file (by decide) _

/-- A command line that hovers over the label. -/
def hoverWords : List Text :=
  ["hover", "a.asm", "2", "1"].map String.toList

theorem escapes_hover : ((run escapes ⟨[]⟩ hoverWords).start none).1 =
    .ok { output := "a.asm:2:1: go: db \"\x1b\"\n    ; \x1b[2J\n".toList } := by
  decide +kernel

/-- What hovering over the label prints is what the query lets through. -/
theorem escapes_hover_lets_through :
    escapes.files.HasSafeNames ∧
      ((run escapes ⟨[]⟩ hoverWords).start none).1 =
        .ok { output := "a.asm:2:1: go: db \"\x1b\"\n    ; \x1b[2J\n".toList } ∧
      isControl '\x1b' ∧
      ∃ a query, Asks escapes ⟨[]⟩ hoverWords a query ∧
        query.LetsThrough (a.scene escapes ⟨[]⟩) ((a.target? ⟨[]⟩).getD ⟨[]⟩) none '\x1b' := by
  have control : isControl '\x1b' := by decide
  obtain ⟨printed, _⟩ := control_characters_printed escapes_hasSafeNames escapes_hover control
  exact ⟨escapes_hasSafeNames, escapes_hover, control, printed.1 (by decide)⟩

/-- Hovering over the label and the outline print the escape characters as they are. -/
theorem escapes_printed :
    escapes.files.HasSafeNames ∧ isControl '\x1b' ∧
      ((run escapes ⟨[]⟩ hoverWords).start none).1 =
        .ok { output := "a.asm:2:1: go: db \"\x1b\"\n    ; \x1b[2J\n".toList } ∧
      ((run escapes ⟨[]⟩ (["outline", "a.asm"].map String.toList)).start none).1 =
        .ok { output := "field    L    2  go  db \"\x1b\"\n".toList } :=
  ⟨escapes_hasSafeNames, by decide, escapes_hover, by decide +kernel⟩

end CommandLine

end AsmAtlas
