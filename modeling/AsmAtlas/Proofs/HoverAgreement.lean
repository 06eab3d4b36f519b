import AsmAtlas.Proofs.Cancellation
import AsmAtlas.Proofs.CommentColumns
import AsmAtlas.Proofs.DefinitionChoice
import AsmAtlas.Proofs.SymbolReports
import Mathlib.Data.List.DropRight

/-!
# Hovering agrees with going to the definition

Both requests search for the same declarations and leave out the same ones, and only one of them
chooses among the rest. So the definition, and what is as good, is always among the declarations
that are shown. What is shown of one is its line as it is in the file, with the comment lines above.
-/

namespace AsmAtlas
namespace Scene

/-- A line whose first characters other than blanks open a comment up to its end. -/
def OpensComment (line : Text) : Prop :=
  ∃ blanks rest : Text, line = blanks ++ rest ∧ (∀ c ∈ blanks, isBlank c) ∧
    ([';'] <+: rest ∨ ['/', '/'] <+: rest)

theorem isCommentLine_iff (line : Text) : isCommentLine line ↔ OpensComment line := by
  have unfolded : isCommentLine line ↔
      [';'] <+: line.dropWhile isBlank ∨ ['/', '/'] <+: line.dropWhile isBlank := by
    simp [isCommentLine, Text.trimStart, Text.startsWith]
  rw [unfolded]
  constructor
  · intro opens
    exact ⟨line.takeWhile isBlank, line.dropWhile isBlank, List.takeWhile_append_dropWhile.symm,
      fun c member => List.mem_takeWhile_imp member, opens⟩
  · rintro ⟨blanks, rest, rfl, blank, opens⟩
    -- Neither mark is blank, so that exactly the blanks are dropped.
    have kept : rest.dropWhile isBlank = rest := by
      rcases opens with ⟨tail, rfl⟩ | ⟨tail, rfl⟩
      · exact List.dropWhile_cons_of_neg (by decide)
      · exact List.dropWhile_cons_of_neg (by decide)
    rw [List.dropWhile_append_of_pos blank, kept]
    exact opens

/-- A hover text shows a line of a file behind the longest run of comment lines that ends directly
    above it, each of them without the blanks at its end. -/
def HoverText.Shows (entry : HoverText) (lines : List Text) : Prop :=
  ∃ (above run below : List Text) (line : Text), lines = above ++ run ++ line :: below ∧
    entry.location.line = (above ++ run).length ∧
    entry.lines = (run ++ [line]).map Text.trimEnd ∧
    (∀ comment ∈ run, OpensComment comment) ∧
    ∀ last ∈ above.getLast?, ¬OpensComment last

theorem shows_commentBlock {lines : List Text} {l : Location} (inside : l.line < lines.length) :
    HoverText.Shows ⟨l, commentBlock lines l.line⟩ lines := by
  let before := lines.take l.line
  have split : lines = before ++ lines[l.line] :: lines.drop (l.line + 1) := by
    rw [List.getElem_cons_drop, List.take_append_drop]
  have length : before.length = l.line := List.length_take_of_le (Nat.le_of_lt inside)
  have runs : before.rdropWhile isCommentLine ++ before.rtakeWhile isCommentLine = before :=
    List.rdropWhile_append_rtakeWhile
  refine ⟨before.rdropWhile isCommentLine, before.rtakeWhile isCommentLine,
    lines.drop (l.line + 1), lines[l.line], ?_, ?_, ?_, ?_, ?_⟩
  · rw [runs]
    exact split
  · rw [runs]
    exact length.symm
  · have one : (lines.drop l.line).take 1 = [lines[l.line]] := by
      rw [List.drop_eq_getElem_cons inside, List.take_succ_cons, List.take_zero]
    change (before.rtakeWhile isCommentLine ++ (lines.drop l.line).take 1).map Text.trimEnd = _
    rw [one]
  · intro comment member
    exact (isCommentLine_iff comment).1 (List.mem_rtakeWhile_imp member)
  · intro last isLast opens
    have nonempty : before.rdropWhile isCommentLine ≠ [] := by
      intro empty
      simp [empty] at isLast
    obtain rfl : (before.rdropWhile isCommentLine).getLast nonempty = last := by
      simpa [List.getLast?_eq_some_getLast nonempty] using isLast
    exact List.rdropWhile_last_not isCommentLine before nonempty ((isCommentLine_iff _).2 opens)

end Scene

namespace Task

variable {α β : Type}

/-- What is made of the result of a task can be made after it was attempted. -/
theorem start_attempt_map (task : Task α) (f : α → β) (patience : Patience) :
    ((attempt (task >>= fun a => Pure.pure (f a))).start patience).1 =
      (task.attempt.start patience).1.map (Option.map f) := by
  simp only [start, attempt, bind_apply]
  rcases task ⟨patience, []⟩ with ⟨(_ | _) | _, _⟩ <;> rfl

/-- An answer is the one that comes when nobody stops the request. -/
theorem AllOrNothing.start_none {request : Task (Option α)} (whole : request.AllOrNothing)
    {patience : Patience} {a : α} (answered : (request.start patience).1 = .ok (some a)) :
    (request.start none).1 = .ok (some a) := by
  cases patience with
  | none => exact answered
  | some n =>
    rcases whole.nothing_or_all n with nothing | all
    · rw [nothing] at answered
      simp at answered
    · rw [← all]
      exact answered

end Task

/-- What a pattern finds is in a line of the document, and so in a line of its text. -/
theorem Workspace.line_lt_of_mem_find {w : Workspace} {q : Path} {d : Document} {p : Pattern}
    {f : Finding} (loaded : w.load? q = some d) (found : f ∈ d.find p) :
    ∃ text, w.text? f.location.path = some text ∧
      f.location.line < (text.splitOn '\n').length := by
  obtain ⟨n, line, m, isLine, _, rfl⟩ := Document.mem_findIn.1 found
  obtain ⟨text, isText, rfl⟩ := Option.map_eq_some_iff.1 loaded
  obtain ⟨raw, _, isRaw, _⟩ := Comment.exists_of_stripFrom isLine
  obtain ⟨inside, _⟩ := List.getElem?_eq_some_iff.1 isRaw
  refine ⟨text, isText, ?_⟩
  simpa [Finding.ofMatch] using inside

namespace Scene

variable {s : Scene} {p : Path} {c : Config} {d : Document} {found : Occurrence}
  {patience : Patience}

/-- Where both features are on, both requests open the same document. -/
theorem open_hovering_eq
    (enabled : ∀ c, s.context.configFor? p = some c → c.definition ∧ c.hovering) :
    s.open? p (·.hovering) = s.open? p (·.definition) := by
  unfold open? config?
  cases owner : s.context.configFor? p with
  | none => rfl
  | some c =>
    obtain ⟨definition, hovering⟩ := enabled c owner
    rw [Option.filter_some, Option.filter_some, if_pos definition, if_pos hovering]

/-- The declarations of a label are what the patterns for its word find in the files of a root. -/
theorem declarationsOf_gives {files : List Path}
    (collected : s.filesOf c = .ok files) (d : Document) (found : Occurrence) :
    (s.declarationsOf c d found).Gives
      (((files.filterMap s.workspace.load?).flatMap fun e => Search.tidy
        ((WordSearch.declarations (.exact found.word) d.dialect c.rules).flatMap e.find)).map
          Finding.candidate) :=
  (Workspace.search_gives_all collected _).bind (.pure _)

/-- They were found in lines of files that can be read. -/
theorem line_lt_of_declarationsOf {candidates : List Candidate}
    (answered : ((s.declarationsOf c d found).attempt.start patience).1 = .ok (some candidates))
    {candidate : Candidate} (member : candidate ∈ candidates) :
    ∃ text, s.workspace.text? candidate.location.path = some text ∧
      candidate.location.line < (text.splitOn '\n').length := by
  obtain ⟨hits, searched, made⟩ := (Task.CanGive.of_start answered).of_attempt.exists_of_bind
  obtain ⟨files, _, rfl⟩ := findings_of_search searched
  rw [← made.eq_of_pure] at member
  obtain ⟨f, isFinding, rfl⟩ := List.mem_map.1 member
  obtain ⟨e, isDocument, inDocument⟩ := List.mem_flatMap.1 isFinding
  obtain ⟨q, _, loaded⟩ := List.mem_filterMap.1 isDocument
  obtain ⟨pattern, _, byPattern⟩ := List.mem_flatMap.1 (Search.mem_of_mem_tidy inDocument)
  exact Workspace.line_lt_of_mem_find loaded byPattern

/-- The hover text of a line that is there. -/
theorem hoverText_eq {l : Location} {text : Text} (isText : s.workspace.text? l.path = some text)
    (inside : l.line < (text.splitOn '\n').length) :
    s.hoverText? l = some ⟨l, commentBlock (text.splitOn '\n') l.line⟩ := by
  simp [hoverText?, isText, inside]

/-- Whatever is left of the declarations has a hover text, which shows its line. -/
theorem exists_hoverText {position : Position} {candidates : List Candidate}
    (answered : ((s.declarationsOf c d found).attempt.start patience).1 = .ok (some candidates))
    {l : Location} (survives : l ∈ ((inquiry c d position).reduce candidates).locations) :
    ∃ text entry, s.workspace.text? l.path = some text ∧ s.hoverText? l = some entry ∧
      entry.location = l ∧ entry.Shows (text.splitOn '\n') := by
  obtain ⟨candidate, member, rfl⟩ := (inquiry c d position).exists_of_mem_reduce survives
  obtain ⟨text, isText, inside⟩ := line_lt_of_declarationsOf answered member
  exact ⟨text, _, isText, hoverText_eq isText inside, rfl, shows_commentBlock inside⟩

/-- Going to the definition agrees with hovering where both are switched on. They fail together and
    have no answer together. Otherwise there is a definition if and only if something is shown, it
    and what is as good are places of what is shown, and every hover text shows the line of its
    place as it is in the file, with exactly the comment lines above. -/
theorem hover_shows_definitions (position : Position) (patience : Patience)
    (enabled : ∀ c, s.context.configFor? p = some c → c.definition ∧ c.hovering) :
    (∃ e, ((s.definition p position).start patience).1 = .error e ∧
      ((s.hover p position).start patience).1 = .error e) ∨
    (((s.definition p position).start patience).1 = .ok none ∧
      ((s.hover p position).start patience).1 = .ok none) ∨
    ∃ r entries, ((s.definition p position).start patience).1 = .ok (some r) ∧
      ((s.hover p position).start patience).1 = .ok (some entries) ∧
      (r.locations ≠ [] ↔ entries ≠ []) ∧
      (∀ l ∈ r.locations ++ r.ambiguous, ∃ entry ∈ entries, entry.location = l) ∧
      ∀ entry ∈ entries, ∃ text, s.workspace.text? entry.location.path = some text ∧
        entry.Shows (text.splitOn '\n') := by
  unfold definition hover
  rw [open_hovering_eq enabled]
  cases opened : s.open? p (·.definition) with
  | none => exact .inr (.inl ⟨rfl, rfl⟩)
  | some pair =>
    obtain ⟨c, d⟩ := pair
    simp only
    by_cases outside : (d.lineAt? position.line).isNone
    · rw [if_pos outside, if_pos outside]
      exact .inr (.inl ⟨rfl, rfl⟩)
    · rw [if_neg outside, if_neg outside]
      cases subject? c d position with
      | none => exact .inr (.inr ⟨{}, [], rfl, rfl, by simp⟩)
      | some found =>
        unfold definitionOf hoverOf
        rw [Task.start_attempt_map, Task.start_attempt_map]
        rcases answered : ((s.declarationsOf c d found).attempt.start patience).1 with
          e | _ | candidates
        · exact .inl ⟨e, rfl, rfl⟩
        · exact .inr (.inl ⟨rfl, rfl⟩)
        · let q := inquiry c d position
          obtain ⟨empty, among⟩ := q.reduceUnique_of_reduce candidates
          have entryOf : ∀ l ∈ (q.reduce candidates).locations,
              ∃ entry ∈ (q.reduce candidates).locations.filterMap s.hoverText?,
                entry.location = l := by
            intro l survives
            obtain ⟨_, entry, _, isEntry, place, _⟩ := exists_hoverText answered survives
            exact ⟨entry, List.mem_filterMap.2 ⟨l, survives, isEntry⟩, place⟩
          refine .inr (.inr ⟨q.reduceUnique candidates,
            (q.reduce candidates).locations.filterMap s.hoverText?, rfl, rfl, ?_, ?_, ?_⟩)
          · rw [Ne, empty]
            constructor
            · intro nonempty none
              obtain ⟨l, survives⟩ := List.exists_mem_of_ne_nil _ nonempty
              obtain ⟨entry, isEntry, _⟩ := entryOf l survives
              rw [none] at isEntry
              exact absurd isEntry List.not_mem_nil
            · intro nonempty none
              rw [none] at nonempty
              exact nonempty rfl
          · intro l chosen
            exact entryOf l (among chosen)
          · intro entry isEntry
            obtain ⟨l, survives, made⟩ := List.mem_filterMap.1 isEntry
            obtain ⟨text, shown, isText, isShown, rfl, shows⟩ := exists_hoverText answered survives
            obtain rfl := Option.some.inj (isShown.symm.trans made)
            exact ⟨text, isText, shows⟩

/-- A label with two comment lines above it, the second of them indented. -/
def commented : String :=
  "on: nop ; a\n; b\n // c\ngo: ret ; d\n jp go"

/-- The definition of the label is shown with both comments, and not with the comment of the line
    above them. -/
theorem commented_hover_shows_definition :
    (((lone commented).definition lonePath ⟨4, 4⟩).start none).1 =
        .ok (some ⟨[⟨lonePath, 3, 0, 2⟩], []⟩) ∧
      (((lone commented).hover lonePath ⟨4, 4⟩).start none).1 =
        .ok (some [⟨⟨lonePath, 3, 0, 2⟩,
          ["; b".toList, " // c".toList, "go: ret ; d".toList]⟩]) ∧
      HoverText.Shows ⟨⟨lonePath, 3, 0, 2⟩, ["; b".toList, " // c".toList, "go: ret ; d".toList]⟩
        (commented.toList.splitOn '\n') := by
  have defined : (((lone commented).definition lonePath ⟨4, 4⟩).start none).1 =
      .ok (some ⟨[⟨lonePath, 3, 0, 2⟩], []⟩) := by decide +kernel
  have hovered : (((lone commented).hover lonePath ⟨4, 4⟩).start none).1 =
      .ok (some [⟨⟨lonePath, 3, 0, 2⟩,
        ["; b".toList, " // c".toList, "go: ret ; d".toList]⟩]) := by decide +kernel
  have isText : (lone commented).workspace.text? lonePath = some commented.toList := by
    decide +kernel
  refine ⟨defined, hovered, ?_⟩
  rcases hover_shows_definitions (s := lone commented) (p := lonePath) ⟨4, 4⟩ none
      (by rintro c owner; obtain rfl := Option.some.inj owner; decide) with
    ⟨e, fails, _⟩ | ⟨nothing, _⟩ | ⟨r, entries, isResult, isShown, _, _, each⟩
  · simp [defined] at fails
  · simp [defined] at nothing
  · obtain rfl := Option.some.inj (Except.ok.inj (hovered.symm.trans isShown))
    obtain ⟨text, hasText, shows⟩ := each _ List.mem_cons_self
    obtain rfl := Option.some.inj (isText.symm.trans hasText)
    exact shows

end Scene
end AsmAtlas
