import AsmAtlas.Proofs.AnswerOrigins
import AsmAtlas.Proofs.RenameEdits

/-!
# New names

A name is checked before anything else is looked at, so whether it is refused depends on nothing but
the name. All edits of a renaming put the name into files as it is. An identifier keeps the lines of
a file, but a line feed behind it is let through as well, and that one does not.
-/

namespace AsmAtlas

/-- Edits that insert identifiers keep the number of lines. -/
theorem FileEdits.length_lines {f : FileEdits} (identifiers : ∀ e ∈ f.edits, IsIdentifier e.newText)
    (text : Text) : ((f.applyToText text).splitOn '\n').length = (text.splitOn '\n').length := by
  rw [splitOn_applyToText, applyToLines, List.length_mapIdx]
  intro e isEdit c member
  exact Comment.isInert_of_isWordChar ((identifiers e isEdit).ofWord c member)

namespace Scene

variable {s : Scene} {p : Path} {position : Position} {name : Text}

/-- A name is refused for what it is, wherever it is to be put. -/
theorem rename_eq_error_iff :
    s.rename p position name = .error (.invalidName name) ↔ ¬newName.accepts name := by
  rw [rename]
  split_ifs with accepted <;> simp [accepted]

/-- A renaming is refused unless the name is an identifier, perhaps with a line feed behind it, and
    before anything else is looked at. Otherwise all its edits insert the name, and if it is an
    identifier, they keep the number of lines of every file. -/
theorem rename_inserts_new_names (s : Scene) (p : Path) (position : Position) (name : Text) :
    (s.rename p position name = .error (.invalidName name) ∧
        ¬∃ identifier feed, IsNewName name identifier feed) ∨
      ∃ task identifier feed, s.rename p position name = .ok task ∧
        IsNewName name identifier feed ∧
        ∀ patience files, (task.start patience).1 = .ok (some files) → ∀ file ∈ files,
          (∀ e ∈ file.edits, e.newText = name) ∧
          (feed = [] → ∀ text : Text,
            ((file.applyToText text).splitOn '\n').length = (text.splitOn '\n').length) := by
  by_cases accepted : newName.accepts name
  · right
    obtain ⟨identifier, feed, isNewName⟩ := newName_accepts_iff.1 accepted
    have isTask : s.rename p position name = .ok (s.editsFor p position name) := if_pos accepted
    refine ⟨_, identifier, feed, isTask, isNewName, fun patience files answered file isFile => ?_⟩
    have inserted : ∀ e ∈ file.edits, e.newText = name := fun e isEdit =>
      (isFile_of_rename isTask answered file isFile e isEdit).2
    refine ⟨inserted, fun noFeed text => FileEdits.length_lines (fun e isEdit => ?_) text⟩
    rw [inserted e isEdit, isNewName.split, noFeed, List.append_nil]
    exact isNewName.isIdentifier
  · exact .inl ⟨rename_eq_error_iff.2 accepted, mt newName_accepts_iff.2 accepted⟩

/-- A label and a jump to it. -/
def jumpBack : String :=
  "foo: nop\n jp foo\n"

/-- A line feed behind an identifier is let through, though it is no word character, and stands in
    each of the edits: two lines become four. -/
theorem jumpBack_gets_more_lines :
    ∃ task file,
      (lone jumpBack).rename lonePath ⟨0, 0⟩ "x\n".toList = .ok task ∧
        (task.start none).1 = .ok (some [file]) ∧
        file.edits = [loneEdit 0 0 3 "x\n", loneEdit 1 4 7 "x\n"] ∧
        ¬IsIdentifier "x\n".toList ∧
        file.applyToText jumpBack.toList = "x\n: nop\n jp x\n\n".toList ∧
        (jumpBack.toList.splitOn '\n').length = 3 ∧
        ((file.applyToText jumpBack.toList).splitOn '\n').length = 5 := by
  have text : (lone jumpBack).workspace.text? lonePath = some jumpBack.toList := by
    decide +kernel
  have located : (loneDocument jumpBack).occurrence? isWordChar ⟨0, 0⟩ =
      some ⟨"foo".toList, "foo".toList, 0, 3⟩ := by decide +kernel
  obtain ⟨task, accepted, answered⟩ := lone_rename "x\n"
    [⟨lonePath, [loneEdit 0 0 3 "x\n", loneEdit 1 4 7 "x\n"]⟩] (by decide +kernel) text located
    (by decide +kernel) (by decide +kernel) rfl (by decide +kernel)
  have noIdentifier : ¬IsIdentifier "x\n".toList := fun isIdentifier =>
    absurd (isIdentifier.ofWord '\n' (by decide)) (by decide +kernel)
  exact ⟨task, _, accepted, answered, rfl, noIdentifier, by decide +kernel, by decide +kernel,
    by decide +kernel⟩

end Scene
end AsmAtlas
