import AsmAtlas.Proofs.LabelShape
import AsmAtlas.Reference.Occurrence
import AsmAtlas.Request.Rename

/-!
# What names are made of

A pattern says of every character that it consumes which class it is from. So what a group of a
match holds is known by the bodies that the group has in the pattern, whatever stands around it. The
names that the outline shows are made of label characters. A new name for a label is an identifier,
but the end of a line is also seen before a line feed that ends the text.
-/

namespace AsmAtlas

namespace Pattern

open Cursor

/-- Every character that a pattern consumes is one that `holds`. Repetitions from the shortest on
    are left out. -/
def TakesOnly (holds : Char → Prop) : Pattern → Prop
  | char accepts => ∀ c, accepts c → holds c
  | many accepts => ∀ c, accepts c → holds c
  | few _ => False
  | seq p q => p.TakesOnly holds ∧ q.TakesOnly holds
  | alt p q => p.TakesOnly holds ∧ q.TakesOnly holds
  | group _ p => p.TakesOnly holds
  | _ => True

/-- The bodies that a group has in a pattern. What is only looked at is not noted. -/
def bodies (g : Group) : Pattern → List Pattern
  | seq p q => p.bodies g ++ q.bodies g
  | alt p q => p.bodies g ++ q.bodies g
  | group h p => (if h = g then [p] else []) ++ p.bodies g
  | _ => []

variable {holds : Char → Prop} {p : Pattern} {line : Text} {here there : Cursor} {g : Group}
  {span : Span}

theorem between_of_takesOnly (only : p.TakesOnly holds) (member : there ∈ p.ends here) :
    ∃ run, Between p.groups here run there ∧ ∀ c ∈ run, holds c := by
  have still : ∀ {groups : List Group} {here there : Cursor}, there = here →
      ∃ run, Between groups here run there ∧ ∀ c ∈ run, holds c := by
    rintro groups here _ rfl
    exact ⟨[], .refl _ _, by simp⟩
  induction p generalizing here there with
  | never => simp [ends] at member
  | empty => exact still (List.mem_singleton.1 member)
  | char accepts =>
    obtain ⟨c, rest, follows, accepted, rfl⟩ := mem_ends_char.1 member
    refine ⟨[c], .step follows, ?_⟩
    simpa using only c accepted
  | many accepts =>
    obtain ⟨run, between, all⟩ := between_of_mem_manyEnds rfl member
    exact ⟨run, between, fun c inRun => only c (all c inRun)⟩
  | few accepts => exact absurd only id
  | seq p q ihp ihq =>
    obtain ⟨middle, inFirst, inSecond⟩ := List.mem_flatMap.1 member
    obtain ⟨run, first, holdsFirst⟩ := ihp only.1 inFirst
    obtain ⟨more, second, holdsSecond⟩ := ihq only.2 inSecond
    refine ⟨run ++ more, (first.mono (List.subset_append_left _ _)).trans
      (second.mono (List.subset_append_right _ _)), ?_⟩
    intro c inBoth
    exact (List.mem_append.1 inBoth).elim (holdsFirst c) (holdsSecond c)
  | alt p q ihp ihq =>
    rcases List.mem_append.1 member with inFirst | inSecond
    · obtain ⟨run, first, holdsFirst⟩ := ihp only.1 inFirst
      exact ⟨run, first.mono (List.subset_append_left _ _), holdsFirst⟩
    · obtain ⟨run, second, holdsSecond⟩ := ihq only.2 inSecond
      exact ⟨run, second.mono (List.subset_append_right _ _), holdsSecond⟩
  | group g p ih =>
    obtain ⟨stop, inBody, rfl⟩ := List.mem_map.1 member
    obtain ⟨run, between, holdsRun⟩ := ih only inBody
    exact ⟨run, between.note g _, holdsRun⟩
  | ahead p => exact still (eq_of_mem_ends_ahead member)
  | notAhead p => exact still (eq_of_mem_ite member)
  | notBehind accepts => exact still (eq_of_mem_ite_not member)
  | wordEdge => exact still (eq_of_mem_ite member)
  | lineStart => exact still (eq_of_mem_ends_lineStart member)
  | lineEnd => exact still (eq_of_mem_ite member)
  | textEnd => exact still (eq_of_mem_ite member)

/-- The characters of the line that such a pattern consumes. -/
theorem holds_of_takesOnly (only : p.TakesOnly holds) (on : here.IsOn line)
    (member : there ∈ p.ends here) : ∀ c ∈ line.slice here.column there.column, holds c := by
  obtain ⟨run, between, holdsRun⟩ := between_of_takesOnly only member
  rw [between.slice_eq on]
  exact holdsRun

/-- What a group notes is made of what its bodies consume. -/
theorem holds_of_noted (only : ∀ b ∈ p.bodies g, b.TakesOnly holds) (on : here.IsOn line)
    (member : there ∈ p.ends here) (noted : (g, span) ∈ there.noted) :
    (g, span) ∈ here.noted ∨ ∀ c ∈ span.of line, holds c := by
  have leaf : ∀ {p : Pattern} {here there : Cursor}, p.groups = [] → there ∈ p.ends here →
      (g, span) ∈ there.noted → (g, span) ∈ here.noted := by
    intro p here there none member noted
    rwa [noted_of_groups_eq_nil none member] at noted
  induction p generalizing here there with
  | seq p q ihp ihq =>
    obtain ⟨middle, inFirst, inSecond⟩ := List.mem_flatMap.1 member
    have onlyFirst := fun b isBody => only b (List.mem_append_left _ isBody)
    have onlySecond := fun b isBody => only b (List.mem_append_right _ isBody)
    rcases ihq onlySecond (isOn_of_mem_ends on inFirst) inSecond noted with earlier | holdsAll
    · exact ihp onlyFirst on inFirst earlier
    · exact .inr holdsAll
  | alt p q ihp ihq =>
    rcases List.mem_append.1 member with inFirst | inSecond
    · exact ihp (fun b isBody => only b (List.mem_append_left _ isBody)) on inFirst noted
    · exact ihq (fun b isBody => only b (List.mem_append_right _ isBody)) on inSecond noted
  | group h p ih =>
    obtain ⟨stop, inBody, rfl⟩ := List.mem_map.1 member
    rcases List.mem_cons.1 noted with isThis | earlier
    · obtain ⟨rfl, rfl⟩ := Prod.mk.inj isThis
      right
      exact holds_of_takesOnly (only p (by simp [bodies])) on inBody
    · exact ih (fun b isBody => only b (List.mem_append_right _ isBody)) on inBody earlier
  | ahead p => exact .inl (eq_of_mem_ends_ahead member ▸ noted)
  | notAhead p => exact .inl (eq_of_mem_ite member ▸ noted)
  | never => exact .inl (leaf rfl member noted)
  | empty => exact .inl (leaf rfl member noted)
  | char accepts => exact .inl (leaf rfl member noted)
  | many accepts => exact .inl (leaf rfl member noted)
  | few accepts => exact .inl (leaf rfl member noted)
  | notBehind accepts => exact .inl (leaf rfl member noted)
  | wordEdge => exact .inl (leaf rfl member noted)
  | lineStart => exact .inl (leaf rfl member noted)
  | lineEnd => exact .inl (leaf rfl member noted)
  | textEnd => exact .inl (leaf rfl member noted)

/-- A group of a match lies in the line and is made of what its bodies consume. -/
theorem group_of_matchStart {m : Match} (only : ∀ b ∈ p.bodies g, b.TakesOnly holds)
    (found : p.matchStart line = some m) (isSpan : m.group? g = some span) :
    span.start ≤ span.stop ∧ span.stop ≤ line.length ∧ ∀ c ∈ span.of line, holds c := by
  obtain ⟨there, member, noted⟩ := exists_end_of_group found isSpan
  obtain ⟨ordered, inLine⟩ := group_in_line found isSpan
  rcases holds_of_noted only (isOn_start line) member noted with before | holdsAll
  · simp [Cursor.start] at before
  · exact ⟨ordered, inLine, holdsAll⟩

theorem takesOnly_labelName : labelName.TakesOnly fun c => Occurrence.isLabelChar c := by
  refine ⟨⟨?_, trivial⟩, ?_, ?_⟩
  · intro c isMark
    rcases Bool.or_eq_true_iff.1 isMark with isAt | isDot
    · simp [Occurrence.isLabelChar, isAt]
    · simp [Occurrence.isLabelChar, isDot]
  · intro c starts
    simp [Occurrence.isLabelChar, isWordChar_of_isNameStart starts]
  · intro c ofName
    rcases Bool.or_eq_true_iff.1 ofName with word | dot
    · simp [Occurrence.isLabelChar, word]
    · simp [Occurrence.isLabelChar, dot]

theorem takesOnly_blockName : Directive.blockName.TakesOnly fun c => Occurrence.isLabelChar c := by
  refine ⟨?_, ?_⟩
  · intro c starts
    rcases Bool.or_eq_true_iff.1 starts with isAt | letter
    · simp [Occurrence.isLabelChar, isAt]
    · simp [Occurrence.isLabelChar, isWordChar_of_isNameStart letter]
  · intro c ofName
    rcases Bool.or_eq_true_iff.1 ofName with word | isAt
    · simp [Occurrence.isLabelChar, word]
    · simp [Occurrence.isLabelChar, isAt]

end Pattern

/-- A plain identifier: word characters, of which the first is an ASCII letter or underscore. -/
structure IsIdentifier (name : Text) : Prop where
  starts : name.head?.any isPlainStart
  ofWord : ∀ c ∈ name, isWordChar c

/-- A text that is taken for a new name. -/
structure IsNewName (name identifier feed : Text) : Prop where
  split : name = identifier ++ feed
  isIdentifier : IsIdentifier identifier
  isFeed : feed = [] ∨ feed = ['\n']

/-- The end of a line is seen at the end of the text and before a line feed that ends it. -/
theorem Pattern.mem_ends_lineEnd {here there : Cursor} :
    there ∈ lineEnd.ends here ↔ there = here ∧ (here.rest = [] ∨ here.rest = ['\n']) := by
  rw [ends]
  split_ifs with atEnd
  · simpa using fun _ => by simpa using atEnd
  · simpa using fun _ => by simpa using atEnd

open Pattern in
/-- New names are identifiers, with nothing or with one line feed behind them. -/
theorem Scene.newName_accepts_iff {name : Text} :
    newName.accepts name ↔ ∃ identifier feed, IsNewName name identifier feed := by
  rw [accepts_iff]
  constructor
  · rintro ⟨there, member⟩
    obtain ⟨begun, isStart, member⟩ := List.mem_flatMap.1 member
    obtain ⟨_, inFirst, member⟩ := List.mem_flatMap.1 member
    obtain ⟨stop, inRun, atEnd⟩ := List.mem_flatMap.1 member
    obtain rfl := eq_of_mem_ends_lineStart isStart
    obtain ⟨c, rest, follows, starts, rfl⟩ := mem_ends_char.1 inFirst
    obtain ⟨run, between, ofRun⟩ := between_of_mem_manyEnds rfl inRun
    refine ⟨c :: run, stop.rest, ?_, ⟨starts, ?_⟩, (mem_ends_lineEnd.1 atEnd).2⟩
    · rw [List.cons_append, ← between.rest]
      exact follows
    · exact List.forall_mem_cons.2 ⟨isWordChar_of_isPlainStart starts, ofRun⟩
  · rintro ⟨identifier, feed, rfl, ⟨starts, ofWord⟩, isFeed⟩
    obtain ⟨c, head, plain⟩ := (Option.any_eq_true _ _).1 starts
    obtain ⟨run, rfl⟩ := List.head?_eq_some_iff.1 head
    have begun : (Cursor.start (c :: run ++ feed)).advance c (run ++ feed) ∈
        (char isPlainStart).ends (.start (c :: run ++ feed)) :=
      mem_ends_char.2 ⟨c, run ++ feed, rfl, plain, rfl⟩
    obtain ⟨stop, inRun, left, -⟩ := exists_mem_ends_many
      (Cursor.rest_advance (.start (c :: run ++ feed)) c (run ++ feed))
      fun d inRun => ofWord d (List.mem_cons_of_mem c inRun)
    refine ⟨stop, List.mem_flatMap.2 ⟨_, List.mem_singleton_self _, List.mem_flatMap.2 ⟨_, begun,
      List.mem_flatMap.2 ⟨stop, inRun, ?_⟩⟩⟩⟩
    exact mem_ends_lineEnd.2 ⟨rfl, left ▸ isFeed⟩

end AsmAtlas
