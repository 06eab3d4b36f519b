import AsmAtlas.Proofs.WordMatching

/-!
# Where matches lie

What a pattern consumes is a stretch of the line from the cursor on, so a match ends where it starts
or behind. The matches of a line are taken from left to right and do not overlap, and the only thing
that can hide a match is an earlier one that reaches beyond its start.
-/

namespace AsmAtlas

namespace Cursor

/-- The characters between two cursors of a line, on the way over which only some groups were
    noted. -/
structure Between (groups : List Group) (here : Cursor) (run : Text) (there : Cursor) : Prop where
  rest : here.rest = run ++ there.rest
  column : there.column = here.column + run.length
  noted : ∃ noted, there.noted = noted ++ here.noted ∧ ∀ n ∈ noted, n.1 ∈ groups

namespace Between

variable {groups larger : List Group} {here there farther : Cursor} {run more : Text}

theorem refl (groups : List Group) (here : Cursor) : Between groups here [] here :=
  ⟨rfl, rfl, [], rfl, by simp⟩

theorem step {c : Char} {rest : Text} (follows : here.rest = c :: rest) :
    Between groups here [c] (here.advance c rest) :=
  ⟨follows, rfl, [], rfl, by simp⟩

theorem mono (between : Between groups here run there) (subset : groups ⊆ larger) :
    Between larger here run there := by
  obtain ⟨noted, isNoted, inGroups⟩ := between.noted
  exact ⟨between.rest, between.column, noted, isNoted, fun n member => subset (inGroups n member)⟩

theorem trans (first : Between groups here run there) (second : Between groups there more farther) :
    Between groups here (run ++ more) farther := by
  obtain ⟨noted, isNoted, inGroups⟩ := first.noted
  obtain ⟨later, isLater, inGroupsLater⟩ := second.noted
  refine ⟨?_, ?_, later ++ noted, ?_, ?_⟩
  · rw [first.rest, second.rest, List.append_assoc]
  · rw [second.column, first.column, List.length_append, Nat.add_assoc]
  · rw [isLater, isNoted, List.append_assoc]
  · intro n member
    exact (List.mem_append.1 member).elim (inGroupsLater n) (inGroups n)

theorem note (between : Between groups here run there) (g : Group) (start : Nat) :
    Between (g :: groups) here run (there.note g start) := by
  obtain ⟨noted, isNoted, inGroups⟩ := between.noted
  refine ⟨between.rest, between.column, (g, ⟨start, there.column⟩) :: noted, ?_, ?_⟩
  · rw [Cursor.note, isNoted]
    rfl
  · intro n member
    rcases List.mem_cons.1 member with rfl | earlier
    · exact List.mem_cons_self
    · exact List.mem_cons_of_mem g (inGroups n earlier)

/-- Both are as far from the start as the end of the line leaves. -/
theorem column_add (between : Between groups here run there) :
    there.column + there.rest.length = here.column + here.rest.length := by
  rw [between.column, between.rest, List.length_append, Nat.add_assoc]

theorem column_le (between : Between groups here run there) : here.column ≤ there.column := by
  have := between.column
  omega

/-- Other groups are as they were. -/
theorem lookup_noted (between : Between groups here run there) {g : Group} (other : g ∉ groups) :
    there.noted.lookup g = here.noted.lookup g := by
  obtain ⟨noted, isNoted, inGroups⟩ := between.noted
  have absent : noted.lookup g = none := by
    rw [List.lookup_eq_none_iff]
    intro n member
    rw [bne_iff_ne]
    rintro rfl
    exact other (inGroups n member)
  rw [isNoted, List.lookup_append, absent, Option.none_or]

end Between

end Cursor

namespace Pattern

open Cursor

variable {here there : Cursor}

/-- A stretch of accepted characters lies before every end of a greedy repetition. -/
theorem between_of_mem_manyEnds {accepts : Char → Bool} {rest : Text} (follows : here.rest = rest)
    (member : there ∈ manyEnds accepts here rest) :
    ∃ run, Between [] here run there ∧ ∀ c ∈ run, accepts c := by
  induction rest generalizing here with
  | nil =>
    obtain rfl := List.mem_singleton.1 member
    exact ⟨[], .refl _ _, by simp⟩
  | cons c rest ih =>
    rw [manyEnds] at member
    split_ifs at member with accepted
    · rcases List.mem_append.1 member with longer | stops
      · obtain ⟨run, between, all⟩ := ih (here.rest_advance c rest) longer
        refine ⟨[c] ++ run, (Between.step follows).trans between, ?_⟩
        simpa using ⟨accepted, all⟩
      · obtain rfl := List.mem_singleton.1 stops
        exact ⟨[], .refl _ _, by simp⟩
    · obtain rfl := List.mem_singleton.1 member
      exact ⟨[], .refl _ _, by simp⟩

theorem between_of_mem_fewEnds {accepts : Char → Bool} {rest : Text} (follows : here.rest = rest)
    (member : there ∈ fewEnds accepts here rest) : ∃ run, Between [] here run there := by
  induction rest generalizing here with
  | nil =>
    obtain rfl := List.mem_singleton.1 member
    exact ⟨[], .refl _ _⟩
  | cons c rest ih =>
    rcases List.mem_cons.1 member with rfl | longer
    · exact ⟨[], .refl _ _⟩
    · split_ifs at longer with accepted
      · obtain ⟨run, between⟩ := ih (here.rest_advance c rest) longer
        exact ⟨[c] ++ run, (Between.step follows).trans between⟩
      · simp at longer

/-- A condition on the cursor consumes nothing. -/
theorem eq_of_mem_ite {holds : Prop} [Decidable holds]
    (member : there ∈ if holds then [here] else []) : there = here := by
  split_ifs at member
  · exact List.mem_singleton.1 member
  · simp at member

theorem eq_of_mem_ite_not {holds : Prop} [Decidable holds]
    (member : there ∈ if holds then [] else [here]) : there = here := by
  split_ifs at member
  · simp at member
  · exact List.mem_singleton.1 member

theorem eq_of_mem_ends_ahead {p : Pattern} (member : there ∈ (ahead p).ends here) : there = here :=
  eq_of_mem_ite_not member

theorem eq_of_mem_ends_lineStart (member : there ∈ lineStart.ends here) : there = here :=
  eq_of_mem_ite member

/-- A pattern consumes a stretch of what is left of the line, and notes no groups but its own. -/
theorem between_of_mem_ends {p : Pattern} (member : there ∈ p.ends here) :
    ∃ run, Between p.groups here run there := by
  have still : ∀ {groups : List Group} {here there : Cursor}, there = here →
      ∃ run, Between groups here run there := fun same => ⟨[], same ▸ .refl _ _⟩
  induction p generalizing here there with
  | never => simp [ends] at member
  | empty => exact still (List.mem_singleton.1 member)
  | char accepts =>
    simp only [ends] at member
    split at member
    · simp at member
    · next c rest follows =>
      split_ifs at member
      · exact ⟨[c], List.mem_singleton.1 member ▸ .step follows⟩
      · simp at member
  | many accepts =>
    obtain ⟨run, between, _⟩ := between_of_mem_manyEnds rfl member
    exact ⟨run, between⟩
  | few accepts => exact between_of_mem_fewEnds rfl member
  | seq p q ihp ihq =>
    obtain ⟨middle, inFirst, inSecond⟩ := List.mem_flatMap.1 member
    obtain ⟨run, first⟩ := ihp inFirst
    obtain ⟨more, second⟩ := ihq inSecond
    exact ⟨run ++ more, (first.mono (List.subset_append_left _ _)).trans
      (second.mono (List.subset_append_right _ _))⟩
  | alt p q ihp ihq =>
    rcases List.mem_append.1 member with inFirst | inSecond
    · obtain ⟨run, first⟩ := ihp inFirst
      exact ⟨run, first.mono (List.subset_append_left _ _)⟩
    · obtain ⟨run, second⟩ := ihq inSecond
      exact ⟨run, second.mono (List.subset_append_right _ _)⟩
  | group g p ih =>
    obtain ⟨stop, inBody, rfl⟩ := List.mem_map.1 member
    obtain ⟨run, between⟩ := ih inBody
    exact ⟨run, between.note g _⟩
  | ahead p => exact still (eq_of_mem_ends_ahead member)
  | notAhead p => exact still (eq_of_mem_ite member)
  | notBehind accepts => exact still (eq_of_mem_ite_not member)
  | wordEdge => exact still (eq_of_mem_ite member)
  | lineStart => exact still (eq_of_mem_ends_lineStart member)
  | lineEnd => exact still (eq_of_mem_ite member)
  | textEnd => exact still (eq_of_mem_ite member)

/-- A pattern without groups notes nothing. -/
theorem noted_of_groups_eq_nil {p : Pattern} (none : p.groups = []) (member : there ∈ p.ends here) :
    there.noted = here.noted := by
  obtain ⟨run, between⟩ := between_of_mem_ends member
  obtain ⟨noted, isNoted, inGroups⟩ := between.noted
  obtain rfl : noted = [] := by
    refine List.eq_nil_iff_forall_not_mem.2 fun n member => ?_
    simpa [none] using inGroups n member
  exact isNoted

/-- The groups that a pattern notes lie within what it consumes. -/
theorem note_of_mem_ends {p : Pattern} (member : there ∈ p.ends here) {n : Group × Span}
    (isNoted : n ∈ there.noted) :
    n ∈ here.noted ∨
      here.column ≤ n.2.start ∧ n.2.start ≤ n.2.stop ∧ n.2.stop ≤ there.column := by
  have leaf : ∀ {p : Pattern} {here there : Cursor}, p.groups = [] → there ∈ p.ends here →
      n ∈ there.noted → n ∈ here.noted := by
    intro p here there none member isNoted
    rwa [noted_of_groups_eq_nil none member] at isNoted
  induction p generalizing here there with
  | seq p q ihp ihq =>
    obtain ⟨middle, inFirst, inSecond⟩ := List.mem_flatMap.1 member
    obtain ⟨_, first⟩ := between_of_mem_ends inFirst
    obtain ⟨_, second⟩ := between_of_mem_ends inSecond
    have before := first.column_le
    have after := second.column_le
    rcases ihq inSecond isNoted with earlier | inside
    · rcases ihp inFirst earlier with noted | inside
      · exact .inl noted
      · exact .inr (by omega)
    · exact .inr (by omega)
  | alt p q ihp ihq =>
    rcases List.mem_append.1 member with inFirst | inSecond
    · exact ihp inFirst isNoted
    · exact ihq inSecond isNoted
  | group g p ih =>
    obtain ⟨stop, inBody, rfl⟩ := List.mem_map.1 member
    obtain ⟨_, between⟩ := between_of_mem_ends inBody
    rcases List.mem_cons.1 isNoted with rfl | earlier
    · exact .inr ⟨Nat.le_refl _, between.column_le, Nat.le_refl _⟩
    · exact @ih here stop inBody earlier
  | ahead p => exact .inl (eq_of_mem_ends_ahead member ▸ isNoted)
  | notAhead p => exact .inl (eq_of_mem_ite member ▸ isNoted)
  | never => exact .inl (leaf rfl member isNoted)
  | empty => exact .inl (leaf rfl member isNoted)
  | char accepts => exact .inl (leaf rfl member isNoted)
  | many accepts => exact .inl (leaf rfl member isNoted)
  | few accepts => exact .inl (leaf rfl member isNoted)
  | notBehind accepts => exact .inl (leaf rfl member isNoted)
  | wordEdge => exact .inl (leaf rfl member isNoted)
  | lineStart => exact .inl (leaf rfl member isNoted)
  | lineEnd => exact .inl (leaf rfl member isNoted)
  | textEnd => exact .inl (leaf rfl member isNoted)

variable {p : Pattern} {m : Match}

/-- A group of a match at the beginning of a line was noted on the way to an end. -/
theorem exists_end_of_group {line : Text} {g : Group} {span : Span}
    (found : p.matchStart line = some m) (isSpan : m.group? g = some span) :
    ∃ there ∈ p.ends (.start line), (g, span) ∈ there.noted := by
  rw [matchStart_eq] at found
  obtain ⟨there, first, rfl⟩ := Option.map_eq_some_iff.1 found
  obtain ⟨later, earlier, isNoted, -⟩ := List.lookup_eq_some_iff.1 isSpan
  refine ⟨there, List.mem_of_head? first, ?_⟩
  change (g, span) ∈ (matchTo (.start line) there).noted
  simp [isNoted]

/-- It lies in the line. -/
theorem group_in_line {line : Text} {g : Group} {span : Span}
    (found : p.matchStart line = some m) (isSpan : m.group? g = some span) :
    span.start ≤ span.stop ∧ span.stop ≤ line.length := by
  obtain ⟨there, member, noted⟩ := exists_end_of_group found isSpan
  obtain ⟨run, between⟩ := between_of_mem_ends member
  have inLine : there.column ≤ line.length := by
    have column := between.column_add
    simp only [Cursor.start] at column
    omega
  rcases note_of_mem_ends member noted with before | inside
  · simp [Cursor.start] at before
  · exact ⟨inside.2.1, Nat.le_trans inside.2.2 inLine⟩

/-- A match at a cursor goes to one of the ends of the pattern there. -/
theorem exists_of_mem_matchesAt (member : m ∈ p.matchesAt here) :
    ∃ there ∈ p.ends here, matchTo here there = m := by
  have toEnd : ∀ {accepts : Cursor → Bool}, p.matchWhere here accepts = some m →
      ∃ there ∈ p.ends here, matchTo here there = m := by
    intro accepts found
    rw [matchWhere_eq] at found
    obtain ⟨there, isEnd, isMatch⟩ := Option.map_eq_some_iff.1 found
    exact ⟨there, List.mem_of_find?_eq_some isEnd, isMatch⟩
  rw [matchesAt] at member
  split at member
  · simp at member
  · next first found =>
    split_ifs at member
    · rcases List.mem_cons.1 member with rfl | second
      · exact toEnd found
      · exact toEnd (Option.mem_toList.1 second)
    · exact toEnd (List.mem_singleton.1 member ▸ found)

/-- The preferred end at a cursor is one that is matched. -/
theorem mem_matchesAt_of_head (first : (p.ends here).head? = some there) :
    matchTo here there ∈ p.matchesAt here := by
  have found : p.matchWhere here (fun _ => true) = some (matchTo here there) := by
    obtain ⟨others, isCons⟩ := List.head?_eq_some_iff.1 first
    rw [matchWhere_eq, isCons]
    rfl
  rw [matchesAt, found]
  dsimp only
  split_ifs
  · exact List.mem_cons_self
  · exact List.mem_singleton_self _

/-- A match at a cursor starts there and does not end before. -/
theorem span_of_mem_matchesAt (member : m ∈ p.matchesAt here) :
    m.span.start = here.column ∧ here.column ≤ m.span.stop := by
  obtain ⟨there, isEnd, rfl⟩ := exists_of_mem_matchesAt member
  obtain ⟨run, between⟩ := between_of_mem_ends isEnd
  exact ⟨rfl, between.column_le⟩

/-- Only an empty match is followed by another one at the same cursor. -/
theorem pairwise_matchesAt (p : Pattern) (here : Cursor) :
    (p.matchesAt here).Pairwise fun a b => a.span.stop ≤ b.span.start := by
  have starts : ∀ m ∈ p.matchesAt here, m.span.start = here.column := fun m member =>
    (span_of_mem_matchesAt member).1
  rw [matchesAt] at starts ⊢
  split at starts
  · exact List.Pairwise.nil
  · next first found =>
    split_ifs at starts ⊢ with empty
    · refine List.pairwise_cons.2 ⟨?_, ?_⟩
      · intro second member
        have same := starts second (List.mem_cons_of_mem first member)
        have here := starts first List.mem_cons_self
        have stop := beq_iff_eq.1 empty
        omega
      · cases p.matchWhere here _ <;> simp
    · exact List.pairwise_singleton _ _

theorem pairwise_matchesFrom (p : Pattern) (resume : Nat) (here : Cursor) :
    (p.matchesFrom resume here).Pairwise fun a b => a.span.stop ≤ b.span.start := by
  rw [matchesFrom]
  split_ifs
  · exact List.Pairwise.nil
  · exact pairwise_matchesAt p here

theorem mem_matchesFrom {resume : Nat} :
    m ∈ p.matchesFrom resume here ↔ resume ≤ here.column ∧ m ∈ p.matchesAt here := by
  rw [matchesFrom]
  split_ifs with before
  · simp [Nat.not_le.2 before]
  · simp [Nat.not_lt.1 before]

/-- Where the search goes on behind the matches at one cursor. -/
def resumeAfter (p : Pattern) (resume : Nat) (here : Cursor) : Nat :=
  ((p.matchesFrom resume here).getLast?.map (·.span.stop)).getD resume

theorem findFrom_cons (p : Pattern) (resume : Nat) (here : Cursor) (c : Char) (rest : Text) :
    p.findFrom resume here (c :: rest) =
      p.matchesFrom resume here ++
        p.findFrom (p.resumeAfter resume here) (here.advance c rest) rest :=
  rfl

/-- The search goes on where it would have without a match, or at the end of one. -/
theorem resumeAfter_cases (p : Pattern) (resume : Nat) (here : Cursor) :
    (p.matchesFrom resume here = [] ∧ p.resumeAfter resume here = resume) ∨
      ∃ last ∈ p.matchesFrom resume here, p.resumeAfter resume here = last.span.stop ∧
        ∀ m ∈ p.matchesFrom resume here, m.span.stop ≤ last.span.stop := by
  cases found : (p.matchesFrom resume here).getLast? with
  | none =>
    left
    exact ⟨List.getLast?_eq_none_iff.1 found, by simp [resumeAfter, found]⟩
  | some last =>
    right
    have isLast := List.mem_of_getLast? found
    refine ⟨last, isLast, by simp [resumeAfter, found], ?_⟩
    obtain ⟨earlier, split⟩ := List.getLast?_eq_some_iff.1 found
    have ordered := p.pairwise_matchesFrom resume here
    intro m member
    rw [split] at member ordered
    rcases List.mem_append.1 member with before | isM
    · have := (List.pairwise_append.1 ordered).2.2 m before last List.mem_cons_self
      have ends := span_of_mem_matchesAt (mem_matchesFrom.1 isLast).2
      omega
    · obtain rfl := List.mem_singleton.1 isM
      exact Nat.le_refl _

theorem le_resumeAfter (p : Pattern) (resume : Nat) (here : Cursor) :
    resume ≤ p.resumeAfter resume here := by
  rcases p.resumeAfter_cases resume here with ⟨_, same⟩ | ⟨last, isLast, stop, _⟩
  · exact Nat.le_of_eq same.symm
  · obtain ⟨free, found⟩ := mem_matchesFrom.1 isLast
    have := (span_of_mem_matchesAt found).2
    omega

theorem resume_le_of_mem_findFrom {resume : Nat} {rest : Text}
    (member : m ∈ p.findFrom resume here rest) : resume ≤ m.span.start := by
  have first : ∀ {resume : Nat} {here : Cursor}, m ∈ p.matchesFrom resume here →
      resume ≤ m.span.start := by
    intro resume here found
    obtain ⟨free, atHere⟩ := mem_matchesFrom.1 found
    rw [(span_of_mem_matchesAt atHere).1]
    exact free
  induction rest generalizing resume here with
  | nil => exact first member
  | cons c rest ih =>
    rw [findFrom_cons] at member
    rcases List.mem_append.1 member with found | later
    · exact first found
    · exact Nat.le_trans (p.le_resumeAfter resume here) (ih later)

theorem pairwise_findFrom (p : Pattern) (resume : Nat) (here : Cursor) (rest : Text) :
    (p.findFrom resume here rest).Pairwise fun a b => a.span.stop ≤ b.span.start := by
  induction rest generalizing resume here with
  | nil => exact p.pairwise_matchesFrom resume here
  | cons c rest ih =>
    rw [findFrom_cons]
    refine List.pairwise_append.2 ⟨p.pairwise_matchesFrom resume here, ih _ _, ?_⟩
    intro a found b later
    have behind := resume_le_of_mem_findFrom later
    rcases p.resumeAfter_cases resume here with ⟨none, _⟩ | ⟨last, _, stop, bound⟩
    · simp [none] at found
    · have := bound a found
      omega

/-- The matches of a line do not overlap. -/
theorem pairwise_findAll (p : Pattern) (line : Text) :
    (p.findAll line).Pairwise fun a b => a.span.stop ≤ b.span.start :=
  pairwise_findFrom p 0 _ line

theorem exists_of_mem_findFrom {resume : Nat} {rest : Text}
    (member : m ∈ p.findFrom resume here rest) :
    ∃ there ∈ here.through rest, m ∈ p.matchesAt there := by
  induction rest generalizing resume here with
  | nil => exact ⟨here, List.mem_singleton_self here, (mem_matchesFrom.1 member).2⟩
  | cons c rest ih =>
    rw [findFrom_cons] at member
    rcases List.mem_append.1 member with found | later
    · exact ⟨here, List.mem_cons_self, (mem_matchesFrom.1 found).2⟩
    · obtain ⟨there, isCursor, found⟩ := ih later
      exact ⟨there, List.mem_cons_of_mem here isCursor, found⟩

/-- A match that is not found starts before the place where the search goes on, or inside a match
    that was found. -/
theorem mem_findFrom_or_hidden (resume : Nat) {rest : Text} (isCursor : there ∈ here.through rest)
    (found : m ∈ p.matchesAt there) :
    m ∈ p.findFrom resume here rest ∨ there.column < resume ∨
      ∃ other ∈ p.findFrom resume here rest,
        other.span.start < there.column ∧ there.column < other.span.stop := by
  induction rest generalizing resume here with
  | nil =>
    obtain rfl := List.mem_singleton.1 isCursor
    rcases Nat.lt_or_ge there.column resume with before | free
    · exact .inr (.inl before)
    · exact .inl (mem_matchesFrom.2 ⟨free, found⟩)
  | cons c rest ih =>
    rw [findFrom_cons]
    rcases List.mem_cons.1 isCursor with rfl | later
    · rcases Nat.lt_or_ge there.column resume with before | free
      · exact .inr (.inl before)
      · exact .inl (List.mem_append_left _ (mem_matchesFrom.2 ⟨free, found⟩))
    · have after := Cursor.column_le_of_mem_through later
      rw [Cursor.column_advance] at after
      rcases ih (p.resumeAfter resume here) later with member | before | ⟨other, isOther, covers⟩
      · exact .inl (List.mem_append_right _ member)
      · rcases p.resumeAfter_cases resume here with ⟨_, same⟩ | ⟨last, isLast, stop, _⟩
        · exact .inr (.inl (same ▸ before))
        · have start := (span_of_mem_matchesAt (mem_matchesFrom.1 isLast).2).1
          exact .inr (.inr ⟨last, List.mem_append_left _ isLast, by omega, by omega⟩)
      · exact .inr (.inr ⟨other, List.mem_append_right _ isOther, covers⟩)

/-- Nothing hides the match at the beginning of a line. -/
theorem mem_findAll_of_head {line : Text} (first : (p.ends (.start line)).head? = some there) :
    matchTo (.start line) there ∈ p.findAll line := by
  have isCursor : Cursor.start line ∈ (Cursor.start line).through line := by
    cases line <;> simp [Cursor.through]
  rcases mem_findFrom_or_hidden 0 isCursor (mem_matchesAt_of_head first) with
    found | before | ⟨_, _, before, _⟩
  · exact found
  · exact absurd before (Nat.not_lt_zero _)
  · exact absurd before (Nat.not_lt_zero _)

end Pattern
end AsmAtlas
