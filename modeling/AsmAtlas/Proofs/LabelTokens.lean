import AsmAtlas.Proofs.LabelShape

/-!
# Tokens and the label pattern

A token is a dotted name, perhaps with a mark in front. Reading a label is reading a token to its
end: whatever goes on behind a shorter stretch of it is refused where nothing of a name may follow.
Reading from blank to blank tries the places behind blanks from left to right.
-/

namespace AsmAtlas

/-- A token: perhaps `@` or a dot, then a letter or underscore up to case, then word characters and
    dots. -/
inductive IsToken : Text → Prop
  | plain {first : Char} {run : Text} (starts : isNameStart first)
      (ofName : ∀ c ∈ run, isWordOrDot c) : IsToken (first :: run)
  | marked {mark first : Char} {run : Text} (isMark : mark = '@' ∨ mark = '.')
      (starts : isNameStart first) (ofName : ∀ c ∈ run, isWordOrDot c) :
      IsToken (mark :: first :: run)

/-- A token of a line that goes on as far as it can. -/
structure TokenAt (line before token after : Text) : Prop where
  split : line = before ++ (token ++ after)
  isToken : IsToken token
  maximal : ¬after.head?.any isWordOrDot

theorem isWordOrDot_of_isNameStart {c : Char} (starts : isNameStart c) : isWordOrDot c := by
  simp [isWordOrDot, isWordChar_of_isNameStart starts]

theorem not_isMark_of_isNameStart {c : Char} (starts : isNameStart c) : c ≠ '@' ∧ c ≠ '.' := by
  constructor <;> rintro rfl <;> exact absurd starts (by decide)

/-- A token begins with `@` or has nothing but word characters and dots. -/
theorem IsToken.forall_isWordOrDot {token : Text} (isToken : IsToken token)
    (unmarked : token.head? ≠ some '@') : ∀ c ∈ token, isWordOrDot c := by
  cases isToken with
  | plain starts ofName => exact List.forall_mem_cons.2 ⟨isWordOrDot_of_isNameStart starts, ofName⟩
  | marked isMark starts ofName =>
    have isDot := isMark.resolve_left (by simpa using unmarked)
    refine List.forall_mem_cons.2 ⟨by simp [isWordOrDot, isDot], ?_⟩
    exact List.forall_mem_cons.2 ⟨isWordOrDot_of_isNameStart starts, ofName⟩

theorem IsToken.visible {token : Text} (isToken : IsToken token) :
    ∃ c rest, token = c :: rest ∧ isBlank c = false := by
  cases isToken with
  | plain starts => exact ⟨_, _, rfl, isBlank_of_isWordOrDot (isWordOrDot_of_isNameStart starts)⟩
  | marked isMark =>
    refine ⟨_, _, rfl, ?_⟩
    rcases isMark with rfl | rfl <;> decide

/-- A token in the first column has no blanks in front of it. -/
theorem TokenAt.takeWhile_isBlank {line before token after : Text}
    (tokenAt : TokenAt line before token after) (blank : ∀ c ∈ before, isBlank c) :
    line.takeWhile isBlank = before := by
  obtain ⟨c, rest, rfl, visible⟩ := tokenAt.isToken.visible
  rw [tokenAt.split]
  exact (Text.takeWhile_append_of_stops blank (by simp [visible])).1

namespace Pattern

open Cursor

variable {here there : Cursor} {accepts : Char → Bool} {next : Cursor → List Cursor}

theorem forward_advance {c : Char} {rest : Text} (follows : here.rest = c :: rest) (n : Nat) :
    (here.advance c rest).forward n = here.forward (n + 1) := by
  simp [forward, follows]

/-- If nothing can go on inside a run, all goes on behind it. -/
theorem flatMap_manyEnds {rest : Text} (follows : here.rest = rest)
    (refuses : ∀ stop : Cursor, stop.rest.head?.any accepts → next stop = []) :
    (manyEnds accepts here rest).flatMap next =
      next (here.forward (rest.takeWhile accepts).length) := by
  induction rest generalizing here with
  | nil => simp [manyEnds, forward]
  | cons c rest ih =>
    rw [manyEnds]
    split_ifs with accepted
    · have inside : next here = [] := refuses here (by simp [follows, accepted])
      rw [List.flatMap_append, ih (here.rest_advance c rest), List.flatMap_singleton, inside,
        List.append_nil, forward_advance follows, List.takeWhile_cons_of_pos accepted,
        List.length_cons]
    · rw [List.flatMap_singleton, List.takeWhile_cons_of_neg accepted]
      rfl

/-- The whole run is tried first. -/
theorem head_manyEnds {rest : Text} (follows : here.rest = rest) :
    (manyEnds accepts here rest).head? = some (here.forward (rest.takeWhile accepts).length) := by
  induction rest generalizing here with
  | nil => simp [manyEnds, forward]
  | cons c rest ih =>
    rw [manyEnds]
    split_ifs with accepted
    · rw [List.head?_append, ih (here.rest_advance c rest), Option.some_or,
        forward_advance follows, List.takeWhile_cons_of_pos accepted, List.length_cons]
    · rw [List.takeWhile_cons_of_neg accepted]
      rfl

/-- A label is read by reading the run behind its first character. -/
theorem ends_labelName {token after : Text} (split : here.rest = token ++ after)
    (isToken : IsToken token) :
    ∃ begun run, labelName.ends here = manyEnds isWordOrDot begun (run ++ after) ∧
      begun.rest = run ++ after ∧ (∀ c ∈ run, isWordOrDot c) ∧
      begun.forward run.length = here.forward token.length := by
  cases isToken with
  | @plain first run starts ofName =>
    obtain ⟨noAt, noDot⟩ := not_isMark_of_isNameStart starts
    refine ⟨here.advance first (run ++ after), run, ?_, rfl, ofName, forward_advance split _⟩
    simp [labelName, Pattern.all, Pattern.optional, ends, split, noAt, noDot, starts]
  | @marked mark first run isMark starts ofName =>
    have notStart : isNameStart mark = false := by rcases isMark with rfl | rfl <;> decide
    have marks : (mark == '@' || mark == '.') = true := by simpa using isMark
    refine ⟨(here.advance mark (first :: (run ++ after))).advance first (run ++ after), run, ?_,
      rfl, ofName, ?_⟩
    · simp [labelName, Pattern.all, Pattern.optional, ends, split, marks, starts, notStart]
    · exact (forward_advance rfl _).trans (forward_advance split _)

theorem takeWhile_run {run after : Text} (ofName : ∀ c ∈ run, isWordOrDot c)
    (maximal : ¬after.head?.any isWordOrDot) : (run ++ after).takeWhile isWordOrDot = run :=
  (Text.takeWhile_append_of_stops ofName maximal).1

/-- The whole label is tried first. -/
theorem head_ends_labelName {token after : Text} (split : here.rest = token ++ after)
    (isToken : IsToken token) (maximal : ¬after.head?.any isWordOrDot) :
    (labelName.ends here).head? = some (here.forward token.length) := by
  obtain ⟨begun, run, isEnds, follows, ofName, same⟩ := ends_labelName split isToken
  rw [isEnds, head_manyEnds follows, takeWhile_run ofName maximal, same]

/-- What is read as a label is a token. -/
theorem isToken_of_mem_ends_labelName (member : there ∈ labelName.ends here) :
    ∃ token, Between [] here token there ∧ IsToken token := by
  obtain ⟨marked, inMark, member⟩ := List.mem_flatMap.1 member
  obtain ⟨_, inFirst, inRun⟩ := List.mem_flatMap.1 member
  obtain ⟨first, rest, follows, starts, rfl⟩ := mem_ends_char.1 inFirst
  obtain ⟨run, between, ofName⟩ := between_of_mem_manyEnds rfl inRun
  have named : Between [] marked (first :: run) there := (Between.step follows).trans between
  rcases List.mem_append.1 inMark with withMark | without
  · obtain ⟨mark, behind, followsMark, isMark, rfl⟩ := mem_ends_char.1 withMark
    exact ⟨mark :: first :: run, (Between.step followsMark).trans named,
      .marked (by simpa using isMark) starts ofName⟩
  · obtain rfl := List.mem_singleton.1 without
    exact ⟨first :: run, named, .plain starts ofName⟩

/-- What goes on behind labels, but not inside a name, goes on behind a token that is read to its
    end. -/
theorem mem_flatMap_labelName
    (refuses : ∀ stop : Cursor, stop.rest.head?.any isWordOrDot → next stop = []) :
    there ∈ (labelName.ends here).flatMap next ↔
      ∃ token after, here.rest = token ++ after ∧ IsToken token ∧
        ¬after.head?.any isWordOrDot ∧ there ∈ next (here.forward token.length) := by
  have goesOn : ∀ {token after : Text}, here.rest = token ++ after → IsToken token →
      ¬after.head?.any isWordOrDot →
      (labelName.ends here).flatMap next = next (here.forward token.length) := by
    intro token after split isToken maximal
    obtain ⟨begun, run, isEnds, follows, ofName, same⟩ := ends_labelName split isToken
    rw [isEnds, flatMap_manyEnds follows refuses, takeWhile_run ofName maximal, same]
  constructor
  · intro member
    obtain ⟨stop, inName, behind⟩ := List.mem_flatMap.1 member
    obtain ⟨token, between, isToken⟩ := isToken_of_mem_ends_labelName inName
    have maximal : ¬stop.rest.head?.any isWordOrDot := by
      intro continues
      rw [refuses stop continues] at behind
      simp at behind
    refine ⟨token, stop.rest, between.rest, isToken, maximal, ?_⟩
    rwa [goesOn between.rest isToken maximal] at member
  · rintro ⟨token, after, split, isToken, maximal, behind⟩
    rwa [goesOn split isToken maximal]

/-! ### Places behind blanks -/

/-- Where a repetition from the shortest on and a blank may end: behind every blank up to the end of
    the line. -/
theorem mem_behindBlank {rest : Text} (follows : here.rest = rest) :
    there ∈ (fewEnds accepts here rest).flatMap (char isBlank).ends ↔
      ∃ before b after, rest = before ++ b :: after ∧ (∀ c ∈ before, accepts c) ∧ isBlank b ∧
        there = here.forward (before.length + 1) := by
  induction rest generalizing here with
  | nil =>
    rw [fewEnds, List.flatMap_singleton, mem_ends_char, follows]
    simp
  | cons c rest ih =>
    rw [fewEnds, List.flatMap_cons, List.mem_append, mem_ends_char, follows]
    constructor
    · rintro (⟨b, after, isCons, blank, rfl⟩ | later)
      · obtain ⟨rfl, rfl⟩ := List.cons.inj isCons
        exact ⟨[], c, rest, rfl, by simp, blank, forward_advance follows 0⟩
      · split_ifs at later with accepted
        · obtain ⟨before, b, after, rfl, all, blank, rfl⟩ :=
            (ih (here.rest_advance c rest)).1 later
          exact ⟨c :: before, b, after, rfl, List.forall_mem_cons.2 ⟨accepted, all⟩, blank,
            forward_advance follows _⟩
        · simp at later
    · rintro ⟨before, b, after, isRest, all, blank, rfl⟩
      cases before with
      | nil =>
        obtain ⟨rfl, rfl⟩ := List.cons.inj isRest
        exact .inl ⟨c, rest, rfl, blank, (forward_advance follows 0).symm⟩
      | cons d before =>
        obtain ⟨rfl, rfl⟩ := List.cons.inj isRest
        obtain ⟨accepted, all⟩ := List.forall_mem_cons.1 all
        refine .inr ?_
        rw [if_pos accepted, ih (here.rest_advance c _)]
        exact ⟨before, b, after, rfl, all, blank, (forward_advance follows _).symm⟩

/-- The nearer places come first. -/
theorem pairwise_behindBlank (accepts : Char → Bool) {rest : Text} (follows : here.rest = rest) :
    ((fewEnds accepts here rest).flatMap (char isBlank).ends).Pairwise
      fun a b => a.column < b.column := by
  induction rest generalizing here with
  | nil => simp [fewEnds, ends, follows]
  | cons c rest ih =>
    rw [fewEnds, List.flatMap_cons]
    refine List.pairwise_append.2 ⟨?_, ?_, ?_⟩
    · simp only [ends, follows]
      split_ifs <;> simp
    · split_ifs
      · exact ih (here.rest_advance c rest)
      · exact List.Pairwise.nil
    · intro near isNear far isFar
      obtain ⟨_, _, _, _, rfl⟩ := mem_ends_char.1 isNear
      split_ifs at isFar
      · obtain ⟨before, b, after, rfl, _, _, rfl⟩ :=
          (mem_behindBlank (here.rest_advance c rest)).1 isFar
        rw [column_advance, column_forward _ (by simp), column_advance]
        omega
      · simp at isFar

end Pattern
end AsmAtlas
