import AsmAtlas.Proofs.CaseForms
import AsmAtlas.Proofs.CommentStripping

/-!
# Words in lines with comments

Stripping comments leaves the columns of the code as they are, so a word that is found in a stripped
line stands at the same columns of the line itself. If the word and another one are both free of
blanks, quotes and the marks of comments, putting the other one in its place changes neither what is
a comment nor what is a literal, and the same word changes in the stripped line. One thing has to be
watched: an apostrophe behind the word opens a literal only if the word does not end with a word
character.
-/

namespace AsmAtlas

namespace Text

theorem trimEnd_append_blanks (t : Text) {blanks : Text} (blank : ∀ c ∈ blanks, isBlank c) :
    trimEnd (t ++ blanks) = t.trimEnd := by
  rw [trimEnd, dropEndWhile, List.reverse_append, List.dropWhile_append_of_pos, trimEnd,
    dropEndWhile]
  intro c member
  exact blank c (List.mem_reverse.1 member)

theorem trimEnd_eq_self {t : Text} (visible : ∀ c ∈ t.getLast?, isBlank c = false) :
    t.trimEnd = t := by
  rw [trimEnd_eq_rdropWhile, List.rdropWhile_eq_self_iff]
  intro nonempty
  simp [visible _ (List.getLast?_eq_getLast_of_ne_nil nonempty)]

theorem visible_of_getLast_trimEnd {t : Text} {c : Char} (last : t.trimEnd.getLast? = some c) :
    isBlank c = false := by
  have nonempty : t.trimEnd ≠ [] := by
    intro empty
    simp [empty] at last
  rw [List.getLast?_eq_getLast_of_ne_nil nonempty] at last
  rw [← Option.some.inj last]
  exact Bool.eq_false_iff.2 (List.rdropWhile_last_not isBlank t nonempty)

/-- Only blanks are trimmed. -/
theorem exists_trimEnd_append (t : Text) :
    ∃ blanks, t = t.trimEnd ++ blanks ∧ ∀ c ∈ blanks, isBlank c :=
  ⟨t.rtakeWhile isBlank, List.rdropWhile_append_rtakeWhile.symm, fun _ member =>
    List.mem_rtakeWhile_imp member⟩

end Text

namespace Comment

/-- What one character makes of the scan. -/
inductive Move where
  /-- The rest of the line is a comment. -/
  | stop
  /-- The character and the next one are blanked. -/
  | skip (zone : Zone)
  /-- The character is replaced by the given one. -/
  | emit (out : Char) (zone : Zone)

/-- The move at a character, given the one before and the one behind it, and whether it occurs once
    more. -/
def move (zone : Zone) (last : Option Char) (c : Char) (next : Option Char) (again : Bool) : Move :=
  match zone with
  | .block => if c = '*' ∧ next = some '/' then .skip .code else .emit ' ' .block
  | .literal quote => .emit c (if c == quote then .code else .literal quote)
  | .code =>
    if c = '/' ∧ next = some '/' then .stop
    else if c = '/' ∧ next = some '*' then .skip .block
    else if c = ';' then .stop
    else
      let opens := (c == '"' || (c == '\x27' && !last.any isWordChar)) && again
      .emit c (if opens then .literal c else .code)

/-- What a scan gives after a move. -/
def Move.result (m : Move) (c : Char) (rest : Text) : Text × Bool :=
  match m with
  | .stop => ([], false)
  | .skip zone =>
    let scanned := scan zone rest.head? rest.tail
    (' ' :: ' ' :: scanned.1, scanned.2)
  | .emit out zone =>
    let scanned := scan zone (some c) rest
    (out :: scanned.1, scanned.2)

/-- A scan goes on move by move. -/
theorem scan_cons (zone : Zone) (last : Option Char) (c : Char) (rest : Text) :
    scan zone last (c :: rest) =
      (move zone last c rest.head? (rest.contains c)).result c rest := by
  have noPair : ∀ {first second : Char}, (∀ tail, c = first → rest = second :: tail → False) →
      ¬(c = first ∧ rest.head? = some second) := by
    rintro first second other ⟨isFirst, next⟩
    obtain ⟨tail, isRest⟩ := List.head?_eq_some_iff.1 next
    exact other tail isFirst isRest
  generalize isLine : c :: rest = line
  fun_cases scan zone last line with
  | case1 => simp at isLine
  | case2 => simp at isLine
  | case4 last d tail other out inBlock scanned =>
    obtain ⟨rfl, rfl⟩ := List.cons.inj isLine
    rw [move, if_neg (noPair other), Move.result, scanned]
  | case9 last d tail noLine noBlock semicolon zone out inBlock scanned =>
    obtain ⟨rfl, rfl⟩ := List.cons.inj isLine
    rw [move, if_neg (noPair noLine), if_neg (noPair noBlock), if_neg (by simpa using semicolon)]
    change _ = (c :: (scan zone (some c) rest).1, (scan zone (some c) rest).2)
    rw [scanned]
  | _ =>
    obtain ⟨rfl, rfl⟩ := List.cons.inj isLine
    simp_all [move, Move.result]

/-- A scan in which nothing but quotes opens literals. -/
def Zone.IsProper : Zone → Prop
  | .literal quote => isInert quote = false
  | _ => True

/-- A move leads to a proper zone again. -/
theorem isProper_of_emit {zone next : Zone} {last behind : Option Char} {c out : Char}
    {again : Bool} (proper : zone.IsProper)
    (moves : move zone last c behind again = .emit out next) : next.IsProper := by
  have quotes : isInert '"' = false ∧ isInert '\x27' = false := by decide
  unfold move at moves
  cases zone with
  | block =>
    simp only at moves
    split_ifs at moves
    obtain ⟨-, rfl⟩ := Move.emit.inj moves
    trivial
  | literal quote =>
    obtain ⟨-, rfl⟩ := Move.emit.inj moves
    split_ifs
    · trivial
    · exact proper
  | code =>
    simp only at moves
    split_ifs at moves with _ _ _ opens
    · obtain ⟨-, rfl⟩ := Move.emit.inj moves
      simp only [Bool.and_eq_true, Bool.or_eq_true, beq_iff_eq] at opens
      rcases opens.1 with rfl | ⟨rfl, _⟩
      · exact quotes.1
      · exact quotes.2
    · obtain ⟨-, rfl⟩ := Move.emit.inj moves
      trivial

/-- What is kept of a line stands at its own column. -/
theorem getElem_of_scan {zone : Zone} {last : Option Char} {text : Text} {i : Nat} {c : Char}
    (found : (scan zone last text).1[i]? = some c) (visible : ' ' ≠ c) : text[i]? = some c := by
  fun_induction scan zone last text generalizing i with
  | case1 => simp at found
  | case2 => simp at found
  | case3 last rest out inBlock scanned ih =>
    rcases i with _ | _ | i <;> simp_all
  | case7 last rest out inBlock scanned ih =>
    rcases i with _ | _ | i <;> simp_all
  | _ => rcases i with _ | i <;> simp_all

/-- What an inert character is not. -/
theorem ne_of_isInert {c d : Char} (inert : isInert c) (active : isInert d = false) : c ≠ d := by
  rintro rfl
  simp [active] at inert

/-- In code and in a literal an inert character is kept, and nothing begins or ends there. -/
theorem move_of_isInert {zone : Zone} (proper : zone.IsProper) (outside : zone ≠ .block) {c : Char}
    (inert : isInert c) (last next : Option Char) (again : Bool) :
    move zone last c next again = .emit c zone := by
  cases zone with
  | block => exact absurd rfl outside
  | literal quote =>
    have other : c ≠ quote := ne_of_isInert inert proper
    simp [move, other]
  | code =>
    have slash : c ≠ '/' := ne_of_isInert inert (by decide)
    have semicolon : c ≠ ';' := ne_of_isInert inert (by decide)
    have double : c ≠ '"' := ne_of_isInert inert (by decide)
    have single : c ≠ '\x27' := ne_of_isInert inert (by decide)
    simp [move, slash, semicolon, double, single]

/-- Inert characters are kept, and the scan goes on behind them as it was. -/
theorem scan_inert {zone : Zone} (proper : zone.IsProper) (outside : zone ≠ .block) {word : Text}
    (inert : ∀ c ∈ word, isInert c) (last : Option Char) (post : Text) :
    scan zone last (word ++ post) =
      (word ++ (scan zone (word.getLast?.or last) post).1,
        (scan zone (word.getLast?.or last) post).2) := by
  induction word generalizing last with
  | nil => simp
  | cons c word ih =>
    have rest := ih (fun d member => inert d (List.mem_cons_of_mem c member)) (some c)
    have lasts : (c :: word).getLast?.or last = word.getLast?.or (some c) := by
      cases word <;> simp [List.getLast?_cons]
    rw [List.cons_append, scan_cons, move_of_isInert proper outside (inert c List.mem_cons_self),
      Move.result, rest, lasts]
    rfl

/-- The character before a line matters only in code, and only to an apostrophe. -/
theorem scan_congr_last {zone : Zone} {last other : Option Char} {line : Text}
    (same : line.head? = some '\x27' → last.any isWordChar = other.any isWordChar) :
    scan zone last line = scan zone other line := by
  cases line with
  | nil => cases zone <;> simp [scan]
  | cons c rest =>
    have moves : ∀ next again, move zone last c next again = move zone other c next again := by
      intro next again
      by_cases single : c = '\x27'
      · have class' := same (by rw [single]; rfl)
        cases zone <;> simp [move, class']
      · cases zone <;> simp [move, single]
    rw [scan_cons, scan_cons, moves]

/-- A move looks at the character behind only for the marks of comments, and for a partner only of a
    quote. -/
theorem move_congr {zone : Zone} {last next other : Option Char} {c : Char} {again partner : Bool}
    (slash : next = some '/' ↔ other = some '/') (star : next = some '*' ↔ other = some '*')
    (same : isInert c = false → again = partner) :
    move zone last c next again = move zone last c other partner := by
  cases zone with
  | block => simp [move, slash]
  | literal quote => rfl
  | code =>
    by_cases inert : isInert c
    · have code : Zone.code.IsProper := trivial
      rw [move_of_isInert code nofun inert, move_of_isInert code nofun inert]
    · simp only [move, slash, star, same (by simpa using inert)]

/-- A move that skips a character skips the mark of a comment. -/
theorem next_of_skip {zone after : Zone} {last next : Option Char} {c : Char} {again : Bool}
    (moves : move zone last c next again = .skip after) :
    after.IsProper ∧ ∃ d, next = some d ∧ isInert d = false := by
  unfold move at moves
  cases zone with
  | literal quote => simp at moves
  | block =>
    simp only at moves
    split_ifs at moves with close
    obtain rfl := Move.skip.inj moves
    exact ⟨trivial, '/', close.2, by decide⟩
  | code =>
    simp only at moves
    split_ifs at moves with _ opens
    obtain rfl := Move.skip.inj moves
    exact ⟨trivial, '*', opens.2, by decide⟩

section

variable {old new post : Text} (inertOld : ∀ c ∈ old, isInert c) (inertNew : ∀ c ∈ new, isInert c)
  (someOld : old ≠ []) (someNew : new ≠ [])

include inertOld inertNew someOld someNew

/-- Neither word has a mark or a quote, so moves in front of them are the same. -/
theorem move_replace (zone : Zone) (last : Option Char) (c : Char) (pre : Text) :
    move zone last c (pre ++ (old ++ post)).head? ((pre ++ (old ++ post)).contains c) =
      move zone last c (pre ++ (new ++ post)).head? ((pre ++ (new ++ post)).contains c) := by
  have head : ∀ {mark : Char}, isInert mark = false →
      ((pre ++ (old ++ post)).head? = some mark ↔ (pre ++ (new ++ post)).head? = some mark) := by
    intro mark active
    cases pre with
    | cons d pre => simp
    | nil =>
      obtain ⟨a, old, rfl⟩ := List.exists_cons_of_ne_nil someOld
      obtain ⟨b, new, rfl⟩ := List.exists_cons_of_ne_nil someNew
      simp [ne_of_isInert (inertOld a List.mem_cons_self) active,
        ne_of_isInert (inertNew b List.mem_cons_self) active]
  refine move_congr (head (by decide)) (head (by decide)) ?_
  intro active
  have notOld : c ∉ old := fun member => ne_of_isInert (inertOld c member) active rfl
  have notNew : c ∉ new := fun member => ne_of_isInert (inertNew c member) active rfl
  rw [Bool.eq_iff_iff]
  simp [notOld, notNew]

variable (sameEnd : post.head? = some '\x27' →
  old.getLast?.any isWordChar = new.getLast?.any isWordChar)

include sameEnd

/-- A word that is kept at the head of a text is replaced there, and nothing changes behind it. -/
theorem scan_replace_head {zone : Zone} (proper : zone.IsProper) (last : Option Char) {tail : Text}
    (kept : (scan zone last (old ++ post)).1 = old ++ tail) :
    scan zone last (new ++ post) = (new ++ tail, (scan zone last (old ++ post)).2) := by
  -- In a block comment the first character would have been a blank.
  have outside : zone ≠ .block := by
    rintro rfl
    obtain ⟨a, old, rfl⟩ := List.exists_cons_of_ne_nil someOld
    have inert := inertOld a List.mem_cons_self
    have star : a ≠ '*' := ne_of_isInert inert (by decide)
    rw [List.cons_append, scan_cons, move, if_neg fun close => star close.1] at kept
    exact ne_of_isInert inert (by decide) (List.cons.inj kept).1.symm
  rw [scan_inert proper outside inertOld] at kept ⊢
  rw [scan_inert proper outside inertNew]
  obtain rfl := List.append_cancel_left kept
  have behind : scan zone (new.getLast?.or last) post = scan zone (old.getLast?.or last) post := by
    apply scan_congr_last
    intro single
    rw [Option.or_of_isSome (by simpa using someNew), Option.or_of_isSome (by simpa using someOld),
      sameEnd single]
  rw [behind]

/-- A word that is kept may be replaced: what is kept of the line changes in the same place, and in
    nothing else. -/
theorem scan_replace {zone : Zone} (proper : zone.IsProper) (last : Option Char)
    {pre head tail : Text} (length : head.length = pre.length)
    (kept : (scan zone last (pre ++ (old ++ post))).1 = head ++ (old ++ tail)) :
    scan zone last (pre ++ (new ++ post)) =
      (head ++ (new ++ tail), (scan zone last (pre ++ (old ++ post))).2) := by
  induction size : pre.length using Nat.strongRecOn generalizing zone last pre head with
  | _ n ih =>
    cases pre with
    | nil =>
      obtain rfl : head = [] := List.length_eq_zero_iff.1 length
      simp only [List.nil_append] at kept ⊢
      exact scan_replace_head inertOld inertNew someOld someNew sameEnd proper last kept
    | cons c pre =>
      have same := @move_replace old new post inertOld inertNew someOld someNew zone last c pre
      rw [List.cons_append, scan_cons] at kept ⊢
      rw [List.cons_append, scan_cons, ← same]
      cases moves : move zone last c (pre ++ (old ++ post)).head?
          ((pre ++ (old ++ post)).contains c) with
      | stop =>
        rw [moves] at kept
        simp [Move.result, someOld] at kept
      | skip after =>
        obtain ⟨properAfter, d, next, active⟩ := next_of_skip moves
        cases pre with
        | nil =>
          obtain ⟨a, old, rfl⟩ := List.exists_cons_of_ne_nil someOld
          exact absurd (Option.some.inj next) (ne_of_isInert (inertOld a List.mem_cons_self) active)
        | cons e pre =>
          obtain ⟨x, y, head, rfl⟩ : ∃ x y rest, head = x :: y :: rest := by
            match head, length with
            | x :: y :: rest, _ => exact ⟨x, y, rest, rfl⟩
          rw [moves] at kept
          simp only [Move.result, List.cons_append, List.head?_cons, List.tail_cons,
            List.cons.injEq] at kept ⊢
          have rest := ih pre.length (by simp at size; omega) properAfter (some e)
            (by simpa using length) kept.2.2 rfl
          rw [rest, ← kept.1, ← kept.2.1]
      | emit out after =>
        obtain ⟨x, head, rfl⟩ : ∃ x rest, head = x :: rest := by
          match head, length with
          | x :: rest, _ => exact ⟨x, rest, rfl⟩
        rw [moves] at kept
        simp only [Move.result, List.cons_append, List.cons.injEq] at kept ⊢
        have rest := ih pre.length (by simp at size; omega) (isProper_of_emit proper moves) (some c)
          (by simpa using length) kept.2 rfl
        rw [rest, kept.1]

/-- A word of a stripped line may be replaced in the line itself. -/
theorem stripLine_replace (inBlock : Bool) {pre head tail : Text}
    (length : head.length = pre.length)
    (kept : (stripLine inBlock (pre ++ (old ++ post))).1 = head ++ (old ++ tail)) :
    stripLine inBlock (pre ++ (new ++ post)) =
      (head ++ (new ++ tail), (stripLine inBlock (pre ++ (old ++ post))).2) := by
  let zone : Zone := if inBlock then .block else .code
  have proper : zone.IsProper := by cases inBlock <;> trivial
  obtain ⟨blanks, isOut, blank⟩ :=
    Text.exists_trimEnd_append (scan zone none (pre ++ (old ++ post))).1
  change (scan zone none (pre ++ (old ++ post))).1.trimEnd = _ at kept
  rw [kept, List.append_assoc, List.append_assoc] at isOut
  have replaced := scan_replace inertOld inertNew someOld someNew sameEnd proper none length isOut
  have visible : ∀ c ∈ (head ++ (new ++ tail)).getLast?, isBlank c = false := by
    intro c last
    cases ends : tail.getLast? with
    | some d =>
      have lastOld : (scan zone none (pre ++ (old ++ post))).1.trimEnd.getLast? = some d := by
        rw [kept]
        simp [List.getLast?_append, ends]
      obtain rfl : d = c := by simpa [List.getLast?_append, ends] using last
      exact Text.visible_of_getLast_trimEnd lastOld
    | none =>
      obtain ⟨d, lastNew⟩ := Option.isSome_iff_exists.1 (List.getLast?_isSome.2 someNew)
      obtain rfl : d = c := by simpa [List.getLast?_append, ends, lastNew] using last
      have inert := inertNew d (List.mem_of_getLast? lastNew)
      simp only [isInert, Bool.not_eq_true', Bool.or_eq_false_iff] at inert
      exact inert.1
  have trimmed : Text.trimEnd (head ++ (new ++ (tail ++ blanks))) = head ++ (new ++ tail) := by
    rw [← List.append_assoc new, ← List.append_assoc head, Text.trimEnd_append_blanks _ blank,
      Text.trimEnd_eq_self visible]
  change ((scan zone none (pre ++ (new ++ post))).1.trimEnd,
    (scan zone none (pre ++ (new ++ post))).2) = _
  rw [replaced]
  exact congrArg (·, _) trimmed

end

/-- What is left of a line stands at its own column. -/
theorem getElem_of_stripLine {inBlock : Bool} {text : Text} {i : Nat} {c : Char}
    (found : (stripLine inBlock text).1[i]? = some c) (visible : ' ' ≠ c) : text[i]? = some c := by
  let zone : Zone := if inBlock then .block else .code
  change (scan zone none text).1.trimEnd[i]? = some c at found
  obtain ⟨blanks, isOut, _⟩ := Text.exists_trimEnd_append (scan zone none text).1
  have inScan : (scan zone none text).1[i]? = some c := by
    rw [isOut, List.getElem?_append_left (List.getElem?_eq_some_iff.1 found).1, found]
  exact getElem_of_scan inScan visible

/-- Every stripped line is what is left of the line with its number. -/
theorem exists_of_stripFrom {inBlock : Bool} {lines : List Text} {n : Nat} {out : Text}
    (found : (stripFrom inBlock lines)[n]? = some out) :
    ∃ line before, lines[n]? = some line ∧ (stripLine before line).1 = out := by
  induction lines generalizing inBlock n with
  | nil => simp [stripFrom] at found
  | cons line lines ih =>
    cases n with
    | zero => exact ⟨line, inBlock, rfl, Option.some.inj found⟩
    | succ n => exact ih found

/-- What may be done to every line before stripping as well as behind may be done to all of them. -/
theorem stripFrom_mapIdx {inBlock : Bool} {lines : List Text} {f : Nat → Text → Text}
    (each : ∀ n line before, lines[n]? = some line →
      (stripFrom inBlock lines)[n]? = some (stripLine before line).1 →
      stripLine before (f n line) =
        (f n (stripLine before line).1, (stripLine before line).2)) :
    stripFrom inBlock (lines.mapIdx f) = (stripFrom inBlock lines).mapIdx f := by
  induction lines generalizing inBlock f with
  | nil => rfl
  | cons line lines ih =>
    have here := each 0 line inBlock rfl rfl
    have later : stripFrom (stripLine inBlock line).2 (lines.mapIdx fun n => f (n + 1)) =
        (stripFrom (stripLine inBlock line).2 lines).mapIdx fun n => f (n + 1) :=
      ih fun n other before isLine isOut => each (n + 1) other before isLine isOut
    rw [List.mapIdx_cons, stripFrom, here]
    simp only [stripFrom, List.mapIdx_cons]
    rw [later]

end Comment
end AsmAtlas
