import AsmAtlas.Proofs.PlainGlobs
import Mathlib.Data.List.DropRight

/-!
# How globs are read

The grammar of globs without sets, said without the scanners that look for it. Braces enclose a
choice if they belong together; its alternatives are what stands between the commas that are in no
inner braces. A brace that is never closed is a character like any other. Every such glob can be
read in exactly one way, and that is how it is read.
-/

namespace AsmAtlas

namespace GlobPiece

/-- A text whose braces belong together in pairs. -/
inductive Balanced : LooseText → Prop
  | nil : Balanced []
  | char {c : CodePoint} {t : LooseText} (notOpen : c ≠ .char '\x7b') (notClose : c ≠ .char '\x7d')
      (rest : Balanced t) : Balanced (c :: t)
  | braces {inner t : LooseText} (inside : Balanced inner) (rest : Balanced t) :
      Balanced (.char '\x7b' :: (inner ++ .char '\x7d' :: t))

/-- A balanced text whose commas all stand in braces. -/
inductive IsAlternative : LooseText → Prop
  | nil : IsAlternative []
  | char {c : CodePoint} {t : LooseText} (notOpen : c ≠ .char '\x7b') (notClose : c ≠ .char '\x7d')
      (notComma : c ≠ .char ',') (rest : IsAlternative t) : IsAlternative (c :: t)
  | braces {inner t : LooseText} (inside : Balanced inner) (rest : IsAlternative t) :
      IsAlternative (.char '\x7b' :: (inner ++ .char '\x7d' :: t))

/-- Alternatives with commas between them. -/
structure Separates (body : LooseText) (parts : List LooseText) : Prop where
  nonempty : parts ≠ []
  alternatives : ∀ part ∈ parts, IsAlternative part
  commas : [.char ','].intercalate parts = body

/-- The pieces that a glob without sets consists of. -/
inductive Reading : LooseText → List GlobPiece → Prop
  | nil : Reading [] []
  | folders {rest : LooseText} {pieces : List GlobPiece} (behind : Reading rest pieces) :
      Reading (.char '*' :: .char '*' :: .char '/' :: rest) (.folders :: pieces)
  | anything {rest : LooseText} {pieces : List GlobPiece}
      (notFolders : rest.head? ≠ some (.char '/')) (behind : Reading rest pieces) :
      Reading (.char '*' :: .char '*' :: rest) (.anything :: pieces)
  | stretch {rest : LooseText} {pieces : List GlobPiece} (alone : rest.head? ≠ some (.char '*'))
      (behind : Reading rest pieces) : Reading (.char '*' :: rest) (.stretch :: pieces)
  | single {rest : LooseText} {pieces : List GlobPiece} (behind : Reading rest pieces) :
      Reading (.char '?' :: rest) (.single :: pieces)
  | choice {body rest : LooseText} {parts : List LooseText} {read : LooseText → List GlobPiece}
      {pieces : List GlobPiece} (separates : Separates body parts)
      (inside : ∀ part ∈ parts, Reading part (read part)) (behind : Reading rest pieces) :
      Reading (.char '\x7b' :: (body ++ .char '\x7d' :: rest)) (.choice (parts.map read) :: pieces)
  | brace {rest : LooseText} {pieces : List GlobPiece}
      (unclosed : ¬∃ body after, Balanced body ∧ rest = body ++ .char '\x7d' :: after)
      (behind : Reading rest pieces) :
      Reading (.char '\x7b' :: rest) (.literal (.char '\x7b') :: pieces)
  | literal {c : CodePoint} {rest : LooseText} {pieces : List GlobPiece}
      (plain : ∀ d ∈ ['*', '?', '[', '\x7b'], c ≠ .char d) (behind : Reading rest pieces) :
      Reading (c :: rest) (.literal c :: pieces)

variable {body after inner part t : LooseText} {c : CodePoint} {depth : Nat}

theorem head?_ne_some_iff : t.head? ≠ some c ↔ ∀ rest, t = c :: rest → False := by
  rw [ne_eq, List.head?_eq_some_iff, not_exists]

theorem depthAfter_of_ne (notOpen : c ≠ .char '\x7b') (notClose : c ≠ .char '\x7d') :
    depthAfter depth c = depth := by
  rw [depthAfter, if_neg (by simpa using notOpen), if_neg (by simpa using notClose)]

theorem Balanced.append (first : Balanced inner) (second : Balanced t) : Balanced (inner ++ t) := by
  induction first with
  | nil => exact second
  | char notOpen notClose _ ih => exact .char notOpen notClose ih
  | braces inside _ _ ih =>
    rw [List.cons_append, List.append_assoc, List.cons_append]
    exact .braces inside ih

theorem IsAlternative.balanced (alternative : IsAlternative part) : Balanced part := by
  induction alternative with
  | nil => exact .nil
  | char notOpen notClose _ _ ih => exact .char notOpen notClose ih
  | braces inside _ ih => exact .braces inside ih

/-- Looking for the closing brace, a balanced text is passed over. -/
theorem splitBrace_append (balanced : Balanced inner) (depth : Nat) (t : LooseText) :
    splitBrace depth (inner ++ t) =
      (splitBrace depth t).map fun (body, after) => (inner ++ body, after) := by
  induction balanced generalizing depth t with
  | nil => simp
  | @char c inner notOpen notClose _ ih =>
    rw [List.cons_append, splitBrace, depthAfter_of_ne notOpen notClose, ih,
      if_neg (by simp [notClose]), Option.map_map]
    rfl
  | @braces inner more _ _ ihInside ihRest =>
    have opens : ∀ rest, splitBrace depth (.char '\x7b' :: rest) =
        (splitBrace (depth + 1) rest).map fun (body, after) => (.char '\x7b' :: body, after) :=
      fun _ => rfl
    have closes : ∀ rest, splitBrace (depth + 1) (.char '\x7d' :: rest) =
        (splitBrace depth rest).map fun (body, after) => (.char '\x7d' :: body, after) :=
      fun _ => rfl
    rw [List.cons_append, List.append_assoc, List.cons_append, opens, ihInside, closes, ihRest]
    simp [Option.map_map, Function.comp_def]

theorem splitBrace_of_balanced (balanced : Balanced body) (after : LooseText) :
    splitBrace 0 (body ++ .char '\x7d' :: after) = some (body, after) := by
  rw [splitBrace_append balanced]
  simp [splitBrace]

/-- A text that closes some braces which were opened before it, and is balanced apart from that. -/
def Closes : Nat → LooseText → Prop
  | 0, t => Balanced t
  | depth + 1, t =>
    ∃ inner rest, t = inner ++ .char '\x7d' :: rest ∧ Balanced inner ∧ Closes depth rest

theorem Closes.append (first : Balanced inner) (second : Closes depth t) :
    Closes depth (inner ++ t) := by
  cases depth with
  | zero => exact Balanced.append first second
  | succ depth =>
    obtain ⟨more, rest, rfl, isBalanced, closes⟩ := second
    exact ⟨inner ++ more, rest, by rw [List.append_assoc], first.append isBalanced, closes⟩

theorem closes_of_splitBrace (split : splitBrace depth t = some (body, after)) :
    t = body ++ .char '\x7d' :: after ∧ Closes depth body := by
  induction t generalizing depth body with
  | nil => cases split
  | cons c rest ih =>
    rw [splitBrace] at split
    split_ifs at split with stops
    · obtain ⟨rfl, rfl⟩ := Prod.mk.inj (Option.some.inj split)
      obtain ⟨rfl, rfl⟩ : c = .char '\x7d' ∧ depth = 0 := by simpa using stops
      exact ⟨rfl, .nil⟩
    · obtain ⟨⟨more, behind⟩, found, same⟩ := Option.map_eq_some_iff.1 split
      obtain ⟨rfl, rfl⟩ := Prod.mk.inj same
      obtain ⟨rfl, closes⟩ := ih found
      refine ⟨rfl, ?_⟩
      by_cases isOpen : c = .char '\x7b'
      · obtain ⟨inner, rest, rfl, balanced, outer⟩ : Closes (depth + 1) more := by
          simpa [depthAfter, isOpen] using closes
        have pair : Balanced (.char '\x7b' :: (inner ++ [.char '\x7d'])) := .braces balanced .nil
        have passed := Closes.append pair outer
        rw [List.cons_append, List.append_assoc] at passed
        rwa [isOpen]
      · by_cases isClose : c = .char '\x7d'
        · have inside : depth ≠ 0 := fun none => stops (by simp [isClose, none])
          obtain ⟨outer, rfl⟩ := Nat.exists_eq_succ_of_ne_zero inside
          refine ⟨[], more, by rw [isClose]; rfl, .nil, ?_⟩
          simpa [depthAfter, isClose] using closes
        · rw [depthAfter_of_ne isOpen isClose] at closes
          exact Closes.append (.char isOpen isClose .nil) closes

/-- The closing brace that belongs to an opening one is the one behind a balanced text. -/
theorem splitBrace_eq_some_iff :
    splitBrace 0 t = some (body, after) ↔ Balanced body ∧ t = body ++ .char '\x7d' :: after := by
  constructor
  · exact fun split => (closes_of_splitBrace split).symm
  · rintro ⟨balanced, rfl⟩
    exact splitBrace_of_balanced balanced after

theorem splitCommas_cons (inside : ¬(c = .char ',' ∧ depth = 0)) (rest : LooseText) :
    splitCommas depth (c :: rest) =
      (splitCommas (depthAfter depth c) rest).modifyHead (c :: ·) := by
  rw [splitCommas, if_neg (by simpa using inside)]
  split
  · next none => exact absurd none (splitCommas_ne_nil _ _)
  · next found => rw [found, List.modifyHead_cons]

/-- In braces, no comma separates alternatives. -/
theorem splitCommas_append_balanced (balanced : Balanced inner) (depth : Nat) (t : LooseText) :
    splitCommas (depth + 1) (inner ++ t) =
      (splitCommas (depth + 1) t).modifyHead (inner ++ ·) := by
  induction balanced generalizing depth t with
  | nil => exact congrFun List.modifyHead_id.symm _
  | @char c inner notOpen notClose _ ih =>
    rw [List.cons_append, splitCommas_cons (by simp), depthAfter_of_ne notOpen notClose, ih,
      List.modifyHead_modifyHead]
    rfl
  | @braces inner more _ _ ihInside ihRest =>
    have outer : depthAfter (depth + 1 + 1) (.char '\x7d') = depth + 1 := rfl
    have inner : depthAfter (depth + 1) (.char '\x7b') = depth + 1 + 1 := rfl
    rw [List.cons_append, List.append_assoc, List.cons_append, splitCommas_cons (by simp), inner,
      ihInside, splitCommas_cons (by simp), outer, ihRest]
    simp [List.modifyHead_modifyHead, Function.comp_def]

/-- An alternative ends at the first comma behind it. -/
theorem splitCommas_append (alternative : IsAlternative part) (t : LooseText) :
    splitCommas 0 (part ++ t) = (splitCommas 0 t).modifyHead (part ++ ·) := by
  induction alternative with
  | nil => exact congrFun List.modifyHead_id.symm _
  | @char c part notOpen notClose notComma _ ih =>
    rw [List.cons_append, splitCommas_cons (by simp [notComma]), depthAfter_of_ne notOpen notClose,
      ih, List.modifyHead_modifyHead]
    rfl
  | @braces inner more inside _ ih =>
    have opens : depthAfter 0 (.char '\x7b') = 0 + 1 := rfl
    have closes : depthAfter (0 + 1) (.char '\x7d') = 0 := rfl
    rw [List.cons_append, List.append_assoc, List.cons_append, splitCommas_cons (by simp), opens,
      splitCommas_append_balanced inside, splitCommas_cons (by simp), closes, ih]
    simp [List.modifyHead_modifyHead, Function.comp_def]

namespace Separates

variable {parts : List LooseText}

theorem splitCommas_eq (separates : Separates body parts) : splitCommas 0 body = parts := by
  obtain ⟨nonempty, alternatives, rfl⟩ := separates
  induction parts with
  | nil => exact absurd rfl nonempty
  | cons part more ih =>
    obtain ⟨first, others⟩ := List.forall_mem_cons.1 alternatives
    cases more with
    | nil =>
      rw [List.intercalate_singleton, ← List.append_nil part, splitCommas_append first]
      simp [splitCommas]
    | cons next more =>
      rw [List.intercalate_cons_cons, List.append_assoc, splitCommas_append first,
        List.singleton_append, splitCommas, if_pos (by simp),
        ih (List.cons_ne_nil next more) others, List.modifyHead_cons, List.append_nil]

theorem balanced (separates : Separates body parts) : Balanced body := by
  obtain ⟨-, alternatives, rfl⟩ := separates
  induction parts with
  | nil => exact .nil
  | cons part more ih =>
    obtain ⟨first, others⟩ := List.forall_mem_cons.1 alternatives
    cases more with
    | nil =>
      rw [List.intercalate_singleton]
      exact first.balanced
    | cons next more =>
      rw [List.intercalate_cons_cons, List.append_assoc]
      exact first.balanced.append (.char (by decide) (by decide) (ih others))

/-- Something that no comma follows can be put in front of the first alternative. -/
theorem prepend {more : List LooseText} (separates : Separates t (part :: more))
    (first : LooseText) (alternative : IsAlternative (first ++ part)) :
    Separates (first ++ t) ((first ++ part) :: more) := by
  obtain ⟨-, alternatives, rfl⟩ := separates
  refine ⟨List.cons_ne_nil _ _, ?_, ?_⟩
  · exact List.forall_mem_cons.2 ⟨alternative, (List.forall_mem_cons.1 alternatives).2⟩
  · cases more with
    | nil => simp
    | cons next more => simp [List.intercalate_cons_cons]

end Separates

/-- A balanced text is separated by its outer commas. -/
theorem Balanced.separates (balanced : Balanced body) : Separates body (splitCommas 0 body) := by
  suffices ∃ parts, Separates body parts by
    obtain ⟨parts, separates⟩ := this
    rwa [separates.splitCommas_eq]
  induction balanced with
  | nil => exact ⟨[[]], by simp, by simpa using IsAlternative.nil, rfl⟩
  | @char c t notOpen notClose _ ih =>
    obtain ⟨parts, separates⟩ := ih
    obtain ⟨part, more, rfl⟩ := List.exists_cons_of_ne_nil separates.nonempty
    have first := separates.alternatives part List.mem_cons_self
    by_cases isComma : c = .char ','
    · refine ⟨[] :: part :: more, by simp, ?_, ?_⟩
      · exact List.forall_mem_cons.2 ⟨.nil, separates.alternatives⟩
      · rw [List.intercalate_cons_cons, separates.commas, isComma]
        rfl
    · exact ⟨_, separates.prepend [c] (.char notOpen notClose isComma first)⟩
  | @braces inner t inside _ _ ih =>
    obtain ⟨parts, separates⟩ := ih
    obtain ⟨part, more, rfl⟩ := List.exists_cons_of_ne_nil separates.nonempty
    have first := separates.alternatives part List.mem_cons_self
    have put := separates.prepend (.char '\x7b' :: (inner ++ [.char '\x7d']))
      (by simpa using IsAlternative.braces inside first)
    exact ⟨_, by simpa using put⟩

theorem ofText_closed (split : splitBrace 0 t = some (body, after)) :
    ofText (.char '\x7b' :: t) = .choice ((splitCommas 0 body).map ofText) :: ofText after := by
  rw [ofText]
  split
  · next unclosed => simp [split] at unclosed
  · next found =>
    obtain ⟨rfl, rfl⟩ := Prod.mk.inj (Option.some.inj (split.symm.trans found))
    simp

theorem ofText_unclosed (split : splitBrace 0 t = none) :
    ofText (.char '\x7b' :: t) = .literal (.char '\x7b') :: ofText t := by
  rw [ofText]
  split
  · rfl
  · next found => simp [split] at found

/-- A glob without sets is read as the grammar says. -/
theorem reading_ofText (plain : CodePoint.char '[' ∉ t) : Reading t (ofText t) := by
  have behind : ∀ {c : CodePoint} {rest : LooseText}, CodePoint.char '[' ∉ c :: rest →
      CodePoint.char '[' ∉ rest := fun noBracket later => noBracket (List.mem_cons_of_mem _ later)
  induction t using ofText.induct with
  | case1 =>
    rw [ofText]
    exact .nil
  | case2 rest ih =>
    rw [ofText]
    exact .folders (ih (behind (behind (behind plain))))
  | case3 rest notFolders ih =>
    rw [ofText]
    · exact .anything (head?_ne_some_iff.2 notFolders) (ih (behind (behind plain)))
    · exact notFolders
  | case4 rest notFolders alone ih =>
    rw [ofText]
    · exact .stretch (head?_ne_some_iff.2 alone) (ih (behind plain))
    · exact notFolders
    · exact alone
  | case5 rest ih =>
    rw [ofText]
    exact .single (ih (behind plain))
  | case6 => exact absurd List.mem_cons_self plain
  | case7 => exact absurd List.mem_cons_self plain
  | case8 rest unclosed ih =>
    rw [ofText_unclosed unclosed]
    refine .brace ?_ (ih (behind plain))
    rintro ⟨body, after, closed⟩
    simp [splitBrace_eq_some_iff.2 closed] at unclosed
  | case9 rest body after closed ihParts ihAfter =>
    obtain ⟨inBody, inAfter⟩ := subset_of_splitBrace closed
    have noBracket := behind plain
    obtain ⟨balanced, rfl⟩ := splitBrace_eq_some_iff.1 closed
    rw [ofText_closed closed]
    refine .choice balanced.separates (fun part isPart => ?_)
      (ihAfter fun there => noBracket (inAfter there))
    exact ihParts part isPart fun there =>
      noBracket (inBody (subset_of_mem_splitCommas isPart there))
  | case10 c rest noFolders noStars noStar noMark noBracket noBrace ih =>
    rw [ofText]
    · exact .literal (by simp; exact ⟨noStar, noMark, noBracket, noBrace⟩) (ih (behind plain))
    all_goals assumption

/-- There is only one way to read a glob. -/
theorem Reading.eq_ofText {pieces : List GlobPiece} (reading : Reading t pieces) :
    pieces = ofText t := by
  induction reading with
  | nil => rw [ofText]
  | folders _ ih => rw [ofText, ih]
  | anything notFolders _ ih =>
    rw [ofText, ih]
    exact head?_ne_some_iff.1 notFolders
  | stretch alone _ ih =>
    have noStars := head?_ne_some_iff.1 alone
    rw [ofText, ih]
    · exact fun rest same => noStars _ same
    · exact noStars
  | single _ ih => rw [ofText, ih]
  | @choice body rest parts read pieces separates _ _ ihInside ih =>
    have closed := splitBrace_of_balanced separates.balanced rest
    rw [ofText_closed closed, separates.splitCommas_eq, ih, List.map_congr_left ihInside]
  | @brace rest pieces unclosed _ ih =>
    rw [ofText_unclosed, ih]
    cases split : splitBrace 0 rest with
    | none => rfl
    | some found => exact absurd ⟨_, _, splitBrace_eq_some_iff.1 split⟩ unclosed
  | literal plain _ ih =>
    simp only [List.forall_mem_cons] at plain
    obtain ⟨noStar, noMark, noBracket, noBrace, _⟩ := plain
    rw [ofText, ih]
    all_goals simp [noStar, noMark, noBracket, noBrace]

end GlobPiece

namespace LooseText

/-- What is left of a text without the blanks around it. -/
def IsTrimmed (t trimmed : LooseText) : Prop :=
  ∃ front back, t = front ++ (trimmed ++ back) ∧ (∀ c ∈ front ++ back, c.isChar isBlank) ∧
    ∀ c, trimmed.head? = some c ∨ trimmed.getLast? = some c → c.isChar isBlank = false

variable {t trimmed : LooseText}

theorem dropWhile_eq_self {p : CodePoint → Bool} (head : ∀ c, t.head? = some c → p c = false) :
    t.dropWhile p = t := by
  cases t with
  | nil => rfl
  | cons c rest => rw [List.dropWhile_cons_of_neg (by simp [head c rfl])]

theorem IsTrimmed.eq_trim (isTrimmed : IsTrimmed t trimmed) : trimmed = t.trim := by
  obtain ⟨front, back, rfl, blank, visible⟩ := isTrimmed
  obtain ⟨blankFront, blankBack⟩ := List.forall_mem_append.1 blank
  have atFront : (front ++ (trimmed ++ back)).dropWhile (CodePoint.isChar isBlank) =
      if trimmed = [] then [] else trimmed ++ back := by
    rw [List.dropWhile_append_of_pos blankFront]
    split_ifs with none
    · simpa [none] using blankBack
    · refine dropWhile_eq_self fun c head => visible c (.inl ?_)
      rwa [List.head?_append_of_ne_nil _ none] at head
  have atBack : (trimmed ++ back).reverse.dropWhile (CodePoint.isChar isBlank) =
      trimmed.reverse := by
    rw [List.reverse_append, List.dropWhile_append_of_pos (by simpa using blankBack)]
    exact dropWhile_eq_self fun c head => visible c (.inr (by simpa using head))
  rw [trim, atFront]
  split_ifs with none
  · rw [none]
    rfl
  · rw [atBack, List.reverse_reverse]

theorem isTrimmed_trim (t : LooseText) : IsTrimmed t t.trim := by
  have isTrim : t.trim =
      (t.dropWhile (CodePoint.isChar isBlank)).rdropWhile (CodePoint.isChar isBlank) := rfl
  refine ⟨t.takeWhile (CodePoint.isChar isBlank),
    (t.dropWhile (CodePoint.isChar isBlank)).rtakeWhile (CodePoint.isChar isBlank), ?_, ?_, ?_⟩
  · rw [isTrim, List.rdropWhile_append_rtakeWhile, List.takeWhile_append_dropWhile]
  · exact List.forall_mem_append.2
      ⟨fun _ => List.mem_takeWhile_imp, fun _ => List.mem_rtakeWhile_imp⟩
  · rintro c (head | last)
    · obtain ⟨rest, split⟩ := List.head?_eq_some_iff.1 head
      obtain ⟨more, whole⟩ := List.rdropWhile_prefix (CodePoint.isChar isBlank)
        (t.dropWhile (CodePoint.isChar isBlank))
      have atHead : (t.dropWhile (CodePoint.isChar isBlank)).head? = some c := by
        rw [← whole, ← isTrim, split]
        rfl
      have stops := List.head?_dropWhile_not (CodePoint.isChar isBlank) t
      rw [atHead] at stops
      simpa using stops
    · have nonempty : t.trim ≠ [] := by
        rintro none
        simp [none] at last
      have stops := List.rdropWhile_last_not (CodePoint.isChar isBlank)
        (t.dropWhile (CodePoint.isChar isBlank)) nonempty
      rw [List.getLast?_eq_some_getLast nonempty] at last
      rw [← Option.some.inj last]
      exact Bool.eq_false_iff.2 stops

end LooseText

namespace Glob

/-- What is read of a glob: without the blanks around it and the slashes in front it has to have a
    slash, else it is meant for any folder. -/
def IsForm (glob form : LooseText) : Prop :=
  ∃ slashes core, LooseText.IsTrimmed glob (slashes ++ core) ∧ (∀ c ∈ slashes, c = .char '/') ∧
    core.head? ≠ some (.char '/') ∧
    form = if .char '/' ∈ core then core else .ofText "**/".toList ++ core

theorem isForm_iff {glob form : LooseText} : IsForm glob form ↔ form = normalize glob := by
  have chosen : ∀ core : LooseText,
      (if core.contains (.char '/') then core else .ofText "**/".toList ++ core) =
        if .char '/' ∈ core then core else .ofText "**/".toList ++ core := by
    intro core
    simp only [List.contains_iff_mem]
  rw [normalize]
  constructor
  · rintro ⟨slashes, core, isTrimmed, areSlashes, noSlash, rfl⟩
    have dropped : glob.trim.dropWhile (· == .char '/') = core := by
      rw [← isTrimmed.eq_trim, List.dropWhile_append_of_pos (by simpa using areSlashes)]
      refine LooseText.dropWhile_eq_self fun c head => ?_
      rw [beq_eq_false_iff_ne]
      rintro rfl
      exact noSlash head
    rw [dropped, chosen]
  · rintro rfl
    refine ⟨glob.trim.takeWhile (· == .char '/'), glob.trim.dropWhile (· == .char '/'), ?_, ?_, ?_,
      chosen _⟩
    · rw [List.takeWhile_append_dropWhile]
      exact LooseText.isTrimmed_trim glob
    · exact fun c member => by simpa using List.mem_takeWhile_imp member
    · intro head
      have stops := List.head?_dropWhile_not (· == CodePoint.char '/') glob.trim
      rw [head] at stops
      simp at stops

end Glob

end AsmAtlas
