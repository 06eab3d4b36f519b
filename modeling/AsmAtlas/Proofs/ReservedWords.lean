import AsmAtlas.Proofs.LabelTokens
import AsmAtlas.Proofs.WordUses

/-!
# Reserved words

A token of the first column is held against the reserved words up to case. The pattern looks ahead
for one of them with nothing of a name behind it. Since reserved words are made of word characters
and dots, such a word is the whole token, and it does not matter in which order the words are tried.
-/

namespace AsmAtlas

namespace Keyword

/-- A token that is a reserved word up to case. -/
def IsReserved (token : Text) : Prop :=
  ∃ word ∈ reserved, token.map caseKey = word.map caseKey

/-- Reserved words are made of word characters and dots of ASCII. -/
theorem plain_of_mem_reserved : ∀ word ∈ reserved, word ≠ [] ∧
    ∀ c ∈ word, (caseKey c).toNat < 0x80 ∧ isWordOrDot (caseKey c) := by
  have checked : reserved.all (fun word => !word.isEmpty &&
      word.all fun c => (caseKey c).toNat < 0x80 && isWordOrDot (caseKey c)) := by
    decide +kernel
  simpa using checked

end Keyword

/-- A case form of a word character or dot of ASCII is one itself. -/
theorem isWordOrDot_of_caseKey {c : Char} (plain : (caseKey c).toNat < 0x80)
    (ofName : isWordOrDot (caseKey c)) : isWordOrDot c := by
  by_cases ascii : c.toNat < 0x80
  · exact ascii_induction (fun c => isWordOrDot (caseKey c) → isWordOrDot c) (by decide +kernel) c
      ascii ofName
  · have word := isWordChar_of_foreign ascii plain fun null => by
      rw [← Char.ofNat_toNat (caseKey c), null] at ofName
      exact absurd ofName (by decide +kernel)
    simp [isWordOrDot, word]

/-- The same holds of every text that is the same up to case. -/
theorem ofName_of_reserved {word spelt : Text} (isReserved : word ∈ Keyword.reserved)
    (same : spelt.map caseKey = word.map caseKey) :
    spelt ≠ [] ∧ ∀ c ∈ spelt, isWordOrDot c := by
  obtain ⟨nonempty, plain⟩ := Keyword.plain_of_mem_reserved word isReserved
  refine ⟨?_, ?_⟩
  · rintro rfl
    exact nonempty (List.map_eq_nil_iff.1 same.symm)
  · intro c member
    have isKey : caseKey c ∈ word.map caseKey := same ▸ List.mem_map_of_mem member
    obtain ⟨d, inWord, sameKey⟩ := List.mem_map.1 isKey
    obtain ⟨ascii, ofName⟩ := plain d inWord
    rw [sameKey] at ascii ofName
    exact isWordOrDot_of_caseKey ascii ofName

/-- A reserved word that stands at a token and goes no further than a name is the whole token. -/
theorem TokenAt.eq_of_reserved {line before token after word spelt rest : Text}
    (tokenAt : TokenAt line before token after) (isReserved : word ∈ Keyword.reserved)
    (same : spelt.map caseKey = word.map caseKey) (split : token ++ after = spelt ++ rest)
    (stops : ¬rest.head?.any isWordOrDot) : spelt = token := by
  obtain ⟨nonempty, ofName⟩ := ofName_of_reserved isReserved same
  have unmarked : token.head? ≠ some '@' := by
    intro isAt
    obtain ⟨tail, rfl⟩ := List.head?_eq_some_iff.1 isAt
    obtain ⟨c, spelt, rfl⟩ := List.exists_cons_of_ne_nil nonempty
    obtain ⟨rfl, -⟩ := List.cons.inj split
    exact absurd (ofName '@' List.mem_cons_self) (by decide +kernel)
  calc spelt = (spelt ++ rest).takeWhile isWordOrDot := (Pattern.takeWhile_run ofName stops).symm
    _ = (token ++ after).takeWhile isWordOrDot := by rw [split]
    _ = token :=
      Pattern.takeWhile_run (tokenAt.isToken.forall_isWordOrDot unmarked) tokenAt.maximal

namespace Pattern

open Cursor

variable {here there : Cursor} {words others : List Text} {line : Text}

theorem mem_insertByLength {word other : Text} :
    word ∈ insertByLength other words ↔ word = other ∨ word ∈ words := by
  induction words with
  | nil => simp [insertByLength]
  | cons first words ih =>
    rw [insertByLength]
    split_ifs
    · exact List.mem_cons
    · simp only [List.mem_cons, ih]
      exact or_left_comm

theorem mem_longestFirst {word : Text} : word ∈ longestFirst words ↔ word ∈ words := by
  have inserted : ∀ sorted : List Text,
      word ∈ words.foldl (fun sorted word => insertByLength word sorted) sorted ↔
        word ∈ words ∨ word ∈ sorted := by
    induction words with
    | nil => simp
    | cons first words ih =>
      intro sorted
      rw [List.foldl_cons, ih, mem_insertByLength, List.mem_cons, or_left_comm, or_assoc]
  rw [longestFirst, inserted]
  simp

theorem mem_ends_any {ps : List Pattern} :
    there ∈ (any ps).ends here ↔ ∃ p ∈ ps, there ∈ p.ends here := by
  refine ⟨exists_of_mem_ends_any, ?_⟩
  rintro ⟨p, isPattern, member⟩
  induction ps with
  | nil => simp at isPattern
  | cons q ps ih =>
    cases ps with
    | nil => rwa [List.mem_singleton.1 isPattern] at member
    | cons r ps =>
      rcases List.mem_cons.1 isPattern with rfl | later
      · exact List.mem_append_left _ member
      · exact List.mem_append_right _ (ih later)

theorem ends_ahead_ne_nil {p : Pattern} : (ahead p).ends here ≠ [] ↔ p.ends here ≠ [] := by
  simp [ends]

theorem mem_ends_notAhead {p : Pattern} :
    there ∈ (notAhead p).ends here ↔ there = here ∧ p.ends here = [] := by
  rw [ends]
  split_ifs with none
  · simpa using fun _ => none
  · simpa using fun _ => none

theorem ends_char_eq_nil {accepts : Char → Bool} :
    (char accepts).ends here = [] ↔ ¬here.rest.head?.any accepts := by
  rw [ends]
  split
  · next none => simp [none]
  · next c rest follows => by_cases accepted : accepts c <;> simp [follows, accepted]

/-- None of the words stands here up to the end of a name. -/
def notOneOf (words : List Text) : Pattern :=
  notAhead (seq (any (words.map spelled)) nameEnd)

theorem notReserved_eq : notReserved = notOneOf (longestFirst Keyword.reserved) :=
  rfl

/-- A word stands at a cursor, up to case, and nothing continues it. -/
def HasWhole (here : Cursor) (word : Text) : Prop :=
  ∃ spelt rest, here.rest = spelt ++ rest ∧ spelt.map caseKey = word.map caseKey ∧
    ¬rest.head?.any isWordOrDot

theorem wholeWord_iff :
    (∃ there, there ∈ (seq (any (words.map spelled)) nameEnd).ends here) ↔
      ∃ word ∈ words, HasWhole here word := by
  constructor
  · rintro ⟨stop, member⟩
    obtain ⟨middle, inWord, inEnd⟩ := List.mem_flatMap.1 member
    obtain ⟨p, isSpelled, inSpelled⟩ := mem_ends_any.1 inWord
    obtain ⟨word, isWord, rfl⟩ := List.mem_map.1 isSpelled
    rw [ends_spelled] at inSpelled
    split_ifs at inSpelled with same
    · obtain rfl := List.mem_singleton.1 inSpelled
      refine ⟨word, isWord, here.rest.take word.length, here.rest.drop word.length,
        (List.take_append_drop _ _).symm, same, ?_⟩
      rw [← rest_forward]
      exact ends_char_eq_nil.1 (mem_ends_notAhead.1 inEnd).2
    · simp at inSpelled
  · rintro ⟨word, isWord, spelt, rest, split, same, stops⟩
    have length : word.length = spelt.length := by
      rw [← List.length_map (f := caseKey), ← same, List.length_map]
    refine ⟨here.forward word.length, List.mem_flatMap.2 ⟨here.forward word.length, ?_, ?_⟩⟩
    · refine mem_ends_any.2 ⟨spelled word, List.mem_map_of_mem isWord, ?_⟩
      rw [ends_spelled, length, split, List.take_left, if_pos same]
      exact List.mem_singleton_self _
    · refine mem_ends_notAhead.2 ⟨rfl, ends_char_eq_nil.2 ?_⟩
      rwa [rest_forward, length, split, List.drop_left]

theorem mem_ends_notOneOf :
    there ∈ (notOneOf words).ends here ↔ there = here ∧ ¬∃ word ∈ words, HasWhole here word := by
  rw [notOneOf, mem_ends_notAhead, ← wholeWord_iff, ← ends_ne_nil_iff, not_not]

/-- The order of the words does not matter, nor whether one is repeated. -/
theorem ends_notOneOf_congr (same : ∀ word, word ∈ words ↔ word ∈ others) (here : Cursor) :
    (notOneOf words).ends here = (notOneOf others).ends here := by
  have none : (seq (any (words.map spelled)) nameEnd).ends here = [] ↔
      (seq (any (others.map spelled)) nameEnd).ends here = [] := by
    rw [← not_iff_not, ← ne_eq, ← ne_eq, ends_ne_nil_iff, ends_ne_nil_iff, wholeWord_iff,
      wholeWord_iff]
    simp only [same]
  have unfolded : ∀ p : Pattern,
      (notAhead p).ends here = if p.ends here = [] then [here] else [] := by
    intro p
    simp only [ends, List.isEmpty_iff]
  rw [notOneOf, notOneOf, unfolded, unfolded]
  simp only [none]

end Pattern

/-- The line does not begin with a reserved word if its token is none. -/
theorem TokenAt.mem_ends_notReserved {line token after : Text} {there : Cursor}
    (tokenAt : TokenAt line [] token after) :
    there ∈ Pattern.notReserved.ends (.start line) ↔
      there = .start line ∧ ¬Keyword.IsReserved token := by
  have isLine : line = token ++ after := tokenAt.split
  rw [Pattern.notReserved_eq, Pattern.mem_ends_notOneOf]
  refine and_congr_right fun _ => not_congr ⟨?_, ?_⟩
  · rintro ⟨word, isWord, spelt, rest, split, same, stops⟩
    have isReserved := Pattern.mem_longestFirst.1 isWord
    obtain rfl := tokenAt.eq_of_reserved isReserved same (isLine.symm.trans split) stops
    exact ⟨word, isReserved, same⟩
  · rintro ⟨word, isReserved, same⟩
    exact ⟨word, Pattern.mem_longestFirst.2 isReserved, token, after, isLine, same, tokenAt.maximal⟩

end AsmAtlas
