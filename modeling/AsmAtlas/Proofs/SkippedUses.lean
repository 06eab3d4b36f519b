import AsmAtlas.Proofs.LabelShape
import AsmAtlas.Proofs.TerminalText
import AsmAtlas.Proofs.WordUses

/-!
# The uses that a search skips

A search for a word takes its uses from left to right and goes on behind each of them, so it skips a
use that overlaps the one before. Where two uses overlap, the character before the second one
belongs to the first, the character behind the first one belongs to the second, and neither is a
word character. But a case form of a word character is a word character, with a single exception:
the combining iota, which is a case form of the letter iota.
-/

namespace AsmAtlas

/-- The one answer for all code points from `first` to `last`, if it can be read off one place of a
    sorted list: they lie in one of its ranges, or between two of them. -/
def spanInRanges : List (Nat × Nat) → Nat → Nat → Option Bool
  | [], _, _ => some false
  | range :: rest, first, last =>
    bif range.1.ble first then
      bif range.2.blt first then spanInRanges rest first last
      else bif last.ble range.2 then some true else none
    else bif last.blt range.1 then some false else none

theorem inRanges_of_span {ranges : List (Nat × Nat)} {first last n : Nat} {answer : Bool}
    (span : spanInRanges ranges first last = some answer) (low : first ≤ n) (high : n ≤ last) :
    inRanges ranges n = answer := by
  induction ranges with
  | nil => exact Option.some.inj span
  | cons r ranges ih =>
    simp only [spanInRanges, cond_eq_ite, Nat.ble_eq, Nat.blt_eq] at span
    rw [inRanges]
    split_ifs at span with begun beyond within apart
    · rw [if_neg (by omega), if_neg (by omega)]
      exact ih span
    · obtain rfl := Option.some.inj span
      rw [if_neg (by omega), if_pos (by omega)]
    · obtain rfl := Option.some.inj span
      rw [if_pos (by omega)]

/-- Beyond ASCII the word characters are the letters and the numbers. -/
theorem isWordChar_eq_inRanges {c : Char} (foreign : ¬c.toNat < 0x80) :
    isWordChar c = (inRanges letterRanges c.toNat || inRanges numberRanges c.toNat) := by
  have bound : ∀ {n : UInt32}, c.val ≤ n → c.toNat ≤ n.toNat := fun le =>
    UInt32.le_iff_toNat_le.1 le
  have noDigit : c.isDigit = false := by
    by_contra digit
    simp only [Char.isDigit, Bool.not_eq_false, Bool.and_eq_true, decide_eq_true_eq] at digit
    exact foreign (Nat.lt_of_le_of_lt (bound digit.2) (by decide))
  have noLetter : isPlainStart c = false := by
    by_contra plain
    exact foreign (toNat_lt_of_isPlainStart (by simpa using plain))
  obtain ⟨noAlpha, noUnderscore⟩ := Bool.or_eq_false_iff.1 noLetter
  simp [isWordChar, isAlnum, Char.isAlphanum, noAlpha, noDigit, noUnderscore]

/-- The one answer for all characters with code points from `first` to `last`: all of them are
    letters, all of them are numbers, or none of them is either. -/
def spanOfWord (first last : Nat) : Option Bool :=
  match spanInRanges letterRanges first last with
  | some false => spanInRanges numberRanges first last
  | inLetters => inLetters

theorem isWordChar_of_span {first last : Nat} {c : Char} {answer : Bool}
    (span : spanOfWord first last = some answer) (foreign : ¬c.toNat < 0x80)
    (low : first ≤ c.toNat) (high : c.toNat ≤ last) : isWordChar c = answer := by
  rw [isWordChar_eq_inRanges foreign]
  rw [spanOfWord] at span
  split at span
  · next noLetters =>
    rw [inRanges_of_span noLetters low high, inRanges_of_span span low high, Bool.false_or]
  · next others =>
    rw [inRanges_of_span span low high]
    cases answer with
    | true => rfl
    | false => exact absurd span others

/-- Whether a run has characters of one kind only and goes over to characters of this kind. -/
def CaseRun.keepsKind (run : CaseRun) : Bool :=
  match spanOfWord run.source.first run.source.last with
  | none => false
  | some answer =>
    0x80 ≤ run.target &&
      spanOfWord run.target (run.target + (run.source.last - run.source.first)) == some answer

/-- A run of case forms goes over to characters of the same kind, except for the combining iota.
    Most runs are compared as a whole, the others character by character. -/
theorem caseRuns_keep : ∀ run ∈ caseRuns, run.keepsKind ∨
    (run.source.first = 0x345 ∧ run.source.last = 0x345) ∨
    ∀ i < run.source.last + 1 - run.source.first, run.source.contains (run.source.first + i) →
      isWordChar (Char.ofNat (run.target + i)) =
        isWordChar (Char.ofNat (run.source.first + i)) := by
  decide +kernel

/-- The representative of a character is a word character if the character is. -/
theorem isWordChar_caseKey_of_ne {c : Char} (other : c ≠ '\u0345') :
    isWordChar (caseKey c) = isWordChar c := by
  by_cases ascii : c.toNat < 0x80
  · exact isWordChar_caseKey c ascii
  have proper := Terminal.toNat_caseKey_ne_zero ascii
  unfold caseKey at proper ⊢
  rw [if_neg ascii] at proper ⊢
  cases found : caseRuns.find? (·.source.contains c.toNat) with
  | none => rfl
  | some run =>
    have contains := List.find?_some found
    have inRun := contains
    simp only [CodeRun.contains, Bool.and_eq_true, decide_eq_true_eq] at inRun
    obtain ⟨⟨low, high⟩, _⟩ := inRun
    simp only [found] at proper ⊢
    have key := (toNat_ofNat (run.target + (c.toNat - run.source.first))).resolve_right proper
    rcases caseRuns_keep run (List.mem_of_find?_eq_some found) with
      keeps | ⟨first, last⟩ | each
    · unfold CaseRun.keepsKind at keeps
      split at keeps
      · exact absurd keeps Bool.false_ne_true
      · next answer ofSource =>
        simp only [Bool.and_eq_true, decide_eq_true_eq, beq_iff_eq] at keeps
        rw [isWordChar_of_span ofSource ascii low high]
        exact isWordChar_of_span keeps.2 (by omega) (by omega) (by omega)
    · have isIota : c.toNat = 0x345 := by omega
      exact absurd (by rw [← Char.ofNat_toNat c, isIota]) other
    · have kept := each (c.toNat - run.source.first) (by omega)
      rw [Nat.add_sub_cancel' low, Char.ofNat_toNat] at kept
      exact kept contains

/-- A case form of a word character is a word character, or the combining iota. -/
theorem isWordChar_or_iota {c d : Char} (word : isWordChar c) (same : caseKey d = caseKey c) :
    isWordChar d ∨ d = '\u0345' := by
  by_cases iota : d = '\u0345'
  · exact .inr iota
  · left
    rw [← isWordChar_caseKey_of_ne iota, same]
    by_cases combining : c = '\u0345'
    · rw [combining] at word
      exact absurd word (by decide)
    · rwa [isWordChar_caseKey_of_ne combining]

/-- What is the word up to case consists of its characters up to case. -/
theorem Text.HasWordAt.exists_sameKey {text word : Text} {column i : Nat} {c : Char}
    (hasWord : text.HasWordAt word column) (within : i < word.length)
    (isChar : text[column + i]? = some c) : ∃ d ∈ word, caseKey c = caseKey d := by
  have spells := congrArg (·[i]?) hasWord.spells
  simp only [List.getElem?_map, Text.getElem_slice, List.getElem?_eq_getElem within] at spells
  rw [if_pos (by omega), isChar] at spells
  exact ⟨word[i], List.getElem_mem within, Option.some.inj spells⟩

namespace WordSearch

/-- The spans at which a search finds a word in a line. -/
def useSpans (word text : Text) : List Span :=
  ((uses word).findAll text).map Match.wordSpan

variable {word text : Text}

/-- Every span that is found is a use of the word. -/
theorem hasWordAt_of_mem_useSpans (nonempty : word ≠ []) {span : Span}
    (member : span ∈ useSpans word text) :
    text.HasWordAt word span.start ∧ span.stop = span.start + word.length := by
  obtain ⟨m, found, rfl⟩ := List.mem_map.1 member
  obtain ⟨hasWord, stop, isSpan⟩ := Pattern.hasWordAt_of_mem_findAll nonempty found
  rw [isSpan]
  exact ⟨hasWord, stop⟩

/-- The spans that are found increase, and none of them overlaps the next. -/
theorem pairwise_useSpans (nonempty : word ≠ []) (text : Text) :
    (useSpans word text).Pairwise fun a b => a.start < b.start ∧ a.stop ≤ b.start := by
  have finds := Pattern.findsWords_uses nonempty
  refine List.pairwise_map.2 ((Pattern.pairwise_findAll _ text).imp_of_mem ?_)
  intro a b isA isB before
  obtain ⟨spanA, positive⟩ := finds text a isA
  obtain ⟨spanB, _⟩ := finds text b isB
  rw [spanA, spanB]
  exact ⟨by omega, before⟩

/-- A use is found, or a use that is found begins before it and reaches into it. -/
theorem mem_useSpans_or_hidden (nonempty : word ≠ []) {column : Nat}
    (hasWord : text.HasWordAt word column) :
    ⟨column, column + word.length⟩ ∈ useSpans word text ∨
      ∃ other ∈ useSpans word text, other.start < column ∧ column < other.stop := by
  rcases Pattern.mem_findAll_or_hidden nonempty hasWord with ⟨m, found, isSpan⟩ | hidden
  · left
    rw [← isSpan]
    exact List.mem_map_of_mem found
  · obtain ⟨m, found, before, beyond⟩ := hidden
    obtain ⟨_, _, isSpan⟩ := Pattern.hasWordAt_of_mem_findAll nonempty found
    exact .inr ⟨m.wordSpan, List.mem_map_of_mem found, by rwa [isSpan], by rwa [isSpan]⟩

/-- Of two spans that are found, the one that begins earlier ends before the other. -/
theorem stop_le_of_mem_useSpans (nonempty : word ≠ []) {a b : Span}
    (isA : a ∈ useSpans word text) (isB : b ∈ useSpans word text) (before : a.start < b.start) :
    a.stop ≤ b.start := by
  have ordered := pairwise_useSpans nonempty text
  have forward : (useSpans word text).Pairwise fun a b => a.start < b.start → a.stop ≤ b.start :=
    ordered.imp fun order _ => order.2
  have backward : (useSpans word text).Pairwise
      (flip fun a b => a.start < b.start → a.stop ≤ b.start) :=
    ordered.imp fun order back => absurd back (Nat.lt_asymm order.1)
  have itself : ∀ a ∈ useSpans word text, a.start < a.start → a.stop ≤ a.start :=
    fun a _ irreflexive => absurd irreflexive (Nat.lt_irrefl a.start)
  exact forward.forall_of_forall_of_flip itself backward isA isB before

/-- A use that overlaps an earlier one begins behind a combining iota, and the earlier one ends
    before another: these characters belong to a use, but they are no word characters. -/
theorem iota_of_hidden (ofWord : ∀ c ∈ word, isWordChar c) {column earlier : Nat}
    (hasWord : text.HasWordAt word column) (hasEarlier : text.HasWordAt word earlier)
    (before : earlier < column) (beyond : column < earlier + word.length) :
    text[column - 1]? = some '\u0345' ∧ text[earlier + word.length]? = some '\u0345' := by
  have nonempty : word ≠ [] := by
    rintro rfl
    simp at beyond
    omega
  have inside := hasWord.le_length nonempty
  -- Both characters lie in one use and right beside the other one.
  constructor
  · have isChar := List.getElem?_eq_getElem (show column - 1 < text.length by omega)
    obtain ⟨d, inWord, same⟩ :=
      hasEarlier.exists_sameKey (i := column - 1 - earlier) (by omega)
        (by rw [Nat.add_sub_cancel' (by omega)]; exact isChar)
    have starts := hasWord.starts
    rw [List.getLast?_take, if_neg (by omega), isChar] at starts
    rcases isWordChar_or_iota (ofWord d inWord) same with continues | iota
    · simp [continues] at starts
    · rw [isChar, iota]
  · have isChar := List.getElem?_eq_getElem (show earlier + word.length < text.length by omega)
    obtain ⟨d, inWord, same⟩ :=
      hasWord.exists_sameKey (i := earlier + word.length - column) (by omega)
        (by rw [Nat.add_sub_cancel' (by omega)]; exact isChar)
    have stops := hasEarlier.ends
    rw [isChar] at stops
    rcases isWordChar_or_iota (ofWord d inWord) same with continues | iota
    · simp [continues] at stops
    · rw [isChar, iota]

/-- The spans that are found increase and do not overlap. They are the uses of the word that no
    earlier one of them reaches into, and only between combining iotas does one reach into a use. -/
theorem useSpans_leftmost (word text : Text) (nonempty : word ≠ [])
    (ofWord : ∀ c ∈ word, isWordChar c) :
    ((useSpans word text).Pairwise fun a b => a.start < b.start ∧ a.stop ≤ b.start) ∧
    (∀ span, span ∈ useSpans word text ↔
      span.stop = span.start + word.length ∧ text.HasWordAt word span.start ∧
        ∀ other ∈ useSpans word text, other.start < span.start → other.stop ≤ span.start) ∧
    ∀ column, text.HasWordAt word column →
      ⟨column, column + word.length⟩ ∈ useSpans word text ∨
        ∃ other ∈ useSpans word text, other.start < column ∧ column < other.stop ∧
          text[column - 1]? = some '\u0345' ∧ text[other.stop]? = some '\u0345' := by
  refine ⟨pairwise_useSpans nonempty text, ?_, ?_⟩
  · intro span
    constructor
    · intro member
      obtain ⟨hasWord, stop⟩ := hasWordAt_of_mem_useSpans nonempty member
      exact ⟨stop, hasWord, fun other isOther => stop_le_of_mem_useSpans nonempty isOther member⟩
    · rintro ⟨stop, hasWord, free⟩
      rcases mem_useSpans_or_hidden nonempty hasWord with found | ⟨other, isOther, before, beyond⟩
      · rwa [← stop] at found
      · have := free other isOther before
        omega
  · intro column hasWord
    rcases mem_useSpans_or_hidden nonempty hasWord with found | ⟨other, isOther, before, beyond⟩
    · exact .inl found
    · obtain ⟨hasOther, stop⟩ := hasWordAt_of_mem_useSpans nonempty isOther
      rw [stop] at beyond
      obtain ⟨behind, next⟩ := iota_of_hidden ofWord hasWord hasOther before beyond
      rw [← stop] at beyond next
      exact .inr ⟨other, isOther, before, beyond, behind, next⟩

/-- The second call of a routine is found, in capital letters and behind a dot. -/
theorem second_call_found : ⟨12, 14⟩ ∈ useSpans "go".toList "jp go; jp x.GO".toList := by
  have hasWord : Text.HasWordAt "jp go; jp x.GO".toList "go".toList 12 :=
    ⟨by decide, by decide, by decide⟩
  obtain ⟨_, _, complete⟩ := useSpans_leftmost "go".toList "jp go; jp x.GO".toList
    (by decide) (List.all_eq_true.1 rfl)
  rcases complete 12 hasWord with found | ⟨_, _, _, _, iota, _⟩
  · exact found
  · exact absurd iota (by decide)

/-- A word of two iotas is used twice in a row of three combining iotas, and the second use is
    skipped. -/
theorem overlapping_use_skipped :
    let word : Text := ['ι', 'ι']
    let text : Text := ['\u0345', '\u0345', '\u0345']
    (∀ c ∈ word, isWordChar c) ∧ text.HasWordAt word 0 ∧ text.HasWordAt word 1 ∧
      useSpans word text = [⟨0, 2⟩] := by
  refine ⟨List.all_eq_true.1 rfl, ⟨by decide, ?_, by decide⟩, ⟨by decide, ?_, by decide⟩, ?_⟩
  · rfl
  · rfl
  · rfl

end WordSearch
end AsmAtlas
