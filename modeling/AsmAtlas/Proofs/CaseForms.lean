import AsmAtlas.Comment
import AsmAtlas.Text.Case
import AsmAtlas.Proofs.WordMatching

/-!
# Case forms of characters that mean something

Blanks, quotes and the marks of comments have no other case form. So whatever matches a word
character up to case is none of them, even where it is no word character itself.
-/

namespace AsmAtlas

/-- A member of a list of ranges lies in one of them. -/
theorem exists_of_inRanges {ranges : List (Nat × Nat)} {n : Nat} (inside : inRanges ranges n) :
    ∃ r ∈ ranges, r.1 ≤ n ∧ n ≤ r.2 := by
  induction ranges with
  | nil => simp [inRanges] at inside
  | cons r ranges ih =>
    obtain ⟨first, last⟩ := r
    simp only [inRanges] at inside
    split_ifs at inside with before within
    · exact ⟨(first, last), List.mem_cons_self, by omega, within⟩
    · obtain ⟨r, member, bounds⟩ := ih inside
      exact ⟨r, List.mem_cons_of_mem _ member, bounds⟩

/-- A code that belongs to no character gives the null character. -/
theorem toNat_ofNat (n : Nat) : (Char.ofNat n).toNat = n ∨ (Char.ofNat n).toNat = 0 := by
  by_cases valid : n.isValidChar
  · left
    rw [Char.ofNat, dif_pos valid]
    rfl
  · right
    rw [Char.ofNat, dif_neg valid]
    rfl

/-- A character is its own representative if no run of case forms has the code of it. -/
theorem caseKey_eq_self {c : Char} (ascii : ¬c.toNat < 0x80) (proper : (caseKey c).toNat ≠ 0)
    (free : ∀ run ∈ caseRuns, ¬(run.target ≤ (caseKey c).toNat ∧
      (caseKey c).toNat ≤ run.target + (run.source.last - run.source.first))) :
    caseKey c = c := by
  unfold caseKey at proper free ⊢
  rw [if_neg ascii] at proper free ⊢
  cases found : caseRuns.find? (·.source.contains c.toNat) with
  | none => rfl
  | some run =>
    have contains := List.find?_some found
    simp only [CodeRun.contains, Bool.and_eq_true, decide_eq_true_eq] at contains
    simp only [found] at proper free
    rcases toNat_ofNat (run.target + (c.toNat - run.source.first)) with valid | null
    · rw [valid] at free
      exact absurd ⟨by omega, by omega⟩ (free run (List.mem_of_find?_eq_some found))
    · exact absurd null proper

/-- A colon is no case form of a word character. -/
theorem caseKey_ne_colon {c : Char} (word : isWordChar c) : caseKey c ≠ ':' := by
  by_cases ascii : c.toNat < 0x80
  · exact ascii_induction (fun c => isWordChar c → caseKey c ≠ ':') (by decide +kernel) c ascii word
  · intro colon
    have free : ∀ run ∈ caseRuns, ¬(run.target ≤ ':'.toNat ∧
        ':'.toNat ≤ run.target + (run.source.last - run.source.first)) := by decide +kernel
    have same := caseKey_eq_self ascii (by rw [colon]; decide) (by rw [colon]; exact free)
    rw [← same, colon] at ascii
    exact ascii (by decide)

/-- A dot stands in the folding of no other character. -/
theorem eq_dot_of_mem_foldChar {c : Char} (member : '.' ∈ foldChar c) : c = '.' := by
  by_cases ascii : c.toNat < 0x80
  · exact ascii_induction (fun c => '.' ∈ foldChar c → c = '.') (by decide +kernel) c ascii member
  · have inNoExpansion : ∀ e ∈ foldExpansions, '.' ∉ e.2.map Char.ofNat := by decide +kernel
    have free : ∀ run ∈ caseRuns, ¬(run.target ≤ '.'.toNat ∧
        '.'.toNat ≤ run.target + (run.source.last - run.source.first)) := by decide +kernel
    rw [foldChar, if_neg ascii] at member
    split at member
    · next found => exact absurd member (inNoExpansion _ (List.mem_of_find?_eq_some found))
    · rw [List.mem_singleton] at member
      split_ifs at member
      · exact member.symm
      · have same := caseKey_eq_self ascii (by rw [← member]; decide) (by rw [← member]; exact free)
        exact same.symm.trans member.symm

theorem dot_not_mem_foldCase {t : Text} (plain : '.' ∉ t) : '.' ∉ foldCase t := by
  intro member
  obtain ⟨c, inText, inFolding⟩ := List.mem_flatMap.1 member
  exact plain (eq_dot_of_mem_foldChar inFolding ▸ inText)

namespace Comment

/-- The quotes, and what comments begin and end with. -/
def delimiters : List Char :=
  ['"', '\x27', ';', '/', '*']

/-- A character that stripping comments takes as it is: no blank and no delimiter. -/
def isInert (c : Char) : Bool :=
  !(isBlank c || delimiters.contains c)

/-- The codes of all other characters. -/
def activeCodes : List Nat :=
  blankRanges.flatMap (fun r => List.range' r.1 (r.2 + 1 - r.1)) ++ delimiters.map Char.toNat

theorem mem_activeCodes {c : Char} (active : isInert c = false) : c.toNat ∈ activeCodes := by
  simp only [isInert, Bool.not_eq_false', Bool.or_eq_true, List.contains_iff_mem] at active
  rcases active with blank | delimiter
  · obtain ⟨r, member, low, high⟩ := exists_of_inRanges blank
    apply List.mem_append_left
    exact List.mem_flatMap.2 ⟨r, member, List.mem_range'_1.2 ⟨low, by omega⟩⟩
  · exact List.mem_append_right _ (List.mem_map_of_mem delimiter)

/-- What holds of all characters with these codes holds of every character that is not inert. -/
theorem active_induction (holds : Char → Prop) (each : ∀ n ∈ activeCodes, holds (Char.ofNat n))
    (c : Char) (active : isInert c = false) : holds c := by
  have := each c.toNat (mem_activeCodes active)
  rwa [Char.ofNat_toNat] at this

theorem isWordChar_of_active : ∀ c, isInert c = false → isWordChar c = false :=
  active_induction _ (by decide +kernel)

theorem isInert_of_isWordChar {c : Char} (word : isWordChar c) : isInert c := by
  by_contra active
  rw [isWordChar_of_active c (by simpa using active)] at word
  exact absurd word (by decide)

theorem caseKey_of_active : ∀ c, isInert c = false → caseKey c = c :=
  active_induction _ (by decide +kernel)

/-- No other character has one of these as its representative. -/
theorem isInert_caseKey {c : Char} (active : isInert (caseKey c) = false) : caseKey c = c := by
  by_cases ascii : c.toNat < 0x80
  · exact ascii_induction (fun c => isInert (caseKey c) = false → caseKey c = c)
      (by decide +kernel) c ascii active
  · have targets : ∀ run ∈ caseRuns, ∀ n ∈ activeCodes,
        ¬(run.target ≤ n ∧ n ≤ run.target + (run.source.last - run.source.first)) := by
      decide +kernel
    have isCode := mem_activeCodes active
    refine caseKey_eq_self ascii ?_ fun run isRun => targets run isRun _ isCode
    intro null
    rw [null] at isCode
    exact absurd isCode (by decide)

/-- A case form of a word character is inert. -/
theorem isInert_of_caseKey_eq {c d : Char} (word : isWordChar d) (same : caseKey c = caseKey d) :
    isInert c := by
  by_contra active
  have activeC : isInert c = false := by simpa using active
  have isC : caseKey d = c := same ▸ caseKey_of_active c activeC
  have isD : caseKey d = d := isInert_caseKey (by rwa [isC])
  rw [← isD, isC, isWordChar_of_active c activeC] at word
  exact absurd word (by decide)

end Comment
end AsmAtlas
