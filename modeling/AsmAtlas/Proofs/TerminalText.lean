import AsmAtlas.Proofs.NameCharacters
import AsmAtlas.Proofs.WordPlaces
import AsmAtlas.Request.Names
import AsmAtlas.Request.Rename
import AsmAtlas.Text.Terminal

/-!
# Texts without control characters

Control characters have no other case form, and none of them is part of a name. So the texts that
are made of names, numbers and quoted or sanitized texts are safe to print.
-/

namespace AsmAtlas

namespace Terminal

/-- The codes of the control characters. -/
def controlCodes : List Nat :=
  (List.range 0xA0).filter fun n => isControl (Char.ofNat n)

theorem mem_controlCodes {c : Char} (control : isControl c) : c.toNat ∈ controlCodes := by
  have small : c.toNat < 0xA0 := by
    simp only [isControl, Bool.or_eq_true, Bool.and_eq_true, decide_eq_true_eq,
      beq_iff_eq] at control
    rcases control with (((low | rfl) | rfl) | middle) | high
    · omega
    · decide
    · decide
    · omega
    · omega
  refine List.mem_filter.2 ⟨List.mem_range.2 small, ?_⟩
  rwa [Char.ofNat_toNat]

/-- What holds of all characters with these codes holds of every control character. -/
theorem control_induction (holds : Char → Prop) (each : ∀ n ∈ controlCodes, holds (Char.ofNat n))
    (c : Char) (control : isControl c) : holds c := by
  have := each c.toNat (mem_controlCodes control)
  rwa [Char.ofNat_toNat] at this

theorem not_isLabelChar : ∀ c, isControl c → Occurrence.isLabelChar c = false :=
  control_induction _ (by decide +kernel)

theorem not_isPrintable : ∀ c, isControl c → isPrintable c = false :=
  control_induction _ (by decide +kernel)

theorem caseKey_of_control : ∀ c, isControl c → caseKey c = c :=
  control_induction _ (by decide +kernel)

/-- The null character is no representative of a character beyond ASCII. -/
theorem toNat_caseKey_ne_zero {c : Char} (beyond : ¬c.toNat < 0x80) : (caseKey c).toNat ≠ 0 := by
  have targets : ∀ run ∈ caseRuns, 0 < run.target ∧
      (run.target + (run.source.last - run.source.first) < 0xD800 ∨
        0xDFFF < run.target ∧ run.target + (run.source.last - run.source.first) < 0x110000) := by
    decide +kernel
  unfold caseKey
  rw [if_neg beyond]
  cases found : caseRuns.find? (·.source.contains c.toNat) with
  | none =>
    simp only
    omega
  | some run =>
    have contains := List.find?_some found
    simp only [CodeRun.contains, Bool.and_eq_true, decide_eq_true_eq] at contains
    obtain ⟨positive, valid⟩ := targets run (List.mem_of_find?_eq_some found)
    have isChar : (run.target + (c.toNat - run.source.first)).isValidChar := by
      unfold Nat.isValidChar
      omega
    change (Char.ofNat (run.target + (c.toNat - run.source.first))).toNat ≠ 0
    rw [Char.ofNat, dif_pos isChar]
    change run.target + (c.toNat - run.source.first) ≠ 0
    omega

/-- No other character has a control character as its representative. -/
theorem caseKey_eq_of_control {c : Char} (control : isControl (caseKey c)) : caseKey c = c := by
  by_cases ascii : c.toNat < 0x80
  · exact ascii_induction (fun c => isControl (caseKey c) → caseKey c = c) (by decide +kernel) c
      ascii control
  · have targets : ∀ run ∈ caseRuns, ∀ n ∈ controlCodes,
        ¬(run.target ≤ n ∧ n ≤ run.target + (run.source.last - run.source.first)) := by
      decide +kernel
    exact caseKey_eq_self ascii (toNat_caseKey_ne_zero ascii) fun run isRun =>
      targets run isRun _ (mem_controlCodes control)

/-- A control character is a case form of itself only. -/
theorem eq_of_sameLetter {c d : Char} (control : isControl d) (same : sameLetter c d) : c = d := by
  have isD : caseKey c = d := by
    rw [beq_iff_eq.1 same, caseKey_of_control d control]
  have isC : caseKey c = c := caseKey_eq_of_control (by rwa [isD])
  exact isC.symm.trans isD

theorem ne_of_control {c d : Char} (control : isControl c) (visible : isControl d = false) :
    c ≠ d := by
  rintro rfl
  rw [visible] at control
  exact Bool.false_ne_true control

/-- A text without control characters. -/
def IsSafe (t : Text) : Prop :=
  ∀ c ∈ t, isControl c = false

instance (t : Text) : Decidable (IsSafe t) :=
  List.decidableBAll (fun c => isControl c = false) t

@[simp] theorem isSafe_nil : IsSafe [] :=
  List.forall_mem_nil _

@[simp] theorem isSafe_cons {c : Char} {t : Text} :
    IsSafe (c :: t) ↔ isControl c = false ∧ IsSafe t :=
  List.forall_mem_cons

@[simp] theorem isSafe_append {t u : Text} : IsSafe (t ++ u) ↔ IsSafe t ∧ IsSafe u :=
  List.forall_mem_append

theorem isSafe_flatMap {α : Type} {xs : List α} {f : α → Text} :
    IsSafe (xs.flatMap f) ↔ ∀ x ∈ xs, IsSafe (f x) :=
  List.forall_mem_flatMap

/-- Behind a safe text the control characters are those that follow. -/
theorem IsSafe.mem_append {t u : Text} (safe : IsSafe t) {c : Char} (control : isControl c) :
    c ∈ t ++ u ↔ c ∈ u := by
  rw [List.mem_append, or_iff_right]
  intro member
  exact ne_of_control control (safe c member) rfl

theorem isSafe_replicate {c : Char} (visible : isControl c = false) (n : Nat) :
    IsSafe (List.replicate n c) := by
  intro d member
  rw [List.eq_of_mem_replicate member]
  exact visible

theorem isSafe_of_labelChars {t : Text} (ofLabel : ∀ c ∈ t, Occurrence.isLabelChar c) :
    IsSafe t := by
  intro c member
  by_contra control
  have := not_isLabelChar c (by simpa using control)
  rw [ofLabel c member] at this
  exact absurd this (by decide)

theorem isControl_digitChar (k : Nat) : isControl (Nat.digitChar k) = false := by
  by_cases digit : k < 16
  · have all : ∀ k < 16, isControl (Nat.digitChar k) = false := by decide
    exact all k digit
  · have star : Nat.digitChar k = '*' := by
      unfold Nat.digitChar
      repeat rw [if_neg (by omega)]
    rw [star]
    decide

theorem isSafe_toDigits (base n : Nat) : IsSafe (Nat.toDigits base n) := by
  have core : ∀ (fuel n : Nat) (digits : Text), IsSafe digits →
      IsSafe (Nat.toDigitsCore base fuel n digits) := by
    intro fuel
    induction fuel with
    | zero => intro n digits safe; exact safe
    | succ fuel ih =>
      intro n digits safe
      have more : IsSafe ((n % base).digitChar :: digits) :=
        isSafe_cons.2 ⟨isControl_digitChar _, safe⟩
      rw [Nat.toDigitsCore]
      split_ifs
      · exact more
      · exact ih _ _ more
  exact core _ n [] isSafe_nil

theorem isSafe_ofNat (n : Nat) : IsSafe (Text.ofNat n) :=
  isSafe_toDigits 10 n

theorem isSafe_joinWith {sep : Text} {parts : List Text} (safeSep : IsSafe sep)
    (safe : ∀ part ∈ parts, IsSafe part) : IsSafe (Text.joinWith sep parts) := by
  intro c member
  rcases Text.mem_joinWith member with inSep | ⟨part, isPart, inPart⟩
  · exact safeSep c inSep
  · exact safe part isPart c inPart

theorem isSafe_padRight {t : Text} (safe : IsSafe t) (width : Nat) : IsSafe (t.padRight width) :=
  isSafe_append.2 ⟨safe, isSafe_replicate (by decide) _⟩

theorem isSafe_padLeft {t : Text} (safe : IsSafe t) (width : Nat) : IsSafe (t.padLeft width) :=
  isSafe_append.2 ⟨isSafe_replicate (by decide) _, safe⟩

theorem isSafe_hex (width n : Nat) : IsSafe (Quoted.hex width n) :=
  isSafe_append.2 ⟨isSafe_replicate (by decide) _, isSafe_toDigits 16 n⟩

/-- What is sanitized is safe, whatever it was. -/
theorem isSafe_sanitize (t : Text) : IsSafe (sanitize t) := by
  refine isSafe_flatMap.2 fun c _ => ?_
  unfold showChar
  split_ifs with control
  · simp only [isSafe_cons]
    exact ⟨by decide, by decide, isSafe_hex 2 _⟩
  · simpa using control

theorem isSafe_showLine (t : Text) : IsSafe (showLine t) :=
  isSafe_sanitize _

/-- So is what is quoted. -/
theorem isSafe_quoted (t : Text) : IsSafe (Quoted.quoted t) := by
  have quote : isControl (Quoted.quoteFor t) = false := by
    unfold Quoted.quoteFor
    split_ifs <;> decide
  have escaped : ∀ c, IsSafe (Quoted.escape (Quoted.quoteFor t) c) := by
    intro c
    have slash : isControl '\\' = false := by decide
    have code : ∀ (mark : Char) (width : Nat), isControl mark = false →
        IsSafe ('\\' :: mark :: Quoted.hex width c.toNat) := by
      intro mark width visible
      exact isSafe_cons.2 ⟨slash, isSafe_cons.2 ⟨visible, isSafe_hex width _⟩⟩
    unfold Quoted.escape
    split_ifs with special _ _ _ printable
    · have visible : isControl c = false := by
        rcases Bool.or_eq_true_iff.1 special with isQuote | isSlash
        · rw [beq_iff_eq.1 isQuote]
          exact quote
        · rw [beq_iff_eq.1 isSlash]
          exact slash
      simp [slash, visible]
    · decide
    · decide
    · decide
    · have visible : isControl c = false := by
        by_contra control
        rw [not_isPrintable c (by simpa using control)] at printable
        exact Bool.false_ne_true printable
      simp [visible]
    · exact code 'x' 2 (by decide)
    · exact code 'u' 4 (by decide)
    · exact code 'U' 8 (by decide)
  rw [Quoted.quoted]
  simp [quote, isSafe_flatMap, escaped]

end Terminal

open Terminal

/-- A fuzzy search finds no control characters but those of its query. -/
theorem Wanted.takesOnly_fuzzy (query : Text) :
    (fuzzy query).pattern.TakesOnly fun c => isControl c → c ∈ query := by
  have skips : skip.TakesOnly fun c => isControl c → c ∈ query := by
    intro c ofName control
    have isLabel : Occurrence.isLabelChar c := Bool.or_eq_true_iff.2 (.inl ofName)
    rw [not_isLabelChar c control] at isLabel
    exact absurd isLabel (by decide)
  have letters : ∀ rest ⊆ query,
      (rest.foldr (fun c rest => Pattern.seq (.letter c) (.seq skip rest)) .empty).TakesOnly
        fun c => isControl c → c ∈ query := by
    intro rest
    induction rest with
    | nil => intro _; exact trivial
    | cons c rest ih =>
      intro subset
      obtain ⟨isChar, others⟩ := List.cons_subset.1 subset
      refine ⟨?_, skips, ih others⟩
      intro d same control
      rwa [← eq_of_sameLetter control same]
  exact ⟨skips, letters query (List.Subset.refl _)⟩

theorem RenameError.isSafe_message (e : RenameError) : IsSafe e.message := by
  cases e with
  | invalidName name => exact isSafe_append.2 ⟨by decide, isSafe_quoted name⟩

/-- What was typed in front of a column is part of a name. -/
theorem Scene.isSafe_typedAt (line : Text) (column : Nat) : IsSafe (Scene.typedAt line column) := by
  apply isSafe_of_labelChars
  intro c member
  have inLast := List.mem_reverse.1 ((List.dropWhile_sublist _).subset member)
  have inTyped := List.mem_reverse.1 ((List.takeWhile_sublist _).subset inLast)
  have accepted := List.mem_takeWhile_imp (List.mem_reverse.1 inTyped)
  exact accepted

/-- A new name is made of word characters; only a line feed may stand behind it. -/
theorem Scene.isSafe_of_newName {name : Text} (accepted : newName.accepts name) : IsSafe name := by
  obtain ⟨identifier, feed, rfl, isIdentifier, isFeed⟩ := newName_accepts_iff.1 accepted
  refine isSafe_append.2 ⟨?_, ?_⟩
  · apply isSafe_of_labelChars
    intro c member
    simp [Occurrence.isLabelChar, isIdentifier.ofWord c member]
  · rcases isFeed with rfl | rfl <;> decide

end AsmAtlas
