import AsmAtlas.Comment
import Mathlib.Data.List.DropRight

/-!
# Stripping comments

A line that was stripped holds no comment any more: scanning it again meets the same literals at
the same columns, and keeps every character. The second scan decides every quote anew, from a line
that was cut and blanked, so each decision has to be shown to come out as before: the partner of a
quote is never lost, and the character before it keeps its class.
-/

namespace AsmAtlas

namespace Text

theorem trimEnd_eq_rdropWhile (t : Text) : t.trimEnd = t.rdropWhile isBlank := rfl

@[simp] theorem trimEnd_nil : trimEnd [] = [] := rfl

/-- Trimming looks at the first character only when nothing but blanks follows it. -/
theorem trimEnd_cons (c : Char) (t : Text) :
    trimEnd (c :: t) = if isBlank c ∧ t.trimEnd = [] then [] else c :: t.trimEnd := by
  simp only [trimEnd, dropEndWhile, List.reverse_cons, List.dropWhile_append,
    List.isEmpty_iff, List.reverse_eq_nil_iff]
  by_cases rest : List.dropWhile isBlank t.reverse = []
  · by_cases blank : isBlank c <;> simp [rest, blank]
  · simp [rest]

@[simp] theorem trimEnd_trimEnd (t : Text) : t.trimEnd.trimEnd = t.trimEnd :=
  List.rdropWhile_idempotent isBlank t

theorem mem_of_mem_trimEnd {c : Char} {t : Text} (h : c ∈ t.trimEnd) : c ∈ t := by
  rw [trimEnd_eq_rdropWhile] at h
  exact (List.rdropWhile_prefix isBlank t).subset h

/-- Only blanks are lost by trimming. -/
theorem mem_trimEnd {c : Char} {t : Text} (h : c ∈ t) (visible : isBlank c = false) :
    c ∈ t.trimEnd := by
  induction t with
  | nil => exact h
  | cons d t ih =>
    rw [trimEnd_cons]
    rcases List.mem_cons.mp h with rfl | member
    · simp [visible]
    · have kept := ih member
      rw [if_neg (fun empty => by simp [empty.2] at kept)]
      exact List.mem_cons_of_mem d kept

theorem head_trimEnd (t : Text) : t.trimEnd.head? = t.head? ∨ t.trimEnd = [] := by
  cases t with
  | nil => exact .inr rfl
  | cons c t =>
    rw [trimEnd_cons]
    split
    · exact .inr rfl
    · exact .inl rfl

end Text

namespace Comment

/-- The zone in which a stripped line is read where the line itself was read in this one: blocks
    have become blanks of the code. -/
def Zone.stripped : Zone → Zone
  | .block => .code
  | zone => zone

@[simp] theorem Zone.stripped_block : Zone.block.stripped = .code := rfl

@[simp] theorem Zone.stripped_code : Zone.code.stripped = .code := rfl

@[simp] theorem Zone.stripped_literal (quote : Char) :
    (Zone.literal quote).stripped = .literal quote := rfl

/-- What a scan gives comes from the line, or blanks a block. -/
theorem mem_scan {c : Char} (zone : Zone) (last : Option Char) (line : Text)
    (h : c ∈ (scan zone last line).1) : c ∈ line ∨ c = ' ' := by
  fun_induction scan zone last line
  all_goals simp_all
  all_goals grind

/-- A literal is kept up to its closing quote. -/
theorem quote_mem_scan {quote : Char} (last : Option Char) (line : Text) (h : quote ∈ line) :
    quote ∈ (scan (.literal quote) last line).1 := by
  induction line generalizing last with
  | nil => exact h
  | cons c rest ih =>
    simp only [scan]
    by_cases closes : c = quote
    · simp [closes]
    · have later : quote ∈ rest := by
        rcases List.mem_cons.mp h with rfl | member
        · exact absurd rfl closes
        · exact member
      simp only [beq_iff_eq, closes, if_false]
      exact List.mem_cons_of_mem c (ih (some c) later)

/-- A character of the code that begins no comment is kept. -/
theorem scan_code_cons (last : Option Char) {c : Char} {rest : Text} (semicolon : c ≠ ';')
    (slash : c = '/' → rest.head? ≠ some '/' ∧ rest.head? ≠ some '*') :
    scan .code last (c :: rest) =
      (c :: (scan (if opensLiteral last c rest then .literal c else .code) (some c) rest).1,
        (scan (if opensLiteral last c rest then .literal c else .code) (some c) rest).2) := by
  rw [scan.eq_8]
  · simp [semicolon]
  · rintro tail rfl rfl
    exact (slash rfl).1 rfl
  · rintro tail rfl rfl
    exact (slash rfl).2 rfl

/-- The first character that is kept of code stands first in the line, unless it blanks a block. -/
theorem head_scan_code (last : Option Char) (line : Text) :
    (scan .code last line).1.head? = line.head? ∨ (scan .code last line).1.head? = some ' ' ∨
      (scan .code last line).1 = [] := by
  generalize zoned : Zone.code = zone
  fun_cases scan zone last line
  all_goals simp_all

/-- Only quotes open literals, and they are not blank. -/
theorem visible_of_quote {last : Option Char} {c : Char}
    (quote : c == '"' || (c == '\x27' && !last.any isWordChar)) : isBlank c = false := by
  rcases Bool.or_eq_true _ _ |>.mp quote with double | single
  · rw [beq_iff_eq.mp double]; rfl
  · rw [beq_iff_eq.mp (Bool.and_eq_true _ _ |>.mp single).1]; rfl

/-- Whether a quote opens a literal is decided in the stripped rest of the line as in the rest
    itself. -/
theorem opensLiteral_stripped (last last' : Option Char) (c : Char) (rest : Text)
    (same : last'.any isWordChar = last.any isWordChar) :
    opensLiteral last' c
        (scan (if opensLiteral last c rest then .literal c else .code) (some c) rest).1.trimEnd =
      opensLiteral last c rest := by
  cases opens : opensLiteral last c rest with
  | true =>
    simp only [opensLiteral, Bool.and_eq_true, List.contains_iff_mem] at opens
    have kept := quote_mem_scan (some c) rest opens.2
    simp only [if_true, opensLiteral, Bool.and_eq_true, List.contains_iff_mem, same]
    exact ⟨opens.1, Text.mem_trimEnd kept (visible_of_quote opens.1)⟩
  | false =>
    -- A partner that is left would have been there before.
    rw [Bool.eq_false_iff]
    intro reopens
    simp only [opensLiteral, Bool.and_eq_true, List.contains_iff_mem, same] at reopens
    have visible := visible_of_quote reopens.1
    have partner : c ∈ rest := by
      rcases mem_scan _ _ _ (Text.mem_of_mem_trimEnd reopens.2) with member | rfl
      · exact member
      · exact absurd visible (by decide)
    have : opensLiteral last c rest = true := by
      simp only [opensLiteral, Bool.and_eq_true, List.contains_iff_mem]
      exact ⟨reopens.1, partner⟩
    simp [this] at opens

/-- A text after a character that begins no comment is scanned as it is, if the rest of it is. -/
theorem scan_trimEnd_cons (last : Option Char) {c : Char} {out : Text} (semicolon : c ≠ ';')
    (slash : c = '/' → out.trimEnd.head? ≠ some '/' ∧ out.trimEnd.head? ≠ some '*')
    (rest : scan (if opensLiteral last c out.trimEnd then .literal c else .code) (some c)
      out.trimEnd = (out.trimEnd, false)) :
    scan .code last (Text.trimEnd (c :: out)) = (Text.trimEnd (c :: out), false) := by
  rw [Text.trimEnd_cons]
  split
  · simp [scan]
  · rw [scan_code_cons last semicolon slash, rest]

/-- A blank in front changes nothing. -/
theorem scan_trimEnd_blank (last : Option Char) {out : Text}
    (rest : scan .code (some ' ') out.trimEnd = (out.trimEnd, false)) :
    scan .code last (Text.trimEnd (' ' :: out)) = (Text.trimEnd (' ' :: out), false) := by
  have plain : opensLiteral last ' ' out.trimEnd = false := by simp [opensLiteral]
  refine scan_trimEnd_cons last (by decide) (fun slash => absurd slash (by decide)) ?_
  simpa [plain] using rest

/-- Cutting and blanking bring no two marks of a comment together. -/
theorem head_stripped_ne {mark : Char} (last : Option Char) {rest : Text} (visible : mark ≠ ' ')
    (h : rest.head? ≠ some mark) : (scan .code last rest).1.trimEnd.head? ≠ some mark := by
  rcases Text.head_trimEnd (scan .code last rest).1 with kept | empty
  · rw [kept]
    rcases head_scan_code last rest with same | blank | empty
    · rw [same]; exact h
    · rw [blank]; simpa using visible.symm
    · simp [empty]
  · simp [empty]

/-- A stripped line is scanned without meeting a comment, and nothing of it is lost. In code the
    character before may be another one, as long as it is of the same class. -/
theorem scan_stripped (zone : Zone) (last last' : Option Char) (line : Text)
    (same : zone = .code → last'.any isWordChar = last.any isWordChar) :
    scan zone.stripped last' (scan zone last line).1.trimEnd =
      ((scan zone last line).1.trimEnd, false) := by
  fun_induction scan zone last line generalizing last' with
  | case1 => simp [scan]
  | case2 zone last _ => cases zone <;> simp_all [scan]
  | case3 last rest out inBlock found ih =>
    have code := ih (some ' ') (fun _ => by decide)
    simp only [found, Zone.stripped_code] at code
    exact scan_trimEnd_blank _ (scan_trimEnd_blank _ code)
  | case4 last c rest _ out inBlock found ih =>
    have block := ih (some ' ') (fun code => nomatch code)
    simp only [found, Zone.stripped_block] at block
    exact scan_trimEnd_blank _ block
  | case5 quote last c rest out inBlock found ih =>
    have literal := ih (some c) (fun _ => rfl)
    have zoned : (if c == quote then Zone.code else .literal quote).stripped =
        if c == quote then .code else .literal quote := by split <;> rfl
    rw [zoned, found] at literal
    rw [Zone.stripped_literal, Text.trimEnd_cons]
    split
    · simp [scan]
    · simp only [scan, literal]
  | case6 last rest => simp [scan]
  | case7 last rest out inBlock found ih =>
    have block := ih (some ' ') (fun code => nomatch code)
    simp only [found, Zone.stripped_block] at block
    exact scan_trimEnd_blank _ (scan_trimEnd_blank _ block)
  | case8 last c rest _ _ semicolon => simp [scan]
  | case9 last c rest noLine noBlock semicolon zone out inBlock found ih =>
    have after := ih (some c) (fun _ => rfl)
    have zoned : zone.stripped = zone := by
      simp only [zone]
      split <;> rfl
    rw [zoned] at after
    have slash : c = '/' →
        (scan zone (some c) rest).1.trimEnd.head? ≠ some '/' ∧
          (scan zone (some c) rest).1.trimEnd.head? ≠ some '*' := by
      rintro rfl
      have code : zone = .code := by simp [zone, opensLiteral]
      rw [code]
      constructor
      · apply head_stripped_ne _ (by decide)
        intro line
        obtain ⟨tail, rfl⟩ := List.head?_eq_some_iff.mp line
        exact noLine tail rfl rfl
      · apply head_stripped_ne _ (by decide)
        intro block
        obtain ⟨tail, rfl⟩ := List.head?_eq_some_iff.mp block
        exact noBlock tail rfl rfl
    rw [found] at after slash
    refine scan_trimEnd_cons last' (by simpa using semicolon) slash ?_
    have decided : opensLiteral last' c out.trimEnd = opensLiteral last c rest := by
      have := opensLiteral_stripped last last' c rest (same rfl)
      rwa [show scan (if opensLiteral last c rest then .literal c else .code) (some c) rest =
        (out, inBlock) from found] at this
    rw [decided]
    exact after

/-- A line that was stripped is not changed by stripping it again, and no block is open after it. -/
theorem stripLine_stripLine (inBlock : Bool) (line : Text) :
    stripLine false (stripLine inBlock line).1 = ((stripLine inBlock line).1, false) := by
  simp only [stripLine]
  have zoned : (if inBlock then Zone.block else .code).stripped = .code := by
    cases inBlock <;> rfl
  have kept := scan_stripped (if inBlock then .block else .code) none none line (fun _ => rfl)
  rw [zoned] at kept
  simp only [Bool.false_eq_true, if_false, kept]
  rw [Text.trimEnd_trimEnd]

theorem stripFrom_stripFrom (inBlock : Bool) (lines : List Text) :
    stripFrom false (stripFrom inBlock lines) = stripFrom inBlock lines := by
  induction lines generalizing inBlock with
  | nil => rfl
  | cons line rest ih =>
    simp only [stripFrom, stripLine_stripLine, ih]

/-- Comments are stripped once and for all. -/
theorem strip_strip (lines : List Text) : strip (strip lines) = strip lines :=
  stripFrom_stripFrom false lines

end Comment
end AsmAtlas
