import AsmAtlas.Proofs.CommentColumns
import AsmAtlas.Proofs.LineParts

/-!
# The columns of stripped lines

Stripping leaves what the parts of a line show: code and literals as they are, blanks for blocks,
and nothing of a comment up to the end. So whatever is left stands at its own column, nothing of the
code is lost, and a stripped line has no comment part any more.
-/

namespace AsmAtlas

/-- What is not blank is not trimmed. -/
theorem Text.getElem_trimEnd {t : Text} {i : Nat} {c : Char} (found : t[i]? = some c)
    (visible : isBlank c = false) : t.trimEnd[i]? = some c := by
  obtain ⟨blanks, isText, blank⟩ := Text.exists_trimEnd_append t
  rw [isText, List.getElem?_append] at found
  split_ifs at found with inside
  · exact found
  · have isBlank := blank c (List.mem_of_getElem? found)
    simp [visible] at isBlank

namespace Comment

variable {last : Option Char} {line : Text} {parts : List Part} {inBlock isOpen : Bool}

/-- What is left of a part when comments are stripped. -/
def Part.kept : Part → Text
  | plain c => [c]
  | literal quote inner => quote :: (inner ++ [quote])
  | block text => List.replicate text.length ' '
  | remark _ => []

theorem Splits.flatMap_text (splits : Splits last line parts isOpen) :
    parts.flatMap Part.text = line := by
  induction splits with
  | nil => rfl
  | literal _ _ _ ih => simp [Part.text, ih]
  | block _ _ ih => simp [Part.text, closing, ih]
  | openBlock => simp [Part.text]
  | remark => simp [Part.text]
  | plain _ _ _ _ ih => simp [Part.text, ih]

theorem opensLiteral_iff {c : Char} {rest : Text} :
    opensLiteral last c rest ↔ CanOpen last c ∧ c ∈ rest := by
  simp [opensLiteral, CanOpen]

/-- A literal is kept up to its partner. -/
theorem scan_literal {quote : Char} (last : Option Char) {inner : Text} (partner : quote ∉ inner)
    (rest : Text) :
    scan (.literal quote) last (inner ++ quote :: rest) =
      (inner ++ quote :: (scan .code (some quote) rest).1, (scan .code (some quote) rest).2) := by
  induction inner generalizing last with
  | nil => simp [scan]
  | cons c inner ih =>
    obtain ⟨other, later⟩ := not_or.1 (mt List.mem_cons.2 partner)
    simp [scan, Ne.symm other, ih (some c) later]

/-- A block is blanked up to its first closing mark. -/
theorem scan_closed (last : Option Char) {inner : Text} (first : ¬closing <:+: inner)
    (rest : Text) :
    scan .block last (inner ++ '*' :: '/' :: rest) =
      (List.replicate (inner.length + 2) ' ' ++ (scan .code (some '/') rest).1,
        (scan .code (some '/') rest).2) := by
  induction inner generalizing last with
  | nil => simp [scan, List.replicate_succ]
  | cons c inner ih =>
    rw [closing_infix_cons, not_or] at first
    have goesOn : ¬(c = '*' ∧ (inner ++ '*' :: '/' :: rest).head? = some '/') := by
      rintro ⟨rfl, next⟩
      cases inner with
      | nil => simp at next
      | cons d inner => exact first.1 ⟨rfl, by simpa using next⟩
    rw [List.cons_append, scan_cons, move, if_neg goesOn, Move.result, ih (some c) first.2]
    simp [List.replicate_succ]

theorem scan_unclosed (last : Option Char) {text : Text} (unclosed : ¬closing <:+: text) :
    scan .block last text = (List.replicate text.length ' ', true) := by
  induction text generalizing last with
  | nil => simp [scan]
  | cons c text ih =>
    rw [closing_infix_cons, not_or] at unclosed
    rw [scan_cons, move, if_neg unclosed.1, Move.result, ih (some c) unclosed.2]
    simp [List.replicate_succ]

/-- A scan keeps what the parts of its text show. -/
theorem Splits.scan_eq (splits : Splits last line parts isOpen) :
    scan .code last line = (parts.flatMap Part.kept, isOpen) := by
  induction splits with
  | nil => rfl
  | @literal last quote inner rest parts isOpen opens partner _ ih =>
    have semicolon : quote ≠ ';' := by rcases opens with rfl | ⟨rfl, -⟩ <;> decide
    have slash : quote ≠ '/' := by rcases opens with rfl | ⟨rfl, -⟩ <;> decide
    have isLiteral : opensLiteral last quote (inner ++ quote :: rest) :=
      opensLiteral_iff.2 ⟨opens, by simp⟩
    rw [scan_code_cons last semicolon (fun isSlash => absurd isSlash slash), isLiteral, if_pos rfl,
      scan_literal _ partner, ih]
    simp [Part.kept]
  | block first _ ih =>
    simp only [scan]
    rw [scan_closed _ first, ih]
    simp [Part.kept, closing, List.replicate_succ]
  | openBlock unclosed =>
    simp only [scan]
    rw [scan_unclosed _ unclosed]
    simp [Part.kept, List.replicate_succ]
  | remark begins =>
    rcases begins with ⟨rest, rfl⟩ | ⟨rest, rfl⟩ <;> simp [scan, Part.kept]
  | @plain last c rest parts isOpen noLiteral noRemark noBlock _ ih =>
    have semicolon : c ≠ ';' := by
      rintro rfl
      exact noRemark (.inl ⟨rest, rfl⟩)
    have slash : c = '/' → rest.head? ≠ some '/' ∧ rest.head? ≠ some '*' := by
      rintro rfl
      constructor
      · intro next
        obtain ⟨tail, rfl⟩ := List.head?_eq_some_iff.1 next
        exact noRemark (.inr ⟨tail, rfl⟩)
      · intro next
        obtain ⟨tail, rfl⟩ := List.head?_eq_some_iff.1 next
        exact noBlock ⟨tail, rfl⟩
    have noQuote : ¬opensLiteral last c rest := fun isLiteral =>
      noLiteral (opensLiteral_iff.1 isLiteral).1 (opensLiteral_iff.1 isLiteral).2
    rw [scan_code_cons last semicolon slash, if_neg noQuote, ih]
    simp [Part.kept]

theorem LineSplits.stripLine_eq (splits : LineSplits inBlock line parts isOpen) :
    stripLine inBlock line = (Text.trimEnd (parts.flatMap Part.kept), isOpen) := by
  cases splits with
  | outside splits => simp [stripLine, splits.scan_eq]
  | closed first behind =>
    simp [stripLine, scan_closed none first, behind.scan_eq, Part.kept, closing]
  | unclosed unclosed => simp [stripLine, scan_unclosed none unclosed, Part.kept]

theorem LineSplits.flatMap_text (splits : LineSplits inBlock line parts isOpen) :
    parts.flatMap Part.text = line := by
  cases splits with
  | outside splits => exact splits.flatMap_text
  | closed _ behind => simp [Part.text, closing, behind.flatMap_text]
  | unclosed _ => simp [Part.text]

/-- A text that is kept as it is has no comments. -/
theorem Splits.isCode_of_kept (splits : Splits last line parts isOpen)
    (kept : parts.flatMap Part.kept = line) : ∀ p ∈ parts, p.IsCode := by
  induction splits with
  | nil => simp
  | literal _ _ _ ih =>
    rw [List.forall_mem_cons]
    exact ⟨trivial, ih (by simpa [Part.kept] using kept)⟩
  | block => simp [Part.kept, List.replicate_succ] at kept
  | openBlock => simp [Part.kept, List.replicate_succ] at kept
  | remark begins =>
    obtain rfl : [] = _ := by simpa [Part.kept] using kept
    simp [BeginsRemark] at begins
  | plain _ _ _ _ ih =>
    rw [List.forall_mem_cons]
    exact ⟨trivial, ih (by simpa [Part.kept] using kept)⟩

/-- What is left of a character of a part. -/
def Part.shown : Part → Char → Char
  | block _, _ => ' '
  | _, c => c

theorem map_fst_cells (parts : List Part) :
    (cells parts).map Prod.fst = parts.flatMap Part.text := by
  simp [cells, List.map_flatMap, Function.comp_def]

/-- What parts keep is what their first characters show; behind them there is no code. -/
def ShowFirst (parts : List Part) : Prop :=
  ∃ seen hidden, cells parts = seen ++ hidden ∧
    parts.flatMap Part.kept = seen.map (fun x => x.2.shown x.1) ∧ ∀ x ∈ hidden, ¬x.2.IsCode

theorem ShowFirst.nil : ShowFirst [] :=
  ⟨[], [], rfl, rfl, by simp⟩

theorem ShowFirst.remark (text : Text) : ShowFirst [.remark text] :=
  ⟨[], text.map (·, .remark text), by simp [cells, Part.text], rfl, by simp [Part.IsCode]⟩

theorem ShowFirst.cons {p : Part} (kept : p.kept = p.text.map p.shown)
    (behind : ShowFirst parts) : ShowFirst (p :: parts) := by
  obtain ⟨seen, hidden, isCells, isKept, isHidden⟩ := behind
  refine ⟨p.text.map (·, p) ++ seen, hidden, ?_, ?_, isHidden⟩
  · rw [List.append_assoc, ← isCells]
    rfl
  · rw [List.flatMap_cons, kept, isKept, List.map_append, List.map_map]
    rfl

theorem Part.kept_literal (quote : Char) (inner : Text) :
    (literal quote inner).kept = (literal quote inner).text.map (literal quote inner).shown :=
  (List.map_id _).symm

theorem Part.kept_block (text : Text) :
    (block text).kept = (block text).text.map (block text).shown :=
  List.map_const'.symm

theorem Splits.showFirst (splits : Splits last line parts isOpen) : ShowFirst parts := by
  induction splits with
  | nil => exact .nil
  | literal _ _ _ ih => exact .cons (Part.kept_literal _ _) ih
  | block _ _ ih => exact .cons (Part.kept_block _) ih
  | openBlock => exact .cons (Part.kept_block _) .nil
  | remark => exact .remark _
  | plain _ _ _ _ ih => exact .cons rfl ih

theorem LineSplits.showFirst (splits : LineSplits inBlock line parts isOpen) : ShowFirst parts := by
  cases splits with
  | outside splits => exact splits.showFirst
  | closed _ behind => exact .cons (Part.kept_block _) behind.showFirst
  | unclosed _ => exact .cons (Part.kept_block _) .nil

theorem ShowFirst.length_kept_le (shows : ShowFirst parts) :
    (parts.flatMap Part.kept).length ≤ (cells parts).length := by
  obtain ⟨seen, hidden, isCells, isKept, -⟩ := shows
  rw [isCells, isKept, List.length_map, List.length_append]
  exact Nat.le_add_right _ _

/-- What is kept at a column is shown by the character there. -/
theorem ShowFirst.exists_cell (shows : ShowFirst parts) {column : Nat} {c : Char}
    (found : (parts.flatMap Part.kept)[column]? = some c) :
    ∃ d p, (cells parts)[column]? = some (d, p) ∧ p.shown d = c := by
  obtain ⟨seen, hidden, isCells, isKept, -⟩ := shows
  rw [isKept, List.getElem?_map, Option.map_eq_some_iff] at found
  obtain ⟨⟨d, p⟩, isCell, isShown⟩ := found
  refine ⟨d, p, ?_, isShown⟩
  rw [isCells, List.getElem?_append_left (List.getElem?_eq_some_iff.1 isCell).1, isCell]

/-- Code is kept. -/
theorem ShowFirst.kept_of_isCode (shows : ShowFirst parts) {column : Nat} {c : Char} {p : Part}
    (isCell : (cells parts)[column]? = some (c, p)) (isCode : p.IsCode) :
    (parts.flatMap Part.kept)[column]? = some c := by
  obtain ⟨seen, hidden, isCells, isKept, isHidden⟩ := shows
  rw [isCells, List.getElem?_append] at isCell
  split_ifs at isCell with inside
  · rw [isKept, List.getElem?_map, isCell]
    cases p with
    | plain _ => rfl
    | literal _ _ => rfl
    | _ => exact absurd isCode id
  · exact absurd isCode (isHidden _ (List.mem_of_getElem? isCell))

/-- A line without its comments: what is left stands at its column, blanks stand only for blocks,
    all code is there, and no comment is found any more. -/
structure IsStripped (text : Text) (parts : List Part) (out : Text) : Prop where
  length_le : out.length ≤ text.length
  visibleEnd : ∀ c ∈ out.getLast?, isBlank c = false
  keeps : ∀ column c, out[column]? = some c → text[column]? = some c ∨
    c = ' ' ∧ ∃ p, partAt? parts column = some p ∧ p.IsBlock
  complete : ∀ column c, text[column]? = some c → isBlank c = false →
    (∃ p, partAt? parts column = some p ∧ p.IsCode) → out[column]? = some c
  clean : ∃ left, Splits none out left false ∧ ∀ p ∈ left, p.IsCode

/-- A stripped line is all code. -/
theorem exists_code_of_stripLine (inBlock : Bool) (line : Text) :
    ∃ left, Splits none (stripLine inBlock line).1 left false ∧ ∀ p ∈ left, p.IsCode := by
  obtain ⟨left, isOpen, again⟩ := exists_splits none (stripLine inBlock line).1
  have zoned : (if inBlock then Zone.block else .code).stripped = .code := by
    cases inBlock <;> rfl
  have scanned := scan_stripped (if inBlock then .block else .code) none none line (fun _ => rfl)
  rw [zoned] at scanned
  obtain ⟨kept, closed⟩ := Prod.mk.inj (again.scan_eq.symm.trans scanned)
  subst closed
  exact ⟨left, again, again.isCode_of_kept kept⟩

theorem LineSplits.isStripped {text : Text} (splits : LineSplits inBlock text parts isOpen) :
    IsStripped text parts (stripLine inBlock text).1 := by
  have isText : ∀ column : Nat, text[column]? = (cells parts)[column]?.map Prod.fst := by
    intro column
    rw [← List.getElem?_map, map_fst_cells, splits.flatMap_text]
  have isOut : (stripLine inBlock text).1 = Text.trimEnd (parts.flatMap Part.kept) := by
    rw [splits.stripLine_eq]
  obtain ⟨blanks, isKept, -⟩ := Text.exists_trimEnd_append (parts.flatMap Part.kept)
  rw [← isOut] at isKept
  refine ⟨?_, ?_, ?_, ?_, exists_code_of_stripLine inBlock text⟩
  · calc (stripLine inBlock text).1.length
        ≤ (parts.flatMap Part.kept).length := by
          rw [isKept, List.length_append]
          exact Nat.le_add_right _ _
      _ ≤ (cells parts).length := splits.showFirst.length_kept_le
      _ = text.length := by
        rw [← List.length_map (f := Prod.fst), map_fst_cells, splits.flatMap_text]
  · intro c last
    rw [isOut] at last
    exact Text.visible_of_getLast_trimEnd last
  · intro column c found
    have inKept : (parts.flatMap Part.kept)[column]? = some c := by
      rw [isKept, List.getElem?_append_left (List.getElem?_eq_some_iff.1 found).1, found]
    obtain ⟨d, p, isCell, rfl⟩ := splits.showFirst.exists_cell inKept
    cases p with
    | block text => exact .inr ⟨rfl, .block text, by rw [partAt?, isCell]; rfl, trivial⟩
    | _ => exact .inl (by rw [isText, isCell]; rfl)
  · rintro column c found visible ⟨p, isPart, isCode⟩
    rw [isText] at found
    obtain ⟨⟨d, q⟩, isCell, rfl⟩ := Option.map_eq_some_iff.1 found
    rw [partAt?, isCell] at isPart
    obtain rfl := Option.some.inj isPart
    rw [isOut]
    exact Text.getElem_trimEnd (splits.showFirst.kept_of_isCode isCell isCode) visible

/-- Stripping goes line by line. -/
theorem AllSplit.isStripped {lines : List Text} {split : List (List Part)}
    (splits : AllSplit inBlock lines split) {n : Nat} {out : Text}
    (isLine : lines[n]? = some line) (isParts : split[n]? = some parts)
    (isOut : (stripFrom inBlock lines)[n]? = some out) : IsStripped line parts out := by
  induction splits generalizing n with
  | nil => simp at isLine
  | cons first _ ih =>
    cases n with
    | zero =>
      obtain rfl := Option.some.inj isLine
      obtain rfl := Option.some.inj isParts
      obtain rfl := Option.some.inj isOut
      exact first.isStripped
    | succ n =>
      refine ih isLine isParts ?_
      rw [stripFrom, first.stripLine_eq] at isOut
      exact isOut

theorem length_stripFrom (inBlock : Bool) (lines : List Text) :
    (stripFrom inBlock lines).length = lines.length := by
  induction lines generalizing inBlock with
  | nil => rfl
  | cons line lines ih => simp [stripFrom, ih]

/-- Stripping keeps the columns of the code and removes all comments. -/
theorem strip_keeps_columns (lines : List Text) :
    ∃ split, AllSplit false lines split ∧ (∀ other, AllSplit false lines other → other = split) ∧
      (strip lines).length = lines.length ∧
      ∀ (n : Nat) (line : Text) (parts : List Part) (out : Text), lines[n]? = some line →
        split[n]? = some parts → (strip lines)[n]? = some out → IsStripped line parts out := by
  obtain ⟨split, splits⟩ := exists_allSplit false lines
  refine ⟨split, splits, fun other again => splits.unique again, length_stripFrom false lines, ?_⟩
  intro n line parts out isLine isParts isOut
  exact splits.isStripped isLine isParts isOut

end Comment
end AsmAtlas
