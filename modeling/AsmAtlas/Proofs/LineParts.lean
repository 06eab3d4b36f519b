import AsmAtlas.Comment
import AsmAtlas.Proofs.WordMatching

/-!
# The parts of a line

A line is a sequence of parts: characters of the code, string literals, block comments, and a
comment up to its end. Which part comes next is said by what the rest of the line begins with, and
where it ends by the first quote or closing mark behind. Every line has parts, and it has them in
one way only.
-/

namespace AsmAtlas

namespace Comment

/-- A stretch of a line that is read as one. -/
inductive Part where
  /-- A character of the code. -/
  | plain (c : Char)
  /-- A string literal, and what stands between its quotes. -/
  | literal (quote : Char) (inner : Text)
  /-- A block comment, as far as it lies on the line. -/
  | block (text : Text)
  /-- A comment up to the end of the line. -/
  | remark (text : Text)

namespace Part

/-- The characters of a part. -/
def text : Part → Text
  | plain c => [c]
  | literal quote inner => quote :: (inner ++ [quote])
  | block text => text
  | remark text => text

/-- A part that is no comment. -/
def IsCode : Part → Prop
  | plain _ => True
  | literal _ _ => True
  | _ => False

def IsBlock : Part → Prop
  | block _ => True
  | _ => False

end Part

/-- The characters of parts, each with the part that it belongs to. -/
def cells (parts : List Part) : List (Char × Part) :=
  parts.flatMap fun p => p.text.map (·, p)

/-- The part in which a column lies. -/
def partAt? (parts : List Part) (column : Nat) : Option Part :=
  (cells parts)[column]?.map Prod.snd

/-- The mark that ends a block. -/
def closing : Text :=
  ['*', '/']

/-- A quote that opens a literal if it has a partner: any but an apostrophe behind a word character,
    which names a shadow register. -/
def CanOpen (last : Option Char) (quote : Char) : Prop :=
  quote = '"' ∨ quote = '\x27' ∧ ¬last.any isWordChar

/-- A text that begins with a comment up to its end. -/
def BeginsRemark (text : Text) : Prop :=
  [';'] <+: text ∨ ['/', '/'] <+: text

/-- The parts of a text outside blocks, where `last` is the character in front of it, and whether a
    block stays open behind it. -/
inductive Splits : Option Char → Text → List Part → Bool → Prop
  | nil {last : Option Char} : Splits last [] [] false
  | literal {last : Option Char} {quote : Char} {inner rest : Text} {parts : List Part}
      {isOpen : Bool} (opens : CanOpen last quote) (partner : quote ∉ inner)
      (behind : Splits (some quote) rest parts isOpen) :
      Splits last (quote :: (inner ++ quote :: rest)) (.literal quote inner :: parts) isOpen
  | block {last : Option Char} {inner rest : Text} {parts : List Part} {isOpen : Bool}
      (first : ¬closing <:+: inner) (behind : Splits (some '/') rest parts isOpen) :
      Splits last ('/' :: '*' :: (inner ++ '*' :: '/' :: rest))
        (.block ('/' :: '*' :: (inner ++ closing)) :: parts) isOpen
  | openBlock {last : Option Char} {inner : Text} (unclosed : ¬closing <:+: inner) :
      Splits last ('/' :: '*' :: inner) [.block ('/' :: '*' :: inner)] true
  | remark {last : Option Char} {text : Text} (begins : BeginsRemark text) :
      Splits last text [.remark text] false
  | plain {last : Option Char} {c : Char} {rest : Text} {parts : List Part} {isOpen : Bool}
      (noLiteral : CanOpen last c → c ∉ rest) (noRemark : ¬BeginsRemark (c :: rest))
      (noBlock : ¬['/', '*'] <+: c :: rest) (behind : Splits (some c) rest parts isOpen) :
      Splits last (c :: rest) (.plain c :: parts) isOpen

/-- The parts of a line that starts inside a block or not. -/
inductive LineSplits : Bool → Text → List Part → Bool → Prop
  | outside {line : Text} {parts : List Part} {isOpen : Bool}
      (splits : Splits none line parts isOpen) : LineSplits false line parts isOpen
  | closed {inner rest : Text} {parts : List Part} {isOpen : Bool} (first : ¬closing <:+: inner)
      (behind : Splits (some '/') rest parts isOpen) :
      LineSplits true (inner ++ '*' :: '/' :: rest) (.block (inner ++ closing) :: parts) isOpen
  | unclosed {line : Text} (unclosed : ¬closing <:+: line) :
      LineSplits true line [.block line] true

/-- The parts of lines, the first of which starts inside a block or not. -/
inductive AllSplit : Bool → List Text → List (List Part) → Prop
  | nil {inBlock : Bool} : AllSplit inBlock [] []
  | cons {inBlock isOpen : Bool} {line : Text} {parts : List Part} {lines : List Text}
      {split : List (List Part)} (first : LineSplits inBlock line parts isOpen)
      (later : AllSplit isOpen lines split) : AllSplit inBlock (line :: lines) (parts :: split)

variable {last : Option Char} {quote : Char} {line inner inner' rest rest' : Text}
  {parts others : List Part} {inBlock isOpen isOpen' : Bool}

theorem closing_infix_cons {c : Char} {text : Text} :
    closing <:+: c :: text ↔ (c = '*' ∧ text.head? = some '/') ∨ closing <:+: text := by
  rw [List.infix_cons_iff, closing, List.cons_prefix_cons, eq_comm (a := '*')]
  cases text with
  | nil => simp
  | cons d text => simp [List.cons_prefix_cons, eq_comm (a := '/')]

/-- A text with a closing mark has a first one. -/
theorem exists_first_closing {text : Text} (closes : closing <:+: text) :
    ∃ inner rest, text = inner ++ '*' :: '/' :: rest ∧ ¬closing <:+: inner := by
  induction text with
  | nil => simp [closing] at closes
  | cons c text ih =>
    by_cases here : c = '*' ∧ text.head? = some '/'
    · obtain ⟨rfl, next⟩ := here
      obtain ⟨rest, rfl⟩ := List.head?_eq_some_iff.1 next
      exact ⟨[], rest, rfl, by simp [closing]⟩
    · obtain ⟨inner, rest, rfl, first⟩ := ih ((closing_infix_cons.1 closes).resolve_left here)
      refine ⟨c :: inner, rest, rfl, ?_⟩
      rw [closing_infix_cons]
      rintro (⟨rfl, next⟩ | later)
      · cases inner with
        | nil => simp at next
        | cons d inner => exact here ⟨rfl, by simpa using next⟩
      · exact first later

theorem exists_splits (last : Option Char) (line : Text) :
    ∃ parts isOpen, Splits last line parts isOpen := by
  induction size : line.length using Nat.strongRecOn generalizing last line with
  | _ n ih =>
    have shorter : ∀ (next : Option Char) (rest : Text), rest.length < line.length →
        ∃ parts isOpen, Splits next rest parts isOpen := fun next rest less =>
      ih rest.length (size ▸ less) next rest rfl
    clear ih
    cases line with
    | nil => exact ⟨[], false, .nil⟩
    | cons c line =>
      by_cases literal : CanOpen last c ∧ c ∈ line
      · obtain ⟨opens, member⟩ := literal
        obtain ⟨inner, rest, rfl, partner⟩ := List.eq_append_cons_of_mem member
        obtain ⟨parts, isOpen, behind⟩ := shorter (some c) rest (by simp; omega)
        exact ⟨_, _, .literal opens partner behind⟩
      by_cases remark : BeginsRemark (c :: line)
      · exact ⟨_, _, .remark remark⟩
      by_cases block : ['/', '*'] <+: c :: line
      · obtain ⟨inner, isLine⟩ := block
        rw [← isLine] at shorter ⊢
        by_cases closes : closing <:+: inner
        · obtain ⟨inner, rest, rfl, first⟩ := exists_first_closing closes
          obtain ⟨parts, isOpen, behind⟩ := shorter (some '/') rest (by simp; omega)
          exact ⟨_, _, .block first behind⟩
        · exact ⟨_, _, .openBlock closes⟩
      · obtain ⟨parts, isOpen, behind⟩ := shorter (some c) line (by simp)
        exact ⟨_, _, .plain (not_and.1 literal) remark block behind⟩

theorem exists_lineSplits (inBlock : Bool) (line : Text) :
    ∃ parts isOpen, LineSplits inBlock line parts isOpen := by
  cases inBlock with
  | false =>
    obtain ⟨parts, isOpen, splits⟩ := exists_splits none line
    exact ⟨parts, isOpen, .outside splits⟩
  | true =>
    by_cases closes : closing <:+: line
    · obtain ⟨inner, rest, rfl, first⟩ := exists_first_closing closes
      obtain ⟨parts, isOpen, behind⟩ := exists_splits (some '/') rest
      exact ⟨_, isOpen, .closed first behind⟩
    · exact ⟨_, true, .unclosed closes⟩

theorem exists_allSplit (inBlock : Bool) (lines : List Text) :
    ∃ split, AllSplit inBlock lines split := by
  induction lines generalizing inBlock with
  | nil => exact ⟨[], .nil⟩
  | cons line lines ih =>
    obtain ⟨parts, isOpen, first⟩ := exists_lineSplits inBlock line
    obtain ⟨split, later⟩ := ih isOpen
    exact ⟨parts :: split, .cons first later⟩

/-- No other closing mark lies before the first one. -/
theorem length_le_of_first_closing {inner other rest rest' : Text} (first : ¬closing <:+: inner)
    (same : inner ++ '*' :: '/' :: rest = other ++ '*' :: '/' :: rest') :
    inner.length ≤ other.length := by
  induction other generalizing inner with
  | nil =>
    match inner with
    | [] => exact Nat.le_refl _
    | [c] => simp at same
    | c :: d :: inner =>
      obtain ⟨rfl, rfl, -⟩ : c = '*' ∧ d = '/' ∧ _ := by simpa using same
      exact absurd (closing_infix_cons.2 (.inl ⟨rfl, rfl⟩)) first
  | cons d other ih =>
    match inner with
    | [] => exact Nat.zero_le _
    | c :: inner =>
      rw [closing_infix_cons, not_or] at first
      exact Nat.succ_le_succ (ih first.2 (List.cons.inj same).2)

theorem first_closing_unique (first : ¬closing <:+: inner) (first' : ¬closing <:+: inner')
    (same : inner ++ '*' :: '/' :: rest = inner' ++ '*' :: '/' :: rest') :
    inner = inner' ∧ rest = rest' := by
  have lengths : inner.length = inner'.length :=
    Nat.le_antisymm (length_le_of_first_closing first same)
      (length_le_of_first_closing first' same.symm)
  obtain ⟨isInner, isRest⟩ := List.append_inj same lengths
  exact ⟨isInner, by simpa using isRest⟩

/-- What closes a text is in it. -/
theorem closing_infix_append (inner rest : Text) : closing <:+: inner ++ '*' :: '/' :: rest :=
  ⟨inner, rest, by simp [closing]⟩

theorem literal_end_unique (partner : quote ∉ inner) (partner' : quote ∉ inner')
    (same : inner ++ quote :: rest = inner' ++ quote :: rest') : inner = inner' ∧ rest = rest' := by
  have cut : ∀ (inner rest : Text), quote ∉ inner →
      (inner ++ quote :: rest).takeWhile (· != quote) = inner ∧
        (inner ++ quote :: rest).dropWhile (· != quote) = quote :: rest := by
    intro inner rest partner
    refine Text.takeWhile_append_of_stops (fun c member => ?_) (by simp)
    exact bne_iff_ne.2 fun isQuote => partner (isQuote ▸ member)
  obtain ⟨isInner, isRest⟩ := cut inner rest partner
  obtain ⟨isInner', isRest'⟩ := cut inner' rest' partner'
  rw [same, isInner'] at isInner
  rw [same, isRest'] at isRest
  exact ⟨isInner.symm, (List.cons.inj isRest).2.symm⟩

theorem CanOpen.not_beginsRemark (opens : CanOpen last quote) : ¬BeginsRemark (quote :: rest) := by
  rcases opens with rfl | ⟨rfl, -⟩ <;> simp [BeginsRemark, List.cons_prefix_cons]

theorem not_canOpen_slash (last : Option Char) : ¬CanOpen last '/' := by
  simp [CanOpen]

theorem not_beginsRemark_block (inner : Text) : ¬BeginsRemark ('/' :: '*' :: inner) := by
  simp [BeginsRemark, List.cons_prefix_cons]

theorem Splits.literal_inv (splits : Splits last (quote :: rest) parts isOpen)
    (opens : CanOpen last quote) (partner : quote ∈ rest) :
    ∃ inner after behind, quote ∉ inner ∧ rest = inner ++ quote :: after ∧
      parts = .literal quote inner :: behind ∧ Splits (some quote) after behind isOpen := by
  cases splits with
  | literal _ first behind => exact ⟨_, _, _, first, rfl, rfl, behind⟩
  | block => exact absurd opens (not_canOpen_slash last)
  | openBlock => exact absurd opens (not_canOpen_slash last)
  | remark begins => exact absurd begins opens.not_beginsRemark
  | plain noLiteral => exact absurd partner (noLiteral opens)

theorem Splits.remark_inv (splits : Splits last line parts isOpen) (begins : BeginsRemark line) :
    parts = [.remark line] ∧ isOpen = false := by
  cases splits with
  | nil => simp [BeginsRemark] at begins
  | literal opens => exact absurd begins opens.not_beginsRemark
  | block => exact absurd begins (not_beginsRemark_block _)
  | openBlock => exact absurd begins (not_beginsRemark_block _)
  | remark => exact ⟨rfl, rfl⟩
  | plain _ noRemark => exact absurd begins noRemark

theorem Splits.block_inv (splits : Splits last ('/' :: '*' :: inner) parts isOpen) :
    (¬closing <:+: inner ∧ parts = [.block ('/' :: '*' :: inner)] ∧ isOpen = true) ∨
      ∃ first rest behind, ¬closing <:+: first ∧ inner = first ++ '*' :: '/' :: rest ∧
        parts = .block ('/' :: '*' :: (first ++ closing)) :: behind ∧
        Splits (some '/') rest behind isOpen := by
  generalize isText : '/' :: '*' :: inner = text at splits
  cases splits with
  | nil => simp at isText
  | literal opens =>
    obtain ⟨rfl, -⟩ := List.cons.inj isText
    exact absurd opens (not_canOpen_slash last)
  | block first behind =>
    obtain rfl : inner = _ := by simpa using isText
    exact .inr ⟨_, _, _, first, rfl, rfl, behind⟩
  | openBlock unclosed =>
    obtain rfl : inner = _ := by simpa using isText
    exact .inl ⟨unclosed, rfl, rfl⟩
  | remark begins => exact absurd (isText ▸ begins) (not_beginsRemark_block _)
  | plain _ _ noBlock => exact absurd ⟨inner, isText⟩ noBlock

theorem Splits.plain_inv {c : Char} (splits : Splits last (c :: rest) parts isOpen)
    (noLiteral : CanOpen last c → c ∉ rest) (noRemark : ¬BeginsRemark (c :: rest))
    (noBlock : ¬['/', '*'] <+: c :: rest) :
    ∃ behind, parts = .plain c :: behind ∧ Splits (some c) rest behind isOpen := by
  cases splits with
  | literal opens => exact absurd (by simp) (noLiteral opens)
  | block => exact absurd ⟨_, rfl⟩ noBlock
  | openBlock => exact absurd ⟨_, rfl⟩ noBlock
  | remark begins => exact absurd begins noRemark
  | plain _ _ _ behind => exact ⟨_, rfl, behind⟩

/-- A text has its parts in one way only. -/
theorem Splits.unique (splits : Splits last line parts isOpen)
    (again : Splits last line others isOpen') : others = parts ∧ isOpen' = isOpen := by
  induction splits generalizing others isOpen' with
  | nil =>
    cases again with
    | nil => exact ⟨rfl, rfl⟩
    | remark begins => simp [BeginsRemark] at begins
  | literal opens partner _ ih =>
    obtain ⟨inner, after, behind, partner', same, rfl, later⟩ :=
      again.literal_inv opens (by simp)
    obtain ⟨rfl, rfl⟩ := literal_end_unique partner partner' same
    obtain ⟨rfl, rfl⟩ := ih later
    exact ⟨rfl, rfl⟩
  | block first _ ih =>
    rcases again.block_inv with ⟨unclosed, -⟩ | ⟨inner, after, behind, first', same, rfl, later⟩
    · exact absurd (closing_infix_append _ _) unclosed
    · obtain ⟨rfl, rfl⟩ := first_closing_unique first first' same
      obtain ⟨rfl, rfl⟩ := ih later
      exact ⟨rfl, rfl⟩
  | openBlock unclosed =>
    rcases again.block_inv with ⟨-, rfl, rfl⟩ | ⟨inner, after, _, _, rfl, -⟩
    · exact ⟨rfl, rfl⟩
    · exact absurd (closing_infix_append _ _) unclosed
  | remark begins => exact again.remark_inv begins
  | plain noLiteral noRemark noBlock _ ih =>
    obtain ⟨behind, rfl, later⟩ := again.plain_inv noLiteral noRemark noBlock
    obtain ⟨rfl, rfl⟩ := ih later
    exact ⟨rfl, rfl⟩

theorem LineSplits.unique (splits : LineSplits inBlock line parts isOpen)
    (again : LineSplits inBlock line others isOpen') : others = parts ∧ isOpen' = isOpen := by
  cases splits with
  | outside splits =>
    cases again with
    | outside again => exact splits.unique again
  | @closed inner rest parts isOpen first behind =>
    generalize isLine : inner ++ '*' :: '/' :: rest = line at again
    cases again with
    | closed first' behind' =>
      obtain ⟨rfl, rfl⟩ := first_closing_unique first first' isLine
      obtain ⟨rfl, rfl⟩ := behind.unique behind'
      exact ⟨rfl, rfl⟩
    | unclosed unclosed => exact absurd (isLine ▸ closing_infix_append inner rest) unclosed
  | unclosed unclosed =>
    cases again with
    | closed => exact absurd (closing_infix_append _ _) unclosed
    | unclosed => exact ⟨rfl, rfl⟩

theorem AllSplit.unique {inBlock : Bool} {lines : List Text} {split others : List (List Part)}
    (splits : AllSplit inBlock lines split) (again : AllSplit inBlock lines others) :
    others = split := by
  induction splits generalizing others with
  | nil => cases again; rfl
  | cons first _ ih =>
    cases again with
    | cons first' later =>
      obtain ⟨rfl, rfl⟩ := first.unique first'
      rw [ih later]

end Comment
end AsmAtlas
