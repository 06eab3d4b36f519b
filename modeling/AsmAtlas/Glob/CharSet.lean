import AsmAtlas.Text.CharacterName.Lookup
import AsmAtlas.Text.CodePoint
import AsmAtlas.Text.Digit
import AsmAtlas.Text.Letter

/-!
# Character sets

The body of a bracket in the notation of regular expressions: characters, ranges, escapes and
classes, up to the closing bracket. A closing bracket right at the start stands for itself, so a
set may reach further than its first closing bracket.
-/

namespace AsmAtlas

/-- Why a glob has no meaning. -/
inductive GlobError where
  /-- A set has no closing bracket. -/
  | openSet
  /-- A range whose ends are classes, or in the wrong order. -/
  | badRange
  /-- A backslash before something that it cannot escape. -/
  | badEscape
  /-- A group that is not closed, closed twice, or repeated in a way that has no meaning. -/
  | badGroup
  /-- Braces are nested deeper than globs are read. -/
  | tooDeep
deriving DecidableEq

/-- A member of a set as it is written. -/
inductive SetAtom where
  | code (n : Nat)
  | cls (accepts : Char → Bool)

/-- A member of a set. -/
inductive SetItem where
  | range (first last : Nat)
  | cls (accepts : Char → Bool)

namespace SetItem

/-- Whether a member of a set takes in a character. -/
def accepts : SetItem → Char → Bool
  | range first last, c => first ≤ c.toNat && c.toNat ≤ last
  | cls p, c => p c

end SetItem

/-- A set as it stands for itself. -/
def SetAtom.item : SetAtom → SetItem
  | code n => .range n n
  | cls p => .cls p

namespace CharSet

/-- A code of exactly `count` hexadecimal digits. -/
def hexCode (count : Nat) (t : LooseText) : Except GlobError (SetAtom × LooseText) :=
  match (LooseText.text? (t.take count)).bind (numberIn? 16 hexValue?) with
  | some n =>
    if (t.take count).length == count && n ≤ 0x10FFFF then .ok (.code n, t.drop count)
    else .error .badEscape
  | none => .error .badEscape

/-- A code of up to three octal digits, the first of which is `c`. -/
def octalCode (c : Char) (t : LooseText) : Except GlobError (SetAtom × LooseText) :=
  let more := (t.take 2).takeWhile (CodePoint.isChar fun d => (octalValue? d).isSome)
  match numberIn? 8 octalValue? (c :: more.filterMap CodePoint.char?) with
  | some n => if n ≤ 0xFF then .ok (.code n, t.drop more.length) else .error .badEscape
  | none => .error .badEscape

/-- The code of a character whose name is given in braces. -/
def namedCode : LooseText → Except GlobError (SetAtom × LooseText)
  | .char '\x7b' :: t =>
    match t.dropWhile (· != .char '\x7d') with
    | [] => .error .badEscape
    | _ :: rest =>
      match (LooseText.text? (t.takeWhile (· != .char '\x7d'))).bind CharacterName.code? with
      | some n => .ok (.code n, rest)
      | none => .error .badEscape
  | _ => .error .badEscape

/-- What a backslash and `c` stand for inside a set, and the text behind it. -/
def escape (c : Char) (t : LooseText) : Except GlobError (SetAtom × LooseText) :=
  match c with
  | 'a' => .ok (.code 0x07, t)
  | 'b' => .ok (.code 0x08, t)
  | 't' => .ok (.code 0x09, t)
  | 'n' => .ok (.code 0x0A, t)
  | 'v' => .ok (.code 0x0B, t)
  | 'f' => .ok (.code 0x0C, t)
  | 'r' => .ok (.code 0x0D, t)
  | 'd' => .ok (.cls isDecimal, t)
  | 'D' => .ok (.cls fun c => !isDecimal c, t)
  | 's' => .ok (.cls isBlank, t)
  | 'S' => .ok (.cls fun c => !isBlank c, t)
  | 'w' => .ok (.cls isWordChar, t)
  | 'W' => .ok (.cls fun c => !isWordChar c, t)
  | 'x' => hexCode 2 t
  | 'u' => hexCode 4 t
  | 'U' => hexCode 8 t
  | 'N' => namedCode t
  | c =>
    if (octalValue? c).isSome then octalCode c t
    else if c.isAlphanum then .error .badEscape
    else .ok (.code c.toNat, t)

/-- Reads one member of a set. -/
def atom : LooseText → Except GlobError (SetAtom × LooseText)
  | [] => .error .openSet
  | [.char '\\'] => .error .badEscape
  | .char '\\' :: .char c :: rest => escape c rest
  | .char '\\' :: .half code :: rest => .ok (.code code, rest)
  | p :: rest => .ok (.code p.value, rest)

/-- What was read of a set: members, the text behind, and whether the set ended there. -/
structure Part where
  members : List SetItem
  rest : LooseText
  closed : Bool

/-- Reads a range whose first end and dash were read already. -/
def range (first : SetAtom) (t : LooseText) : Except GlobError Part :=
  match first, atom t with
  | _, .error e => .error e
  | .code lo, .ok (.code hi, rest) =>
    if hi < lo then .error .badRange else .ok ⟨[.range lo hi], rest, false⟩
  | _, .ok _ => .error .badRange

/-- Reads a member or a range. A dash before the closing bracket stands for itself. -/
def part (t : LooseText) : Except GlobError Part :=
  match atom t with
  | .error e => .error e
  | .ok (first, .char '-' :: .char ']' :: rest) => .ok ⟨[first.item, .range 0x2D 0x2D], rest, true⟩
  | .ok (first, .char '-' :: rest) => range first rest
  | .ok (first, rest) => .ok ⟨[first.item], rest, false⟩

/-- Reads the members of a set up to its closing bracket, which closes it only behind a member.
    The number bounds how many members are read. -/
def items : Nat → LooseText → Except GlobError (List SetItem × LooseText)
  | 0, _ => .error .openSet
  | bound + 1, t =>
    match part t with
    | .error e => .error e
    | .ok ⟨members, rest, true⟩ => .ok (members, rest)
    | .ok ⟨members, .char ']' :: rest, false⟩ => .ok (members, rest)
    | .ok ⟨members, rest, false⟩ =>
      match items bound rest with
      | .error e => .error e
      | .ok (more, rest) => .ok (members ++ more, rest)

/-- What a set in front of a text begins with: a caret negates it. -/
def negation : LooseText → Bool × LooseText
  | .char '^' :: rest => (true, rest)
  | t => (false, t)

/-- Reads a set behind its opening bracket. -/
def read (t : LooseText) : Except GlobError ((Char → Bool) × LooseText) :=
  match items (t.length + 1) (negation t).2 with
  | .error e => .error e
  | .ok (members, rest) =>
    .ok (fun c => members.any (·.accepts c) != (negation t).1, rest)

theorem length_of_hexCode {count : Nat} {t rest : LooseText} {a : SetAtom}
    (h : hexCode count t = .ok (a, rest)) : rest.length ≤ t.length := by
  unfold hexCode at h
  split at h
  · split at h
    · simp only [Except.ok.injEq, Prod.mk.injEq] at h
      simp [← h.2]
    · simp at h
  · simp at h

theorem length_of_octalCode {c : Char} {t rest : LooseText} {a : SetAtom}
    (h : octalCode c t = .ok (a, rest)) : rest.length ≤ t.length := by
  simp only [octalCode] at h
  split at h
  · split at h
    · simp only [Except.ok.injEq, Prod.mk.injEq] at h
      simp [← h.2]
    · simp at h
  · simp at h

theorem length_of_namedCode {t rest : LooseText} {a : SetAtom}
    (h : namedCode t = .ok (a, rest)) : rest.length ≤ t.length := by
  unfold namedCode at h
  split at h
  · next t =>
    have bound : (t.dropWhile (· != .char '\x7d')).length ≤ t.length :=
      (List.dropWhile_sublist _).length_le
    split at h
    · simp at h
    · next found =>
      rw [found] at bound
      split at h
      · simp only [Except.ok.injEq, Prod.mk.injEq] at h
        simp only [List.length_cons] at bound ⊢
        rw [← h.2]
        omega
      · simp at h
  · simp at h

theorem length_of_escape {c : Char} {t rest : LooseText} {a : SetAtom}
    (h : escape c t = .ok (a, rest)) : rest.length ≤ t.length := by
  unfold escape at h
  split at h <;> first
    | exact length_of_hexCode h
    | exact length_of_namedCode h
    | simp only [Except.ok.injEq, Prod.mk.injEq] at h; simp [h.2]
    | skip
  split at h
  · exact length_of_octalCode h
  · split at h
    · simp at h
    · simp only [Except.ok.injEq, Prod.mk.injEq] at h
      simp [h.2]

theorem length_of_atom {t rest : LooseText} {a : SetAtom} (h : atom t = .ok (a, rest)) :
    rest.length < t.length := by
  unfold atom at h
  split at h
  · simp at h
  · simp at h
  · have := length_of_escape h
    simp only [List.length_cons]
    omega
  · simp only [Except.ok.injEq, Prod.mk.injEq] at h
    simp only [List.length_cons, h.2]
    omega
  · simp only [Except.ok.injEq, Prod.mk.injEq] at h
    simp [h.2]

theorem length_of_range {first : SetAtom} {t : LooseText} {found : Part}
    (h : range first t = .ok found) : found.rest.length < t.length := by
  unfold range at h
  split at h
  · simp at h
  · next read =>
    split at h
    · simp at h
    · simp only [Except.ok.injEq] at h
      rw [← h]
      exact length_of_atom read
  · simp at h

theorem length_of_part {t : LooseText} {found : Part} (h : part t = .ok found) :
    found.rest.length < t.length := by
  unfold part at h
  split at h
  · simp at h
  · next read =>
    have := length_of_atom read
    simp only [Except.ok.injEq] at h
    simp only [List.length_cons] at this
    rw [← h]
    exact Nat.lt_of_succ_lt (Nat.lt_of_succ_lt this)
  · next read =>
    have := length_of_atom read
    have := length_of_range h
    simp only [List.length_cons] at *
    omega
  · next read =>
    simp only [Except.ok.injEq] at h
    rw [← h]
    exact length_of_atom read

theorem length_of_items {bound : Nat} {t rest : LooseText} {members : List SetItem}
    (h : items bound t = .ok (members, rest)) : rest.length < t.length := by
  induction bound generalizing t members rest with
  | zero => simp [items] at h
  | succ bound ih =>
    rw [items] at h
    split at h
    · simp at h
    · next read =>
      simp only [Except.ok.injEq, Prod.mk.injEq] at h
      rw [← h.2]
      exact length_of_part read
    · next read =>
      have := length_of_part read
      simp only [Except.ok.injEq, Prod.mk.injEq] at h
      simp only [List.length_cons] at this
      rw [← h.2]
      omega
    · next read =>
      have := length_of_part read
      split at h
      · simp at h
      · next more =>
        have := ih more
        simp only [Except.ok.injEq, Prod.mk.injEq] at h
        simp only at *
        rw [← h.2]
        omega

theorem length_negation_le (t : LooseText) : (negation t).2.length ≤ t.length := by
  unfold negation
  split <;> simp

/-- A set takes at least its closing bracket. -/
theorem length_of_read {t rest : LooseText} {p : Char → Bool} (h : read t = .ok (p, rest)) :
    rest.length < t.length := by
  have := length_negation_le t
  unfold read at h
  split at h
  · simp at h
  · next found =>
    have := length_of_items found
    simp only [Except.ok.injEq, Prod.mk.injEq] at h
    rw [← h.2]
    omega

end CharSet
end AsmAtlas
