import AsmAtlas.Workspace.Search
import Mathlib.Data.List.Basic
import Mathlib.Tactic.SplitIfs

/-!
# Decoding sources

Every file has a text. Bytes that spell characters in UTF-8 stand for these characters, bytes that
do not are taken one by one. What bytes spell is said by the arithmetic of the encoding: a lead byte
says how many bytes follow, each of them adds six bits, and a character takes as few bytes as have
room for its number. No character has the number of a surrogate or one beyond the last code point,
so nothing else spells anything.
-/

namespace AsmAtlas

namespace Encoding

/-- A byte that goes on with a character. -/
def IsTail (b : UInt8) : Prop :=
  0x80 ≤ b.toNat ∧ b.toNat < 0xC0

/-- The bytes of a character in UTF-8. -/
inductive SpellsChar : List UInt8 → Char → Prop
  | one {a : UInt8} {c : Char} (lead : a.toNat < 0x80) (number : c.toNat = a.toNat) :
      SpellsChar [a] c
  | two {a b₁ : UInt8} {c : Char} (lead : 0xC0 ≤ a.toNat ∧ a.toNat < 0xE0) (tail : IsTail b₁)
      (number : c.toNat = (a.toNat - 0xC0) * 0x40 + (b₁.toNat - 0x80))
      (shortest : 0x80 ≤ c.toNat) : SpellsChar [a, b₁] c
  | three {a b₁ b₂ : UInt8} {c : Char} (lead : 0xE0 ≤ a.toNat ∧ a.toNat < 0xF0)
      (tails : IsTail b₁ ∧ IsTail b₂)
      (number : c.toNat =
        (a.toNat - 0xE0) * 0x1000 + (b₁.toNat - 0x80) * 0x40 + (b₂.toNat - 0x80))
      (shortest : 0x800 ≤ c.toNat) : SpellsChar [a, b₁, b₂] c
  | four {a b₁ b₂ b₃ : UInt8} {c : Char} (lead : 0xF0 ≤ a.toNat ∧ a.toNat < 0xF8)
      (tails : IsTail b₁ ∧ IsTail b₂ ∧ IsTail b₃)
      (number : c.toNat = (a.toNat - 0xF0) * 0x40000 + (b₁.toNat - 0x80) * 0x1000 +
        (b₂.toNat - 0x80) * 0x40 + (b₃.toNat - 0x80))
      (shortest : 0x10000 ≤ c.toNat) : SpellsChar [a, b₁, b₂, b₃] c

/-- The bytes of a text in UTF-8. -/
inductive Spells : List UInt8 → Text → Prop
  | nil : Spells [] []
  | cons {first bytes : List UInt8} {c : Char} {t : Text} (head : SpellsChar first c)
      (behind : Spells bytes t) : Spells (first ++ bytes) (c :: t)

/-- The library's encoding spells its character. -/
theorem spellsChar_utf8EncodeChar (c : Char) : SpellsChar (String.utf8EncodeChar c) c := by
  have range : c.val.toNat < 0x110000 := by
    rcases c.valid with low | high
    · exact Nat.lt_trans low (by decide)
    · exact high.2
  have number : c.toNat = c.val.toNat := rfl
  unfold String.utf8EncodeChar
  dsimp only
  split_ifs with one two three
  · have lead := UInt8.toNat_ofNat_of_lt' (Nat.lt_of_le_of_lt one (by decide : 127 < UInt8.size))
    exact .one (by omega) (by omega)
  · refine .two ?_ ?_ ?_ (by omega) <;> simp only [UInt8.toNat_ofNat', IsTail] <;> omega
  · refine .three ?_ ?_ ?_ (by omega) <;> simp only [UInt8.toNat_ofNat', IsTail] <;> omega
  · refine .four ?_ ?_ ?_ (by omega) <;> simp only [UInt8.toNat_ofNat', IsTail] <;> omega

/-- Nothing else spells a character. -/
theorem SpellsChar.eq_utf8EncodeChar {bytes : List UInt8} {c : Char} (spells : SpellsChar bytes c) :
    bytes = String.utf8EncodeChar c := by
  have number : c.val.toNat = c.toNat := rfl
  unfold String.utf8EncodeChar
  cases spells with
  | one lead value =>
    dsimp only
    rw [if_pos (by omega), List.singleton_inj, ← UInt8.toNat_inj, UInt8.toNat_ofNat']
    omega
  | two lead tail value shortest =>
    simp only [IsTail] at tail
    dsimp only
    rw [if_neg (by omega), if_pos (by omega)]
    simp only [List.cons.injEq, and_true, ← UInt8.toNat_inj, UInt8.toNat_ofNat']
    omega
  | three lead tails value shortest =>
    simp only [IsTail] at tails
    dsimp only
    rw [if_neg (by omega), if_neg (by omega), if_pos (by omega)]
    simp only [List.cons.injEq, and_true, ← UInt8.toNat_inj, UInt8.toNat_ofNat']
    omega
  | four lead tails value shortest =>
    simp only [IsTail] at tails
    dsimp only
    rw [if_neg (by omega), if_neg (by omega), if_neg (by omega)]
    simp only [List.cons.injEq, and_true, ← UInt8.toNat_inj, UInt8.toNat_ofNat']
    omega

theorem spells_iff {bytes : List UInt8} {t : Text} :
    Spells bytes t ↔ bytes = t.flatMap String.utf8EncodeChar := by
  constructor
  · intro spells
    induction spells with
    | nil => rfl
    | cons head _ ih => rw [List.flatMap_cons, ← ih, ← head.eq_utf8EncodeChar]
  · rintro rfl
    induction t with
    | nil => exact .nil
    | cons c t ih => exact .cons (spellsChar_utf8EncodeChar c) ih

theorem toList_eq_data (bytes : ByteArray) : bytes.toList = bytes.data.toList := by
  have loop : ∀ i done, ByteArray.toList.loop bytes i done =
      done.reverse ++ bytes.data.toList.drop i := by
    intro i done
    fun_induction ByteArray.toList.loop bytes i done with
    | case1 i done inside ih =>
      have isIndex : i < bytes.data.toList.length := by simpa using inside
      rw [ih, List.drop_eq_getElem_cons isIndex]
      simp [ByteArray.get!, inside]
    | case2 i done outside =>
      rw [List.drop_eq_nil_of_le (by simpa using Nat.le_of_not_lt outside), List.append_nil]
  rw [ByteArray.toList, loop]
  simp

theorem toList_eq_iff {bytes : ByteArray} {t : Text} :
    bytes.toList = t.flatMap String.utf8EncodeChar ↔ bytes = t.utf8Encode := by
  rw [toList_eq_data, List.utf8Encode]
  constructor
  · intro same
    refine ByteArray.ext (Array.toList_inj.1 ?_)
    rw [same, List.toList_data_toByteArray]
  · rintro rfl
    exact List.toList_data_toByteArray

/-- The text that is read from bytes is the one that they spell, if they spell one. -/
theorem utf8?_eq_some_iff {bytes : ByteArray} {t : Text} :
    utf8? bytes = some t ↔ Spells bytes.toList t := by
  rw [spells_iff, toList_eq_iff, utf8?]
  constructor
  · intro read
    obtain ⟨chars, decoded, rfl⟩ := Option.map_eq_some_iff.1 read
    have isText : bytes.utf8Decode?.isSome := by rw [decoded]; rfl
    have encoded := ByteArray.utf8Encode_get_utf8Decode? (h := isText)
    simpa [decoded] using encoded.symm
  · rintro rfl
    rw [List.utf8Decode?_utf8Encode, Option.map_some]

/-- A piece of text behind a carriage return, without the line feed that belongs to it. -/
def dropFeed (piece : Text) : Text :=
  if piece.head? = some '\n' then piece.tail else piece

/-- A text whose lines end with line feeds: it is cut at the carriage returns, and the line feed
    right behind one is cut away with it. -/
def withLineFeeds (t : Text) : Text :=
  Text.joinWith ['\n'] <|
    match t.splitOn '\r' with
    | [] => []
    | first :: later => first :: later.map dropFeed

theorem withLineFeeds_cons {c : Char} (plain : c ≠ '\r') (t : Text) :
    withLineFeeds (c :: t) = c :: withLineFeeds t := by
  obtain ⟨first, later, split⟩ := List.exists_cons_of_ne_nil (List.splitOn_ne_nil '\r' t)
  rw [withLineFeeds, withLineFeeds, List.splitOn_cons_eq_if_modifyHead,
    if_neg (by simpa using plain), split, List.modifyHead_cons]
  cases later <;> simp [Text.joinWith, List.intercalate_cons_cons]

theorem withLineFeeds_eq_self {t : Text} (noReturn : '\r' ∉ t) : withLineFeeds t = t := by
  rw [withLineFeeds, List.splitOn_eq_singleton noReturn]
  exact List.intercalate_singleton

/-- The first piece of a text begins as the text does, or is empty. -/
theorem head_of_splitOn {t first : Text} {later : List Text}
    (split : t.splitOn '\r' = first :: later) {c : Char} (starts : first.head? = some c) :
    t.head? = some c := by
  cases t with
  | nil =>
    obtain ⟨rfl, -⟩ := List.cons.inj ((List.splitOn_nil '\r').symm.trans split)
    simp at starts
  | cons d t =>
    obtain ⟨piece, others, rest⟩ := List.exists_cons_of_ne_nil (List.splitOn_ne_nil '\r' t)
    rw [List.splitOn_cons_eq_if_modifyHead, rest] at split
    split_ifs at split
    · obtain ⟨rfl, -⟩ := List.cons.inj split
      simp at starts
    · obtain ⟨rfl, -⟩ := List.cons.inj split
      simpa using starts

/-- A carriage return becomes a line feed, and `rest` is what follows its own line feed. -/
theorem withLineFeeds_return {t rest : Text}
    (follows : t = '\n' :: rest ∨ t = rest ∧ t.head? ≠ some '\n') :
    withLineFeeds ('\r' :: t) = '\n' :: withLineFeeds rest := by
  obtain ⟨first, later, split⟩ := List.exists_cons_of_ne_nil (List.splitOn_ne_nil '\r' rest)
  have pieces : ∃ piece, t.splitOn '\r' = piece :: later ∧ dropFeed piece = first := by
    rcases follows with rfl | ⟨rfl, noFeed⟩
    · refine ⟨'\n' :: first, ?_, rfl⟩
      rw [List.splitOn_cons_eq_if_modifyHead, if_neg (by decide), split, List.modifyHead_cons]
    · exact ⟨first, split, if_neg fun starts => noFeed (head_of_splitOn split starts)⟩
  obtain ⟨piece, splitAll, dropped⟩ := pieces
  rw [withLineFeeds, withLineFeeds, List.splitOn_cons_eq_if_modifyHead, if_pos (by decide),
    splitAll, split]
  simp [Text.joinWith, List.intercalate_cons_cons, dropped]

theorem unifyNewlines_eq (t : Text) : unifyNewlines t = withLineFeeds t := by
  induction t using unifyNewlines.induct with
  | case1 => rfl
  | case2 rest ih => rw [unifyNewlines, ih, withLineFeeds_return (.inl rfl)]
  | case3 rest noFeed ih =>
    have unpaired : rest.head? ≠ some '\n' := by
      intro starts
      obtain ⟨behind, rfl⟩ := List.head?_eq_some_iff.1 starts
      exact noFeed behind rfl
    rw [unifyNewlines, ih, withLineFeeds_return (.inr ⟨rfl, unpaired⟩)]
    exact noFeed
  | case4 c rest noPair noReturn ih =>
    rw [unifyNewlines, ih, withLineFeeds_cons fun isReturn => noReturn isReturn]
    · exact noPair
    · exact noReturn

theorem return_not_mem_unifyNewlines (t : Text) : '\r' ∉ unifyNewlines t := by
  induction t using unifyNewlines.induct with
  | case1 => simp [unifyNewlines]
  | case2 rest ih => simpa [unifyNewlines] using ih
  | case3 rest noFeed ih =>
    rw [unifyNewlines]
    · simpa using ih
    · exact noFeed
  | case4 c rest noPair noReturn ih =>
    rw [unifyNewlines]
    · exact List.not_mem_cons_of_ne_of_not_mem (fun same => noReturn same.symm) ih
    · exact noPair
    · exact noReturn

/-- One character for each byte, with its number. -/
theorem map_toNat_latin1 (bytes : ByteArray) :
    (latin1 bytes).map Char.toNat = bytes.toList.map UInt8.toNat := by
  rw [latin1, List.map_map]
  refine List.map_congr_left fun b _ => ?_
  have isNumber : b.toNat.isValidChar := .inl (Nat.lt_trans b.toNat_lt (by decide))
  rw [Function.comp_apply, Char.ofNat, dif_pos isNumber]
  rfl

/-- What a text that is read from bytes has to be. -/
structure IsTextOf (bytes : List UInt8) (text : Text) : Prop where
  noReturn : '\r' ∉ text
  marked : ∀ t, Spells bytes ('\uFEFF' :: t) → text = withLineFeeds t
  unmarked : ∀ t, Spells bytes t → t.head? ≠ some '\uFEFF' → text = withLineFeeds t
  bytewise : (¬∃ t, Spells bytes t) →
    ∃ t : Text, t.map Char.toNat = bytes.map UInt8.toNat ∧ text = withLineFeeds t

theorem isTextOf_sourceText (bytes : ByteArray) : IsTextOf bytes.toList (sourceText bytes) where
  noReturn := return_not_mem_unifyNewlines _
  marked := by
    intro t spelled
    rw [sourceText, utf8?_eq_some_iff.2 spelled, unifyNewlines_eq]
    rfl
  unmarked := by
    intro t spelled unmarked
    have keeps : dropMark t = t := by
      unfold dropMark
      split
      · exact absurd rfl unmarked
      · rfl
    rw [sourceText, utf8?_eq_some_iff.2 spelled, unifyNewlines_eq]
    exact congrArg withLineFeeds keeps
  bytewise := by
    intro unspelled
    have unread : utf8? bytes = none :=
      Option.eq_none_iff_forall_ne_some.2 fun t read => unspelled ⟨t, utf8?_eq_some_iff.1 read⟩
    refine ⟨latin1 bytes, map_toNat_latin1 bytes, ?_⟩
    rw [sourceText, unread, unifyNewlines_eq]

/-- A text that is written as UTF-8 is read again, unless it starts with a mark or has a carriage
    return. -/
theorem sourceText_toUTF8 {source : String} (unmarked : source.toList.head? ≠ some '\uFEFF')
    (noReturn : '\r' ∉ source.toList) : sourceText source.toUTF8 = source.toList := by
  have spelled : Spells source.toUTF8.toList source.toList :=
    spells_iff.2 (toList_eq_iff.2 String.utf8Encode_toList.symm)
  rw [(isTextOf_sourceText source.toUTF8).unmarked source.toList spelled unmarked,
    withLineFeeds_eq_self noReturn]

/-- An overlong form, a surrogate, a character that breaks off, and a tail without a character. -/
example : [[0xC0, 0xAF], [0xED, 0xA0, 0x80], [0xE2, 0x82], [0x61, 0xBF]].map
      (fun bytes => sourceText bytes.toByteArray) =
    ["\u00C0\u00AF", "\u00ED\u00A0\u0080", "\u00E2\u0082", "a\u00BF"].map String.toList := by
  decide +kernel

end Encoding

namespace Workspace

open Encoding

/-- Every file has a text, and no carriage return is in it. If its bytes spell a text in UTF-8 it is
    that text, without a byte-order mark in front; if they spell none, it has one character for each
    of them. Either way every carriage return becomes a line feed, together with the line feed
    behind it if there is one. -/
theorem text_of_every_source {w : Workspace} {p : Path} {bytes : ByteArray}
    (held : w.files.read? p = some bytes) :
    ∃ text, w.text? p = some text ∧ IsTextOf bytes.toList text := by
  refine ⟨sourceText bytes, ?_, isTextOf_sourceText bytes⟩
  rw [text?, held, Option.map_some]

/-- The bytes of a file that starts with a byte-order mark and ends with a character that breaks
    off. -/
def brokenBytes : ByteArray :=
  [0xEF, 0xBB, 0xBF, 0x67, 0x6F, 0x0D, 0x0A, 0x0D, 0xE9].toByteArray

def brokenSource : Workspace :=
  { files := .folder [("a.asm".toList, .file brokenBytes)] }

/-- It is taken byte by byte, its mark included. -/
theorem text_of_brokenSource :
    brokenSource.files.read? ⟨["a.asm".toList]⟩ = some brokenBytes ∧
      ∃ text, brokenSource.text? ⟨["a.asm".toList]⟩ = some text ∧
        IsTextOf brokenBytes.toList text ∧ text = "\u00EF\u00BB\u00BFgo\n\n\u00E9".toList := by
  have held : brokenSource.files.read? ⟨["a.asm".toList]⟩ = some brokenBytes := by rfl
  obtain ⟨text, isText, decoded⟩ := text_of_every_source held
  refine ⟨held, text, isText, decoded, ?_⟩
  have read : brokenSource.text? ⟨["a.asm".toList]⟩ =
      some "\u00EF\u00BB\u00BFgo\n\n\u00E9".toList := by decide +kernel
  exact Option.some.inj (isText.symm.trans read)

end Workspace

end AsmAtlas
