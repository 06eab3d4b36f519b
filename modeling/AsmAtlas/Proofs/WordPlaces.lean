import AsmAtlas.Proofs.CommentStripping
import AsmAtlas.Proofs.TaskResults
import AsmAtlas.Proofs.WordMatching
import AsmAtlas.Request.Usage

/-!
# The places of a word in documents

An index of all identifiers and a search for one word give the same places, in the same order. Whole
words come in the order of the document and each place once, so that tidying leaves both lists as
they are, and line by line they agree on ASCII documents.
-/

namespace AsmAtlas

/-- A document of ASCII characters only. -/
def Document.IsAscii (d : Document) : Prop :=
  ∀ line ∈ d.lines, Text.IsAscii line

/-- The parts of a text have its characters only. -/
theorem Text.mem_of_mem_splitOn {sep c : Char} {t part : Text} (isPart : part ∈ t.splitOn sep)
    (member : c ∈ part) : c ∈ t := by
  induction t generalizing part with
  | nil =>
    rw [List.splitOn_nil, List.mem_singleton] at isPart
    rwa [isPart] at member
  | cons first t ih =>
    rw [List.splitOn_cons_eq_if_modifyHead] at isPart
    obtain ⟨head, parts, split⟩ := List.exists_cons_of_ne_nil (List.splitOn_ne_nil sep t)
    rw [split] at isPart ih
    split_ifs at isPart with ends
    · rcases List.mem_cons.1 isPart with rfl | later
      · simp at member
      · exact List.mem_cons_of_mem first (ih later member)
    · rcases List.mem_cons.1 isPart with rfl | later
      · rcases List.mem_cons.1 member with rfl | inHead
        · exact List.mem_cons_self
        · exact List.mem_cons_of_mem first (ih List.mem_cons_self inHead)
      · exact List.mem_cons_of_mem first (ih (List.mem_cons_of_mem head later) member)

/-- What is put together is made of the parts and of what stands between them. -/
theorem Text.mem_joinWith {sep : Text} {parts : List Text} {c : Char}
    (member : c ∈ Text.joinWith sep parts) : c ∈ sep ∨ ∃ part ∈ parts, c ∈ part := by
  induction parts with
  | nil => simp [Text.joinWith, List.intercalate] at member
  | cons part parts ih =>
    cases parts with
    | nil => exact .inr ⟨part, List.mem_singleton_self part, by
        simpa [Text.joinWith, List.intercalate] using member⟩
    | cons next rest =>
      rw [Text.joinWith, List.intercalate_cons_cons] at member
      rcases List.mem_append.1 member with first | later
      · rcases List.mem_append.1 first with inPart | inSep
        · exact .inr ⟨part, List.mem_cons_self, inPart⟩
        · exact .inl inSep
      · refine (ih later).imp_right ?_
        rintro ⟨other, isOther, inOther⟩
        exact ⟨other, List.mem_cons_of_mem part isOther, inOther⟩

/-- What is between separators has none of them. -/
theorem Text.not_mem_of_mem_splitOn {sep : Char} {t part : Text} (isPart : part ∈ t.splitOn sep) :
    sep ∉ part := by
  induction t generalizing part with
  | nil =>
    rw [List.splitOn_nil, List.mem_singleton] at isPart
    simp [isPart]
  | cons c t ih =>
    rw [List.splitOn_cons_eq_if_modifyHead] at isPart
    obtain ⟨first, parts, split⟩ := List.exists_cons_of_ne_nil (List.splitOn_ne_nil sep t)
    rw [split] at isPart ih
    split_ifs at isPart with separates
    · rcases List.mem_cons.1 isPart with rfl | isLater
      · exact List.not_mem_nil
      · exact ih isLater
    · rw [List.modifyHead_cons] at isPart
      rcases List.mem_cons.1 isPart with rfl | isLater
      · have other : sep ≠ c := by
          rintro rfl
          simp at separates
        exact List.not_mem_cons_of_ne_of_not_mem other (ih List.mem_cons_self)
      · exact ih (List.mem_cons_of_mem first isLater)

namespace Comment

/-- Stripping comments brings in no character but the space. -/
theorem forall_mem_stripFrom {holds : Char → Prop} (space : holds ' ') {lines : List Text}
    (each : ∀ line ∈ lines, ∀ c ∈ line, holds c) (inBlock : Bool) :
    ∀ line ∈ stripFrom inBlock lines, ∀ c ∈ line, holds c := by
  induction lines generalizing inBlock with
  | nil => simp [stripFrom]
  | cons line lines ih =>
    intro out member
    rcases List.mem_cons.1 member with rfl | later
    · intro c inOut
      rcases mem_scan _ _ _ (Text.mem_of_mem_trimEnd inOut) with kept | rfl
      · exact each line List.mem_cons_self c kept
      · exact space
    · exact ih (fun other inRest => each other (List.mem_cons_of_mem line inRest)) _ out later

end Comment

/-- The document of an ASCII text is ASCII. -/
theorem Document.isAscii_ofText (path : Path) {text : Text} (ascii : text.IsAscii) :
    (Document.ofText path text).IsAscii := by
  refine Comment.forall_mem_stripFrom (by decide) ?_ false
  intro line isPart c member
  exact ascii c (Text.mem_of_mem_splitOn isPart member)

/-- No line of a document has a line feed. -/
theorem Document.isInLine_of_mem_ofText (path : Path) (text : Text) :
    ∀ line ∈ (Document.ofText path text).lines, ∀ c ∈ line, isInLine c := by
  refine Comment.forall_mem_stripFrom (by decide) ?_ false
  intro line isPart c member
  have other : c ≠ '\n' := by
    rintro rfl
    exact Text.not_mem_of_mem_splitOn isPart member
  simpa [isInLine] using other

namespace Finding

/-- Whether `a` stands before `b` in a document. -/
def Precedes (a b : Finding) : Prop :=
  a.location.line < b.location.line ∨
    a.location.line = b.location.line ∧ a.location.start < b.location.start

end Finding

namespace Search

/-- Findings that come in order, each place once, are tidy. -/
theorem tidy_of_pairwise {found : List Finding} (ordered : found.Pairwise Finding.Precedes) :
    tidy found = found := by
  have differ : found.Pairwise fun a b => Finding.samePlace b a = false := by
    refine ordered.imp ?_
    intro a b precedes
    simp only [Finding.samePlace, Bool.and_eq_false_iff, beq_eq_false_iff_ne]
    rcases precedes with earlier | ⟨_, before⟩ <;> omega
  have sorted : found.Pairwise fun a b => Finding.le a b = true := by
    refine ordered.imp ?_
    intro a b precedes
    simp only [Finding.le, Bool.or_eq_true, Bool.and_eq_true, decide_eq_true_eq, beq_iff_eq]
    rcases precedes with earlier | ⟨same, before⟩ <;> omega
  rw [tidy, eraseDupsBy_of_pairwise differ, List.mergeSort_of_pairwise sorted]

end Search

namespace Document

open Pattern

variable {p : Pattern} {accepts : Text → Bool}

theorem line_of_mem_findIn {d : Document} {n : Nat} {lines : List Text} {f : Finding}
    (member : f ∈ d.findIn p n lines) : n ≤ f.location.line := by
  induction lines generalizing n with
  | nil => simp [findIn] at member
  | cons line lines ih =>
    rcases List.mem_append.1 member with here | later
    · obtain ⟨m, _, rfl⟩ := List.mem_map.1 here
      exact Nat.le_refl n
    · have := ih later
      omega

/-- Whole words are found in the order of the document. -/
theorem pairwise_findIn (takes : TakesRuns p accepts) (d : Document) (n : Nat) {lines : List Text}
    (ascii : ∀ line ∈ lines, Text.IsAscii line) :
    (d.findIn p n lines).Pairwise Finding.Precedes := by
  induction lines generalizing n with
  | nil => exact List.Pairwise.nil
  | cons line lines ih =>
    have inLine := takes.pairwise_findAll (ascii line List.mem_cons_self)
    have later := ih (n + 1) fun other member => ascii other (List.mem_cons_of_mem line member)
    refine List.pairwise_append.2 ⟨?_, later, ?_⟩
    · exact List.pairwise_map.2 (inLine.imp fun before => .inr ⟨rfl, before⟩)
    · intro a here b there
      obtain ⟨m, _, rfl⟩ := List.mem_map.1 here
      exact .inl (line_of_mem_findIn there)

theorem tidy_find (takes : TakesRuns p accepts) {d : Document} (ascii : d.IsAscii) :
    Search.tidy (d.find p) = d.find p :=
  Search.tidy_of_pairwise (pairwise_findIn takes d 0 ascii)

/-- The uses of a word are the identifiers that are the word up to case. -/
theorem candidates_findIn_uses {word : Text} (ofWord : ∀ c ∈ word, isWordChar c)
    (asciiWord : word.IsAscii) (plain : word.head?.any isPlainStart) (d : Document) (n : Nat)
    {lines : List Text} (ascii : ∀ line ∈ lines, Text.IsAscii line) :
    (d.findIn (WordSearch.uses word) n lines).map Finding.candidate =
      ((d.findIn WordSearch.identifiers n lines).filter fun f =>
        foldCase f.symbol == foldCase word).map Finding.candidate := by
  induction lines generalizing n with
  | nil => rfl
  | cons line lines ih =>
    have inLine := findAll_uses ofWord asciiWord plain (ascii line List.mem_cons_self)
    have later := ih (n + 1) fun other member => ascii other (List.mem_cons_of_mem line member)
    rw [findIn, findIn, List.map_append, List.filter_append, List.map_append, later, inLine,
      List.filter_map, List.map_map, List.map_map]
    rfl

end Document

namespace Scene

open Pattern

/-- The index of all identifiers of some documents, in their order. -/
def wordIndex (ds : List Document) : WordIndex :=
  indexWords (ds.flatMap fun d => d.find WordSearch.identifiers)

/-- Whole words of ASCII documents are found tidy. -/
theorem flatMap_tidy_find {p : Pattern} {accepts : Text → Bool} (takes : TakesRuns p accepts)
    {ds : List Document} (ascii : ∀ d ∈ ds, d.IsAscii) :
    (ds.flatMap fun d => Search.tidy (d.find p)) = ds.flatMap fun d => d.find p :=
  List.flatMap_congr fun d member => Document.tidy_find takes (ascii d member)

theorem placesOf_indexWords (found : List Finding) (word : Text) :
    placesOf (indexWords found) word =
      (found.filter fun f => foldCase f.symbol == foldCase word).map Finding.candidate := by
  rw [placesOf, indexWords, List.filter_map, List.map_map]
  rfl

/-- The places of a word in the index of some documents are what a search for it finds there. -/
theorem placesOf_wordIndex {word : Text} (ofWord : ∀ c ∈ word, isWordChar c)
    (asciiWord : word.IsAscii) (plain : word.head?.any isPlainStart) {ds : List Document}
    (ascii : ∀ d ∈ ds, d.IsAscii) :
    placesOf (wordIndex ds) word =
      (ds.flatMap fun d => Search.tidy (d.find (WordSearch.uses word))).map Finding.candidate := by
  have nonempty : word ≠ [] := by
    rintro rfl
    simp at plain
  rw [wordIndex, placesOf_indexWords,
    flatMap_tidy_find (takesRuns_uses ofWord asciiWord nonempty) ascii]
  induction ds with
  | nil => rfl
  | cons d ds ih =>
    have here := Document.candidates_findIn_uses ofWord asciiWord plain d 0
      (ascii d List.mem_cons_self)
    have later := ih fun other member => ascii other (List.mem_cons_of_mem d member)
    rw [List.flatMap_cons, List.flatMap_cons, List.filter_append, List.map_append, later,
      List.map_append, Document.find, Document.find, here]

end Scene
end AsmAtlas
