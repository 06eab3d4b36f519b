import AsmAtlas.Proofs.CommentColumns
import AsmAtlas.Proofs.RenamePlaces

/-!
# What renaming does to the files

The places of a label are found in stripped lines, but they are edited in the files themselves. Each
edit has the word at its columns there too, the edits of a file do not overlap, and making them
before comments are stripped gives the same lines as making them behind. Only an apostrophe directly
behind a place can spoil that, where the word ends with a case form that is no word character.
-/

namespace AsmAtlas

namespace Text

theorem take_append_slice (t : Text) {start stop : Nat} (ordered : start ≤ stop) :
    t.take start ++ (t.slice start stop ++ t.drop stop) = t := by
  have front : t.take start = (t.take stop).take start := by
    rw [List.take_take, Nat.min_eq_left ordered]
  rw [← List.append_assoc, front, slice, List.take_append_drop, List.take_append_drop]

end Text

/-- A line with an edit made. -/
def TextEdit.apply (e : TextEdit) (line : Text) : Text :=
  line.take e.location.start ++ (e.newText ++ line.drop e.location.stop)

/-- A line with edits made, the last one first, so that the columns of the others stay valid. -/
def TextEdit.applyAll (edits : List TextEdit) (line : Text) : Text :=
  edits.foldr TextEdit.apply line

namespace FileEdits

/-- The edits of a file on one of its lines. -/
def onLine (f : FileEdits) (n : Nat) : List TextEdit :=
  f.edits.filter (·.location.line == n)

theorem mem_onLine {f : FileEdits} {n : Nat} {e : TextEdit} :
    e ∈ f.onLine n ↔ e ∈ f.edits ∧ e.location.line = n := by
  rw [onLine, List.mem_filter, beq_iff_eq]

/-- The lines of a file with its edits made. -/
def applyToLines (f : FileEdits) (lines : List Text) : List Text :=
  lines.mapIdx fun n line => TextEdit.applyAll (f.onLine n) line

/-- The text of a file with its edits made. -/
def applyToText (f : FileEdits) (text : Text) : Text :=
  Text.joinWith ['\n'] (f.applyToLines (text.splitOn '\n'))

end FileEdits

namespace TextEdit

open Comment

/-- An edit of a word in a stripped line: what stands at its columns has no blanks, quotes and marks
    of comments, and neither has the new text, which ends like a word. -/
structure Fits (e : TextEdit) (out : Text) : Prop where
  start_lt : e.location.start < e.location.stop
  inside : e.location.stop ≤ out.length
  inertOld : ∀ c ∈ out.slice e.location.start e.location.stop, isInert c
  inertNew : ∀ c ∈ e.newText, isInert c
  endsNew : e.newText.getLast?.any isWordChar

/-- If an apostrophe follows the columns of an edit, a word character stands before it, as in the
    name of a shadow register. -/
def EndsWord (e : TextEdit) (text : Text) : Prop :=
  text[e.location.stop]? = some '\x27' → text[e.location.stop - 1]?.any isWordChar

instance (e : TextEdit) (text : Text) : Decidable (e.EndsWord text) :=
  inferInstanceAs (Decidable (_ → _))

namespace Fits

variable {inBlock : Bool} {text : Text} {e : TextEdit}

theorem someNew {out : Text} (fits : e.Fits out) : e.newText ≠ [] := by
  intro empty
  have ends := fits.endsNew
  simp [empty] at ends

variable (fits : e.Fits (stripLine inBlock text).1)

include fits

/-- The word stands at its columns in the line itself. -/
theorem slice_eq : text.slice e.location.start e.location.stop =
    (stripLine inBlock text).1.slice e.location.start e.location.stop := by
  apply List.ext_getElem?
  intro i
  rw [Text.getElem_slice, Text.getElem_slice]
  split_ifs with within
  · have inside := fits.inside
    have isChar := List.getElem?_eq_getElem
      (show e.location.start + i < (stripLine inBlock text).1.length by omega)
    have inert := fits.inertOld _
      (List.mem_of_getElem? (i := i) (by rw [Text.getElem_slice, if_pos within, isChar]))
    rw [isChar]
    exact getElem_of_stripLine isChar (ne_of_isInert inert (by decide)).symm
  · rfl

/-- So it lies inside the line. -/
theorem stop_le_length : e.location.stop ≤ text.length := by
  have length := congrArg List.length fits.slice_eq
  have inside := fits.inside
  have start := fits.start_lt
  rw [Text.length_slice, Text.length_slice] at length
  omega

/-- One edit may be made before stripping as well as behind. -/
theorem stripLine_apply (ends : e.EndsWord text) :
    stripLine inBlock (e.apply text) =
      (e.apply (stripLine inBlock text).1, (stripLine inBlock text).2) := by
  have start := fits.start_lt
  have inLine := fits.stop_le_length
  have inOut := fits.inside
  have isLine := Text.take_append_slice text start.le
  have isOut := Text.take_append_slice (stripLine inBlock text).1 start.le
  have inertOld := fits.inertOld
  -- the same word is cut out of both lines
  rw [← fits.slice_eq] at isOut inertOld
  have length : (text.slice e.location.start e.location.stop).length =
      e.location.stop - e.location.start := by
    rw [Text.length_slice, Nat.min_eq_left inLine]
  generalize isOld : text.slice e.location.start e.location.stop = old
    at isLine isOut inertOld length
  have someOld : old ≠ [] := by
    rintro rfl
    rw [List.length_nil] at length
    omega
  have lastOld : old.getLast? = text[e.location.stop - 1]? := by
    rw [List.getLast?_eq_getElem?, length, ← isOld, Text.getElem_slice, if_pos (by omega)]
    congr 1
    omega
  have sameEnd : (text.drop e.location.stop).head? = some '\x27' →
      old.getLast?.any isWordChar = e.newText.getLast?.any isWordChar := by
    intro single
    rw [List.head?_drop] at single
    rw [lastOld, ends single, fits.endsNew]
  have lengths : ((stripLine inBlock text).1.take e.location.start).length =
      (text.take e.location.start).length := by
    rw [List.length_take, List.length_take]
    omega
  have replaced := stripLine_replace inertOld fits.inertNew someOld fits.someNew sameEnd inBlock
    lengths (by rw [isLine]; exact isOut.symm)
  rw [isLine] at replaced
  exact replaced

end Fits

/-- Edits leave everything in front of them as it is. -/
theorem take_applyAll {edits : List TextEdit} {k : Nat} (behind : ∀ a ∈ edits, k ≤ a.location.start)
    {t : Text} (inside : k ≤ t.length) : (applyAll edits t).take k = t.take k := by
  induction edits with
  | nil => rfl
  | cons a edits ih =>
    have rest := ih fun b member => behind b (List.mem_cons_of_mem a member)
    have longer : k ≤ (applyAll edits t).length := by
      have length := congrArg List.length rest
      rw [List.length_take, List.length_take] at length
      omega
    have start := behind a List.mem_cons_self
    change ((applyAll edits t).take a.location.start ++ _).take k = _
    rw [List.take_append_of_le_length (by rw [List.length_take]; omega), List.take_take,
      Nat.min_eq_left start, rest]

theorem le_length_applyAll {edits : List TextEdit} {k : Nat}
    (behind : ∀ a ∈ edits, k ≤ a.location.start) {t : Text} (inside : k ≤ t.length) :
    k ≤ (applyAll edits t).length := by
  have length := congrArg List.length (take_applyAll behind inside)
  rw [List.length_take, List.length_take] at length
  omega

/-- Nothing but inert characters comes to stand behind a place in front of the edits. -/
theorem getElem_of_applyAll {edits : List TextEdit} {k : Nat}
    (behind : ∀ a ∈ edits, k ≤ a.location.start)
    (new : ∀ a ∈ edits, a.newText ≠ [] ∧ ∀ c ∈ a.newText, isInert c) {t : Text}
    (inside : k ≤ t.length) {c : Char} (active : isInert c = false)
    (found : (applyAll edits t)[k]? = some c) : t[k]? = some c := by
  induction edits with
  | nil => exact found
  | cons a edits ih =>
    have behindTail : ∀ b ∈ edits, k ≤ b.location.start := fun b member =>
      behind b (List.mem_cons_of_mem a member)
    have longer := le_length_applyAll behindTail inside
    obtain ⟨someNew, inertNew⟩ := new a List.mem_cons_self
    have start := behind a List.mem_cons_self
    change ((applyAll edits t).take a.location.start ++ _)[k]? = some c at found
    rw [List.getElem?_append, List.length_take] at found
    split_ifs at found with before
    · rw [List.getElem?_take_of_lt (by omega)] at found
      exact ih behindTail (fun b member => new b (List.mem_cons_of_mem a member)) found
    · -- the edit begins here, so it has put its first character here
      obtain ⟨d, rest, isNew⟩ := List.exists_cons_of_ne_nil someNew
      rw [show k - min a.location.start (applyAll edits t).length = 0 by omega, isNew] at found
      obtain rfl : d = c := Option.some.inj found
      exact absurd rfl (ne_of_isInert (inertNew d (by simp [isNew])) active)

/-- Edits on a line, one behind the other, may be made before stripping as well as behind. -/
theorem stripLine_applyAll {inBlock : Bool} {text : Text} {edits : List TextEdit}
    (ordered : edits.Pairwise fun a b => a.location.stop ≤ b.location.start)
    (fits : ∀ e ∈ edits, e.Fits (stripLine inBlock text).1)
    (ends : ∀ e ∈ edits, e.EndsWord text) :
    stripLine inBlock (applyAll edits text) =
      (applyAll edits (stripLine inBlock text).1, (stripLine inBlock text).2) := by
  induction edits with
  | nil => rfl
  | cons e edits ih =>
    obtain ⟨behind, orderedTail⟩ := List.pairwise_cons.1 ordered
    have fitsTail : ∀ a ∈ edits, a.Fits (stripLine inBlock text).1 := fun a member =>
      fits a (List.mem_cons_of_mem e member)
    have later := ih orderedTail fitsTail fun a member => ends a (List.mem_cons_of_mem e member)
    have fitsHere := fits e List.mem_cons_self
    have inLine := fitsHere.stop_le_length
    have frontLine := take_applyAll behind inLine
    have frontOut := take_applyAll behind fitsHere.inside
    -- the edits behind this one leave everything up to its end as it is
    have stillFits : e.Fits (stripLine inBlock (applyAll edits text)).1 := by
      rw [later]
      refine ⟨fitsHere.start_lt, le_length_applyAll behind fitsHere.inside, ?_, fitsHere.inertNew,
        fitsHere.endsNew⟩
      rw [Text.slice, frontOut]
      exact fitsHere.inertOld
    have stillEnds : e.EndsWord (applyAll edits text) := by
      intro single
      have before : (applyAll edits text)[e.location.stop - 1]? = text[e.location.stop - 1]? := by
        have start := fitsHere.start_lt
        rw [← List.getElem?_take_of_lt (show e.location.stop - 1 < e.location.stop by omega),
          frontLine, List.getElem?_take_of_lt (by omega)]
      rw [before]
      refine ends e List.mem_cons_self (getElem_of_applyAll behind ?_ inLine (by decide) single)
      intro a member
      exact ⟨(fitsTail a member).someNew, (fitsTail a member).inertNew⟩
    change stripLine inBlock (e.apply (applyAll edits text)) = _
    rw [stillFits.stripLine_apply stillEnds, later]
    rfl

/-- Every character of an edited line stood there before or belongs to a new text. -/
theorem mem_applyAll {edits : List TextEdit} {line : Text} {c : Char}
    (member : c ∈ applyAll edits line) : c ∈ line ∨ ∃ e ∈ edits, c ∈ e.newText := by
  induction edits with
  | nil => exact .inl member
  | cons e edits ih =>
    change c ∈ (applyAll edits line).take e.location.start ++
      (e.newText ++ (applyAll edits line).drop e.location.stop) at member
    have fromRest : c ∈ applyAll edits line → c ∈ line ∨ ∃ a ∈ e :: edits, c ∈ a.newText := by
      intro inRest
      rcases ih inRest with old | ⟨a, isEdit, new⟩
      · exact .inl old
      · exact .inr ⟨a, List.mem_cons_of_mem e isEdit, new⟩
    rcases List.mem_append.1 member with front | later
    · exact fromRest (List.mem_of_mem_take front)
    · rcases List.mem_append.1 later with new | back
      · exact .inr ⟨e, List.mem_cons_self, new⟩
      · exact fromRest (List.mem_of_mem_drop back)

end TextEdit

namespace FileEdits

open Comment

variable {f : FileEdits} {text : Text}

/-- The lines of an edited text are the edited lines, if no new text has line ends. -/
theorem splitOn_applyToText (inert : ∀ e ∈ f.edits, ∀ c ∈ e.newText, isInert c) :
    (f.applyToText text).splitOn '\n' = f.applyToLines (text.splitOn '\n') := by
  apply List.splitOn_intercalate
  · intro line isLine ends
    obtain ⟨n, inside, rfl⟩ := List.mem_mapIdx.1 isLine
    rcases TextEdit.mem_applyAll ends with old | ⟨e, isEdit, new⟩
    · exact Text.not_mem_of_mem_splitOn (List.getElem_mem inside) old
    · exact ne_of_isInert (inert e (mem_onLine.1 isEdit).1 _ new) (by decide) rfl
  · intro empty
    have length := congrArg List.length empty
    rw [applyToLines, List.length_mapIdx, List.length_nil] at length
    exact List.splitOn_ne_nil '\n' text (List.length_eq_zero_iff.1 length)

/-- Edits of words may be made in a text before its comments are stripped as well as behind. -/
theorem codeLines_applyToText
    (ordered : f.edits.Pairwise fun a b => a.location.Before b.location)
    (fits : ∀ e ∈ f.edits, ∃ out, (codeLines text)[e.location.line]? = some out ∧ e.Fits out)
    (ends : ∀ e ∈ f.edits, ∀ line ∈ (text.splitOn '\n')[e.location.line]?, e.EndsWord line) :
    codeLines (f.applyToText text) = f.applyToLines (codeLines text) := by
  have inert : ∀ e ∈ f.edits, ∀ c ∈ e.newText, isInert c := by
    intro e isEdit
    obtain ⟨_, _, inLine⟩ := fits e isEdit
    exact inLine.inertNew
  rw [codeLines, splitOn_applyToText inert]
  apply stripFrom_mapIdx
  intro n line before isLine isOut
  apply TextEdit.stripLine_applyAll
  · refine (ordered.filter _).imp_of_mem ?_
    intro a b isA isB earlier
    have lineA := (mem_onLine.1 isA).2
    have lineB := (mem_onLine.1 isB).2
    rcases earlier with above | ⟨_, _, apart⟩
    · omega
    · exact apart
  · intro e member
    obtain ⟨isEdit, lineIs⟩ := mem_onLine.1 member
    obtain ⟨out, isOutLine, inLine⟩ := fits e isEdit
    rw [lineIs] at isOutLine
    rwa [Option.some.inj (isOut.symm.trans isOutLine)]
  · intro e member
    obtain ⟨isEdit, lineIs⟩ := mem_onLine.1 member
    exact ends e isEdit line (by rw [lineIs]; exact isLine)

end FileEdits

/-- No word character touches a word. -/
theorem Text.HasWordAt.not_isTouched {text word : Text} {column : Nat}
    (hasWord : text.HasWordAt word column) :
    Inquiry.isTouched isWordChar text column (column + word.length) = false := by
  refine Inquiry.isTouched_eq_false ?_ hasWord.ends
  intro touched
  obtain ⟨c, last, isWord⟩ := (Option.any_eq_true _ _).1 touched
  exact hasWord.starts (by simp [last, isWord])

/-- A label is among the uses of its word in labels that share a name with it, unless a dollar sign
    stands before its word. -/
theorem exists_mem_usesNamed {d : Document} {ds : List Document} (isDocument : d ∈ ds)
    {n : Nat} {line : Text} (isLine : d.lines[n]? = some line) {found : Occurrence}
    (inLine : found.IsIn line) (ofWord : ∀ c ∈ found.word, isWordChar c)
    (noDollar : (line.take found.start).getLast? ≠ some '$') (form : LabelForm) :
    ⟨d.path, n, found.start, found.stop⟩ ∈
      (usesNamed form (d.names form n found.label) found.word ds).map (·.location) := by
  have hasWord : line.HasWordAt found.word found.start := by
    refine ⟨?_, ?_, ?_⟩
    · intro continues
      obtain ⟨c, last, isWord⟩ := (Option.any_eq_true _ _).1 continues
      rcases Bool.or_eq_true_iff.1 isWord with word | dollar
      · exact inLine.before (by simp [last, word])
      · rw [beq_iff_eq.1 dollar] at last
        exact noDollar last
    · rw [← inLine.stop, inLine.word]
    · rw [← inLine.stop]
      exact inLine.behind
  obtain ⟨f, isUse, location⟩ := Document.exists_mem_find inLine.nonempty isLine hasWord
    (by rwa [← inLine.stop, inLine.word])
  rw [← inLine.stop] at location
  have document : f.document = d := (Document.hasWordAt_of_mem_find inLine.nonempty isUse).1
  have text : f.text = line := by
    rw [Finding.text, document, location, Document.line, isLine]
    rfl
  refine List.mem_map.2 ⟨f, List.mem_filter.2 ⟨List.mem_flatMap.2 ⟨d, isDocument, isUse⟩, ?_⟩,
    location⟩
  have untouched := hasWord.not_isTouched
  rw [← inLine.stop] at untouched
  rw [Finding.goesBy, Finding.goesByIn, text, document, location, Inquiry.labelAt, inLine.label,
    untouched]
  simp [Document.names, Qualified.meets]

/-- A word of word characters fits where it stands up to case. -/
theorem TextEdit.fits_of_hasWordAt {l : Location} {out word name : Text}
    (hasWord : out.HasWordAt word l.start) (stop : l.stop = l.start + word.length)
    (nonempty : word ≠ []) (ofWord : ∀ c ∈ word, isWordChar c)
    (someName : name ≠ []) (ofName : ∀ c ∈ name, isWordChar c) :
    TextEdit.Fits ⟨l, name⟩ out where
  start_lt := by
    have positive := List.length_pos_of_ne_nil nonempty
    simp only [stop]
    omega
  inside := by
    simpa only [stop] using hasWord.le_length nonempty
  inertOld := by
    intro c member
    have spells := hasWord.spells
    rw [← stop] at spells
    have isKey : caseKey c ∈ word.map caseKey := spells ▸ List.mem_map_of_mem member
    obtain ⟨d, isChar, same⟩ := List.mem_map.1 isKey
    exact Comment.isInert_of_caseKey_eq (ofWord d isChar) same.symm
  inertNew := fun c member => Comment.isInert_of_isWordChar (ofName c member)
  endsNew := by
    obtain ⟨c, last⟩ := Option.isSome_iff_exists.1 (List.getLast?_isSome.2 someName)
    simp only [last, Option.any_some]
    exact ofName c (List.mem_of_getLast? last)

/-- What stands at the columns of an edit in a text is the word, up to case. -/
def TextEdit.Replaces (e : TextEdit) (text word : Text) : Prop :=
  ∃ line : Text,
    (text.splitOn '\n')[e.location.line]? = some line ∧ e.location.stop ≤ line.length ∧
    (line.slice e.location.start e.location.stop).map caseKey = word.map caseKey

/-- The edits of a file replace a word by a name, in order and without overlap. Nothing else
    changes, as long as apostrophes behind them keep their meaning: stripping comments afterwards
    gives what they make of the stripped lines. -/
structure FileEdits.IsExact (f : FileEdits) (text word name : Text) : Prop where
  ordered : f.edits.Pairwise fun a b => a.location.Before b.location
  own : ∀ e ∈ f.edits, e.location.path = f.path ∧ e.newText = name
  replaces : ∀ e ∈ f.edits, e.Replaces text word
  strips : (∀ e ∈ f.edits, ∀ line ∈ (text.splitOn '\n')[e.location.line]?, e.EndsWord line) →
    Comment.codeLines (f.applyToText text) = f.applyToLines (Comment.codeLines text)

namespace Scene

theorem nodup_byFile (edits : List TextEdit) : ((byFile edits).map (·.path)).Nodup := by
  rw [byFile, List.map_map]
  exact (List.map_id _).symm ▸ nodup_eraseDups _

/-- Every edit is among those of its file. -/
theorem exists_mem_byFile {edits : List TextEdit} {e : TextEdit} (member : e ∈ edits) :
    ∃ file ∈ byFile edits, e ∈ file.edits := by
  refine ⟨⟨e.location.path, edits.filter fun a => a.location.path == e.location.path⟩, ?_, ?_⟩
  · exact List.mem_map.2 ⟨_, List.mem_eraseDups.2 (List.mem_map_of_mem member), rfl⟩
  · simpa using member

/-- Every file has edits. -/
theorem exists_edit_of_mem_byFile {edits : List TextEdit} {file : FileEdits}
    (isFile : file ∈ byFile edits) : ∃ e ∈ edits, e.location.path = file.path := by
  obtain ⟨path, isPath, rfl⟩ := List.mem_map.1 isFile
  exact List.mem_map.1 (List.mem_eraseDups.1 isPath)

/-- The edits of one file stand in their order, and none of them overlaps with another. -/
theorem pairwise_of_mem_editsNamed {s : Scene} {form : LabelForm} {names : Qualified}
    {word name : Text} {files : List Path} {file : FileEdits} (nodup : files.Nodup)
    (nonempty : word ≠ []) (isFile : file ∈ s.editsNamed form names word files name) :
    file.edits.Pairwise fun a b => a.location.Before b.location := by
  have uses := pairwise_flatMap_find (Pattern.findsWords_uses nonempty)
    (pairwise_load (w := s.workspace) nodup)
  have all : (((usesNamed form names word (files.filterMap s.workspace.load?)).map
      (·.location)).map (⟨·, name⟩ : Location → TextEdit)).Pairwise fun a b =>
        a.location.path = b.location.path → a.location.Before b.location := by
    rw [List.pairwise_map, List.pairwise_map]
    exact uses.filter _
  rw [edits_of_mem_byFile isFile]
  refine (all.filter _).imp_of_mem ?_
  intro a b isA isB before
  rw [List.mem_filter, beq_iff_eq] at isA isB
  exact before (isA.2.trans isB.2.symm)

/-- The edits of one word of word characters are exact. -/
theorem isExact_of_mem_editsNamed {s : Scene} {form : LabelForm} {names : Qualified}
    {word name : Text} {files : List Path} {file : FileEdits} (nodup : files.Nodup)
    (nonempty : word ≠ []) (ofWord : ∀ c ∈ word, isWordChar c)
    (someName : name ≠ []) (ofName : ∀ c ∈ name, isWordChar c)
    (isFile : file ∈ s.editsNamed form names word files name) :
    ∃ text, s.workspace.text? file.path = some text ∧ file.IsExact text word name := by
  have edits := edits_of_mem_byFile isFile
  -- one of its edits shows that the file was read
  obtain ⟨first, isFirst, path⟩ := exists_edit_of_mem_byFile isFile
  obtain ⟨l, isPlace, rfl⟩ := List.mem_map.1 isFirst
  obtain ⟨d, _, loaded, _⟩ := hasWordAt_of_mem_usesNamed nonempty isPlace
  rw [path] at loaded
  obtain ⟨text, isText, rfl⟩ := Option.map_eq_some_iff.1 loaded
  have places : ∀ e ∈ file.edits, e.location.path = file.path ∧ e.newText = name ∧
      ∃ out, (Comment.codeLines text)[e.location.line]? = some out ∧
        out.HasWordAt word e.location.start ∧
        e.location.stop = e.location.start + word.length ∧ e.Fits out := by
    intro e isEdit
    rw [edits, List.mem_filter, beq_iff_eq] at isEdit
    obtain ⟨l, isPlace, rfl⟩ := List.mem_map.1 isEdit.1
    obtain ⟨other, out, loadedOther, isLine, hasWord, stop⟩ :=
      hasWordAt_of_mem_usesNamed nonempty isPlace
    rw [isEdit.2] at loadedOther
    obtain rfl := Option.some.inj (loaded.symm.trans loadedOther)
    exact ⟨isEdit.2, rfl, out, isLine, hasWord, stop,
      TextEdit.fits_of_hasWordAt hasWord stop nonempty ofWord someName ofName⟩
  have ordered := pairwise_of_mem_editsNamed nodup nonempty isFile
  refine ⟨text, isText, ordered, ?_, ?_, ?_⟩
  · intro e isEdit
    exact ⟨(places e isEdit).1, (places e isEdit).2.1⟩
  · intro e isEdit
    obtain ⟨_, _, out, isOut, hasWord, stop, fits⟩ := places e isEdit
    obtain ⟨line, before, isLine, rfl⟩ := Comment.exists_of_stripFrom isOut
    refine ⟨line, isLine, fits.stop_le_length, ?_⟩
    rw [fits.slice_eq, stop]
    exact hasWord.spells
  · intro ends
    refine FileEdits.codeLines_applyToText ordered ?_ ends
    intro e isEdit
    obtain ⟨_, _, out, isOut, _, _, fits⟩ := places e isEdit
    exact ⟨out, isOut, fits⟩

/-- What a renaming is answered, it is answered without a limit to patience. -/
theorem rename_unlimited {s : Scene} {p : Path} {position : Position} {name : Text}
    {patience : Patience} {edits : List FileEdits}
    (answered : ((s.editsFor p position name).start patience).1 = .ok (some edits)) :
    ((s.editsFor p position name).start none).1 = .ok (some edits) := by
  cases patience with
  | none => exact answered
  | some n =>
    rcases (editsFor_allOrNothing (s := s) p position name).nothing_or_all n with nothing | all
    · rw [nothing] at answered
      simp at answered
    · rwa [← all]

/-- Renaming a word of word characters edits nothing but the word: every file once, and in each of
    them exactly. The label under the cursor is renamed if its file belongs to the root, no dollar
    sign stands before its word and it is not excluded. -/
theorem rename_edits_exact {s : Scene} {p : Path} {position : Position} {name : Text}
    {task : Task (Option (List FileEdits))} {patience : Patience} {edits : List FileEdits}
    {c : Config} {origin : Document} {found : Occurrence}
    (accepted : s.rename p position name = .ok task)
    (answered : (task.start patience).1 = .ok (some edits))
    (opened : s.open? p (·.rename) = some (c, origin))
    (located : origin.occurrence? isWordChar position = some found)
    (ofWord : ∀ ch ∈ found.word, isWordChar ch) (ofName : ∀ ch ∈ name, isWordChar ch) :
    (edits.map (·.path)).Nodup ∧
      (∀ file ∈ edits, ∃ text,
        s.workspace.text? file.path = some text ∧ file.IsExact text found.word name) ∧
      ∀ files,
        s.filesOf c = .ok files →
        p ∈ files →
        ((origin.line position.line.toNat).take found.start).getLast? ≠ some '$' →
        ¬c.isExcluded found.label → ¬c.isExcluded found.word →
        ∃ file ∈ edits, ⟨⟨p, position.line.toNat, found.start, found.stop⟩, name⟩ ∈ file.edits := by
  rw [rename] at accepted
  split_ifs at accepted with isName
  obtain rfl := Except.ok.inj accepted
  have someName : name ≠ [] := by
    rintro rfl
    exact absurd isName (by decide)
  obtain ⟨line, isLine, inLine⟩ := Document.isIn_of_occurrence? located
  rcases edits_of_answer opened located (rename_unlimited answered) with
    ⟨excluded, rfl⟩ | ⟨_, files, collected, rfl⟩
  · refine ⟨List.nodup_nil, by simp, ?_⟩
    intro files collected inRoot noDollar label word
    exact absurd excluded (not_or.2 ⟨label, word⟩)
  · refine ⟨nodup_byFile _, ?_, ?_⟩
    · intro file isFile
      exact isExact_of_mem_editsNamed (Collection.nodup_collect collected) inLine.nonempty ofWord
        someName ofName isFile
    · intro others collectedOthers inRoot noDollar label word
      obtain rfl := Except.ok.inj (collected.symm.trans collectedOthers)
      have loaded := loaded_of_open opened
      have isDocument : origin ∈ files.filterMap s.workspace.load? :=
        List.mem_filterMap.2 ⟨p, inRoot, loaded⟩
      rw [Document.line, isLine] at noDollar
      have isPlace := exists_mem_usesNamed isDocument isLine inLine ofWord noDollar
        (c.labelForm origin.dialect)
      rw [Workspace.path_of_load loaded] at isPlace
      exact exists_mem_byFile (List.mem_map_of_mem isPlace)

/-- A label with an apostrophe behind one of its uses, and one more in a comment. -/
def shadowUse : String :=
  "foo: ld a,foo'+1 ; not foo'\n"

/-- The label is renamed in the code, up to the apostrophe, and the comment stays a comment. -/
theorem shadowUse_rename_exact :
    ∃ task file,
      (lone shadowUse).rename lonePath ⟨0, 0⟩ "bar".toList = .ok task ∧
        (task.start none).1 = .ok (some [file]) ∧
        file.edits = [loneEdit 0 0 3 "bar", loneEdit 0 10 13 "bar"] ∧
        Comment.codeLines (file.applyToText shadowUse.toList) =
          ["bar: ld a,bar'+1".toList, []] := by
  have text : (lone shadowUse).workspace.text? lonePath = some shadowUse.toList := by
    decide +kernel
  have located : (loneDocument shadowUse).occurrence? isWordChar ⟨0, 0⟩ =
      some ⟨"foo".toList, "foo".toList, 0, 3⟩ := by decide +kernel
  obtain ⟨task, accepted, answered⟩ := lone_rename "bar"
    [⟨lonePath, [loneEdit 0 0 3 "bar", loneEdit 0 10 13 "bar"]⟩] (by decide +kernel) text located
    (by decide +kernel) (by decide +kernel) rfl (by decide +kernel)
  obtain ⟨_, files, _⟩ := rename_edits_exact accepted answered (lone_open text) located
    (List.all_eq_true.1 (by decide +kernel)) (List.all_eq_true.1 (by decide +kernel))
  obtain ⟨source, isSource, isExact⟩ := files _ (List.mem_singleton_self _)
  obtain rfl := Option.some.inj (text.symm.trans isSource)
  refine ⟨task, _, accepted, answered, rfl, ?_⟩
  rw [isExact.strips (by decide +kernel)]
  decide +kernel

/-- A label that ends with an iota, and the same word with a combining one, which is a case form of
    it but no word character, before an apostrophe. -/
def combiningUse : String :=
  "aι: nop\n ld a\u0345'b;c'\n"

/-- The apostrophe behind the combining iota opens a literal with a semicolon. Behind the new name
    it does not, and the semicolon becomes the mark of a comment. -/
theorem combiningUse_strips_differ :
    ∃ task file,
      (lone combiningUse).rename lonePath ⟨0, 0⟩ "x".toList = .ok task ∧
        (task.start none).1 = .ok (some [file]) ∧
        (loneDocument combiningUse).occurrence? isWordChar ⟨0, 0⟩ =
          some ⟨"aι".toList, "aι".toList, 0, 2⟩ ∧
        "aι".toList.all isWordChar ∧ "x".toList.all isWordChar ∧
        Comment.codeLines (file.applyToText combiningUse.toList) ≠
          file.applyToLines (Comment.codeLines combiningUse.toList) := by
  have text : (lone combiningUse).workspace.text? lonePath = some combiningUse.toList := by
    decide +kernel
  have located : (loneDocument combiningUse).occurrence? isWordChar ⟨0, 0⟩ =
      some ⟨"aι".toList, "aι".toList, 0, 2⟩ := by decide +kernel
  obtain ⟨task, accepted, answered⟩ := lone_rename "x"
    [⟨lonePath, [loneEdit 0 0 2 "x", loneEdit 1 4 6 "x"]⟩] (by decide +kernel) text located
    (by decide +kernel) (by decide +kernel) rfl (by decide +kernel)
  exact ⟨task, _, accepted, answered, located, by decide +kernel, by decide +kernel,
    by decide +kernel⟩

end Scene
end AsmAtlas
