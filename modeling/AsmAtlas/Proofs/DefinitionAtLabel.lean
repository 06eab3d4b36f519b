import AsmAtlas.Proofs.CursorLabels
import AsmAtlas.Proofs.DeclaredWords
import AsmAtlas.Proofs.HoverAgreement

/-!
# The definition of a label from its declaration

From a label in the first column one stays where one is: whatever else declares the same name, the
last segment of the label is found again, has the names of the label under the cursor, and comes
first among what is in the same scope, file and line.
-/

namespace AsmAtlas

namespace Inquiry

open ScopeCache

variable {w : Workspace} {q : Inquiry} {found : Occurrence} {fs : List Finding}

/-- Findings in order start at different places. -/
theorem sameStart_of_precedes {a b : Finding}
    (ordered : a.location.path = b.location.path → a.Precedes b) :
    sameStart a.location b.location = false := by
  simp only [sameStart, Bool.and_eq_false_iff, beq_eq_false_iff_ne]
  by_cases samePath : a.location.path = b.location.path
  · rcases ordered samePath with earlier | ⟨_, before⟩ <;> omega
  · exact .inl (.inl samePath)

/-- The definition is chosen among the findings that are kept. -/
theorem reduceUnique_eq_choose (heldOrigin : w.Holds q.origin)
    (located : q.origin.occurrence? q.boundary q.position = some found)
    (held : ∀ f ∈ fs, w.Holds f.document)
    (ordered : fs.Pairwise fun a b => a.location.path = b.location.path → a.Precedes b) :
    q.reduceUnique (fs.map Finding.candidate) =
      q.choose (q.origin.names q.form q.position.line.toNat found.label)
        ((fs.filter (q.keeps found
          (q.origin.names q.form q.position.line.toNat found.label))).map
            fun f => (f.location, q.namesOf f)) := by
  have apart : fs.Pairwise fun a b => sameStart a.location b.location = false :=
    ordered.imp sameStart_of_precedes
  obtain ⟨names, survivors⟩ := compared_findings heldOrigin located held apart
  rw [reduceUnique, reduceUniqueWith_fst, names, survivors]
  rfl

/-- A finding with the label of the cursor, on its line and whole, is the definition, unless one of
    the findings on the line stands before it. -/
theorem locations_reduceUnique {f : Finding} (heldOrigin : w.Holds q.origin)
    (located : q.origin.occurrence? q.boundary q.position = some found)
    (held : ∀ f ∈ fs, w.Holds f.document)
    (ordered : fs.Pairwise fun a b => a.location.path = b.location.path → a.Precedes b)
    (member : f ∈ fs) (document : f.document = q.origin) (path : f.location.path = q.origin.path)
    (line : (f.location.line : Int) = q.position.line)
    (admitted : q.admits found f.text f.location) (label : labelAt f.text f.location = found.label)
    (first : ∀ g ∈ fs, g.location.path = f.location.path → g.location.line = f.location.line →
      f.location.start ≤ g.location.start) :
    (q.reduceUnique (fs.map Finding.candidate)).locations = [f.location] := by
  let name := q.origin.names q.form q.position.line.toNat found.label
  have names : q.namesOf f = name := by
    rw [namesOf, document, label, ← Int.toNat_natCast f.location.line, line]
    rfl
  have isKept : q.keeps found name f := by
    refine Bool.and_eq_true_iff.2 ⟨admitted, ?_⟩
    change (q.namesOf f).meets name = true
    simp [names, Qualified.meets]
  have best : q.rankOf name (f.location, q.namesOf f) = ⟨0, 0, 0⟩ :=
    (q.rankOf_eq_best_iff name _).2 ⟨congrArg Qualified.full names, path, line⟩
  have orderedKept :
      ((fs.filter (q.keeps found name)).map fun f => (f.location, q.namesOf f)).Pairwise
        fun a b => a.1.path = b.1.path →
          a.1.line < b.1.line ∨ a.1.line = b.1.line ∧ a.1.start < b.1.start :=
    List.pairwise_map.2 (ordered.filter _)
  rw [reduceUnique_eq_choose heldOrigin located held ordered]
  refine q.locations_choose_of_best name orderedKept
    (List.mem_map_of_mem (List.mem_filter.2 ⟨member, isKept⟩)) best ?_
  intro other isOther bestOther before
  obtain ⟨g, isKeptOther, rfl⟩ := List.mem_map.1 isOther
  have isFinding := List.mem_of_mem_filter isKeptOther
  obtain ⟨_, pathOther, lineOther⟩ := (q.rankOf_eq_best_iff name _).1 bestOther
  have samePath : g.location.path = f.location.path := pathOther.trans path.symm
  have sameLine : g.location.line = f.location.line :=
    Int.natCast_inj.1 (lineOther.trans line.symm)
  have after := first g isFinding samePath sameLine
  rcases before samePath with earlier | ⟨_, earlier⟩
  · exact absurd sameLine (Nat.ne_of_lt earlier)
  · exact absurd after (Nat.not_le.2 earlier)

end Inquiry

/-- Behind its first column a label in the first column consists of characters of dotted names. -/
theorem SourceLabel.isWordOrDot_of_lt {line mark name tail : Text}
    (label : SourceLabel line [] mark name tail) {i : Nat} (behind : 1 ≤ i)
    (inside : i < (mark ++ name).length) : (line.drop i).head?.any isWordOrDot := by
  rw [List.head?_drop, label.split, List.nil_append, List.getElem?_append_left inside]
  have after : mark.length ≤ i := by
    rcases label.isMark with rfl | rfl
    · exact Nat.zero_le i
    · exact behind
  rw [List.length_append] at inside
  have inName : i - mark.length < name.length := by omega
  rw [List.getElem?_append_right after, List.getElem?_eq_getElem inName]
  exact label.ofName _ (List.getElem_mem inName)

namespace LabelHit

open Pattern WordSearch

variable {rules : LabelRules} {line : Text} {hit : LabelHit}

/-- From every column of the last segment the whole label is found. -/
theorem at?_segment (found : (LabelForm.of .source rules).find? line = some hit)
    (first : hit.span.start = 0)
    (starts : (hit.lastSegment line).head?.any Occurrence.startsSegment) {column : Nat}
    (behind : (hit.segment line).start ≤ column) (inside : column < hit.span.stop) :
    Occurrence.at? isWordChar line column =
      some ⟨hit.span.of line, hit.lastSegment line, (hit.segment line).start, hit.span.stop⟩ := by
  obtain ⟨margin, mark, name, tail, label, span, _⟩ := LabelForm.sourceLabel_of_find? found
  obtain ⟨front, split, segment, segmentAt⟩ := label.exists_lastSegment span starts
  obtain rfl : margin = [] := by
    rw [span] at first
    exact List.length_eq_zero_iff.1 first
  have isSegment : hit.segment line =
      ⟨([] ++ front).length, ([] ++ front ++ hit.lastSegment line).length⟩ :=
    SourceLabel.segment_eq span split
  have isStop : hit.span.stop = ([] ++ front ++ hit.lastSegment line).length :=
    congrArg Span.stop isSegment
  have isLabel : hit.span.of line = front ++ hit.lastSegment line := by
    rw [← split, span, Span.of, Text.slice, label.split, List.take_left]
    rfl
  have length : ([] ++ front ++ hit.lastSegment line).length =
      ([] ++ front).length + (hit.lastSegment line).length := List.length_append
  rw [isSegment] at behind
  rw [isStop, length] at inside
  rw [segmentAt.at?_inside segment.ofWord (not_wordChar_of_stops segment.behind) behind inside,
    isSegment, isLabel, isStop, length]

/-- Whatever is found on the line of a label by its last segment stands there or behind. -/
theorem start_le_of_mem_findAll (found : (LabelForm.of .source rules).find? line = some hit)
    (first : hit.span.start = 0) (nonempty : hit.lastSegment line ≠ []) {p : Pattern} {m : Match}
    {dialect : Dialect} {others : LabelRules}
    (isDeclaration : p ∈ declarations (.exact (hit.lastSegment line)) dialect others)
    (isMatch : m ∈ p.findAll line) : (hit.segment line).start ≤ m.wordSpan.start := by
  obtain ⟨margin, mark, name, tail, label, span, _⟩ := LabelForm.sourceLabel_of_find? found
  obtain rfl : margin = [] := by
    rw [span] at first
    exact List.length_eq_zero_iff.1 first
  obtain ⟨start, stop, taken, isSpan⟩ := exists_takenFrom_of_mem_findAll isDeclaration isMatch
  have length := taken.column_exact
  have positive := List.length_pos_of_ne_nil nonempty
  -- The word has the length of the segment, and it cannot end inside the label.
  have ofName : ∀ i, 1 ≤ i → i < (mark ++ name).length → (line.drop i).head?.any isWordOrDot :=
    fun _ => label.isWordOrDot_of_lt
  have reaches : (mark ++ name).length ≤ stop.column := taken.le_of_name ofName (by omega)
  rw [isSpan, LabelHit.segment, span]
  simp only [List.nil_append]
  omega

end LabelHit

namespace Scene

variable {s : Scene} {p : Path} {c : Config} {d : Document} {files : List Path} {n column : Nat}
  {line : Text} {hit : LabelHit} {rules : LabelRules}

/-- The last segment of a label in the first column is among the declarations of its word. -/
theorem exists_mem_findings_segment (loaded : s.workspace.load? p = some d) (isFile : p ∈ files)
    (isLine : d.lines[n]? = some line) (found : (LabelForm.of .source rules).find? line = some hit)
    (first : hit.span.start = 0)
    (starts : (hit.lastSegment line).head?.any Occurrence.startsSegment)
    (single : hit.stop ≤ hit.span.stop + 1) (unechoed : ¬hit.IsEchoed line) :
    ∃ f ∈ s.workspace.findings
        (WordSearch.declarations (.exact (hit.lastSegment line)) .source rules) files,
      f.document = d ∧ f.text = line ∧
        f.location = ⟨p, n, (hit.segment line).start, hit.span.stop⟩ := by
  obtain ⟨pattern, isDeclaration, m, isMatch, span⟩ :=
    LabelHit.exists_exact_declaration found first starts single unechoed
  have isFound : Finding.ofMatch d (0 + n) line pattern m ∈
      (WordSearch.declarations (.exact (hit.lastSegment line)) .source rules).flatMap d.find :=
    List.mem_flatMap.2
      ⟨pattern, isDeclaration, Document.mem_findIn.2 ⟨n, line, m, isLine, isMatch, rfl⟩⟩
  obtain ⟨f, isTidy, sameLine, sameStart⟩ := Search.exists_mem_tidy_at isFound
  replace sameLine : f.location.line = n := sameLine.trans (Nat.zero_add n)
  replace sameStart : f.location.start = (hit.segment line).start :=
    sameStart.trans (congrArg Span.start span)
  have member : f ∈ s.workspace.findings
      (WordSearch.declarations (.exact (hit.lastSegment line)) .source rules) files :=
    List.mem_flatMap.2 ⟨d, List.mem_filterMap.2 ⟨p, isFile, loaded⟩, isTidy⟩
  obtain ⟨q, _, inDocument⟩ := List.mem_flatMap.1 (Search.mem_of_mem_tidy isTidy)
  have document : f.document = d := Document.document_of_mem_findIn inDocument
  have path : f.location.path = p :=
    (Document.path_of_mem_find inDocument).trans (Workspace.path_of_load loaded)
  obtain ⟨e, there, _, isE, _, isText, isLineThere, other, isOther, m', isMatch', span'⟩ :=
    Workspace.exists_of_mem_findings member
  obtain rfl : line = there := by
    rw [← isE, document, sameLine] at isLineThere
    exact Option.some.inj (isLine.symm.trans isLineThere)
  obtain ⟨start, stop, taken, isSpan⟩ :=
    Pattern.exists_takenFrom_of_mem_findAll isOther isMatch'
  have stops : f.location.stop = hit.span.stop := by
    have length := taken.column_exact
    have ends : (⟨f.location.start, f.location.stop⟩ : Span) = ⟨start.column, stop.column⟩ :=
      span'.symm.trans isSpan
    obtain ⟨isStart, isStop⟩ := Span.mk.inj ends
    have inLabel := hit.length_lastSegment_le line
    have begins : (hit.segment line).start = hit.span.stop - (hit.lastSegment line).length := rfl
    omega
  refine ⟨f, member, document, isText, ?_⟩
  rw [← path, ← sameLine, ← sameStart, ← stops]

/-- What is found on the line of a label in the first column starts no earlier than the segment that
    was searched for. -/
theorem start_le_of_mem_findings (loaded : s.workspace.load? p = some d)
    (isLine : d.lines[n]? = some line) (found : (LabelForm.of .source rules).find? line = some hit)
    (first : hit.span.start = 0) (nonempty : hit.lastSegment line ≠ []) {g : Finding}
    (isFinding : g ∈ s.workspace.findings
      (WordSearch.declarations (.exact (hit.lastSegment line)) .source rules) files)
    (samePath : g.location.path = p) (sameLine : g.location.line = n) :
    (hit.segment line).start ≤ g.location.start := by
  obtain ⟨e, there, holds, _, path, _, isLineThere, other, isOther, m, isMatch, span⟩ :=
    Workspace.exists_of_mem_findings isFinding
  have isOrigin : e = d := by
    rw [Workspace.Holds, ← path, samePath] at holds
    exact Option.some.inj (holds.symm.trans loaded)
  obtain rfl : line = there := by
    rw [isOrigin, sameLine] at isLineThere
    exact Option.some.inj (isLine.symm.trans isLineThere)
  have after := LabelHit.start_le_of_mem_findAll found first nonempty isOther isMatch
  rw [span] at after
  exact after

/-- What is answered at a line that exists, where there is something to look for. -/
theorem definition_of_subject (opened : s.open? p (·.definition) = some (c, d))
    (isLine : d.lines[n]? = some line) {subject : Occurrence}
    (isSubject : subject? c d ⟨n, column⟩ = some subject) :
    s.definition p ⟨n, column⟩ = (s.definitionOf c d ⟨n, column⟩ subject).attempt := by
  have inside : (d.lineAt? (n : Int)).isNone = false := by
    rw [Document.lineAt?, if_neg (by omega), Int.toNat_natCast, isLine]
    rfl
  simp only [definition, opened, inside, isSubject]
  rfl

/-- From its declaration the definition of a label is the declaration itself. Let a source file that
    is collected for its innermost root have on some line, by the rules of that root, a label in the
    first column that is not excluded, with one colon at most and a last segment that starts with a
    letter or underscore. From every column of the segment the definition is that segment, whatever
    else is declared, unless it stands once more directly behind the label. -/
theorem definition_stays_at_label (opened : s.open? p (·.definition) = some (c, d))
    (collected : s.filesOf c = .ok files) (isFile : p ∈ files) (source : d.dialect = .source)
    (isLine : d.lines[n]? = some line) (found : (c.labelForm d.dialect).find? line = some hit)
    (first : hit.span.start = 0) (included : ¬c.isExcluded (hit.span.of line))
    (starts : (hit.lastSegment line).head?.any Occurrence.startsSegment)
    (single : hit.stop ≤ hit.span.stop + 1) (unechoed : ¬hit.IsEchoed line)
    (behind : (hit.segment line).start ≤ column) (inside : column < hit.span.stop) :
    ∃ r, ((s.definition p ⟨n, column⟩).start none).1 = .ok (some r) ∧
      r.locations = [⟨p, n, (hit.segment line).start, hit.span.stop⟩] := by
  have loaded := loaded_of_open opened
  have held := Workspace.holds_of_load loaded
  have path := Workspace.path_of_load loaded
  have nonempty : hit.lastSegment line ≠ [] := by
    intro empty
    simp [empty] at starts
  have isSource : (c.labelForm .source).find? line = some hit := source ▸ found
  have atColumn := LabelHit.at?_segment isSource first starts behind inside
  let subject : Occurrence :=
    ⟨hit.span.of line, hit.lastSegment line, (hit.segment line).start, hit.span.stop⟩
  have located : d.occurrence? isWordChar ⟨n, column⟩ = some subject := by
    rw [Document.occurrence_eq isLine, atColumn]
  have isSubject : subject? c d ⟨n, column⟩ = some subject := by
    rw [subject?, located, Option.filter_some, if_pos (by simpa using included)]
  have gives : (s.definitionOf c d ⟨n, column⟩ subject).Gives _ :=
    (declarationsOf_gives collected d subject).bind (.pure _)
  refine ⟨_, by rw [definition_of_subject opened isLine isSubject]; exact gives.attempt.start, ?_⟩
  obtain ⟨f, member, document, isText, location⟩ :=
    exists_mem_findings_segment loaded isFile isLine isSource first starts single unechoed
  rw [← location, source]
  have whole := Occurrence.isIn_of_at? atColumn
  refine Inquiry.locations_reduceUnique (w := s.workspace) (q := inquiry c d ⟨n, column⟩) held
    located ?_ (Workspace.pairwise_findings (Collection.nodup_collect collected)) member document
    ?_ ?_ ?_ ?_ ?_
  · intro g isFinding
    obtain ⟨e, _, heldThere, isDocument, _⟩ := Workspace.exists_of_mem_findings isFinding
    exact isDocument ▸ heldThere
  · rw [location]
    exact path.symm
  · rw [location]
    rfl
  · have untouched := Inquiry.isTouched_eq_false whole.before whole.behind
    simp [Inquiry.admits, inquiry, isText, location, untouched]
  · rw [Inquiry.labelAt, isText, location]
    exact whole.label
  · intro g isFinding samePath sameLine
    rw [location] at samePath sameLine ⊢
    exact start_le_of_mem_findings loaded isLine isSource first nonempty isFinding samePath sameLine

/-- One name declared three times. -/
def rivals : String :=
  "go: nop\nGo jp go\n go: ret"

/-- From the second of them the definition is the second. -/
theorem rivals_definition_stays :
    ∃ r, (((lone rivals).definition lonePath ⟨1, 1⟩).start none).1 = .ok (some r) ∧
      r.locations = [⟨lonePath, 1, 0, 2⟩] := by
  have loaded : (lone rivals).workspace.load? lonePath = some (loneDocument rivals) := by
    decide +kernel
  have opened : (lone rivals).open? lonePath (·.definition) =
      some (loneConfig, loneDocument rivals) := open_eq (c := loneConfig) rfl rfl loaded
  have isLine : (loneDocument rivals).lines[1]? = some "Go jp go".toList := by decide +kernel
  have found : (loneConfig.labelForm (loneDocument rivals).dialect).find? "Go jp go".toList =
      some ⟨⟨0, 2⟩, 2⟩ := by decide +kernel
  exact definition_stays_at_label opened (lone_collected rivals) (List.mem_singleton_self _)
    (by decide +kernel) isLine found rfl (by decide +kernel) (by decide +kernel) (by decide +kernel)
    (by decide +kernel) (by decide +kernel) (by decide +kernel)

/-- A label with a letter as its last segment, and behind it, as a combining character, a case form
    of that letter that is no word character. -/
def echo : String :=
  "a.ι\u0345 nop"

/-- The label is recognised, but what is found as its declaration is the combining character behind
    it. A word character touches that, so it is dropped, and the label has no definition. -/
theorem echo_has_no_definition :
    (((lone echo).definition lonePath ⟨0, 2⟩).start none).1 = .ok (some ⟨[], []⟩) ∧
      ∃ hit, (loneConfig.labelForm .source).find? echo.toList = some hit ∧
        hit.span = ⟨0, 3⟩ ∧ hit.stop = 3 ∧ hit.segment echo.toList = ⟨2, 3⟩ ∧
        (hit.lastSegment echo.toList).head?.any Occurrence.startsSegment ∧
        ¬loneConfig.isExcluded (hit.span.of echo.toList) ∧ hit.IsEchoed echo.toList := by
  refine ⟨by decide +kernel, ⟨⟨0, 3⟩, 3⟩, ?_⟩
  decide +kernel

end Scene
end AsmAtlas
