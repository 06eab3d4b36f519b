import AsmAtlas.Proofs.LabelHistory
import AsmAtlas.Proofs.OutlinePlacement

/-!
# What labels stand for

A scan enters a label with the default kind and remembers its number until something decides it.
Here the numbers are forgotten: a draft is a symbol that waits or does not. One line changes the
drafts as it changes the history of the lines, so the labels of an outline stand for what the lines
say.
-/

namespace AsmAtlas

namespace Draft

/-- A draft after the statement of a line. -/
def afterStatement (statement : Statement) (d : Draft) : Draft :=
  if d.waits then
    match statement with
    | .operand text => if text.trim.isEmpty then d else ⟨settled text d.symbol, false⟩
    | _ => d.finished
  else d

theorem finished_of_not_waits {d : Draft} (done : d.waits = false) : d.finished = d := by
  cases d
  simp_all [finished]

theorem settled_settled (text : Text) (symbol : Symbol) :
    settled text (settled text symbol) = settled text symbol := by
  unfold settled
  cases operandKind text.trim <;> rfl

/-- An absolute label finishes the drafts of earlier lines before the statement is looked at. -/
theorem after_plain (label : Option Named) (statement : Statement) (d : Draft) :
    d.after (.plain label statement) =
      (if (label.bind Named.absolute?).isSome then d.finished else d).afterStatement statement := by
  by_cases waits : d.waits
  · cases statement with
    | operand text =>
      by_cases absolute : (label.bind Named.absolute?).isSome
      · simp [after, afterStatement, Reading.decides, Reading.operandFor?, waits, absolute,
          finished]
      · by_cases blank : text.trim.isEmpty
        · simp [after, afterStatement, Reading.decides, Reading.operandFor?, waits, absolute, blank]
        · simp [after, afterStatement, Reading.decides, Reading.operandFor?, waits, absolute, blank]
    | _ =>
      by_cases absolute : (label.bind Named.absolute?).isSome <;>
        simp [after, afterStatement, Reading.decides, Reading.operandFor?, waits, absolute,
          finished]
  · have done := finished_of_not_waits (d := d) (by simpa using waits)
    simp [after, afterStatement, waits, done]

end Draft

namespace Scan

/-- The symbols of a scan, each with whether it waits. -/
def drafts (s : Scan) : List Draft :=
  s.entries.zipIdx.map fun e => ⟨e.1.symbol, decide (e.2 ∈ s.pending)⟩

variable {s t : Scan}

/-- Entries that are added leave the others in their places. -/
theorem drafts_of_append {new : List Entry} (entries : t.entries = s.entries ++ new) :
    t.drafts =
      s.entries.zipIdx.map (fun e => ⟨e.1.symbol, decide (e.2 ∈ t.pending)⟩) ++
        (new.zipIdx s.next).map fun e => ⟨e.1.symbol, decide (e.2 ∈ t.pending)⟩ := by
  rw [drafts, entries, List.zipIdx_append, List.map_append, Nat.zero_add]
  rfl

/-- Where nothing waits any more, all drafts are finished. -/
theorem drafts_of_pending_nil {new : List Entry} (entries : t.entries = s.entries ++ new)
    (none : t.pending = []) :
    t.drafts = s.drafts.map Draft.finished ++ new.map fun e => ⟨e.symbol, false⟩ := by
  have symbols : ∀ (es : List Entry) (k : Nat), (es.zipIdx k).map
      (fun e => (⟨e.1.symbol, decide (e.2 ∈ ([] : List Nat))⟩ : Draft)) =
        es.map fun e => ⟨e.symbol, false⟩ := by
    intro es k
    conv_rhs => rw [← List.zipIdx_map_fst k es, List.map_map]
    simp
  have old : s.drafts.map Draft.finished = s.entries.map fun e => ⟨e.symbol, false⟩ := by
    rw [drafts, List.map_map, ← symbols s.entries 0]
    simp [Draft.finished, Function.comp_def]
  rw [drafts_of_append entries, none, symbols, symbols, old]

/-- An entry that is added and waits. -/
theorem drafts_of_wait {e : Entry} (entries : t.entries = s.entries ++ [e])
    (pending : t.pending = s.pending ++ [s.next]) : t.drafts = s.drafts ++ [⟨e.symbol, true⟩] := by
  rw [drafts_of_append entries, pending, drafts]
  congr 1
  · apply List.map_congr_left
    rintro ⟨e, i⟩ member
    have below : i ≠ s.next := Nat.ne_of_lt (List.snd_lt_of_mem_zipIdx member)
    simp [below]
  · simp

/-- Settling reaches the drafts that wait. -/
theorem drafts_settle (s : Scan) (refine : Symbol → Symbol)
    (idempotent : ∀ symbol, refine (refine symbol) = refine symbol) :
    (s.settle refine).drafts =
      s.drafts.map fun d => if d.waits then ⟨refine d.symbol, false⟩ else d := by
  have modified : ∀ (pending : List Nat) (entries : List Entry) (j : Nat),
      (pending.foldl (fun entries i =>
        entries.modify i fun e => { e with symbol := refine e.symbol }) entries)[j]? =
        entries[j]?.map fun e =>
          if j ∈ pending then { e with symbol := refine e.symbol } else e := by
    intro pending
    induction pending with
    | nil => simp
    | cons i pending ih =>
      intro entries j
      rw [List.foldl_cons, ih, List.getElem?_modify]
      cases entries[j]? with
      | none => rfl
      | some e =>
        by_cases here : i = j
        · by_cases again : j ∈ pending <;> simp [here, again, idempotent]
        · by_cases again : j ∈ pending <;> simp [here, again, Ne.symm here]
  apply List.ext_getElem?
  intro j
  simp only [drafts, settle, List.getElem?_map, List.getElem?_zipIdx, modified, Option.map_map]
  cases s.entries[j]? with
  | none => rfl
  | some e => by_cases waits : j ∈ s.pending <;> simp [waits]

/-- A directive enters its names, and nothing waits behind it. -/
theorem entries_addStatement (s : Scan) (n : Nat) {statement : Statement}
    (directive : ∀ text, statement ≠ .operand text) :
    ∃ new, (s.addStatement n statement).entries = s.entries ++ new ∧
      new.map (·.symbol) = statement.symbols n ∧ (s.addStatement n statement).pending = [] := by
  have none : ∀ {t : Scan}, t.entries = s.entries → t.entries = s.entries ++ [] := by
    intro t same
    rw [same, List.append_nil]
  cases statement with
  | block name =>
    cases name with
    | none => exact ⟨[], none rfl, rfl, rfl⟩
    | some name => exact ⟨_, rfl, rfl, rfl⟩
  | define name =>
    cases name with
    | none => exact ⟨[], none rfl, rfl, rfl⟩
    | some name => exact ⟨_, rfl, rfl, rfl⟩
  | close => exact ⟨[], none rfl, rfl, rfl⟩
  | macroDef name => exact ⟨_, rfl, rfl, rfl⟩
  | scope kind name =>
    cases name with
    | none => cases kind <;> exact ⟨[], none rfl, rfl, rfl⟩
    | some name => cases kind <;> exact ⟨_, rfl, rfl, rfl⟩
  | operand text => exact absurd rfl (directive text)

theorem drafts_classify (s : Scan) (text : Text) :
    (s.classify text).drafts = s.drafts.map (Draft.afterStatement (.operand text)) := by
  by_cases blank : text.trim.isEmpty
  · have same : (s.classify text).drafts = s.drafts := by simp [classify, blank, drafts]
    have still : Draft.afterStatement (.operand text) = id := by
      funext d
      simp [Draft.afterStatement, blank]
    rw [same, still, List.map_id]
  · have settles : (s.classify text).drafts = (s.settle (Draft.settled text)).drafts := by
      by_cases idle : s.pending.isEmpty
      · have none : s.pending = [] := List.isEmpty_iff.1 idle
        simp [classify, blank, settle, none, drafts]
      · cases operand : operandKind text.trim <;>
          simp [classify, blank, idle, operand, Draft.settled, drafts, settle]
    rw [settles, drafts_settle s _ (Draft.settled_settled text)]
    apply List.map_congr_left
    intro d _
    simp [Draft.afterStatement, blank]

/-- The statement of a line finishes the drafts, unless it is a blank operand. -/
theorem drafts_addStatement (s : Scan) (n : Nat) (statement : Statement) :
    (s.addStatement n statement).drafts =
      s.drafts.map (Draft.afterStatement statement) ++
        (statement.symbols n).map fun symbol => ⟨symbol, false⟩ := by
  by_cases isOperand : ∃ text, statement = .operand text
  · obtain ⟨text, rfl⟩ := isOperand
    rw [addStatement, drafts_classify, Statement.symbols, List.map_nil, List.append_nil]
  · obtain ⟨new, entries, symbols, none⟩ :=
      s.entries_addStatement n (not_exists.1 isOperand)
    have finish : Draft.afterStatement statement = Draft.finished := by
      funext d
      unfold Draft.afterStatement
      split_ifs with waits
      · split
        · next text => exact absurd ⟨text, rfl⟩ isOperand
        · rfl
      · exact (Draft.finished_of_not_waits (by simpa using waits)).symm
    rw [drafts_of_pending_nil entries none, finish, ← symbols, List.map_map]
    rfl

/-- A label is added as one that waits; an absolute one is the only one that does. -/
theorem drafts_addLabel (s : Scan) (options : OutlineOptions) (n : Nat) (label : Named) :
    (s.addLabel options n label).drafts =
      s.drafts.map (fun d => if label.absolute?.isSome then d.finished else d) ++
        [⟨s.labelSymbol n label, true⟩] := by
  cases kind : label.absolute? with
  | none =>
    rw [addLabel_of_relative s options n kind]
    refine (drafts_of_wait (s := s) rfl rfl).trans ?_
    simp
  | some name =>
    rw [addLabel_of_absolute s options n kind]
    have sameEntries : ({ s with pending := [] } : Scan).entries = s.entries ++ [] :=
      (List.append_nil _).symm
    have cleared := drafts_of_pending_nil sameEntries rfl
    refine (drafts_of_wait (s := { s with pending := [] }) rfl rfl).trans ?_
    rw [cleared]
    simp

theorem afterStatement_label (s : Scan) (n : Nat) (label : Named) (statement : Statement) :
    Draft.afterStatement statement ⟨s.labelSymbol n label, true⟩ =
      ⟨⟨label.text, ((Reading.plain (some label) statement).kindOfLabel s.defaultKind).1, n,
        label.column, ((Reading.plain (some label) statement).kindOfLabel s.defaultKind).2⟩,
        !(Reading.plain (some label) statement).decides false⟩ := by
  cases statement with
  | operand text =>
    by_cases blank : text.trim.isEmpty
    · simp [Draft.afterStatement, Reading.kindOfLabel, Reading.decides, Reading.operandFor?, blank,
        labelSymbol]
    · cases operand : operandKind text.trim <;>
        simp [Draft.afterStatement, Draft.settled, Reading.kindOfLabel, kindOfOperand,
          Reading.decides, Reading.operandFor?, blank, operand, labelSymbol]
  | _ =>
    simp [Draft.afterStatement, Draft.finished, Reading.kindOfLabel, Reading.decides,
      Reading.operandFor?, labelSymbol]

/-- One line finishes what waits as it decides it, and enters its own symbols. -/
theorem drafts_step (s : Scan) (options : OutlineOptions) (n : Nat) (r : Reading) :
    (s.step options n r).drafts =
      s.drafts.map (Draft.after r) ++
        r.drafts n (r.kindOfLabel s.defaultKind) (!r.decides false) := by
  cases r with
  | macroLabel name =>
    have finish : Draft.after (.macroLabel name) = Draft.finished := by
      funext d
      by_cases waits : d.waits
      · simp [Draft.after, Reading.decides, Reading.operandFor?, waits]
      · simp [Draft.after, waits, Draft.finished_of_not_waits (by simpa using waits)]
    rw [finish]
    exact (drafts_of_pending_nil (s := s) rfl rfl).trans rfl
  | plain label statement =>
    cases label with
    | none =>
      have after : Draft.after (.plain none statement) = Draft.afterStatement statement := by
        funext d
        rw [Draft.after_plain]
        rfl
      rw [step, drafts_addStatement, after]
      rfl
    | some label =>
      have after : Draft.after (.plain (some label) statement) =
          Draft.afterStatement statement ∘
            fun d => if label.absolute?.isSome then d.finished else d := by
        funext d
        rw [Draft.after_plain]
        rfl
      rw [step, drafts_addStatement, drafts_addLabel, List.map_append, List.map_map, after,
        List.append_assoc, List.map_singleton, afterStatement_label]
      rfl

/-- Waiting labels are entries. -/
def Bounded (s : Scan) : Prop :=
  ∀ i ∈ s.pending, i < s.next

theorem Bounded.isEmpty (bounded : s.Bounded) : s.pending.isEmpty = !s.drafts.any (·.waits) := by
  cases pending : s.pending with
  | nil => simp [drafts, pending]
  | cons i rest =>
    have below : i < s.entries.length := bounded i (by simp [pending])
    have waits : s.drafts.any (·.waits) := by
      refine List.any_eq_true.2 ⟨⟨s.entries[i].symbol, true⟩, List.mem_of_getElem? (i := i) ?_, rfl⟩
      simp [drafts, pending, below]
    simp [waits]

/-- After an operand either the same labels wait or none. -/
theorem pending_classify (s : Scan) (text : Text) :
    (s.classify text).pending = s.pending ∨ (s.classify text).pending = [] := by
  unfold classify
  simp only
  split_ifs
  · exact .inl rfl
  · exact .inl rfl
  · split <;> exact .inr rfl

theorem Bounded.classify (bounded : s.Bounded) (text : Text) : (s.classify text).Bounded := by
  have next : (s.classify text).next = s.next := by
    rw [← length_layout, (alike_classify text s).layout, length_layout]
  intro i member
  rw [next]
  rcases s.pending_classify text with same | none
  · exact bounded i (same ▸ member)
  · simp [none] at member

theorem Bounded.addStatement (bounded : s.Bounded) (n : Nat) (statement : Statement) :
    (s.addStatement n statement).Bounded := by
  by_cases isOperand : ∃ text, statement = .operand text
  · obtain ⟨text, rfl⟩ := isOperand
    exact bounded.classify text
  · obtain ⟨_, _, _, none⟩ := s.entries_addStatement n (not_exists.1 isOperand)
    intro i member
    simp [none] at member

theorem Bounded.addLabel (bounded : s.Bounded) (options : OutlineOptions) (n : Nat)
    (label : Named) :
    (s.addLabel options n label).Bounded ∧
      (s.addLabel options n label).pending.isEmpty = false := by
  have wait : ∀ {t : Scan}, t.next = s.next + 1 →
      (t.pending = s.pending ++ [s.next] ∨ t.pending = [s.next]) →
      t.Bounded ∧ t.pending.isEmpty = false := by
    intro t next pending
    refine ⟨?_, by rcases pending with all | one <;> simp [*]⟩
    intro i member
    have old : i ∈ s.pending ∨ i = s.next := by
      rcases pending with all | one
      · simpa [all] using member
      · exact .inr (by simpa [one] using member)
    rw [next]
    rcases old with before | rfl
    · exact Nat.lt_succ_of_lt (bounded i before)
    · exact Nat.lt_succ_self _
  cases kind : label.absolute? with
  | none =>
    rw [addLabel_of_relative s options n kind]
    exact wait (by simp [Scan.next, enter]) (.inl rfl)
  | some name =>
    rw [addLabel_of_absolute s options n kind]
    exact wait (by simp [Scan.next, enter]) (.inr rfl)

theorem Bounded.step (bounded : s.Bounded) (options : OutlineOptions) (n : Nat) (r : Reading) :
    (s.step options n r).Bounded := by
  cases r with
  | macroLabel name =>
    intro i member
    simp [Scan.step] at member
  | plain label statement =>
    cases label with
    | none => exact bounded.addStatement n statement
    | some label => exact (bounded.addLabel options n label).1.addStatement n statement

/-- Only operands change the default. -/
theorem defaultKind_addStatement (s : Scan) (n : Nat) (statement : Statement) :
    (s.addStatement n statement).defaultKind =
      match statement with
      | .operand text =>
        if text.trim.isEmpty then .function
        else if s.pending.isEmpty then s.defaultKind
        else ((operandKind text.trim).map (·.1)).getD s.defaultKind
      | _ => s.defaultKind := by
  cases statement with
  | block name => cases name <;> rfl
  | define name => cases name <;> rfl
  | close => rfl
  | macroDef name => rfl
  | scope kind name => cases name <;> rfl
  | operand text =>
    rw [addStatement, classify]
    simp only
    split_ifs
    · rfl
    · rfl
    · cases operandKind text.trim <;> rfl

theorem defaultKind_addLabel (s : Scan) (options : OutlineOptions) (n : Nat) (label : Named) :
    (s.addLabel options n label).defaultKind = s.defaultKind := by
  unfold addLabel
  split <;> rfl

theorem Bounded.defaultKind_step (bounded : s.Bounded) (options : OutlineOptions) (n : Nat)
    (r : Reading) :
    (s.step options n r).defaultKind =
      r.defaultAfter (s.drafts.any (·.waits)) s.defaultKind := by
  cases r with
  | macroLabel name => rfl
  | plain label statement =>
    cases label with
    | none =>
      rw [Scan.step, defaultKind_addStatement, bounded.isEmpty]
      cases statement with
      | operand text =>
        by_cases waiting : s.drafts.any (·.waits) <;>
          simp [Reading.defaultAfter, Reading.operandFor?, Reading.ownLabel?, waiting]
      | _ => rfl
    | some label =>
      rw [Scan.step, defaultKind_addStatement, defaultKind_addLabel,
        (bounded.addLabel options n label).2]
      cases statement with
      | operand text => simp [Reading.defaultAfter, Reading.operandFor?, Reading.ownLabel?]
      | _ => rfl

end Scan

namespace Scan

theorem ofLines_concat (options : OutlineOptions) (lines : List Text) (line : Text) :
    ofLines options (lines ++ [line]) =
      (ofLines options lines).step options lines.length (.ofLine options line) := by
  rw [ofLines, feed_append, Nat.zero_add]
  rfl

/-- All lines together leave the drafts and the default that their readings say. -/
theorem drafts_ofLines (options : OutlineOptions) (lines : List Text) :
    (ofLines options lines).Bounded ∧
      (ofLines options lines).defaultKind =
        History.defaultKind (lines.map (Reading.ofLine options)) ∧
      (ofLines options lines).drafts = History.drafts (lines.map (Reading.ofLine options)) := by
  induction lines using List.reverseRecOn with
  | nil => exact ⟨by simp [Bounded, ofLines, feed], rfl, rfl⟩
  | append_singleton lines line ih =>
    obtain ⟨bounded, kind, shown⟩ := ih
    rw [ofLines_concat, List.map_append, List.map_singleton]
    generalize ofLines options lines = s at bounded kind shown
    generalize Reading.ofLine options line = r
    have length : (lines.map (Reading.ofLine options)).length = lines.length := List.length_map _
    generalize lines.map (Reading.ofLine options) = rs at kind shown length
    refine ⟨bounded.step options lines.length r, ?_, ?_⟩
    · rw [bounded.defaultKind_step, History.defaultKind_last, kind, shown]
    · have own : r.kindOfLabel s.defaultKind = History.labelKind (rs ++ [r]) rs.length := by
        rw [History.labelKind_last, kind]
      have waits : (!r.decides false) = History.waits (rs ++ [r]) rs.length := by
        rw [History.waits_concat rs r le_rfl, History.waits, History.decidingLine_length]
        simp
      rw [drafts_step, History.drafts_concat, shown, own, waits, length]

end Scan

/-- The symbols of the drafts are those of the entries. -/
theorem Scan.map_symbol_drafts (s : Scan) :
    s.drafts.map (·.symbol) = s.entries.map (·.symbol) := by
  rw [drafts, List.map_map]
  conv_rhs => rw [← List.zipIdx_map_fst 0 s.entries, List.map_map]
  rfl

/-- A walk through the outline meets the symbols that were entered. -/
theorem Scan.Valid.walk_forest {s : Scan} (valid : s.Valid) :
    (SymbolForest.walk (Entry.forest s.entries)).Perm (s.drafts.map (·.symbol)) := by
  rw [s.map_symbol_drafts, ← SymbolForest.map_snd_links none]
  have linked := (Entry.links_forest s.entries valid.ordered).map (·.2)
  rw [List.map_map] at linked
  exact linked

/-- What labels stand for. The outline of a document has the symbols that its lines enter, and the
    label of each line stands for what the operand of the line that decides it says, or has the
    default that is in force before it and no detail. Lines behind the deciding one change
    nothing. -/
theorem label_kinds (options : OutlineOptions) (lines : List Text) :
    (outline options lines).walk.Perm
        ((lines.map (Reading.ofLine options)).zipIdx.flatMap fun line =>
          line.1.symbols line.2
            (History.labelKind (lines.map (Reading.ofLine options)) line.2)) ∧
      ∀ n m, History.decidingLine? (lines.map (Reading.ofLine options)) n = some m →
        ∀ later, History.labelKind ((lines.map (Reading.ofLine options)).take (m + 1) ++ later) n =
          History.labelKind (lines.map (Reading.ofLine options)) n := by
  refine ⟨?_, ?_⟩
  · obtain ⟨valid, _⟩ := Scan.valid_empty.feed options 0 lines
    obtain ⟨_, _, shown⟩ := Scan.drafts_ofLines options lines
    have walked := valid.walk_forest
    rw [← Scan.ofLines, shown, History.drafts, List.map_flatMap] at walked
    simp only [Reading.map_symbol_drafts] at walked
    exact walked
  · intro n m decided later
    have cut := History.decidingLine_take decided
    rw [History.labelKind_append cut]
    conv_rhs => rw [← List.take_append_drop (m + 1) (lines.map (Reading.ofLine options))]
    rw [History.labelKind_append cut]

/-- A label with its operand on the next line, and a label that nothing follows. -/
def waitingLines : List Text :=
  ["size".toList, " equ 5".toList, "copy".toList]

/-- The second line decides the first label, and its kind is the default for the other one. -/
theorem waitingLines_kinds :
    (outline {} waitingLines).walk =
        [⟨"size".toList, .constant, 0, 0, "equ 5".toList⟩, ⟨"copy".toList, .constant, 2, 0, []⟩] ∧
      History.decidingLine? (waitingLines.map (Reading.ofLine {})) 0 = some 1 ∧
      ∀ later, History.labelKind ((waitingLines.map (Reading.ofLine {})).take 2 ++ later) 0 =
        History.labelKind (waitingLines.map (Reading.ofLine {})) 0 := by
  have decided : History.decidingLine? (waitingLines.map (Reading.ofLine {})) 0 = some 1 := by
    decide +kernel
  exact ⟨by decide +kernel, decided, (label_kinds {} waitingLines).2 0 1 decided⟩

end AsmAtlas
