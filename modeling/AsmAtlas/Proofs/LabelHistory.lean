import AsmAtlas.Proofs.OutlineHistory
import Mathlib.Data.List.Find

/-!
# What the lines say about a label

A label waits for an operand. It may stand on the line of the label or on a later one, and it
decides all the labels that wait together; a directive, or an absolute label on a later line, ends
the wait without an operand. A label that is left without one keeps the kind that was the default
when it was entered. Which line decides a label, and what it makes of it, is said here of the
readings of the lines, without any state that is carried along, and the laws say how one more line
changes it.
-/

namespace AsmAtlas

namespace Reading

/-- The label of a line that is not the name of a macro. -/
def ownLabel? : Reading → Option Named
  | plain label _ => label
  | macroLabel _ => none

/-- The operand that a line has for a label, of its own or of an earlier line. A directive is none,
    and an absolute label keeps the operand of its line from earlier labels. -/
def operandFor? (later : Bool) : Reading → Option Text
  | plain label (.operand text) =>
    if later && (label.bind Named.absolute?).isSome then none else some text
  | _ => none

/-- Whether a label, of this line or of an earlier one, is decided by this line: it has no operand
    for the label, or one that is not blank. -/
def decides (later : Bool) (r : Reading) : Bool :=
  (r.operandFor? later).all fun text => !text.trim.isEmpty

end Reading

/-- What an operand makes of a label. -/
def kindOfOperand (text : Text) : SymbolKind × Text :=
  (operandKind text.trim).getD (.function, [])

/-- What the label of a line is as far as its own line says, when the default is the given one. -/
def Reading.kindOfLabel (default : SymbolKind) (r : Reading) : SymbolKind × Text :=
  match r.operandFor? false with
  | some text => if r.decides false then kindOfOperand text else (default, [])
  | none => (default, [])

/-- The default behind a line. A blank operand goes back to functions, and one that makes constants
    or data of a label, be it on the line or `waiting`, sets their kind. -/
def Reading.defaultAfter (waiting : Bool) (default : SymbolKind) (r : Reading) : SymbolKind :=
  match r.operandFor? false with
  | none => default
  | some text =>
    if text.trim.isEmpty then .function
    else if r.ownLabel?.isSome || waiting then ((operandKind text.trim).map (·.1)).getD default
    else default

namespace History

/-- The line that decides a label on line `n`: the first from there on that does. -/
def decidingLine? (rs : List Reading) (n : Nat) : Option Nat :=
  (List.range rs.length).find? fun m => n ≤ m && rs[m]?.any (·.decides (n < m))

/-- Whether line `k` decides a label. -/
def settlesLabel (rs : List Reading) (k : Nat) : Bool :=
  (List.range (k + 1)).any fun n =>
    (rs[n]?.bind (·.ownLabel?)).isSome && decidingLine? rs n == some k

/-- The default that line `k` sets for the kind of labels: a blank operand goes back to functions,
    and one that makes constants or data of labels sets their kind. -/
def defaultSetOn (rs : List Reading) (k : Nat) : Option SymbolKind :=
  (rs[k]?.bind (·.operandFor? false)).bind fun text =>
    if text.trim.isEmpty then some .function
    else if settlesLabel rs k then (operandKind text.trim).map (·.1)
    else none

/-- The kind of labels without an operand after some lines, as it was set last. -/
def defaultKind (rs : List Reading) : SymbolKind :=
  ((List.range rs.length).reverse.findSome? (defaultSetOn rs)).getD .function

/-- What the label of line `n` stands for, with its detail: what the operand of the line that
    decides it says, if there is one, and else the default in force before its line. -/
def labelKind (rs : List Reading) (n : Nat) : SymbolKind × Text :=
  match (decidingLine? rs n).bind fun m => rs[m]?.bind (·.operandFor? (n < m)) with
  | some text => kindOfOperand text
  | none => (defaultKind (rs.take n), [])

/-- One more line decides the labels that are still undecided, if it decides any. -/
theorem decidingLine_concat (rs : List Reading) (r : Reading) {n : Nat} (within : n ≤ rs.length) :
    decidingLine? (rs ++ [r]) n =
      (decidingLine? rs n).or (if r.decides (n < rs.length) then some rs.length else none) := by
  have earlier : (List.range rs.length).find? (fun m => n ≤ m &&
      (rs ++ [r])[m]?.any (·.decides (n < m))) = decidingLine? rs n := by
    apply List.find?_congr
    intro m member
    rw [List.getElem?_append_left (List.mem_range.1 member)]
  rw [decidingLine?, List.length_append, List.length_singleton, List.range_succ,
    List.find?_append, earlier]
  simp [within]

theorem decidingLine_lt {rs : List Reading} {n m : Nat} (decided : decidingLine? rs n = some m) :
    n ≤ m ∧ m < rs.length := by
  have found := List.find?_some decided
  simp only [Bool.and_eq_true, decide_eq_true_eq] at found
  exact ⟨found.1, List.mem_range.1 (List.mem_of_find?_eq_some decided)⟩

/-- No line behind the one that decides a label has a say in it. -/
theorem decidingLine_append {rs : List Reading} {n m : Nat} (decided : decidingLine? rs n = some m)
    (later : List Reading) : decidingLine? (rs ++ later) n = some m := by
  induction later using List.reverseRecOn with
  | nil => rwa [List.append_nil]
  | append_singleton later r ih =>
    have within := decidingLine_lt decided
    rw [← List.append_assoc, decidingLine_concat _ _ (by rw [List.length_append]; omega), ih,
      Option.some_or]

/-- The line that decides a label is found without those behind it. -/
theorem decidingLine_take {rs : List Reading} {n m : Nat} (decided : decidingLine? rs n = some m) :
    decidingLine? (rs.take (m + 1)) n = some m := by
  have within := decidingLine_lt decided
  cases found : decidingLine? (rs.take (m + 1)) n with
  | some k =>
    have again := decidingLine_append found (rs.drop (m + 1))
    rwa [List.take_append_drop, decided, eq_comm] at again
  | none =>
    have isLine : (rs.take (m + 1))[m]? = rs[m]? := List.getElem?_take_of_lt (Nat.lt_succ_self m)
    have inRange : m ∈ List.range (rs.take (m + 1)).length := by
      rw [List.mem_range, List.length_take]
      omega
    have undecided := List.find?_eq_none.1 found m inRange
    rw [isLine] at undecided
    exact absurd (List.find?_some decided) undecided

/-- What a decided label stands for stays as it is. -/
theorem labelKind_append {rs : List Reading} {n m : Nat} (decided : decidingLine? rs n = some m)
    (later : List Reading) : labelKind (rs ++ later) n = labelKind rs n := by
  have within := decidingLine_lt decided
  rw [labelKind, labelKind, decidingLine_append decided, decided,
    List.take_append_of_le_length (by omega)]
  simp only [Option.bind_some, List.getElem?_append_left within.2]

/-- One more line leaves alone what is decided, and gives its operand to what is not. -/
theorem labelKind_concat (rs : List Reading) (r : Reading) {n : Nat} (earlier : n < rs.length) :
    labelKind (rs ++ [r]) n =
      match decidingLine? rs n with
      | some _ => labelKind rs n
      | none =>
        match r.operandFor? true with
        | some text => if r.decides true then kindOfOperand text else labelKind rs n
        | none => labelKind rs n := by
  have before : (rs ++ [r]).take n = rs.take n := List.take_append_of_le_length earlier.le
  rw [labelKind, labelKind, decidingLine_concat rs r earlier.le, before]
  cases decided : decidingLine? rs n with
  | some m => simp [List.getElem?_append_left (decidingLine_lt decided).2]
  | none =>
    simp only [earlier, decide_true, Option.none_or, Option.bind_none]
    cases offered : r.operandFor? true with
    | none =>
      have decides : r.decides true := by simp [Reading.decides, offered]
      simp [decides, earlier, offered]
    | some text =>
      by_cases decides : r.decides true
      · simp [decides, earlier, offered]
      · simp [decides]

theorem decidingLine_length (rs : List Reading) : decidingLine? rs rs.length = none := by
  cases decided : decidingLine? rs rs.length with
  | none => rfl
  | some m =>
    have := decidingLine_lt decided
    omega

/-- The label of the last line can only have the operand of its own line. -/
theorem labelKind_last (rs : List Reading) (r : Reading) :
    labelKind (rs ++ [r]) rs.length = r.kindOfLabel (defaultKind rs) := by
  rw [labelKind, decidingLine_concat rs r le_rfl, decidingLine_length, List.take_left,
    Reading.kindOfLabel]
  cases offered : r.operandFor? false with
  | none => by_cases decides : r.decides false <;> simp [decides, offered]
  | some text => by_cases decides : r.decides false <;> simp [decides, offered]

theorem settlesLabel_concat (rs : List Reading) (r : Reading) {k : Nat} (earlier : k < rs.length) :
    settlesLabel (rs ++ [r]) k = settlesLabel rs k := by
  unfold settlesLabel
  rw [Bool.eq_iff_iff, List.any_eq_true, List.any_eq_true]
  refine exists_congr fun n => and_congr_right fun member => ?_
  have within : n < rs.length := by
    have := List.mem_range.1 member
    omega
  rw [List.getElem?_append_left within, decidingLine_concat rs r within.le]
  cases decidingLine? rs n with
  | some m => rfl
  | none =>
    have other : rs.length ≠ k := by omega
    by_cases decides : r.decides true <;> simp [within, decides, other]

/-- The default is kept up line by line. -/
theorem defaultKind_concat (rs : List Reading) (r : Reading) :
    defaultKind (rs ++ [r]) = (defaultSetOn (rs ++ [r]) rs.length).getD (defaultKind rs) := by
  have before : (List.range rs.length).reverse.findSome? (defaultSetOn (rs ++ [r])) =
      (List.range rs.length).reverse.findSome? (defaultSetOn rs) := by
    apply findSome_congr
    intro k member
    have earlier : k < rs.length := by simpa using member
    rw [defaultSetOn, defaultSetOn, List.getElem?_append_left earlier,
      settlesLabel_concat rs r earlier]
  rw [defaultKind, List.length_append, List.length_singleton, List.range_succ, List.reverse_append,
    List.reverse_singleton, List.singleton_append, List.findSome?_cons, before]
  cases defaultSetOn (rs ++ [r]) rs.length <;> rfl

end History

/-- The names that a statement enters, as symbols. -/
def Statement.symbols (n : Nat) : Statement → List Symbol
  | .block name => name.toList.map fun name => ⟨name.text, .method, n, name.column, []⟩
  | .define name => name.toList.map fun name => ⟨name.text, .method, n, name.column, []⟩
  | .macroDef name => [⟨name.text, .method, n, name.column, []⟩]
  | .scope .moduleScope name =>
    name.toList.map fun name => ⟨name.text, .moduleName, n, name.column, []⟩
  | .scope _ name => name.toList.map fun name => ⟨name.text, .structName, n, name.column, []⟩
  | .close => []
  | .operand _ => []

/-- The symbols that line `n` enters, when its label stands for the given thing. -/
def Reading.symbols (n : Nat) (kind : SymbolKind × Text) : Reading → List Symbol
  | .macroLabel name => [⟨name.text, .method, n, name.column, []⟩]
  | .plain label statement =>
    label.toList.map (fun name => ⟨name.text, kind.1, n, name.column, kind.2⟩) ++
      statement.symbols n

/-- A symbol, and whether it waits for an operand. -/
structure Draft where
  symbol : Symbol
  waits : Bool
deriving DecidableEq

namespace Draft

/-- The draft without its wait. -/
def finished (d : Draft) : Draft :=
  ⟨d.symbol, false⟩

/-- What an operand makes of a symbol that waits. -/
def settled (text : Text) (symbol : Symbol) : Symbol :=
  match operandKind text.trim with
  | some (kind, detail) => { symbol with kind, detail }
  | none => { symbol with kind := .function }

/-- A draft after one more line. -/
def after (r : Reading) (d : Draft) : Draft :=
  if d.waits && r.decides true then
    match r.operandFor? true with
    | some text => ⟨settled text d.symbol, false⟩
    | none => d.finished
  else d

end Draft

/-- The drafts that line `n` enters. -/
def Reading.drafts (n : Nat) (kind : SymbolKind × Text) (waits : Bool) : Reading → List Draft
  | .macroLabel name => [⟨⟨name.text, .method, n, name.column, []⟩, false⟩]
  | .plain label statement =>
    label.toList.map (fun name => ⟨⟨name.text, kind.1, n, name.column, kind.2⟩, waits⟩) ++
      (statement.symbols n).map (⟨·, false⟩)

/-- The symbols of drafts. -/
theorem Reading.map_symbol_drafts (r : Reading) (n : Nat) (kind : SymbolKind × Text)
    (waits : Bool) : (r.drafts n kind waits).map (·.symbol) = r.symbols n kind := by
  cases r with
  | macroLabel name => rfl
  | plain label statement => simp [Reading.drafts, Reading.symbols, Function.comp_def]

namespace History

/-- Whether the label of line `n` still waits behind some lines. -/
def waits (rs : List Reading) (n : Nat) : Bool :=
  (decidingLine? rs n).isNone

/-- The drafts that some lines enter, as far as they are decided. -/
def drafts (rs : List Reading) : List Draft :=
  rs.zipIdx.flatMap fun line => line.1.drafts line.2 (labelKind rs line.2) (waits rs line.2)

theorem waits_concat (rs : List Reading) (r : Reading) {n : Nat} (within : n ≤ rs.length) :
    waits (rs ++ [r]) n = (waits rs n && !r.decides (n < rs.length)) := by
  rw [waits, decidingLine_concat rs r within, waits]
  cases decidingLine? rs n with
  | some m => rfl
  | none => by_cases decides : r.decides (n < rs.length) <;> simp [decides]

theorem settled_eq (text name : Text) (kind : SymbolKind) (n column : Nat) :
    Draft.settled text ⟨name, kind, n, column, []⟩ =
      ⟨name, (kindOfOperand text).1, n, column, (kindOfOperand text).2⟩ := by
  unfold Draft.settled kindOfOperand
  cases operandKind text.trim <;> rfl

/-- One more line finishes the draft of a label that it decides. -/
theorem after_label (rs : List Reading) (r : Reading) {n : Nat} (earlier : n < rs.length)
    (name : Named) :
    Draft.after r
        ⟨⟨name.text, (labelKind rs n).1, n, name.column, (labelKind rs n).2⟩, waits rs n⟩ =
      ⟨⟨name.text, (labelKind (rs ++ [r]) n).1, n, name.column, (labelKind (rs ++ [r]) n).2⟩,
        waits (rs ++ [r]) n⟩ := by
  rw [waits_concat rs r earlier.le, labelKind_concat rs r earlier]
  cases decided : decidingLine? rs n with
  | some m => simp [Draft.after, waits, decided]
  | none =>
    have undecided : (labelKind rs n).2 = [] := by simp [labelKind, decided]
    by_cases decides : r.decides true
    · cases offered : r.operandFor? true with
      | none => simp [Draft.after, Draft.finished, waits, decided, decides, offered, earlier]
      | some text =>
        simp [Draft.after, waits, decided, decides, offered, earlier, undecided, settled_eq]
    · cases offered : r.operandFor? true <;>
        simp [Draft.after, waits, decided, decides, earlier]

/-- One more line. -/
theorem drafts_concat (rs : List Reading) (r : Reading) :
    drafts (rs ++ [r]) =
      (drafts rs).map (Draft.after r) ++
        r.drafts rs.length (labelKind (rs ++ [r]) rs.length) (waits (rs ++ [r]) rs.length) := by
  have done : ∀ symbol, Draft.after r ⟨symbol, false⟩ = ⟨symbol, false⟩ := by
    simp [Draft.after]
  have earlier : rs.zipIdx.flatMap (fun line =>
      line.1.drafts line.2 (labelKind (rs ++ [r]) line.2) (waits (rs ++ [r]) line.2)) =
        (drafts rs).map (Draft.after r) := by
    rw [drafts, List.map_flatMap]
    apply List.flatMap_congr
    rintro ⟨line, n⟩ member
    have before : n < rs.length := List.snd_lt_of_mem_zipIdx member
    cases line with
    | macroLabel name => simp [Reading.drafts, done]
    | plain label statement =>
      have stated : (statement.symbols n).map (Draft.after r ∘ fun symbol => ⟨symbol, false⟩) =
          (statement.symbols n).map fun symbol => ⟨symbol, false⟩ := by
        apply List.map_congr_left
        intro symbol _
        exact done symbol
      cases label with
      | none => simp [Reading.drafts, stated]
      | some label => simp [Reading.drafts, stated, after_label rs r before]
  rw [drafts, List.zipIdx_append, List.flatMap_append, earlier]
  simp

theorem any_waits_drafts (r : Reading) (n : Nat) (kind : SymbolKind × Text) (waiting : Bool) :
    (r.drafts n kind waiting).any (·.waits) = (r.ownLabel?.isSome && waiting) := by
  cases r with
  | macroLabel name => rfl
  | plain label statement =>
    have stated : ((statement.symbols n).map fun symbol => (⟨symbol, false⟩ : Draft)).any
        (·.waits) = false := by
      simp
    rw [Reading.drafts, List.any_append, stated]
    cases label <;> simp [Reading.ownLabel?]

/-- Something waits if the label of some line does. -/
theorem any_drafts_iff (rs : List Reading) :
    (drafts rs).any (·.waits) ↔
      ∃ n, n < rs.length ∧ (rs[n]?.bind (·.ownLabel?)).isSome ∧ waits rs n := by
  rw [drafts, List.any_flatMap, List.any_eq_true]
  simp only [any_waits_drafts, Bool.and_eq_true]
  constructor
  · rintro ⟨⟨r, n⟩, member, labelled, waiting⟩
    have isLine := List.mem_zipIdx_iff_getElem?.1 member
    refine ⟨n, List.snd_lt_of_mem_zipIdx member, ?_, waiting⟩
    rwa [isLine, Option.bind_some]
  · rintro ⟨n, before, labelled, waiting⟩
    rw [List.getElem?_eq_getElem before, Option.bind_some] at labelled
    refine ⟨(rs[n], n), List.mem_zipIdx_iff_getElem?.2 ?_, labelled, waiting⟩
    exact List.getElem?_eq_getElem before

/-- An operand that is not blank decides whatever waits. -/
theorem decides_of_operand {r : Reading} {text : Text} (offered : r.operandFor? false = some text)
    (visible : text.trim.isEmpty = false) (later : Bool) : r.decides later := by
  cases r with
  | macroLabel name => rfl
  | plain label statement =>
    cases statement with
    | operand other =>
      obtain rfl : other = text := by simpa [Reading.operandFor?] using offered
      by_cases hidden : later && (label.bind Named.absolute?).isSome
      · simp [Reading.decides, Reading.operandFor?, hidden]
      · simp [Reading.decides, Reading.operandFor?, hidden, visible]
    | _ => rfl

/-- Such an operand settles a label if its line has one or another one waits. -/
theorem settlesLabel_last (rs : List Reading) {r : Reading} (decides : ∀ later, r.decides later) :
    settlesLabel (rs ++ [r]) rs.length = (r.ownLabel?.isSome || (drafts rs).any (·.waits)) := by
  have here : (((rs ++ [r])[rs.length]?.bind (·.ownLabel?)).isSome &&
      decidingLine? (rs ++ [r]) rs.length == some rs.length) = r.ownLabel?.isSome := by
    rw [decidingLine_concat rs r le_rfl, decidingLine_length]
    simp [decides]
  have earlier : ((List.range rs.length).any fun n =>
      ((rs ++ [r])[n]?.bind (·.ownLabel?)).isSome &&
        decidingLine? (rs ++ [r]) n == some rs.length) = (drafts rs).any (·.waits) := by
    rw [Bool.eq_iff_iff, any_drafts_iff, List.any_eq_true]
    refine exists_congr fun n => ?_
    rw [List.mem_range]
    refine and_congr_right fun before => ?_
    rw [List.getElem?_append_left before, decidingLine_concat rs r before.le, waits,
      Bool.and_eq_true, beq_iff_eq]
    refine and_congr_right fun _ => ?_
    cases decided : decidingLine? rs n with
    | none => simp [decides]
    | some m =>
      have other : m ≠ rs.length := Nat.ne_of_lt (decidingLine_lt decided).2
      simp [other]
  rw [settlesLabel, List.range_succ, List.any_append, earlier, List.any_cons, List.any_nil, here,
    Bool.or_false, Bool.or_comm]

/-- The default that the last line sets. -/
theorem defaultKind_last (rs : List Reading) (r : Reading) :
    defaultKind (rs ++ [r]) = r.defaultAfter ((drafts rs).any (·.waits)) (defaultKind rs) := by
  rw [defaultKind_concat, defaultSetOn, Reading.defaultAfter]
  cases offered : r.operandFor? false with
  | none => simp [offered]
  | some text =>
    by_cases blank : text.trim.isEmpty
    · simp only [List.getElem?_concat_length, Option.bind_some, offered, blank]
      rfl
    · have decides := decides_of_operand offered (by simpa using blank)
      rw [settlesLabel_last rs decides]
      simp only [List.getElem?_concat_length, Option.bind_some, offered, blank]
      split_ifs <;> rfl

end History

end AsmAtlas
