import AsmAtlas.Proofs.LabelKinds

/-!
# The order of an outline

The lists of an outline grow in an interleaved way: scopes open and close, and a `.local` label goes
back to an owner that may stand outside the scope around it. Still every symbol stands below the one
it hangs under, and siblings stand in the order of their lines. For the entries that a scan holds on
to, as the owner, as waiting labels or as open scopes, are always from the lines so far, and what
hangs under one entry is a part of all entries, which are in order.
-/

namespace AsmAtlas

/-- The symbol at the root of a tree. -/
def SymbolTree.symbol : SymbolTree → Symbol
  | .node symbol _ => symbol

mutual

/-- The symbols below the root of a tree, and those below each of its other symbols. -/
def SymbolTree.childLists : SymbolTree → List (List Symbol)
  | .node _ children => children.map SymbolTree.symbol :: SymbolForest.childLists children

/-- The lists of children in all trees. -/
def SymbolForest.childLists : SymbolForest → List (List Symbol)
  | [] => []
  | tree :: rest => tree.childLists ++ SymbolForest.childLists rest

end

/-- The lists of siblings: the roots, and every list of children. -/
def SymbolForest.siblings (trees : SymbolForest) : List (List Symbol) :=
  trees.map SymbolTree.symbol :: trees.childLists

theorem SymbolForest.mem_childLists {trees : SymbolForest} {family : List Symbol} :
    family ∈ trees.childLists ↔ ∃ tree ∈ trees, family ∈ tree.childLists := by
  induction trees with
  | nil => simp [SymbolForest.childLists]
  | cons tree rest ih => simp [SymbolForest.childLists, ih]

mutual

theorem SymbolTree.cons_childLists_perm (tree : SymbolTree) :
    (tree.symbol :: tree.childLists.flatten).Perm tree.walk := by
  cases tree with
  | node symbol children => exact (SymbolForest.flatten_siblings_perm children).cons symbol

/-- Every symbol stands in one list of siblings, and in one only. -/
theorem SymbolForest.flatten_siblings_perm (trees : SymbolForest) :
    trees.siblings.flatten.Perm trees.walk := by
  cases trees with
  | nil => exact .refl _
  | cons tree rest =>
    have here := SymbolTree.cons_childLists_perm tree
    have others := SymbolForest.flatten_siblings_perm rest
    rw [SymbolForest.siblings, List.flatten_cons] at others ⊢
    rw [SymbolForest.walk, SymbolForest.childLists, List.flatten_append, List.map_cons]
    refine .trans ?_ (here.append others)
    exact (List.perm_append_comm_assoc _ _ _).cons tree.symbol

end

namespace Entry

/-- Trees grow in the order of their entries. -/
theorem map_symbol_grow_sublist (i : Nat) (entries : List Entry) :
    ((grow i entries).map fun t => t.2.symbol).Sublist (entries.map (·.symbol)) := by
  induction entries generalizing i with
  | nil => exact List.Sublist.refl _
  | cons entry rest ih =>
    simp only [grow, List.partition_eq_filter_filter, List.map_cons, SymbolTree.symbol]
    exact ((List.filter_sublist.map _).trans (ih (i + 1))).cons_cons _

/-- What hangs under one symbol of a grown tree is in the order of the entries. -/
theorem sublist_of_mem_childLists_grow {i : Nat} {entries : List Entry}
    {t : Option Nat × SymbolTree} (member : t ∈ grow i entries) {family : List Symbol}
    (isFamily : family ∈ t.2.childLists) : family.Sublist (entries.map (·.symbol)) := by
  induction entries generalizing i t with
  | nil => simp [grow] at member
  | cons entry rest ih =>
    simp only [grow, List.partition_eq_filter_filter] at member
    -- Only entries behind this one hang under it, or under one another.
    refine List.Sublist.cons _ ?_
    rcases List.mem_cons.1 member with rfl | other
    · rcases List.mem_cons.1 isFamily with rfl | deeper
      · rw [List.map_map]
        exact (List.filter_sublist.map _).trans (map_symbol_grow_sublist (i + 1) rest)
      · obtain ⟨tree, isMine, isFamily⟩ := SymbolForest.mem_childLists.1 deeper
        obtain ⟨t, waiting, rfl⟩ := List.mem_map.1 isMine
        exact ih (List.mem_filter.1 waiting).1 isFamily
    · exact ih (List.mem_filter.1 other).1 isFamily

/-- All siblings are in the order of the entries. -/
theorem sublist_of_mem_siblings {entries : List Entry} {family : List Symbol}
    (isFamily : family ∈ SymbolForest.siblings (forest entries)) :
    family.Sublist (entries.map (·.symbol)) := by
  rcases List.mem_cons.1 isFamily with rfl | deeper
  · rw [forest, List.map_map]
    exact map_symbol_grow_sublist 0 entries
  · obtain ⟨tree, isTree, isFamily⟩ := SymbolForest.mem_childLists.1 deeper
    obtain ⟨t, grown, rfl⟩ := List.mem_map.1 isTree
    exact sublist_of_mem_childLists_grow grown isFamily

end Entry

/-- A line has a label and, behind it, a directive with a name; `a` and `b` are their symbols. -/
def Reading.LabelsDirective (r : Reading) (n : Nat) (a b : Symbol) : Prop :=
  ∃ label statement, r = .plain (some label) statement ∧ a.place = label.onLine n ∧
    b ∈ statement.symbols n

/-- A statement enters at most one symbol, on its line. -/
theorem Statement.exists_symbols_eq (statement : Statement) (n : Nat) :
    ∃ entered : Option Symbol, statement.symbols n = entered.toList ∧
      ∀ symbol ∈ entered, symbol.line = n := by
  have named : ∀ (name : Option Named) (kind : SymbolKind), ∃ entered : Option Symbol,
      (name.toList.map fun name => (⟨name.text, kind, n, name.column, []⟩ : Symbol)) =
        entered.toList ∧ ∀ symbol ∈ entered, symbol.line = n := by
    intro name kind
    cases name with
    | none => exact ⟨none, rfl, by simp⟩
    | some name => exact ⟨some ⟨name.text, kind, n, name.column, []⟩, rfl, by simp⟩
  cases statement with
  | block name => exact named name .method
  | define name => exact named name .method
  | macroDef name => exact named (some name) .method
  | scope kind name =>
    cases kind with
    | moduleScope => exact named name .moduleName
    | _ => exact named name .structName
  | close => exact ⟨none, rfl, by simp⟩
  | operand text => exact ⟨none, rfl, by simp⟩

namespace Reading

variable {r : Reading} {n : Nat} {kind : SymbolKind × Text}

theorem line_of_mem_symbols {symbol : Symbol} (member : symbol ∈ r.symbols n kind) :
    symbol.line = n := by
  cases r with
  | macroLabel name =>
    obtain rfl := List.mem_singleton.1 member
    rfl
  | plain label statement =>
    obtain ⟨entered, stated, onLine⟩ := statement.exists_symbols_eq n
    rw [symbols, stated] at member
    rcases List.mem_append.1 member with ofLabel | ofStatement
    · obtain ⟨name, _, rfl⟩ := List.mem_map.1 ofLabel
      rfl
    · exact onLine symbol (Option.mem_toList.1 ofStatement)

theorem length_symbols_le (r : Reading) (n : Nat) (kind : SymbolKind × Text) :
    (r.symbols n kind).length ≤ 2 := by
  cases r with
  | macroLabel name => exact Nat.le_succ 1
  | plain label statement =>
    obtain ⟨entered, stated, _⟩ := statement.exists_symbols_eq n
    have ofLabel : label.toList.length ≤ 1 := Option.length_toList_le
    have ofStatement : entered.toList.length ≤ 1 := Option.length_toList_le
    rw [symbols, stated, List.length_append, List.length_map]
    omega

/-- Two symbols of a line are its label and, behind it, the name in its directive. -/
theorem pairwise_symbols (r : Reading) (n : Nat) (kind : SymbolKind × Text) :
    (r.symbols n kind).Pairwise (r.LabelsDirective n) := by
  cases r with
  | macroLabel name => exact List.pairwise_singleton _ _
  | plain label statement =>
    obtain ⟨entered, stated, _⟩ := statement.exists_symbols_eq n
    refine List.pairwise_append.2 ⟨?_, ?_, ?_⟩
    · cases label with
      | none => exact List.Pairwise.nil
      | some label => exact List.pairwise_singleton _ _
    · rw [stated]
      cases entered with
      | none => exact List.Pairwise.nil
      | some symbol => exact List.pairwise_singleton _ _
    · intro a isLabel b isStated
      obtain ⟨name, isName, rfl⟩ := List.mem_map.1 isLabel
      obtain rfl := Option.mem_toList.1 isName
      exact ⟨name, statement, rfl, rfl, isStated⟩

end Reading

namespace History

/-- The symbols that lines enter, when their labels stand for the given things. -/
def symbols (kindOf : Nat → SymbolKind × Text) (rs : List Reading) : List Symbol :=
  rs.zipIdx.flatMap fun line => line.1.symbols line.2 (kindOf line.2)

variable {kindOf : Nat → SymbolKind × Text} {rs : List Reading}

theorem symbols_concat (kindOf : Nat → SymbolKind × Text) (rs : List Reading) (r : Reading) :
    symbols kindOf (rs ++ [r]) =
      symbols kindOf rs ++ r.symbols rs.length (kindOf rs.length) := by
  simp [symbols, List.zipIdx_append]

theorem line_lt_of_mem_symbols {symbol : Symbol} (member : symbol ∈ symbols kindOf rs) :
    symbol.line < rs.length := by
  obtain ⟨line, isLine, entered⟩ := List.mem_flatMap.1 member
  rw [Reading.line_of_mem_symbols entered]
  exact List.snd_lt_of_mem_zipIdx isLine

/-- On some line `a` is the label and `b` stands in the directive behind it. -/
def LabelsDirective (rs : List Reading) (a b : Symbol) : Prop :=
  ∃ r, rs[a.line]? = some r ∧ r.LabelsDirective a.line a b

theorem LabelsDirective.concat {a b : Symbol} (labels : LabelsDirective rs a b) (r : Reading) :
    LabelsDirective (rs ++ [r]) a b := by
  obtain ⟨own, isLine, labels⟩ := labels
  have inside := (List.getElem?_eq_some_iff.1 isLine).1
  exact ⟨own, (List.getElem?_append_left inside).trans isLine, labels⟩

/-- The symbols of lines are in the order of the lines, and on one line the label comes first. -/
theorem pairwise_symbols (kindOf : Nat → SymbolKind × Text) (rs : List Reading) :
    (symbols kindOf rs).Pairwise fun a b =>
      a.line < b.line ∨ a.line = b.line ∧ LabelsDirective rs a b := by
  induction rs using List.reverseRecOn with
  | nil => exact List.Pairwise.nil
  | append_singleton rs r ih =>
    rw [symbols_concat]
    refine List.pairwise_append.2 ⟨?_, ?_, ?_⟩
    · refine ih.imp ?_
      rintro a b (earlier | ⟨same, labels⟩)
      · exact .inl earlier
      · exact .inr ⟨same, labels.concat r⟩
    · refine (r.pairwise_symbols rs.length _).imp_of_mem ?_
      intro a b isA isB labels
      have lineA := Reading.line_of_mem_symbols isA
      have lineB := Reading.line_of_mem_symbols isB
      refine .inr ⟨lineA.trans lineB.symm, r, ?_, lineA ▸ labels⟩
      rw [lineA, List.getElem?_concat_length]
    · intro a isA b isB
      rw [Reading.line_of_mem_symbols isB]
      exact .inl (line_lt_of_mem_symbols isA)

/-- No line enters more than two symbols. -/
theorem countP_symbols_le (kindOf : Nat → SymbolKind × Text) (rs : List Reading) (n : Nat) :
    (symbols kindOf rs).countP (·.line == n) ≤ 2 := by
  induction rs using List.reverseRecOn with
  | nil => exact Nat.zero_le 2
  | append_singleton rs r ih =>
    rw [symbols_concat, List.countP_append]
    by_cases last : n = rs.length
    · have none : (symbols kindOf rs).countP (·.line == n) = 0 := by
        refine List.countP_eq_zero.2 ?_
        intro symbol member isLast
        have earlier := line_lt_of_mem_symbols member
        rw [beq_iff_eq] at isLast
        omega
      rw [none, Nat.zero_add]
      exact List.countP_le_length.trans (r.length_symbols_le _ _)
    · have none : (r.symbols rs.length (kindOf rs.length)).countP (·.line == n) = 0 := by
        refine List.countP_eq_zero.2 ?_
        intro symbol member isLast
        rw [beq_iff_eq, Reading.line_of_mem_symbols member] at isLast
        exact last isLast.symm
      rw [none]
      exact ih

end History

namespace Scan

variable {s : Scan}

/-- A scan behind the label of a line, before the statement. -/
def afterLabel (options : OutlineOptions) (line : Nat) (r : Reading) (s : Scan) : Scan :=
  match r with
  | .plain (some label) _ => s.addLabel options line label
  | _ => s

/-- A line is read by its label first and its statement then. -/
theorem step_plain (s : Scan) (options : OutlineOptions) (n : Nat) (label : Option Named)
    (statement : Statement) :
    s.step options n (.plain label statement) =
      (s.afterLabel options n (.plain label statement)).addStatement n statement := by
  cases label <;> rfl

theorem Valid.afterLabel (valid : s.Valid) (options : OutlineOptions) (n : Nat) (r : Reading) :
    (s.afterLabel options n r).Valid := by
  cases r with
  | macroLabel name => exact valid
  | plain label statement =>
    cases label with
    | none => exact valid
    | some label => exact (valid.addLabel options n label).1

/-- An entry is there, and its symbol stands before line `n`. -/
def EnteredBefore (s : Scan) (i n : Nat) : Prop :=
  ∃ place, s.placeAt i = some place ∧ place.line < n

theorem EnteredBefore.mono {i n m : Nat} (before : s.EnteredBefore i n) (le : n ≤ m) :
    s.EnteredBefore i m := by
  obtain ⟨place, isPlace, earlier⟩ := before
  exact ⟨place, isPlace, Nat.lt_of_lt_of_le earlier le⟩

theorem EnteredBefore.enter {i n : Nat} (before : s.EnteredBefore i n) (symbol : Symbol)
    (parent : Option Nat) : (s.enter symbol parent).EnteredBefore i n := by
  obtain ⟨place, isPlace, earlier⟩ := before
  have below : i < s.next := by
    by_contra beyond
    rw [placeAt, List.getElem?_eq_none (by rw [length_layout]; omega)] at isPlace
    exact absurd isPlace (by simp)
  exact ⟨place, (placeAt_enter_of_lt symbol parent below).trans isPlace, earlier⟩

/-- The entry of a symbol that was just entered. -/
theorem enteredBefore_next (s : Scan) {symbol : Symbol} (parent : Option Nat) {n : Nat}
    (earlier : symbol.line < n) : (s.enter symbol parent).EnteredBefore s.next n :=
  ⟨symbol.place, placeAt_enter_next s symbol parent, earlier⟩

theorem EnteredBefore.exists_entry {i n : Nat} (before : s.EnteredBefore i n) :
    ∃ e, s.entries[i]? = some e ∧ e.symbol.line < n := by
  obtain ⟨place, isPlace, earlier⟩ := before
  simp only [placeAt, layout, List.getElem?_map, Option.map_map] at isPlace
  obtain ⟨e, isEntry, rfl⟩ := Option.map_eq_some_iff.1 isPlace
  exact ⟨e, isEntry, earlier⟩

/-- Everything hangs under something on an earlier line, and the entries that a scan holds on to
    stand before certain lines: open scopes before `scopes`, the owner and what waits before
    `labels`. -/
structure InOrder (s : Scan) (scopes labels : Nat) : Prop where
  parents : ∀ p place, (some p, place) ∈ s.layout → s.EnteredBefore p place.line
  frames : ∀ f ∈ s.frames, ∀ i ∈ f.entry, s.EnteredBefore i scopes
  owner : ∀ i ∈ s.owner, s.EnteredBefore i labels
  pending : ∀ i ∈ s.pending, s.EnteredBefore i labels

namespace InOrder

variable {scopes labels : Nat}

theorem empty : InOrder {} 0 0 :=
  ⟨by simp [layout], by simp, by simp, by simp⟩

theorem mono (ordered : s.InOrder scopes labels) {scopes' labels' : Nat} (first : scopes ≤ scopes')
    (second : labels ≤ labels') : s.InOrder scopes' labels' where
  parents := ordered.parents
  frames := fun f member i entry => (ordered.frames f member i entry).mono first
  owner := fun i owned => (ordered.owner i owned).mono second
  pending := fun i waits => (ordered.pending i waits).mono second

theorem container (ordered : s.InOrder scopes labels) :
    ∀ i ∈ s.container, s.EnteredBefore i scopes := by
  intro i found
  obtain ⟨f, member, entry⟩ := List.exists_of_findSome?_eq_some found
  exact ordered.frames f member i entry

/-- A symbol is entered under something that stands before it. -/
theorem enter (ordered : s.InOrder scopes labels) (symbol : Symbol) {parent : Option Nat}
    (older : ∀ p ∈ parent, s.EnteredBefore p symbol.line) :
    (s.enter symbol parent).InOrder scopes labels where
  parents := by
    intro p place member
    rw [layout_enter] at member
    rcases List.mem_append.1 member with old | new
    · exact (ordered.parents p place old).enter symbol parent
    · obtain ⟨isParent, rfl⟩ := Prod.mk.inj (List.mem_singleton.1 new)
      exact (older p isParent.symm).enter symbol parent
  frames := fun f member i entry => (ordered.frames f member i entry).enter symbol parent
  owner := fun i owned => (ordered.owner i owned).enter symbol parent
  pending := fun i waits => (ordered.pending i waits).enter symbol parent

/-- Other labels wait. -/
theorem wait (ordered : s.InOrder scopes labels) {pending : List Nat}
    (each : ∀ i ∈ pending, s.EnteredBefore i labels) :
    ({ s with pending } : Scan).InOrder scopes labels :=
  ⟨ordered.parents, ordered.frames, ordered.owner, each⟩

theorem own (ordered : s.InOrder scopes labels) {i : Nat} (before : s.EnteredBefore i labels) :
    ({ s with owner := some i } : Scan).InOrder scopes labels := by
  refine ⟨ordered.parents, ordered.frames, ?_, ordered.pending⟩
  intro j owned
  obtain rfl := Option.some.inj owned
  exact before

theorem push (ordered : s.InOrder scopes labels) {frame : Frame}
    (before : ∀ i ∈ frame.entry, s.EnteredBefore i scopes) :
    (s.push frame).InOrder scopes labels := by
  refine ⟨ordered.parents, ?_, ordered.owner, ordered.pending⟩
  intro f member
  rcases List.mem_cons.1 member with rfl | earlier
  · exact before
  · exact ordered.frames f earlier

theorem pop (ordered : s.InOrder scopes labels) : s.pop.InOrder scopes labels :=
  ⟨ordered.parents, fun f member => ordered.frames f (List.mem_of_mem_tail member),
    by simp [Scan.pop], ordered.pending⟩

/-- An operand moves nothing and lets nothing new wait. -/
theorem classify (ordered : s.InOrder scopes labels) (text : Text) :
    (s.classify text).InOrder scopes labels := by
  have alike := alike_classify text s
  have same : ∀ {i n}, s.EnteredBefore i n → (s.classify text).EnteredBefore i n := by
    rintro i n ⟨place, isPlace, earlier⟩
    refine ⟨place, ?_, earlier⟩
    rwa [placeAt, alike.layout]
  refine ⟨?_, ?_, ?_, ?_⟩
  · intro p place member
    rw [alike.layout] at member
    exact same (ordered.parents p place member)
  · intro f member i entry
    rw [alike.frames] at member
    exact same (ordered.frames f member i entry)
  · intro i owned
    rw [alike.owner] at owned
    exact same (ordered.owner i owned)
  · intro i waits
    rcases s.pending_classify text with still | none
    · rw [still] at waits
      exact same (ordered.pending i waits)
    · rw [none] at waits
      exact absurd waits List.not_mem_nil

/-- A label hangs under something from an earlier line, and becomes the last one that is held. -/
theorem addLabel {n : Nat} (ordered : s.InOrder n n) (options : OutlineOptions) (label : Named) :
    (s.addLabel options n label).InOrder n (n + 1) := by
  have entered :
      (s.enter (s.labelSymbol n label) (s.labelParent options label)).InOrder n (n + 1) :=
    (ordered.enter _ (of_mem_labelParent ordered.owner ordered.container options label)).mono le_rfl
      n.le_succ
  have last : (s.enter (s.labelSymbol n label) (s.labelParent options label)).EnteredBefore s.next
      (n + 1) :=
    s.enteredBefore_next _ n.lt_succ_self
  cases kind : label.absolute? with
  | none =>
    rw [addLabel_of_relative s options n kind]
    refine entered.wait ?_
    intro i waits
    rcases List.mem_append.1 waits with old | new
    · exact entered.pending i old
    · obtain rfl := List.mem_singleton.1 new
      exact last
  | some name =>
    rw [addLabel_of_absolute s options n kind]
    have onlyLast : ∀ i ∈ [s.next], (s.enter (s.labelSymbol n label)
        (s.labelParent options label)).EnteredBefore i (n + 1) := by
      intro i waits
      obtain rfl := List.mem_singleton.1 waits
      exact last
    exact (entered.wait onlyLast).own last

/-- The name in a directive is entered into the scope around it. -/
theorem addNamed {n : Nat} (ordered : s.InOrder n labels) (kind : SymbolKind)
    (name : Option Named) :
    (s.addNamed kind n name).1.InOrder n labels ∧
      ∀ i ∈ (s.addNamed kind n name).2, (s.addNamed kind n name).1.EnteredBefore i (n + 1) := by
  cases name with
  | none => exact ⟨ordered, by simp [Scan.addNamed]⟩
  | some name =>
    refine ⟨ordered.enter _ ordered.container, ?_⟩
    intro i isEntry
    obtain rfl := Option.some.inj isEntry
    exact s.enteredBefore_next _ n.lt_succ_self

/-- Behind a directive nothing waits. -/
theorem addStatement {n : Nat} (ordered : s.InOrder n (n + 1)) (statement : Statement) :
    (s.addStatement n statement).InOrder (n + 1) (n + 1) := by
  -- The name is placed by scopes from earlier lines, and only then opens one on this line.
  have still : ∀ {t : Scan}, t.InOrder n (n + 1) → t.InOrder (n + 1) (n + 1) := fun ordered =>
    ordered.mono n.le_succ le_rfl
  have noneWaits : ∀ {t : Scan}, ∀ i ∈ ([] : List Nat), t.EnteredBefore i (n + 1) := by simp
  cases statement with
  | block name =>
    obtain ⟨entered, isEntry⟩ := ordered.addNamed .method name
    exact ((still entered).push isEntry).wait noneWaits
  | define name => exact (still (ordered.addNamed .method name).1).wait noneWaits
  | close => exact (still ordered).pop.wait noneWaits
  | macroDef name => exact (still (ordered.enter _ (by simp))).wait noneWaits
  | scope kind name =>
    cases name with
    | none => exact (still ordered).wait noneWaits
    | some name =>
      obtain ⟨entered, isEntry⟩ := ordered.addNamed
        (if kind == .moduleScope then .moduleName else .structName) (some name)
      exact ((still entered).push isEntry).wait noneWaits
  | operand text => exact still (ordered.classify text)

/-- Behind the label of a line only the label is new. -/
theorem afterLabel {n : Nat} (ordered : s.InOrder n n) (options : OutlineOptions) (r : Reading) :
    (s.afterLabel options n r).InOrder n (n + 1) := by
  have later : s.InOrder n (n + 1) := ordered.mono le_rfl n.le_succ
  cases r with
  | macroLabel name => exact later
  | plain label statement =>
    cases label with
    | none => exact later
    | some label => exact ordered.addLabel options label

/-- One line keeps a scan in order. -/
theorem step {n : Nat} (ordered : s.InOrder n n) (options : OutlineOptions) (r : Reading) :
    (s.step options n r).InOrder (n + 1) (n + 1) := by
  have labelled := ordered.afterLabel options r
  cases r with
  | macroLabel name => exact labelled.addStatement (.macroDef name)
  | plain label statement =>
    rw [step_plain]
    exact labelled.addStatement statement

/-- After any lines a scan is in order. -/
theorem ofLines (options : OutlineOptions) (lines : List Text) :
    (Scan.ofLines options lines).InOrder lines.length lines.length := by
  induction lines using List.reverseRecOn with
  | nil => exact empty
  | append_singleton lines line ih =>
    rw [ofLines_concat, List.length_append, List.length_singleton]
    exact ih.step options (.ofLine options line)

end InOrder

/-- The entries that a scan holds on to: the owner of `.local` labels, the labels that wait for an
    operand and the names of the open scopes. -/
def held (s : Scan) : List Nat :=
  s.owner.toList ++ s.pending ++ s.frames.filterMap (·.entry)

/-- The entries that a scan holds on to are nodes of its tree, none of them below line `n`. -/
def HoldsNodes (s : Scan) (n : Nat) : Prop :=
  (Entry.forest s.entries).walk.Perm (s.entries.map (·.symbol)) ∧
    ∀ i ∈ s.held, ∃ e, s.entries[i]? = some e ∧ e.symbol ∈ (Entry.forest s.entries).walk ∧
      e.symbol.line ≤ n

theorem InOrder.holdsNodes {n : Nat} {scopes labels : Nat} (ordered : s.InOrder scopes labels)
    (valid : s.Valid) (first : scopes ≤ n + 1) (second : labels ≤ n + 1) : s.HoldsNodes n := by
  have walked := valid.walk_forest
  rw [s.map_symbol_drafts] at walked
  refine ⟨walked, ?_⟩
  intro i isHeld
  have before : s.EnteredBefore i (n + 1) := by
    simp only [held, List.mem_append, Option.mem_toList, List.mem_filterMap] at isHeld
    rcases isHeld with (owned | waits) | ⟨f, member, entry⟩
    · exact (ordered.owner i owned).mono second
    · exact (ordered.pending i waits).mono second
    · exact (ordered.frames f member i entry).mono first
  obtain ⟨e, isEntry, earlier⟩ := before.exists_entry
  have isSymbol : e.symbol ∈ s.entries.map (·.symbol) :=
    List.mem_map_of_mem (List.mem_of_getElem? isEntry)
  exact ⟨e, isEntry, walked.mem_iff.2 isSymbol, Nat.le_of_lt_succ earlier⟩

/-- What is known before a line, behind its label and behind all of it. -/
def stages (options : OutlineOptions) (line : Nat) (r : Reading) (s : Scan) : List Scan :=
  [s, s.afterLabel options line r, s.step options line r]

/-- While a line is read, all that a scan holds on to are nodes of its tree. -/
theorem holdsNodes_of_mem_stages {n : Nat} (ordered : s.InOrder n n) (valid : s.Valid)
    (options : OutlineOptions) (r : Reading) :
    ∀ t ∈ s.stages options n r, t.HoldsNodes n := by
  have before : s.HoldsNodes n := ordered.holdsNodes valid n.le_succ n.le_succ
  have behindLabel : (s.afterLabel options n r).HoldsNodes n :=
    (ordered.afterLabel options r).holdsNodes (valid.afterLabel options n r) n.le_succ le_rfl
  have behindLine : (s.step options n r).HoldsNodes n :=
    (ordered.step options r).holdsNodes (valid.step options n r).1 le_rfl le_rfl
  intro t isStage
  simp only [stages, List.mem_cons, List.not_mem_nil, or_false] at isStage
  rcases isStage with rfl | rfl | rfl
  · exact before
  · exact behindLabel
  · exact behindLine

/-- What hangs under a symbol stands on a later line. -/
theorem InOrder.line_lt_of_mem_links {scopes labels : Nat} (ordered : s.InOrder scopes labels)
    (valid : s.Valid) {above below : Symbol}
    (linked : (some above, below) ∈ SymbolForest.links none (Entry.forest s.entries)) :
    above.line < below.line := by
  obtain ⟨e, isEntry, isLink⟩ :=
    List.mem_map.1 ((Entry.links_forest s.entries valid.ordered).mem_iff.1 linked)
  obtain ⟨isAbove, rfl⟩ := Prod.mk.inj isLink
  obtain ⟨a, isParent, rfl⟩ := Option.map_eq_some_iff.1 isAbove
  obtain ⟨p, parent, isA⟩ := Option.bind_eq_some_iff.1 isParent
  have inLayout : (some p, e.symbol.place) ∈ s.layout := by
    refine List.mem_map.2 ⟨e, isEntry, ?_⟩
    rw [parent]
  obtain ⟨b, isB, earlier⟩ := (ordered.parents p _ inLayout).exists_entry
  obtain rfl := Option.some.inj (isA.symm.trans isB)
  exact earlier

/-- The symbols of a scan are those that its lines enter. -/
theorem map_symbol_ofLines (options : OutlineOptions) (lines : List Text) :
    (ofLines options lines).entries.map (·.symbol) =
      History.symbols (History.labelKind (lines.map (Reading.ofLine options)))
        (lines.map (Reading.ofLine options)) := by
  obtain ⟨_, _, shown⟩ := drafts_ofLines options lines
  rw [← map_symbol_drafts, shown, History.drafts, List.map_flatMap]
  simp only [Reading.map_symbol_drafts]
  rfl

end Scan

/-- The order of an outline. What hangs under a symbol stands on a later line. Every symbol has its
    place among siblings, which stand in the order of their lines, at most two of them on the same
    one: its label, and the name in the directive behind it. And at every stage of a scan the owner,
    the labels that wait and the names of the open scopes are nodes of the tree so far, none of them
    below the line that is read. -/
theorem outline_order (options : OutlineOptions) (lines : List Text) :
    (∀ above below, (some above, below) ∈ SymbolForest.links none (outline options lines) →
      above.line < below.line) ∧
    (outline options lines).siblings.flatten.Perm (outline options lines).walk ∧
    (∀ family ∈ (outline options lines).siblings,
      (family.Pairwise fun a b => a.line < b.line ∨ a.line = b.line ∧
        History.LabelsDirective (lines.map (Reading.ofLine options)) a b) ∧
      ∀ n, family.countP (·.line == n) ≤ 2) ∧
    ∀ n line, lines[n]? = some line →
      ∀ s ∈ (Scan.ofLines options (lines.take n)).stages options n (.ofLine options line),
        s.HoldsNodes n := by
  refine ⟨?_, SymbolForest.flatten_siblings_perm _, ?_, ?_⟩
  · intro above below linked
    have ordered := Scan.InOrder.ofLines options lines
    exact ordered.line_lt_of_mem_links (Scan.valid_empty.feed options 0 lines).1 linked
  · intro family isFamily
    have part := Entry.sublist_of_mem_siblings isFamily
    rw [Scan.map_symbol_ofLines] at part
    refine ⟨(History.pairwise_symbols _ _).sublist part, ?_⟩
    intro n
    exact part.countP_le.trans (History.countP_symbols_le _ _ n)
  · intro n line isLine
    have length : (lines.take n).length = n :=
      List.length_take_of_le (List.getElem?_eq_some_iff.1 isLine).1.le
    have ordered := Scan.InOrder.ofLines options (lines.take n)
    rw [length] at ordered
    have valid := (Scan.valid_empty.feed options 0 (lines.take n)).1
    exact Scan.holdsNodes_of_mem_stages ordered valid options (.ofLine options line)

/-- A label in front of a module, and a `.local` label inside that goes back to it. -/
def ownerOutside : List Text :=
  ["main: MODULE inner".toList, ".loop: nop".toList]

/-- The `.local` label hangs under a symbol from the line above, and this symbol and the module are
    siblings on one line. -/
theorem ownerOutside_order :
    let main : Symbol := ⟨"main".toList, .function, 0, 0, []⟩
    let inner : Symbol := ⟨"inner".toList, .moduleName, 0, 8, []⟩
    let loop : Symbol := ⟨".loop".toList, .function, 1, 0, []⟩
    (some main, loop) ∈ SymbolForest.links none (outline {} ownerOutside) ∧
      main.line < loop.line ∧
      [main, inner] ∈ (outline {} ownerOutside).siblings ∧
      [main, inner].countP (·.line == 0) ≤ 2 ∧
      ∀ s ∈ (Scan.ofLines {} (ownerOutside.take 1)).stages {} 1 (.ofLine {} ".loop: nop".toList),
        s.HoldsNodes 1 := by
  obtain ⟨below, _, siblings, stages⟩ := outline_order {} ownerOutside
  intro main inner loop
  have linked : (some main, loop) ∈ SymbolForest.links none (outline {} ownerOutside) := by
    decide +kernel
  have isFamily : [main, inner] ∈ (outline {} ownerOutside).siblings := by decide +kernel
  exact ⟨linked, below main loop linked, isFamily, (siblings _ isFamily).2 0, stages 1 _ rfl⟩

end AsmAtlas
