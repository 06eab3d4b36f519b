import AsmAtlas.Proofs.ExcludedLabels
import AsmAtlas.Proofs.OutlineDepth
import AsmAtlas.Proofs.SourceDecoding
import AsmAtlas.Request.Structure

/-!
# Folding ranges

The ranges of a source file run from one line with an outline symbol to before the next, where
symbols marked as relative do not count. So they follow one another, none of them takes in the
start of another, and what lies behind the first start and is in none of them is blank or is itself
a start. There are none at all if the symbols are nested deeper than a walk goes.
-/

namespace AsmAtlas
namespace Scene

/-- A line with a symbol that is not marked as relative. -/
def StartsFold (forest : SymbolForest) (n : Nat) : Prop :=
  ∃ symbol ∈ SymbolForest.walk forest,
    symbol.line = n ∧ ¬['.'] <+: symbol.name ∧ ¬['@'] <+: symbol.name

/-- A line that exists and has more on it than blanks. -/
def HasCode (lines : List Text) (n : Nat) : Prop :=
  ∃ line, lines[n]? = some line ∧ ∃ c ∈ line, isBlank c = false

namespace FoldingRange

/-- Whether a range takes in a line. -/
def Holds (r : FoldingRange) (n : Nat) : Prop :=
  r.startLine ≤ n ∧ n ≤ r.endLine

/-- Several lines from a start to a line with code, none of which is another start. -/
structure IsFold (lines : List Text) (isStart : Nat → Prop) (r : FoldingRange) : Prop where
  start : isStart r.startLine
  several : r.startLine < r.endLine
  code : HasCode lines r.endLine
  only : ∀ n, r.Holds n → isStart n → n = r.startLine

end FoldingRange

/-- Ranges that partition the code behind the first of some starts. -/
structure IsFolding (lines : List Text) (isStart : Nat → Prop) (ranges : List FoldingRange) :
    Prop where
  ordered : ranges.Pairwise fun a b => a.startLine < b.startLine
  apart : ranges.Pairwise fun a b => ∀ n, ¬(a.Holds n ∧ b.Holds n)
  folds : ∀ r ∈ ranges, r.IsFold lines isStart
  inside : ∀ r ∈ ranges, r.endLine < lines.length
  covers : ∀ m n, isStart m → m < n → HasCode lines n → ¬isStart n →
    ∃! r, r ∈ ranges ∧ r.Holds n

/-! ## One range -/

theorem hasCode_of_not_blank {lines : List Text} {n : Nat} (inside : n < lines.length)
    (visible : (lines[n]?.getD []).isBlankText = false) : HasCode lines n := by
  refine ⟨lines[n], List.getElem?_eq_getElem inside, ?_⟩
  simpa [List.getElem?_eq_getElem inside, Text.isBlankText] using visible

theorem not_hasCode_of_blank {lines : List Text} {n : Nat}
    (blank : (lines[n]?.getD []).isBlankText) : ¬HasCode lines n := by
  rintro ⟨line, isLine, c, member, visible⟩
  rw [isLine, Option.getD_some, Text.isBlankText, List.all_eq_true] at blank
  simp [blank c member] at visible

theorem HasCode.lt_length {lines : List Text} {n : Nat} (code : HasCode lines n) :
    n < lines.length := by
  obtain ⟨line, isLine, _⟩ := code
  exact (List.getElem?_eq_some_iff.1 isLine).1

/-- Going back from `stop` over blank lines ends at a line with code, or at `start`. -/
theorem lastCodeLine_spec {lines : List Text} {start stop : Nat} (within : start ≤ stop)
    (inside : stop < lines.length) :
    start ≤ lastCodeLine lines start stop ∧ lastCodeLine lines start stop ≤ stop ∧
      (start < lastCodeLine lines start stop → HasCode lines (lastCodeLine lines start stop)) ∧
      ∀ n, lastCodeLine lines start stop < n → n ≤ stop → ¬HasCode lines n := by
  induction stop with
  | zero =>
    rw [lastCodeLine]
    exact ⟨within, Nat.le_refl 0, fun later => absurd later (Nat.not_lt_zero start),
      fun n later here => absurd later (Nat.not_lt.2 here)⟩
  | succ stop ih =>
    rw [lastCodeLine]
    split_ifs with goesBack
    · obtain ⟨later, blank⟩ := Bool.and_eq_true_iff.1 goesBack
      obtain ⟨low, high, code, behind⟩ :=
        ih (Nat.le_of_lt_succ (of_decide_eq_true later)) (Nat.lt_of_succ_lt inside)
      refine ⟨low, Nat.le_succ_of_le high, code, fun n isBehind isWithin => ?_⟩
      rcases Nat.le_succ_iff.1 isWithin with earlier | rfl
      · exact behind n isBehind earlier
      · exact not_hasCode_of_blank blank
    · refine ⟨within, Nat.le_refl _, fun later => hasCode_of_not_blank inside ?_,
        fun n isBehind isWithin => absurd isBehind (Nat.not_lt.2 isWithin)⟩
      simpa [later] using goesBack

/-! ## From one start to the next -/

/-- Two lines, a start and the next one behind it, or the end of the file. -/
structure Stretch (starts : List Nat) (bound start next : Nat) : Prop where
  isStart : start ∈ starts
  isNext : next ∈ starts ∨ next = bound
  lt : start < next
  between : ∀ s ∈ starts, s ≤ start ∨ next ≤ s

section

variable {starts rest : List Nat} {bound first start next next' : Nat}

theorem Stretch.unique (inside : ∀ s ∈ starts, s < bound)
    (stretch : Stretch starts bound start next) (other : Stretch starts bound start next') :
    next = next' := by
  have le : ∀ {next next' : Nat}, Stretch starts bound start next →
      Stretch starts bound start next' → next' ≤ next := by
    intro next next' stretch other
    have later := stretch.lt
    rcases stretch.isNext with isStart | rfl
    · rcases other.between next isStart with before | behind
      · omega
      · exact behind
    · rcases other.isNext with isStart | rfl
      · exact Nat.le_of_lt (inside next' isStart)
      · exact Nat.le_refl _
  exact Nat.le_antisymm (le other stretch) (le stretch other)

/-- Behind the first start comes the first of the others. -/
theorem stretch_first (increasing : (first :: rest).Pairwise (· < ·))
    (inside : ∀ s ∈ first :: rest, s < bound) :
    Stretch (first :: rest) bound first (rest.head?.getD bound) := by
  obtain ⟨isFirst, later⟩ := List.pairwise_cons.1 increasing
  cases rest with
  | nil => exact ⟨List.mem_cons_self, .inr rfl, inside first List.mem_cons_self, by simp⟩
  | cons second rest =>
    have behind : ∀ s ∈ rest, second ≤ s := fun s member =>
      Nat.le_of_lt ((List.pairwise_cons.1 later).1 s member)
    refine ⟨List.mem_cons_self, .inl (by simp), isFirst second List.mem_cons_self, ?_⟩
    exact List.forall_mem_cons.2 ⟨.inl (Nat.le_refl _), List.forall_mem_cons.2
      ⟨.inr (Nat.le_refl _), fun s member => .inr (behind s member)⟩⟩

theorem stretch_cons (increasing : (first :: rest).Pairwise (· < ·))
    (inside : ∀ s ∈ first :: rest, s < bound) :
    Stretch (first :: rest) bound start next ↔
      start = first ∧ next = rest.head?.getD bound ∨ Stretch rest bound start next := by
  have isFirst := (List.pairwise_cons.1 increasing).1
  constructor
  · intro stretch
    rcases List.mem_cons.1 stretch.isStart with rfl | isLater
    · exact .inl ⟨rfl, stretch.unique inside (stretch_first increasing inside)⟩
    · have behind := Nat.lt_trans (isFirst start isLater) stretch.lt
      refine .inr ⟨isLater, stretch.isNext.imp_left fun member => ?_, stretch.lt,
        (List.forall_mem_cons.1 stretch.between).2⟩
      exact (List.mem_cons.1 member).resolve_left (Nat.ne_of_gt behind)
  · rintro (⟨rfl, rfl⟩ | ⟨isStart, isNext, lt, between⟩)
    · exact stretch_first increasing inside
    · exact ⟨List.mem_cons_of_mem first isStart, isNext.imp_left (List.mem_cons_of_mem first), lt,
        List.forall_mem_cons.2 ⟨.inl (Nat.le_of_lt (isFirst start isStart)), between⟩⟩

/-- Every line from a start on is in a stretch. -/
theorem exists_stretch (increasing : starts.Pairwise (· < ·)) (inside : ∀ s ∈ starts, s < bound)
    {m n : Nat} (isStart : m ∈ starts) (behind : m ≤ n) (bounded : n < bound) :
    ∃ start next, Stretch starts bound start next ∧ start ≤ n ∧ n < next := by
  induction starts generalizing m with
  | nil => simp at isStart
  | cons first rest ih =>
    obtain ⟨isFirst, later⟩ := List.pairwise_cons.1 increasing
    have upTo : first ≤ m := by
      rcases List.mem_cons.1 isStart with rfl | isLater
      · exact Nat.le_refl _
      · exact Nat.le_of_lt (isFirst m isLater)
    by_cases ends : n < rest.head?.getD bound
    · exact ⟨first, _, stretch_first increasing inside, Nat.le_trans upTo behind, ends⟩
    · cases rest with
      | nil => exact absurd bounded ends
      | cons second rest =>
        obtain ⟨start, next, stretch, low, high⟩ := ih later (List.forall_mem_cons.1 inside).2
          List.mem_cons_self (Nat.le_of_not_lt ends)
        exact ⟨start, next, (stretch_cons increasing inside).2 (.inr stretch), low, high⟩

end

/-! ## All ranges -/

section

variable {lines : List Text} {starts : List Nat}

/-- There is a range for each start that has code in its stretch, and no other. -/
theorem mem_foldingFrom (increasing : starts.Pairwise (· < ·))
    (inside : ∀ s ∈ starts, s < lines.length) {r : FoldingRange} :
    r ∈ foldingFrom lines starts ↔ ∃ next, Stretch starts lines.length r.startLine next ∧
      r.endLine = lastCodeLine lines r.startLine (next - 1) ∧ r.startLine < r.endLine := by
  induction starts with
  | nil =>
    refine iff_of_false (by simp [foldingFrom]) ?_
    rintro ⟨next, stretch, _⟩
    exact absurd stretch.isStart (by simp)
  | cons first rest ih =>
    have isOwn : (r ∈ let stop := lastCodeLine lines first (rest.head?.getD lines.length - 1)
          if first < stop then [(⟨first, stop⟩ : FoldingRange)] else []) ↔
        ∃ next, (r.startLine = first ∧ next = rest.head?.getD lines.length) ∧
          r.endLine = lastCodeLine lines r.startLine (next - 1) ∧ r.startLine < r.endLine := by
      dsimp only
      rw [List.mem_ite_nil_right, List.mem_singleton]
      constructor
      · rintro ⟨several, rfl⟩
        exact ⟨_, ⟨rfl, rfl⟩, rfl, several⟩
      · rintro ⟨next, ⟨rfl, rfl⟩, ends, several⟩
        refine ⟨ends ▸ several, ?_⟩
        rw [← ends]
    have isLater := ih (List.pairwise_cons.1 increasing).2 (List.forall_mem_cons.1 inside).2
    simp only [foldingFrom, List.mem_append, isOwn, isLater, stretch_cons increasing inside,
      or_and_right, exists_or]

/-- In ranges that lie apart, no line is in two of them. -/
theorem eq_of_holds {ranges : List FoldingRange}
    (apart : ranges.Pairwise fun a b => ∀ n, ¬(a.Holds n ∧ b.Holds n)) {a b : FoldingRange}
    (isRange : a ∈ ranges) (isOther : b ∈ ranges) {n : Nat} (inOne : a.Holds n)
    (inOther : b.Holds n) : a = b := by
  have symmetric : Std.Symm fun a b : FoldingRange => ∀ n, ¬(a.Holds n ∧ b.Holds n) :=
    ⟨fun a b apart n both => apart n both.symm⟩
  by_contra differ
  exact apart.forall isRange isOther differ n ⟨inOne, inOther⟩

theorem startLines_sublist (lines : List Text) (starts : List Nat) :
    ((foldingFrom lines starts).map (·.startLine)).Sublist starts := by
  induction starts with
  | nil => exact .slnil
  | cons first rest ih =>
    rw [foldingFrom, List.map_append]
    split_ifs
    · exact ih.cons_cons first
    · exact ih.cons first

theorem isFold_of_mem (increasing : starts.Pairwise (· < ·))
    (inside : ∀ s ∈ starts, s < lines.length) {r : FoldingRange}
    (isRange : r ∈ foldingFrom lines starts) : r.IsFold lines (· ∈ starts) := by
  obtain ⟨next, stretch, ends, several⟩ := (mem_foldingFrom increasing inside).1 isRange
  have behind := stretch.lt
  have bounded : next ≤ lines.length :=
    stretch.isNext.elim (fun isStart => Nat.le_of_lt (inside next isStart)) Nat.le_of_eq
  have within : r.startLine ≤ next - 1 := by omega
  have last : next - 1 < lines.length := by omega
  obtain ⟨_, high, code, _⟩ := lastCodeLine_spec within last
  rw [← ends] at high code
  refine ⟨stretch.isStart, several, code several, fun n holds isStart => ?_⟩
  obtain ⟨low, upTo⟩ := holds
  rcases stretch.between n isStart with before | beyond
  · exact Nat.le_antisymm before low
  · omega

/-- The ranges of increasing starts partition the code behind the first of them. -/
theorem isFolding_foldingFrom (increasing : starts.Pairwise (· < ·))
    (inside : ∀ s ∈ starts, s < lines.length) :
    IsFolding lines (· ∈ starts) (foldingFrom lines starts) := by
  have folds : ∀ r ∈ foldingFrom lines starts, r.IsFold lines (· ∈ starts) :=
    fun r isRange => isFold_of_mem increasing inside isRange
  have ordered : (foldingFrom lines starts).Pairwise fun a b => a.startLine < b.startLine :=
    List.pairwise_map.1 (increasing.sublist (startLines_sublist lines starts))
  have apart : (foldingFrom lines starts).Pairwise fun a b => ∀ n, ¬(a.Holds n ∧ b.Holds n) := by
    refine ordered.imp_of_mem fun {a b} isOne isOther before n both => ?_
    obtain ⟨⟨_, high⟩, low, _⟩ := both
    have same := (folds a isOne).only b.startLine ⟨Nat.le_of_lt before, Nat.le_trans low high⟩
      (folds b isOther).start
    exact Nat.ne_of_gt before same
  refine ⟨ordered, apart, folds, fun r isRange => (folds r isRange).code.lt_length, ?_⟩
  intro m n isStart behind code noStart
  obtain ⟨start, next, stretch, low, high⟩ :=
    exists_stretch increasing inside isStart (Nat.le_of_lt behind) code.lt_length
  have bounded : next ≤ lines.length :=
    stretch.isNext.elim (fun isNext => Nat.le_of_lt (inside next isNext)) Nat.le_of_eq
  have later : start < n := Nat.lt_of_le_of_ne low fun same => noStart (same ▸ stretch.isStart)
  -- The line has code, so going back from the end of the stretch does not get past it.
  have upTo : n ≤ lastCodeLine lines start (next - 1) := by
    have within : start ≤ next - 1 := by omega
    have last : next - 1 < lines.length := by omega
    obtain ⟨_, _, _, blank⟩ := lastCodeLine_spec within last
    by_contra beyond
    exact blank n (Nat.lt_of_not_le beyond) (by omega) code
  let range : FoldingRange := ⟨start, lastCodeLine lines start (next - 1)⟩
  have isRange : range ∈ foldingFrom lines starts :=
    (mem_foldingFrom increasing inside).2 ⟨next, stretch, rfl, Nat.lt_of_lt_of_le later upTo⟩
  exact ⟨range, ⟨isRange, low, upTo⟩, fun other isOther =>
    eq_of_holds apart isOther.1 isRange isOther.2 ⟨low, upTo⟩⟩

end

/-! ## The ranges of a file -/

theorem mem_foldingStarts {forest : SymbolForest} {n : Nat} :
    n ∈ foldingStarts (SymbolForest.walk forest) ↔ StartsFold forest n := by
  have unmarked : ∀ name : Text, (!name.head?.any fun c => c == '.' || c == '@') ↔
      ¬['.'] <+: name ∧ ¬['@'] <+: name := by
    intro name
    cases name with
    | nil => simp
    | cons c name => simp [List.cons_prefix_cons, eq_comm (b := c)]
  rw [foldingStarts, List.mem_mergeSort, List.mem_eraseDups]
  simp only [List.mem_map, List.mem_filter, unmarked]
  constructor
  · rintro ⟨symbol, ⟨isSymbol, plain⟩, line⟩
    exact ⟨symbol, isSymbol, line, plain⟩
  · rintro ⟨symbol, isSymbol, line, plain⟩
    exact ⟨symbol, ⟨isSymbol, plain⟩, line⟩

theorem pairwise_foldingStarts (symbols : List Symbol) :
    (foldingStarts symbols).Pairwise (· < ·) := by
  have sorted : (foldingStarts symbols).Pairwise fun a b => decide (a ≤ b) :=
    List.pairwise_mergeSort (fun a b c => by simpa using Nat.le_trans)
      (fun a b => by simpa using Nat.le_total a b) _
  have distinct : (foldingStarts symbols).Nodup :=
    (List.mergeSort_perm _ _).nodup_iff.2 (nodup_eraseDups _)
  exact (sorted.and distinct).imp fun ⟨le, differ⟩ =>
    Nat.lt_of_le_of_ne (of_decide_eq_true le) differ

theorem folding_eq {s : Scene} {p : Path} {c : Config} {d : Document}
    (opened : s.open? p (fun _ => true) = some (c, d)) (isSource : d.dialect = .source) :
    s.folding p =
      if SymbolForest.height (AsmAtlas.outline (c.outlineOptions .source) d.lines) <
          s.workspace.limits.outline then
        .ok (some (foldingFrom d.lines (foldingStarts (SymbolForest.walk
          (AsmAtlas.outline (c.outlineOptions .source) d.lines)))))
      else .error .fullStack := by
  have isNoListing : ¬(Dialect.source == .listing) := by decide
  rw [Scene.folding, opened]
  simp only [foldingOf, isSource, if_neg isNoListing, SymbolForest.walkWithin_eq]
  split_ifs <;> rfl

/-- The folding ranges of a source file, whatever its settings, if its outline is not nested deeper
    than a walk may go; if it is, folding fails. They start, in order, on lines that carry an
    outline symbol without a mark; each has several lines, ends with one that has code and takes in
    no other such line; and every line with code behind the first of these lines, unless it is one
    of them itself, is in exactly one range. -/
theorem folding_partitions_code {s : Scene} {p : Path} {c : Config} {d : Document}
    (opened : s.open? p (fun _ => true) = some (c, d)) (isSource : d.dialect = .source) :
    let forest := AsmAtlas.outline (c.outlineOptions .source) d.lines
    (SymbolForest.height forest < s.workspace.limits.outline →
      ∃ ranges, s.folding p = .ok (some ranges) ∧
        IsFolding d.lines (StartsFold forest) ranges) ∧
      (s.workspace.limits.outline ≤ SymbolForest.height forest →
        s.folding p = .error .fullStack) := by
  intro forest
  have inside : ∀ n ∈ foldingStarts (SymbolForest.walk forest), n < d.lines.length := by
    intro n isStart
    obtain ⟨symbol, isSymbol, rfl, _⟩ := mem_foldingStarts.1 isStart
    exact line_lt_of_mem_walk_outline isSymbol
  have folding := isFolding_foldingFrom (pairwise_foldingStarts _) inside
  simp only [mem_foldingStarts] at folding
  rw [folding_eq opened isSource]
  refine ⟨fun low => ?_, fun high => ?_⟩
  · rw [if_pos low]
    exact ⟨_, rfl, folding⟩
  · rw [if_neg (Nat.not_lt.2 high)]

/-- A label with a module behind it, a relative label, and a macro. -/
def folded : String :=
  "go: MODULE m\n ret\n.l: nop\n\n; end\nmac: MACRO\n nop\n"

/-- The first line and that of the macro start ranges. The relative label starts none, and the lines
    between them that have no code are in none. -/
theorem folding_of_folded :
    (lone folded).open? lonePath (fun _ => true) = some (loneConfig, loneDocument folded) ∧
      (loneDocument folded).dialect = .source ∧
      ∃ ranges, (lone folded).folding lonePath = .ok (some ranges) ∧
        IsFolding (loneDocument folded).lines
          (StartsFold (AsmAtlas.outline (loneConfig.outlineOptions .source)
            (loneDocument folded).lines)) ranges ∧
        ranges = [⟨0, 2⟩, ⟨5, 6⟩] := by
  have text : (lone folded).workspace.text? lonePath = some folded.toList := by decide +kernel
  have opened : (lone folded).open? lonePath (fun _ => true) =
      some (loneConfig, loneDocument folded) :=
    open_eq (c := loneConfig) rfl rfl (loaded_of_open (lone_open text))
  have isSource : (loneDocument folded).dialect = .source := by decide +kernel
  have low : SymbolForest.height (AsmAtlas.outline (loneConfig.outlineOptions .source)
      (loneDocument folded).lines) < (lone folded).workspace.limits.outline := by decide +kernel
  obtain ⟨ranges, answer, partition⟩ := (folding_partitions_code opened isSource).1 low
  refine ⟨opened, isSource, ranges, answer, partition, ?_⟩
  have starts : foldingStarts (SymbolForest.walk (AsmAtlas.outline
      (loneConfig.outlineOptions .source) (loneDocument folded).lines)) = [0, 5] := by
    rw [foldingStarts]
    refine (congrArg (List.mergeSort · _) (by decide +kernel : _ = [0, 5])).trans ?_
    exact List.mergeSort_of_pairwise (by decide)
  have known : (lone folded).folding lonePath =
      .ok (some (foldingFrom (loneDocument folded).lines [0, 5])) := by
    rw [folding_eq opened isSource, if_pos low, starts]
  have same : some ranges = some (foldingFrom (loneDocument folded).lines [0, 5]) :=
    Except.ok.inj (answer.symm.trans known)
  exact (Option.some.inj same).trans (by decide +kernel)

/-- Lines that open modules within one another. -/
def modules (n : Nat) : String :=
  String.ofList (List.intercalate ['\n'] (List.replicate n moduleLine))

theorem lines_modules {n : Nat} (several : n ≠ 0) :
    (loneDocument (modules n)).lines = List.replicate n moduleLine := by
  have stripped : ∀ n, Comment.stripFrom false (List.replicate n moduleLine) =
      List.replicate n moduleLine := by
    have line : Comment.stripLine false moduleLine = (moduleLine, false) := by decide +kernel
    intro n
    induction n with
    | zero => rfl
    | succ n ih =>
      rw [List.replicate_succ, Comment.stripFrom, line]
      exact congrArg (moduleLine :: ·) ih
  have noFeed : ∀ line ∈ List.replicate n moduleLine, '\n' ∉ line := by
    intro line isLine
    rw [List.eq_of_mem_replicate isLine]
    decide +kernel
  have someLine : List.replicate n moduleLine ≠ [] := by simpa using several
  change Comment.strip ((modules n).toList.splitOn '\n') = _
  rw [modules, String.toList_ofList, List.splitOn_intercalate _ noFeed someLine, Comment.strip,
    stripped]

theorem text_modules (n : Nat) :
    (lone (modules n)).workspace.text? lonePath = some (modules n).toList := by
  have inside : ∀ c ∈ (modules n).toList, c = '\n' ∨ c ∈ moduleLine := by
    intro c isChar
    rw [modules, String.toList_ofList] at isChar
    rcases Text.mem_joinWith isChar with feed | ⟨line, isLine, inLine⟩
    · exact .inl (List.mem_singleton.1 feed)
    · exact .inr (List.eq_of_mem_replicate isLine ▸ inLine)
  have noReturn : '\r' ∉ (modules n).toList := fun isChar =>
    absurd (inside '\r' isChar) (by decide +kernel)
  have unmarked : (modules n).toList.head? ≠ some '\uFEFF' := fun starts =>
    absurd (inside '\uFEFF' (List.mem_of_head? starts)) (by decide +kernel)
  exact congrArg some (Encoding.sourceText_toUTF8 unmarked noReturn)

/-- The ranges of a thousand modules within one another are not found. -/
theorem folding_of_modules :
    (lone (modules 1000)).open? lonePath (fun _ => true) =
        some (loneConfig, loneDocument (modules 1000)) ∧
      (loneDocument (modules 1000)).dialect = .source ∧
      (lone (modules 1000)).folding lonePath = .error .fullStack := by
  have opened : (lone (modules 1000)).open? lonePath (fun _ => true) =
      some (loneConfig, loneDocument (modules 1000)) :=
    open_eq (c := loneConfig) rfl rfl (loaded_of_open (lone_open (text_modules 1000)))
  have isSource : (loneDocument (modules 1000)).dialect = .source := by
    change lonePath.dialect = .source
    decide +kernel
  refine ⟨opened, isSource, ?_⟩
  have reads : Reading.ofLine (loneConfig.outlineOptions .source) moduleLine =
      .plain none (.scope .moduleScope (some ⟨['m'], 8⟩)) := by decide +kernel
  have tall := height_outline_nested reads 1000
  rw [folding_eq opened isSource, lines_modules (by decide), tall]
  exact if_neg (by decide)

end Scene
end AsmAtlas
