import AsmAtlas.Limits
import AsmAtlas.Proofs.OutlinePlacement

/-!
# How deep outlines are nested

An outline is as high as the longest row of its symbols each of which stands right below the one
before. A walk with calls within calls gets through it if the calls may be nested deeper than that,
and has no result otherwise. Scopes that are opened one within the other make outlines of any
height, so for every limit there is a document that is not walked through.
-/

namespace AsmAtlas

mutual

/-- The most symbols of a tree that stand one below the other. -/
def SymbolTree.height : SymbolTree → Nat
  | .node _ children => SymbolForest.height children + 1

/-- The most symbols that stand one below the other. -/
def SymbolForest.height : SymbolForest → Nat
  | [] => 0
  | tree :: rest => max tree.height (SymbolForest.height rest)

end

mutual

theorem SymbolTree.walkWithin_eq (calls : Nat) (tree : SymbolTree) :
    tree.walkWithin calls = if tree.height ≤ calls then some tree.walk else none := by
  cases tree with
  | node symbol children =>
    rw [SymbolTree.walkWithin, SymbolForest.walkWithin_eq calls children, SymbolTree.height,
      SymbolTree.walk]
    split_ifs <;> first | rfl | omega

/-- A walk meets all symbols if they are not nested deeper than its calls may be, and ends without a
    result otherwise. -/
theorem SymbolForest.walkWithin_eq (calls : Nat) (trees : SymbolForest) :
    SymbolForest.walkWithin calls trees =
      if SymbolForest.height trees < calls then some (SymbolForest.walk trees) else none := by
  cases calls with
  | zero => rw [SymbolForest.walkWithin, if_neg (Nat.not_lt_zero _)]
  | succ calls =>
    cases trees with
    | nil => rw [SymbolForest.walkWithin, SymbolForest.height, if_pos (Nat.succ_pos _)]; rfl
    | cons tree rest =>
      rw [SymbolForest.walkWithin, SymbolTree.walkWithin_eq calls tree,
        SymbolForest.walkWithin_eq (calls + 1) rest, SymbolForest.height, SymbolForest.walk]
      by_cases here : tree.height ≤ calls
      · by_cases later : SymbolForest.height rest < calls + 1
        · rw [if_pos here, if_pos later, if_pos (by omega)]
          rfl
        · rw [if_pos here, if_neg later, if_neg (by omega)]
          rfl
      · have tall : ¬max tree.height (SymbolForest.height rest) < calls + 1 := by omega
        rw [if_neg here, if_neg tall]
        rfl

end

/-- A walk through the outline of a document gets to its end if, and only if, its calls may be
    nested deeper than the symbols are. It then loses nothing and meets nothing twice: what it meets
    is what the lines enter, each of them read alone. Every name hangs in one place only. -/
theorem walkWithin_outline_perm (calls : Nat) (options : OutlineOptions) (lines : List Text) :
    (if SymbolForest.height (outline options lines) < calls then
      ∃ symbols, SymbolForest.walkWithin calls (outline options lines) = some symbols ∧
        (symbols.map Symbol.place).Perm (lines.zipIdx.flatMap fun line =>
          (Emission.ofLine options line.1).map fun e => e.named.onLine line.2)
    else SymbolForest.walkWithin calls (outline options lines) = none) ∧
    ((SymbolForest.links none (outline options lines)).map fun l => l.2.place).Perm
      (lines.zipIdx.flatMap fun line =>
        (Emission.ofLine options line.1).map fun e => e.named.onLine line.2) := by
  obtain ⟨walked, linked⟩ := perm_emissions options lines
  refine ⟨?_, linked⟩
  rw [SymbolForest.walkWithin_eq]
  split_ifs with low
  · exact ⟨_, rfl, walked⟩
  · rfl

/-! ## Scopes within scopes -/

/-- The symbol of a named scope. -/
def ScopeKind.symbolKind (kind : ScopeKind) : SymbolKind :=
  if kind == .moduleScope then .moduleName else .structName

/-- The entries of scopes that are opened one within the other, from number `i` on. -/
def Entry.nested (kind : SymbolKind) (name : Named) : Option Nat → Nat → Nat → List Entry
  | _, _, 0 => []
  | above, i, n + 1 =>
    ⟨⟨name.text, kind, i, name.column, []⟩, above⟩ :: nested kind name (some i) (i + 1) n

/-- They grow into one tree, in which each of them stands right below the one before. -/
theorem Entry.grow_nested (kind : SymbolKind) (name : Named) (above : Option Nat) (i n : Nat) :
    ∃ tree, grow i (nested kind name above i (n + 1)) = [(above, tree)] ∧
      tree.height = n + 1 := by
  induction n generalizing above i with
  | zero => exact ⟨_, rfl, rfl⟩
  | succ n ih =>
    obtain ⟨tree, grown, height⟩ := ih (some i) (i + 1)
    refine ⟨.node ⟨name.text, kind, i, name.column, []⟩ [tree], ?_, ?_⟩
    · rw [nested, grow, grown]
      simp
    · simp [SymbolTree.height, SymbolForest.height, height]

/-- What a line enters that opens a scope, it enters below the scopes that are open. -/
theorem Scan.entries_feed_nested {options : OutlineOptions} {line : Text} {kind : ScopeKind}
    {name : Named} (reads : Reading.ofLine options line = .plain none (.scope kind (some name)))
    (s : Scan) (n : Nat) :
    (Scan.feed options s.next s (List.replicate n line)).entries =
      s.entries ++ Entry.nested kind.symbolKind name s.container s.next n := by
  induction n generalizing s with
  | zero => simp [Scan.feed, Entry.nested]
  | succ n ih =>
    let inner := s.step options s.next (Reading.ofLine options line)
    have entered : inner.entries =
        s.entries ++ [⟨⟨name.text, kind.symbolKind, s.next, name.column, []⟩, s.container⟩] := by
      simp only [inner, reads]
      rfl
    have within : inner.container = some s.next := by
      simp only [inner, reads]
      rfl
    have following : inner.next = s.next + 1 := by
      rw [Scan.next, entered, List.length_append]
      rfl
    have later := ih inner
    rw [following, within, entered] at later
    rw [List.replicate_succ, Scan.feed, Entry.nested, later, List.append_assoc]
    rfl

/-- Scopes that are opened one within the other make an outline as high as there are scopes. -/
theorem height_outline_nested {options : OutlineOptions} {line : Text} {kind : ScopeKind}
    {name : Named} (reads : Reading.ofLine options line = .plain none (.scope kind (some name)))
    (n : Nat) : SymbolForest.height (outline options (List.replicate n line)) = n := by
  have entries : (Scan.ofLines options (List.replicate n line)).entries =
      Entry.nested kind.symbolKind name none 0 n := Scan.entries_feed_nested reads {} n
  rw [outline, Entry.forest, entries]
  cases n with
  | zero => rfl
  | succ n =>
    obtain ⟨tree, grown, height⟩ := Entry.grow_nested kind.symbolKind name none 0 n
    rw [grown]
    simp [SymbolForest.height, height]

/-- A line that opens a module. -/
def moduleLine : Text :=
  " MODULE m".toList

/-- Modules within modules are more than a walk gets through if there are as many of them as calls
    may be nested. -/
theorem walkWithin_modules {calls n : Nat} (deep : calls ≤ n) :
    SymbolForest.walkWithin calls (outline {} (List.replicate n moduleLine)) = none := by
  have reads : Reading.ofLine {} moduleLine =
      .plain none (.scope .moduleScope (some ⟨['m'], 8⟩)) := by decide +kernel
  rw [SymbolForest.walkWithin_eq, height_outline_nested reads, if_neg (Nat.not_lt.2 deep)]

/-- A walk through a thousand modules has no result, although each of their lines enters a name. -/
theorem thousand_modules_not_walked :
    SymbolForest.walkWithin ({} : Limits).outline
        (outline {} (List.replicate 1000 moduleLine)) = none ∧
      ((List.replicate 1000 moduleLine).zipIdx.flatMap fun line =>
        (Emission.ofLine {} line.1).map fun e => e.named.onLine line.2).length = 1000 := by
  refine ⟨walkWithin_modules (by decide), ?_⟩
  have enters : ∀ line ∈ (List.replicate 1000 moduleLine).zipIdx,
      ((Emission.ofLine {} line.1).map fun e => e.named.onLine line.2).length = 1 := by
    intro line isLine
    rw [List.length_map, List.eq_of_mem_replicate (List.fst_mem_of_mem_zipIdx isLine)]
    decide +kernel
  rw [List.length_flatMap, List.map_congr_left enters, List.map_const', List.sum_replicate_nat,
    List.length_zipIdx, List.length_replicate]

end AsmAtlas
