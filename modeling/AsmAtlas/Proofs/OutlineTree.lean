import AsmAtlas.Outline.Basic
import Mathlib.Data.List.Perm.Basic

/-!
# From entries to trees

Entries name the entry they hang under by its number; `Entry.forest` builds trees of them. The
trees show exactly the entries, and every symbol hangs under the symbol of the entry that was
named. A tree is observed through its links: each symbol with the symbol right above it.
-/

namespace AsmAtlas

/-- What a symbol is known by in the text: its name, its line and its column. -/
structure Place where
  name : Text
  line : Nat
  column : Nat
deriving DecidableEq

/-- The place of a symbol. -/
def Symbol.place (s : Symbol) : Place :=
  ⟨s.name, s.line, s.column⟩

/-- A symbol, and the one it hangs under unless it stands at the top. -/
abbrev Link := Option Symbol × Symbol

mutual

/-- The links of a tree that hangs under `above`. -/
def SymbolTree.links (above : Option Symbol) : SymbolTree → List Link
  | .node symbol children => (above, symbol) :: SymbolForest.links (some symbol) children

/-- The links of trees that hang under `above`. -/
def SymbolForest.links (above : Option Symbol) : SymbolForest → List Link
  | [] => []
  | tree :: rest => tree.links above ++ SymbolForest.links above rest

end

theorem SymbolForest.links_eq_flatMap (above : Option Symbol) (trees : SymbolForest) :
    SymbolForest.links above trees = trees.flatMap (·.links above) := by
  induction trees with
  | nil => rfl
  | cons tree rest ih => rw [SymbolForest.links, ih, List.flatMap_cons]

mutual

theorem SymbolTree.map_snd_links (above : Option Symbol) (tree : SymbolTree) :
    (tree.links above).map (·.2) = tree.walk := by
  cases tree with
  | node symbol children =>
    rw [SymbolTree.links, SymbolTree.walk, List.map_cons,
      SymbolForest.map_snd_links (some symbol) children]

/-- There is one link for every symbol that a walk meets. -/
theorem SymbolForest.map_snd_links (above : Option Symbol) (trees : SymbolForest) :
    (SymbolForest.links above trees).map (·.2) = SymbolForest.walk trees := by
  cases trees with
  | nil => rfl
  | cons tree rest =>
    rw [SymbolForest.links, SymbolForest.walk, List.map_append,
      SymbolTree.map_snd_links above tree, SymbolForest.map_snd_links above rest]

end

namespace Entry

/-- Every entry hangs under one that was entered before it. -/
def Ordered (entries : List Entry) : Prop :=
  ∀ (i : Nat) (e : Entry) (p : Nat), entries[i]? = some e → e.parent = some p → p < i

/-- The link that an entry stands for in a list of entries. -/
def link (entries : List Entry) (e : Entry) : Link :=
  ((e.parent.bind (entries[·]?)).map (·.symbol), e.symbol)

/-- Growing trees keeps every link, whatever `symbolOf` says about the numbers that are not among
    the entries. -/
theorem links_grow (symbolOf : Nat → Option Symbol) (i : Nat) (entries : List Entry)
    (numbered : ∀ (k : Nat) (e : Entry), entries[k]? = some e → symbolOf (i + k) = some e.symbol) :
    ((grow i entries).flatMap fun t => t.2.links (t.1.bind symbolOf)).Perm
      (entries.map fun e => (e.parent.bind symbolOf, e.symbol)) := by
  induction entries generalizing i with
  | nil => exact .refl _
  | cons entry rest ih =>
    have here : symbolOf i = some entry.symbol := numbered 0 entry rfl
    have later := ih (i + 1) (fun k e found => by
      have := numbered (k + 1) e found
      rwa [Nat.add_comm k, ← Nat.add_assoc] at this)
    let linksOf := fun t : Option Nat × SymbolTree => t.2.links (t.1.bind symbolOf)
    let isMine := fun t : Option Nat × SymbolTree => t.1 == some i
    have mine : SymbolForest.links (some entry.symbol)
        (((grow (i + 1) rest).filter isMine).map (·.2)) =
          ((grow (i + 1) rest).filter isMine).flatMap linksOf := by
      rw [SymbolForest.links_eq_flatMap, List.flatMap_map]
      apply List.flatMap_congr
      intro t member
      have waits : t.1 = some i := by simpa [isMine] using (List.mem_filter.mp member).2
      simp [linksOf, waits, here]
    simp only [grow, List.partition_eq_filter_filter, List.flatMap_cons, SymbolTree.links,
      List.map_cons, List.cons_append]
    refine List.Perm.cons _ ?_
    rw [mine, ← List.flatMap_append]
    exact ((List.filter_append_perm isMine _).flatMap_right linksOf).trans later

/-- What is left waiting when all entries from number `i` on are grown waits for earlier ones. -/
theorem lt_of_mem_grow (i : Nat) (entries : List Entry)
    (ordered : ∀ (k : Nat) (e : Entry) (p : Nat),
      entries[k]? = some e → e.parent = some p → p < i + k)
    {t : Option Nat × SymbolTree} (member : t ∈ grow i entries) {p : Nat} (waits : t.1 = some p) :
    p < i := by
  induction entries generalizing i with
  | nil => simp [grow] at member
  | cons entry rest ih =>
    simp only [grow, List.partition_eq_filter_filter] at member
    rcases List.mem_cons.mp member with rfl | other
    · simpa using ordered 0 entry p rfl waits
    · obtain ⟨left, others⟩ := List.mem_filter.mp other
      have next := ih (i + 1) (fun k e p found parent => by
        have := ordered (k + 1) e p found parent
        omega) left
      have : p ≠ i := by
        rintro rfl
        simp [waits] at others
      omega

/-- The trees of entries have the links that the entries stand for. -/
theorem links_forest (entries : List Entry) (ordered : Ordered entries) :
    (SymbolForest.links none (forest entries)).Perm (entries.map (link entries)) := by
  let symbolOf := fun i : Nat => (entries[i]?).map Entry.symbol
  have top : SymbolForest.links none (forest entries) =
      (grow 0 entries).flatMap fun t => t.2.links (t.1.bind symbolOf) := by
    rw [forest, SymbolForest.links_eq_flatMap, List.flatMap_map]
    apply List.flatMap_congr
    intro t member
    cases waits : t.1 with
    | none => rfl
    | some p =>
      have := lt_of_mem_grow 0 entries (by simpa [Ordered] using ordered) member waits
      omega
  rw [top]
  refine (links_grow symbolOf 0 entries (fun k e found => by simp [symbolOf, found])).trans ?_
  apply List.Perm.of_eq
  apply List.map_congr_left
  intro e _
  cases parent : e.parent <;> simp [link, symbolOf, parent]

end Entry

end AsmAtlas
