import AsmAtlas.Outline.Scan
import AsmAtlas.Proofs.OutlineHistory

/-!
# Where outline symbols are placed

A scan knows entries, frames and the owner by their numbers. Its sketch forgets the numbers and
keeps the places: what hangs under what, which scopes are open and which label owns the `.local`
ones. One line changes the sketch as it changes the history of the lines, and what an operand
refines later is not part of it. The outline of a document is then what the lines say, each in the
light of those before it.
-/

namespace AsmAtlas

namespace Emission

/-- What an emission hangs under when `.local` labels have the given owner and the innermost scope
    is the given one. Macros stand at the top. -/
def parentIn (options : OutlineOptions) (owner scope : Option Place) : Emission → Option Place
  | macroName _ => none
  | scopeName _ => scope
  | label name =>
    match name.text.head? with
    | some '.' => owner <|> scope
    | some '@' => if options.nestCheap then scope else none
    | _ => scope

/-- What an emission hangs under after the given lines. -/
def parent (options : OutlineOptions) (before : List Reading) (e : Emission) : Option Place :=
  e.parentIn options (History.owner? before) (History.innermost? before)

end Emission

/-- What is seen of a scan in the text. -/
structure Sketch where
  /-- Every place that was entered, with the one it hangs under. -/
  links : List (Option Place × Place) := []
  /-- The places that opened the open scopes, the innermost first. -/
  scopes : List (Option Place) := []
  owner : Option Place := none

namespace Sketch

/-- The innermost scope with a name. -/
def innermost (v : Sketch) : Option Place :=
  v.scopes.findSome? id

/-- Takes in one line. -/
def step (options : OutlineOptions) (line : Nat) (r : Reading) (v : Sketch) : Sketch where
  links := v.links ++ r.emissions.map fun e =>
    (e.parentIn options v.owner v.innermost, e.named.onLine line)
  scopes := History.scopesAfter line r v.scopes
  owner := History.ownerAfter line r v.owner

/-- A statement is placed by the scopes alone, whatever label stands in front of it. -/
theorem step_label (options : OutlineOptions) (line : Nat) (label : Named) (statement : Statement)
    (v : Sketch) :
    Sketch.step options line (.plain none statement)
        { v with
          links := v.links ++
            [((Emission.label label).parentIn options v.owner v.innermost, label.onLine line)]
          owner := label.absolute?.map (·.onLine line) <|> v.owner } =
      v.step options line (.plain (some label) statement) := by
  have emitted : ∀ owner, statement.emissions.map (fun e =>
      (e.parentIn options owner v.innermost, e.named.onLine line)) =
        statement.emissions.map fun e =>
          (e.parentIn options v.owner v.innermost, e.named.onLine line) := by
    intro owner
    cases statement with
    | block name => cases name <;> rfl
    | define name => cases name <;> rfl
    | scope kind name => cases name <;> rfl
    | macroDef name => rfl
    | close => rfl
    | operand text => rfl
  have scopes : History.scopesAfter line (.plain none statement) v.scopes =
      History.scopesAfter line (.plain (some label) statement) v.scopes := by
    cases statement with
    | scope kind name => cases name <;> rfl
    | _ => rfl
  have owner : History.ownerAfter line (.plain none statement)
      (label.absolute?.map (·.onLine line) <|> v.owner) =
        History.ownerAfter line (.plain (some label) statement) v.owner := by
    cases statement with
    | close => rfl
    | _ => simp [History.ownerAfter, Reading.closes, Reading.absoluteLabel?]
  have links := emitted (label.absolute?.map (·.onLine line) <|> v.owner)
  simp only [step, innermost, Reading.emissions] at links ⊢
  rw [scopes, owner, Option.toList_none, List.map_nil, List.nil_append, links]
  simp [Emission.named]

/-- Takes in the lines from number `n` on. -/
def run (options : OutlineOptions) (n : Nat) (v : Sketch) (rs : List Reading) : Sketch :=
  (rs.zipIdx n).foldl (fun v line => v.step options line.2 line.1) v

end Sketch

namespace Scan

/-- The entries without what operands say about them. -/
def layout (s : Scan) : List (Option Nat × Place) :=
  s.entries.map fun e => (e.parent, e.symbol.place)

/-- The place of an entry. -/
def placeAt (s : Scan) (i : Nat) : Option Place :=
  s.layout[i]?.map (·.2)

/-- The sketch of a scan. -/
def sketch (s : Scan) : Sketch where
  links := s.layout.map fun e => (e.1.bind s.placeAt, e.2)
  scopes := s.frames.map fun f => f.entry.bind s.placeAt
  owner := s.owner.bind s.placeAt

/-- The numbers that a scan holds are those of its entries, and no entry hangs under a later one. -/
structure Valid (s : Scan) : Prop where
  parents : ∀ (i : Nat), ∀ e ∈ s.layout[i]?, ∀ p ∈ e.1, p < i
  frames : ∀ f ∈ s.frames, ∀ i ∈ f.entry, i < s.next
  owner : ∀ i ∈ s.owner, i < s.next

variable {s : Scan}

@[simp] theorem length_layout (s : Scan) : s.layout.length = s.next := by
  simp [layout, next]

@[simp] theorem layout_enter (s : Scan) (symbol : Symbol) (parent : Option Nat) :
    (s.enter symbol parent).layout = s.layout ++ [(parent, symbol.place)] := by
  simp [layout, enter]

@[simp] theorem next_enter (s : Scan) (symbol : Symbol) (parent : Option Nat) :
    (s.enter symbol parent).next = s.next + 1 := by
  simp [next, enter]

theorem placeAt_enter_of_lt (symbol : Symbol) (parent : Option Nat) {i : Nat} (h : i < s.next) :
    (s.enter symbol parent).placeAt i = s.placeAt i := by
  rw [placeAt, layout_enter, List.getElem?_append_left (by simpa using h), placeAt]

theorem placeAt_enter_next (s : Scan) (symbol : Symbol) (parent : Option Nat) :
    (s.enter symbol parent).placeAt s.next = some symbol.place := by
  simp [placeAt, ← length_layout]

theorem isSome_placeAt {i : Nat} (h : i < s.next) : (s.placeAt i).isSome := by
  simpa [placeAt] using h

theorem bind_placeAt_enter (symbol : Symbol) (parent : Option Nat) {number : Option Nat}
    (h : ∀ i ∈ number, i < s.next) :
    number.bind (s.enter symbol parent).placeAt = number.bind s.placeAt := by
  cases number with
  | none => rfl
  | some i => exact placeAt_enter_of_lt symbol parent (h i rfl)

theorem Valid.lt_of_container (valid : s.Valid) : ∀ i ∈ s.container, i < s.next := by
  intro i found
  obtain ⟨f, member, entry⟩ := List.exists_of_findSome?_eq_some found
  exact valid.frames f member i entry

/-- The innermost scope with an entry is the innermost one with a place. -/
theorem Valid.bind_container (valid : s.Valid) :
    s.container.bind s.placeAt = s.sketch.innermost := by
  have general : ∀ frames : List Frame, (∀ f ∈ frames, ∀ i ∈ f.entry, i < s.next) →
      (frames.findSome? (·.entry)).bind s.placeAt =
        (frames.map fun f => f.entry.bind s.placeAt).findSome? id := by
    intro frames
    induction frames with
    | nil => intro _; rfl
    | cons f frames ih =>
      intro bounded
      have rest := ih fun g member => bounded g (List.mem_cons_of_mem f member)
      cases entry : f.entry with
      | none => simpa [entry] using rest
      | some i =>
        obtain ⟨place, found⟩ := Option.isSome_iff_exists.mp
          (isSome_placeAt (bounded f List.mem_cons_self i entry))
        simp [entry, found]
  exact general s.frames valid.frames

/-- Entering a symbol adds its link and nothing else. -/
theorem Valid.sketch_enter (valid : s.Valid) (symbol : Symbol) {parent : Option Nat}
    (bounded : ∀ i ∈ parent, i < s.next) :
    (s.enter symbol parent).sketch =
      { s.sketch with
        links := s.sketch.links ++ [(parent.bind s.placeAt, symbol.place)] } := by
  have links : s.layout.map (fun e => (e.1.bind (s.enter symbol parent).placeAt, e.2)) =
      s.sketch.links := by
    apply List.map_congr_left
    intro e member
    obtain ⟨i, found⟩ := List.getElem?_of_mem member
    have below : i < s.next := by
      rw [← length_layout]
      exact (List.getElem?_eq_some_iff.mp found).1
    rw [bind_placeAt_enter symbol parent fun p waits =>
      lt_trans (valid.parents i e found p waits) below]
  have scopes : s.frames.map (fun f => f.entry.bind (s.enter symbol parent).placeAt) =
      s.sketch.scopes := by
    apply List.map_congr_left
    intro f member
    exact bind_placeAt_enter symbol parent (valid.frames f member)
  have owner := bind_placeAt_enter symbol parent valid.owner
  simp only [sketch, layout_enter, List.map_append, List.map_cons, List.map_nil,
    bind_placeAt_enter symbol parent bounded, links]
  simp only [enter] at scopes owner ⊢
  rw [scopes, owner]
  rfl

theorem Valid.enter (valid : s.Valid) (symbol : Symbol) {parent : Option Nat}
    (bounded : ∀ i ∈ parent, i < s.next) : (s.enter symbol parent).Valid where
  parents := by
    intro i e found p waits
    rw [layout_enter] at found
    rcases Nat.lt_or_ge i s.layout.length with earlier | later
    · rw [List.getElem?_append_left earlier] at found
      exact valid.parents i e found p waits
    · rw [List.getElem?_append_right later, List.getElem?_singleton] at found
      split at found
      · obtain rfl := Option.some.inj found
        have := bounded p waits
        rw [← length_layout] at this
        omega
      · exact absurd found (by simp)
  frames := by
    intro f member i entry
    have := valid.frames f member i entry
    rw [next_enter]
    omega
  owner := by
    intro i owned
    have := valid.owner i owned
    rw [next_enter]
    omega

theorem Valid.pop (valid : s.Valid) : s.pop.Valid where
  parents := valid.parents
  frames := fun f member => valid.frames f (List.mem_of_mem_tail member)
  owner := by simp [Scan.pop]

theorem Valid.push (valid : s.Valid) (frame : Frame) (bounded : ∀ i ∈ frame.entry, i < s.next) :
    (s.push frame).Valid where
  parents := valid.parents
  frames := by
    intro f member
    rcases List.mem_cons.mp member with rfl | earlier
    · exact bounded
    · exact valid.frames f earlier
  owner := valid.owner

/-- Refining symbols changes no place. -/
theorem layout_settle (s : Scan) (refine : Symbol → Symbol)
    (same : ∀ symbol, (refine symbol).place = symbol.place) :
    (s.settle refine).layout = s.layout := by
  have general : ∀ (pending : List Nat) (entries : List Entry),
      (pending.foldl (fun entries i =>
        entries.modify i fun e => { e with symbol := refine e.symbol }) entries).map
          (fun e => (e.parent, e.symbol.place)) =
        entries.map fun e => (e.parent, e.symbol.place) := by
    intro pending
    induction pending with
    | nil => intro _; rfl
    | cons i pending ih =>
      intro entries
      rw [List.foldl_cons, ih]
      apply List.ext_getElem?
      intro j
      simp only [List.getElem?_map, List.getElem?_modify]
      split
      · cases entries[j]? <;> simp [same]
      · cases entries[j]? <;> rfl
  exact general s.pending s.entries

/-- Only the layout, the frames and the owner are sketched and have to be valid. -/
structure Alike (s t : Scan) : Prop where
  layout : s.layout = t.layout
  frames : s.frames = t.frames
  owner : s.owner = t.owner

theorem Alike.sketch_eq {s t : Scan} (alike : s.Alike t) : s.sketch = t.sketch := by
  have placeAt : s.placeAt = t.placeAt := by
    funext i
    rw [Scan.placeAt, alike.layout, Scan.placeAt]
  simp only [sketch, placeAt, alike.layout, alike.frames, alike.owner]

theorem Alike.valid {s t : Scan} (alike : s.Alike t) (valid : t.Valid) : s.Valid := by
  have next : s.next = t.next := by rw [← length_layout, alike.layout, length_layout]
  refine ⟨?_, ?_, ?_⟩
  · rw [alike.layout]; exact valid.parents
  · rw [alike.frames, next]; exact valid.frames
  · rw [alike.owner, next]; exact valid.owner

/-- An operand leaves everything in its place. -/
theorem alike_classify (text : Text) (s : Scan) : (s.classify text).Alike s := by
  unfold classify
  simp only
  split
  · exact ⟨rfl, rfl, rfl⟩
  · split
    · exact ⟨rfl, rfl, rfl⟩
    · split
      · rename_i kind detail _
        exact ⟨layout_settle s (fun symbol => { symbol with kind, detail }) fun _ => rfl, rfl, rfl⟩
      · exact ⟨layout_settle s _ fun _ => rfl, rfl, rfl⟩

/-- Entering a symbol adds its link, whatever happens to the labels that wait for an operand. -/
theorem Valid.enterWith (valid : s.Valid) (symbol : Symbol) {parent : Option Nat}
    (bounded : ∀ i ∈ parent, i < s.next) (pending : List Nat) :
    ({ s.enter symbol parent with pending } : Scan).Valid ∧
      ({ s.enter symbol parent with pending } : Scan).sketch =
        { s.sketch with
          links := s.sketch.links ++ [(parent.bind s.placeAt, symbol.place)] } := by
  have alike : ({ s.enter symbol parent with pending } : Scan).Alike (s.enter symbol parent) :=
    ⟨rfl, rfl, rfl⟩
  refine ⟨alike.valid (valid.enter symbol bounded), ?_⟩
  rw [alike.sketch_eq, valid.sketch_enter symbol bounded]

/-- An entry can become the owner. -/
theorem Valid.own (valid : s.Valid) {i : Nat} (bounded : i < s.next) :
    ({ s with owner := some i } : Scan).Valid ∧
      ({ s with owner := some i } : Scan).sketch = { s.sketch with owner := s.placeAt i } := by
  refine ⟨⟨valid.parents, valid.frames, ?_⟩, rfl⟩
  intro j owned
  obtain rfl := Option.some.inj owned
  exact bounded

/-- The symbol of a label that has no operand yet. -/
def labelSymbol (s : Scan) (line : Nat) (label : Named) : Symbol :=
  ⟨label.text, s.defaultKind, line, label.column, []⟩

/-- The entry that a label hangs under. -/
def labelParent (s : Scan) (options : OutlineOptions) (label : Named) : Option Nat :=
  match label.text.head? with
  | some '.' => s.owner <|> s.container
  | some '@' => if options.nestCheap then s.container else none
  | _ => s.container

/-- A label hangs under the owner, or under the innermost scope with an entry. -/
theorem of_mem_labelParent {holds : Nat → Prop} (ofOwner : ∀ i ∈ s.owner, holds i)
    (ofContainer : ∀ i ∈ s.container, holds i) (options : OutlineOptions) (label : Named) :
    ∀ i ∈ s.labelParent options label, holds i := by
  intro i isParent
  unfold labelParent at isParent
  split at isParent
  · cases owner : s.owner with
    | none => exact ofContainer i (by simpa [owner] using isParent)
    | some j => exact ofOwner i (by simpa [owner] using isParent)
  · split_ifs at isParent
    · exact ofContainer i isParent
    · simp at isParent
  · exact ofContainer i isParent

/-- The place of that entry is the one that the kind of label asks for. -/
theorem Valid.bind_labelParent (valid : s.Valid) (options : OutlineOptions) (label : Named) :
    (s.labelParent options label).bind s.placeAt =
      (Emission.label label).parentIn options s.sketch.owner s.sketch.innermost := by
  rw [← valid.bind_container]
  by_cases isLocal : label.text.head? = some '.'
  · simp only [labelParent, Emission.parentIn, isLocal]
    cases owned : s.owner with
    | none => simp [sketch, owned]
    | some j =>
      obtain ⟨owner, found⟩ := Option.isSome_iff_exists.mp (isSome_placeAt (valid.owner j owned))
      simp [sketch, owned, found]
  · by_cases isCheap : label.text.head? = some '@'
    · simp only [labelParent, Emission.parentIn, isCheap]
      split_ifs <;> rfl
    · simp only [labelParent, Emission.parentIn]

/-- A `.local` or an `@cheap` label waits with those before it. -/
theorem addLabel_of_relative (s : Scan) (options : OutlineOptions) (line : Nat) {label : Named}
    (relative : label.absolute? = none) :
    s.addLabel options line label =
      { s.enter (s.labelSymbol line label) (s.labelParent options label) with
        pending := s.pending ++ [s.next] } := by
  unfold Named.absolute? at relative
  unfold addLabel labelParent labelSymbol
  split at relative <;> simp_all

/-- An absolute label is the owner of what follows, and the only one that waits. -/
theorem addLabel_of_absolute (s : Scan) (options : OutlineOptions) (line : Nat)
    {label name : Named} (absolute : label.absolute? = some name) :
    s.addLabel options line label =
      { s.enter (s.labelSymbol line label) (s.labelParent options label) with
        owner := some s.next, pending := [s.next] } := by
  unfold Named.absolute? at absolute
  unfold addLabel labelParent labelSymbol
  split at absolute <;> simp_all

/-- A label is entered where its kind of label belongs, and an absolute one becomes the owner. -/
theorem Valid.addLabel (valid : s.Valid) (options : OutlineOptions) (line : Nat) (label : Named) :
    (s.addLabel options line label).Valid ∧
      (s.addLabel options line label).sketch =
        { s.sketch with
          links := s.sketch.links ++
            [((Emission.label label).parentIn options s.sketch.owner s.sketch.innermost,
              label.onLine line)]
          owner := label.absolute?.map (·.onLine line) <|> s.sketch.owner } := by
  have bounded := of_mem_labelParent valid.owner valid.lt_of_container options label
  have place := valid.bind_labelParent options label
  cases kind : label.absolute? with
  | none =>
    have entered := valid.enterWith (s.labelSymbol line label) bounded (s.pending ++ [s.next])
    rw [place] at entered
    rw [addLabel_of_relative s options line kind]
    exact entered
  | some name =>
    obtain rfl := Named.eq_of_absolute? kind
    obtain ⟨entered, seen⟩ := valid.enterWith (s.labelSymbol line label) bounded [s.next]
    obtain ⟨owned, shown⟩ := entered.own (i := s.next) (by simp [next, Scan.enter])
    have owner := placeAt_enter_next s (s.labelSymbol line label) (s.labelParent options label)
    rw [place] at seen
    rw [addLabel_of_absolute s options line kind]
    refine ⟨owned, shown.trans ?_⟩
    rw [seen]
    exact congrArg (Sketch.mk _ _) owner

/-- A name is entered in the innermost scope. -/
theorem Valid.enterNamed (valid : s.Valid) (kind : SymbolKind) (line : Nat) (name : Named) :
    (s.enter ⟨name.text, kind, line, name.column, []⟩ s.container).Valid ∧
      (s.enter ⟨name.text, kind, line, name.column, []⟩ s.container).sketch =
        { s.sketch with
          links := s.sketch.links ++ [(s.sketch.innermost, name.onLine line)] } := by
  refine ⟨valid.enter _ valid.lt_of_container, ?_⟩
  rw [valid.sketch_enter _ valid.lt_of_container, valid.bind_container]
  rfl

/-- A scope is opened by the name that was just entered. -/
theorem Valid.enterScope (valid : s.Valid) (kind : SymbolKind) (line : Nat) (name : Named)
    (scope : ScopeKind) :
    ((s.enter ⟨name.text, kind, line, name.column, []⟩ s.container).push
        ⟨name.text, scope, some s.next⟩).Valid ∧
      ((s.enter ⟨name.text, kind, line, name.column, []⟩ s.container).push
        ⟨name.text, scope, some s.next⟩).sketch =
        { s.sketch with
          links := s.sketch.links ++ [(s.sketch.innermost, name.onLine line)]
          scopes := some (name.onLine line) :: s.sketch.scopes } := by
  obtain ⟨entered, seen⟩ := valid.enterNamed kind line name
  refine ⟨entered.push _ ?_, ?_⟩
  · intro i found
    obtain rfl := Option.some.inj found
    simp
  · have place := placeAt_enter_next s ⟨name.text, kind, line, name.column, []⟩ s.container
    have pushed : ∀ (t : Scan) (frame : Frame), (t.push frame).sketch =
        { t.sketch with scopes := frame.entry.bind t.placeAt :: t.sketch.scopes } :=
      fun _ _ => rfl
    rw [pushed, seen, Option.bind_some, place]
    rfl

/-- What follows a label is placed in the innermost scope, or at the top if it defines a macro, and
    scopes are opened and closed as the line says. -/
theorem Valid.addStatement (valid : s.Valid) (options : OutlineOptions) (line : Nat)
    (statement : Statement) :
    (s.addStatement line statement).Valid ∧
      (s.addStatement line statement).sketch =
        s.sketch.step options line (.plain none statement) := by
  have still : ∀ v : Sketch, v = { v with links := v.links ++ [] } := by simp
  cases statement with
  | block name =>
    cases name with
    | none =>
      have alike : (s.addStatement line (.block none)).Alike (s.push ⟨[], .block, none⟩) :=
        ⟨rfl, rfl, rfl⟩
      refine ⟨alike.valid (valid.push _ (by simp)), ?_⟩
      rw [alike.sketch_eq]
      exact still _
    | some name =>
      obtain ⟨opened, seen⟩ := valid.enterScope .method line name .block
      have alike : (s.addStatement line (.block (some name))).Alike
          ((s.enter ⟨name.text, .method, line, name.column, []⟩ s.container).push
            ⟨name.text, .block, some s.next⟩) := ⟨rfl, rfl, rfl⟩
      exact ⟨alike.valid opened, alike.sketch_eq.trans seen⟩
  | define name =>
    cases name with
    | none =>
      have alike : (s.addStatement line (.define none)).Alike s := ⟨rfl, rfl, rfl⟩
      exact ⟨alike.valid valid, alike.sketch_eq.trans (still _)⟩
    | some name =>
      obtain ⟨entered, seen⟩ := valid.enterNamed .method line name
      have alike : (s.addStatement line (.define (some name))).Alike
          (s.enter ⟨name.text, .method, line, name.column, []⟩ s.container) := ⟨rfl, rfl, rfl⟩
      exact ⟨alike.valid entered, alike.sketch_eq.trans seen⟩
  | close =>
    have alike : (s.addStatement line .close).Alike s.pop := ⟨rfl, rfl, rfl⟩
    have tail : s.pop.sketch = { s.sketch with scopes := s.sketch.scopes.tail, owner := none } := by
      simp only [sketch, Scan.pop, List.map_tail, Option.bind_none]
      rfl
    exact ⟨alike.valid valid.pop, alike.sketch_eq.trans (tail.trans (still _))⟩
  | macroDef name =>
    exact valid.enterWith ⟨name.text, .method, line, name.column, []⟩ (by simp) []
  | scope kind name =>
    cases name with
    | none =>
      have alike : (s.addStatement line (.scope kind none)).Alike s := ⟨rfl, rfl, rfl⟩
      exact ⟨alike.valid valid, alike.sketch_eq.trans (still _)⟩
    | some name =>
      obtain ⟨opened, seen⟩ := valid.enterScope
        (if kind == .moduleScope then .moduleName else .structName) line name kind
      have alike : (s.addStatement line (.scope kind (some name))).Alike
          ((s.enter ⟨name.text, if kind == .moduleScope then .moduleName else .structName, line,
            name.column, []⟩ s.container).push ⟨name.text, kind, some s.next⟩) := ⟨rfl, rfl, rfl⟩
      exact ⟨alike.valid opened, alike.sketch_eq.trans seen⟩
  | operand text =>
    have alike := alike_classify text s
    exact ⟨alike.valid valid, alike.sketch_eq.trans (still _)⟩

/-- One line changes a scan as it changes its sketch. -/
theorem Valid.step (valid : s.Valid) (options : OutlineOptions) (line : Nat) (r : Reading) :
    (s.step options line r).Valid ∧
      (s.step options line r).sketch = s.sketch.step options line r := by
  cases r with
  | macroLabel name =>
    exact valid.enterWith ⟨name.text, .method, line, name.column, []⟩ (by simp) []
  | plain label statement =>
    cases label with
    | none => exact valid.addStatement options line statement
    | some label =>
      obtain ⟨labelled, seen⟩ := valid.addLabel options line label
      obtain ⟨stated, shown⟩ := labelled.addStatement options line statement
      refine ⟨stated, shown.trans ?_⟩
      rw [seen, Sketch.step_label]

/-- All lines together change a scan as they change its sketch. -/
theorem Valid.feed (valid : s.Valid) (options : OutlineOptions) (n : Nat) (lines : List Text) :
    (s.feed options n lines).Valid ∧
      (s.feed options n lines).sketch =
        s.sketch.run options n (lines.map (Reading.ofLine options)) := by
  induction lines generalizing s n with
  | nil => exact ⟨valid, rfl⟩
  | cons text rest ih =>
    obtain ⟨stepped, seen⟩ := valid.step options n (.ofLine options text)
    have later := ih stepped (n + 1)
    rw [seen] at later
    exact later

theorem feed_append (options : OutlineOptions) (n : Nat) (s : Scan) (before after : List Text) :
    s.feed options n (before ++ after) =
      (s.feed options n before).feed options (n + before.length) after := by
  induction before generalizing s n with
  | nil => rfl
  | cons line before ih =>
    rw [List.cons_append, feed, ih, feed, List.length_cons, Nat.add_assoc, Nat.add_comm 1]

theorem valid_empty : Valid {} :=
  ⟨by simp [layout], by simp, by simp⟩

end Scan

namespace Sketch

theorem run_concat (options : OutlineOptions) (n : Nat) (v : Sketch) (rs : List Reading)
    (r : Reading) :
    v.run options n (rs ++ [r]) = (v.run options n rs).step options (n + rs.length) r := by
  simp [run, List.zipIdx_append]

/-- The owner is that of the lines before. -/
theorem owner_run (options : OutlineOptions) (rs : List Reading) :
    (run options 0 {} rs).owner = History.owner? rs := by
  induction rs using List.reverseRecOn with
  | nil => rfl
  | append_singleton rs r ih =>
    rw [run_concat, History.owner_concat, ← ih, Nat.zero_add]
    rfl

/-- The innermost scope is that of the lines before. -/
theorem innermost_run (options : OutlineOptions) (rs : List Reading) :
    (run options 0 {} rs).innermost = History.innermost? rs := by
  have scopes : ∀ (lines : List (Reading × Nat)) (v : Sketch),
      (lines.foldl (fun v line => v.step options line.2 line.1) v).scopes =
        lines.foldl (fun scopes line => History.scopesAfter line.2 line.1 scopes) v.scopes := by
    intro lines
    induction lines with
    | nil => intro _; rfl
    | cons line lines ih => intro v; exact ih _
  rw [innermost, run, scopes, History.innermost_eq_foldl]

/-- Every line adds the names that it enters by itself, where the lines before put them. -/
theorem links_run (options : OutlineOptions) (rs : List Reading) :
    (run options 0 {} rs).links =
      rs.zipIdx.flatMap fun line => line.1.emissions.map fun e =>
        (e.parent options (rs.take line.2), e.named.onLine line.2) := by
  induction rs using List.reverseRecOn with
  | nil => rfl
  | append_singleton rs r ih =>
    have earlier : rs.zipIdx.flatMap (fun line => line.1.emissions.map fun e =>
        (e.parent options ((rs ++ [r]).take line.2), e.named.onLine line.2)) =
          (run options 0 {} rs).links := by
      rw [ih]
      apply List.flatMap_congr
      intro line member
      have before : line.2 < rs.length := List.snd_lt_of_mem_zipIdx member
      rw [List.take_append_of_le_length (by omega)]
    rw [run_concat, List.zipIdx_append, List.flatMap_append, Nat.zero_add, earlier]
    simp only [step, owner_run, innermost_run, List.zipIdx_cons, List.zipIdx_nil,
      List.flatMap_cons, List.flatMap_nil, List.append_nil, List.take_left, Emission.parent]

end Sketch

/-- The places of a link. -/
def Link.places (l : Link) : Option Place × Place :=
  (l.1.map Symbol.place, l.2.place)

theorem Scan.Valid.ordered {s : Scan} (valid : s.Valid) : Entry.Ordered s.entries := by
  intro i e p found parent
  refine valid.parents i (e.parent, e.symbol.place) ?_ p parent
  simp [layout, found]

/-- The trees show what was sketched. -/
theorem Scan.Valid.links_forest {s : Scan} (valid : s.Valid) :
    ((SymbolForest.links none (Entry.forest s.entries)).map Link.places).Perm s.sketch.links := by
  refine ((Entry.links_forest s.entries valid.ordered).map Link.places).trans
    (List.Perm.of_eq ?_)
  rw [List.map_map, Scan.sketch, Scan.layout, List.map_map]
  apply List.map_congr_left
  intro e _
  cases parent : e.parent with
  | none => simp [Entry.link, Link.places, parent]
  | some i =>
    simp only [Function.comp_apply, Entry.link, Link.places, parent, Option.bind_some, placeAt,
      layout, List.getElem?_map, Option.map_map]
    rfl

/-- An outline has the links that its lines sketch. -/
theorem links_outline (options : OutlineOptions) (lines : List Text) :
    ((SymbolForest.links none (outline options lines)).map Link.places).Perm
      (Sketch.run options 0 {} (lines.map (Reading.ofLine options))).links := by
  obtain ⟨valid, seen⟩ := Scan.valid_empty.feed options 0 lines
  have shown := valid.links_forest
  rw [seen] at shown
  exact shown

/-- Lines sketch the names that each of them enters by itself, where the lines before put them. -/
theorem links_run_lines (options : OutlineOptions) (lines : List Text) :
    (Sketch.run options 0 {} (lines.map (Reading.ofLine options))).links =
      lines.zipIdx.flatMap fun line => (Emission.ofLine options line.1).map fun e =>
        (e.parent options ((lines.take line.2).map (Reading.ofLine options)),
          e.named.onLine line.2) := by
  rw [Sketch.links_run, List.zipIdx_map, List.flatMap_map]
  simp only [Prod.map_fst, Prod.map_snd, id_eq, Reading.emissions_ofLine, List.map_take]

/-- Nothing is lost and nothing is shown twice: the outline holds the names that the lines enter,
    each of them read alone, and every one of them hangs in one place only. -/
theorem perm_emissions (options : OutlineOptions) (lines : List Text) :
    (((outline options lines).walk.map Symbol.place).Perm
      (lines.zipIdx.flatMap fun line =>
        (Emission.ofLine options line.1).map fun e => e.named.onLine line.2)) ∧
    ((SymbolForest.links none (outline options lines)).map fun l => l.2.place).Perm
      (lines.zipIdx.flatMap fun line =>
        (Emission.ofLine options line.1).map fun e => e.named.onLine line.2) := by
  have linked := (links_outline options lines).map (·.2)
  rw [links_run_lines, List.map_map, List.map_flatMap] at linked
  simp only [List.map_map] at linked
  have walked := SymbolForest.map_snd_links none (outline options lines)
  refine ⟨?_, linked⟩
  rw [← walked, List.map_map]
  exact linked

/-- Every symbol of an outline hangs where the lines before it say: macros and, unless they are
    nested, `@cheap` labels stand at the top; a `.local` label hangs under the last absolute label
    that no scope was closed behind; everything else, and a `.local` label without such an owner,
    hangs under the innermost open scope that has a name. -/
theorem outline_placement (options : OutlineOptions) (lines : List Text) :
    ((SymbolForest.links none (outline options lines)).map Link.places).Perm
      (lines.zipIdx.flatMap fun line => (Emission.ofLine options line.1).map fun e =>
        (e.parent options ((lines.take line.2).map (Reading.ofLine options)),
          e.named.onLine line.2)) := by
  rw [← links_run_lines]
  exact links_outline options lines

end AsmAtlas
