import AsmAtlas.Outline.Reading
import AsmAtlas.Proofs.Matching
import AsmAtlas.Proofs.OutlineTree
import Mathlib.Data.List.Infix
import Mathlib.Data.List.Range

/-!
# What the lines before say

The names that a line enters into the outline are found in the line alone. Where they belong is
decided by the lines before: which of the scopes that were opened are still open, and which label
owns the `.local` ones. Both are said here of the readings of these lines, without any state that
is carried along, and the laws say how one more line changes them.
-/

namespace AsmAtlas

/-- The place of a name that was read on a line. -/
def Named.onLine (n : Named) (line : Nat) : Place :=
  ⟨n.text, line, n.column⟩

/-- A label, unless it is marked as a `.local` or an `@cheap` one. -/
def Named.absolute? (label : Named) : Option Named :=
  match label.text.head? with
  | some '.' => none
  | some '@' => none
  | _ => some label

theorem Named.eq_of_absolute? {label name : Named} (absolute : label.absolute? = some name) :
    label = name := by
  unfold Named.absolute? at absolute
  split at absolute <;> simp_all

/-- A name that a line enters into the outline. -/
inductive Emission where
  | label (name : Named)
  /-- `MACRO name` or `name MACRO`. -/
  | macroName (name : Named)
  /-- The name in a directive of CA65, or of a module or structure. -/
  | scopeName (name : Named)
deriving DecidableEq

namespace Emission

/-- The name itself. -/
def named : Emission → Named
  | label name => name
  | macroName name => name
  | scopeName name => name

/-- The name in what follows a label: in a directive of CA65, else of a macro, else of a module or
    structure. The first kind of directive that is there rules out the others, and what closes a
    scope enters nothing. -/
def behindLabel (dialect : Dialect) (text : Text) : List Emission :=
  match (Directive.blockLine dialect).matchStart text with
  | some m => (m.named? .name text).toList.map scopeName
  | none =>
    if (Directive.blockEndLine dialect).accepts text then []
    else
      match (Directive.macroLine dialect).matchStart text with
      | some m => (m.named? .name text).toList.map macroName
      | none =>
        match Statement.scopeLine? dialect text with
        | none => []
        | some m =>
          let keyword := m.textOf .keyword text
          if keyword.sameAscii "ENDMODULE".toList || keyword.sameAscii "ENDS".toList then []
          else (m.named? .name text).toList.map scopeName

/-- The names that a line enters when nothing is known about other lines: its label, unless it is
    excluded, and, unless the label is that of a macro, the name in what follows. -/
def ofLine (options : OutlineOptions) (line : Text) : List Emission :=
  match Reading.label? options line with
  | none => behindLabel options.dialect line
  | some hit =>
    let name : Named := ⟨hit.span.of line, hit.span.start⟩
    let rest := hit.after line
    if Directive.macroAfterLabel.accepts rest then [macroName name]
    else label name :: behindLabel options.dialect rest

end Emission

/-- The names that a statement enters. -/
def Statement.emissions : Statement → List Emission
  | .block name => name.toList.map .scopeName
  | .define name => name.toList.map .scopeName
  | .macroDef name => [.macroName name]
  | .scope _ name => name.toList.map .scopeName
  | .close => []
  | .operand _ => []

namespace Reading

/-- The names that a reading enters. -/
def emissions : Reading → List Emission
  | macroLabel name => [.macroName name]
  | plain label statement => label.toList.map .label ++ statement.emissions

/-- The scope that a line opens, with its name if it has one. -/
def opened? : Reading → Option (Option Named)
  | plain _ (.block name) => some name
  | plain _ (.scope _ (some name)) => some (some name)
  | _ => none

/-- Whether a line opens a scope. -/
def opens (r : Reading) : Bool :=
  r.opened?.isSome

/-- Whether a line closes a scope. -/
def closes : Reading → Bool
  | plain _ .close => true
  | _ => false

/-- The label of a line that is neither relative nor that of a macro. -/
def absoluteLabel? : Reading → Option Named
  | plain (some label) _ => label.absolute?
  | _ => none

end Reading

/-- A match of a macro definition has a name. -/
theorem named_of_macroLine {dialect : Dialect} {text : Text} {m : Match}
    (h : (Directive.macroLine dialect).matchStart text = some m) :
    ∃ name, m.named? .name text = some name := by
  rw [Pattern.matchStart_eq] at h
  obtain ⟨there, first, rfl⟩ := Option.map_eq_some_iff.mp h
  have member := List.mem_of_head? first
  simp only [Directive.macroLine, Pattern.all, Pattern.ends, List.mem_flatMap, List.mem_map]
    at member
  obtain ⟨_, _, _, _, _, _, _, _, rfl⟩ := member
  exact ⟨_, rfl⟩

theorem Statement.emissions_read (dialect : Dialect) (text : Text) :
    (Statement.read dialect text).emissions = Emission.behindLabel dialect text := by
  unfold Statement.read Emission.behindLabel
  cases (Directive.blockLine dialect).matchStart text with
  | some m =>
    simp only
    split <;> rfl
  | none =>
    simp only
    split
    · rfl
    · cases defined : (Directive.macroLine dialect).matchStart text with
      | some m =>
        obtain ⟨name, named⟩ := named_of_macroLine defined
        simp [named, Statement.emissions]
      | none =>
        cases Statement.scopeLine? dialect text with
        | none => rfl
        | some m =>
          simp only [Statement.ofScopeLine]
          split <;> rfl

/-- A reading enters what the line does by itself. -/
theorem Reading.emissions_ofLine (options : OutlineOptions) (line : Text) :
    (Reading.ofLine options line).emissions = Emission.ofLine options line := by
  unfold Reading.ofLine Emission.ofLine
  cases Reading.label? options line with
  | none => simp [Reading.emissions, Statement.emissions_read]
  | some hit =>
    simp only
    split
    · rfl
    · simp [Reading.emissions, Statement.emissions_read]

namespace History

/-- Whether a scope is still open after some lines: up to none of them the closing lines outnumber
    the opening ones. -/
def staysOpen (later : List Reading) : Bool :=
  later.inits.all fun part => part.countP (·.closes) ≤ part.countP (·.opens)

/-- The name of the scope that line `k` opens, if the lines behind it leave it open. -/
def scopeOn (before : List Reading) (k : Nat) : Option Named :=
  if staysOpen (before.drop (k + 1)) then before[k]?.bind fun r => r.opened?.join else none

/-- The innermost scope with a name that is open after some lines. -/
def innermost? (before : List Reading) : Option Place :=
  (List.range before.length).reverse.findSome? fun k => (scopeOn before k).map (·.onLine k)

/-- The absolute label of line `k`, unless a scope is closed on this line or a later one. -/
def ownerOn (before : List Reading) (k : Nat) : Option Place :=
  if (before.drop k).any (·.closes) then none
  else (before[k]?.bind (·.absoluteLabel?)).map (·.onLine k)

/-- The owner of `.local` labels after some lines: the last absolute label that no scope was closed
    behind. -/
def owner? (before : List Reading) : Option Place :=
  (List.range before.length).reverse.findSome? (ownerOn before)

/-- How many scopes that were open before some lines are closed by them. -/
def surplus : List Reading → Nat
  | [] => 0
  | r :: rest => if r.closes then surplus rest + 1 else surplus rest - if r.opens then 1 else 0

theorem opens_eq_false_of_closes {r : Reading} (h : r.closes) : r.opens = false := by
  unfold Reading.closes at h
  split at h
  · rfl
  · exact absurd h (by simp)

/-- The surplus bounds how far the closing lines are ahead anywhere. -/
theorem surplus_le_iff (later : List Reading) (d : Nat) :
    surplus later ≤ d ↔
      ∀ part ∈ later.inits, part.countP (·.closes) ≤ part.countP (·.opens) + d := by
  induction later generalizing d with
  | nil => simp [surplus]
  | cons r rest ih =>
    simp only [surplus, List.inits_cons, List.mem_cons, List.mem_map, forall_eq_or_imp,
      forall_exists_index, and_imp, forall_apply_eq_imp_iff₂, List.countP_nil, List.countP_cons]
    by_cases closes : r.closes
    · have opens := opens_eq_false_of_closes closes
      simp only [closes, opens, if_true, Bool.false_eq_true, if_false]
      cases d with
      | zero =>
        constructor
        · intro h
          omega
        · intro h
          have := h.2 [] (by simp)
          simp at this
      | succ d =>
        rw [Nat.add_le_add_iff_right, and_iff_right (Nat.zero_le _)]
        exact (ih d).trans (forall₂_congr fun part _ => by omega)
    · by_cases opens : r.opens
      · simp only [closes, opens, if_true, Bool.false_eq_true, if_false]
        rw [Nat.sub_le_iff_le_add, and_iff_right (Nat.zero_le _)]
        exact (ih (d + 1)).trans (forall₂_congr fun part _ => by omega)
      · simp [closes, opens, ih]

theorem staysOpen_iff (later : List Reading) : staysOpen later ↔ surplus later = 0 := by
  rw [← Nat.le_zero, surplus_le_iff]
  simp [staysOpen]

/-- A stack after one more line, when `opening` says what a line puts on it. -/
def stackAfter {α : Type} (opening : Nat → Reading → Option α) (line : Nat) (r : Reading)
    (stack : List α) : List α :=
  match opening line r with
  | some top => top :: stack
  | none => if r.closes then stack.tail else stack

/-- What lines from number `n` on put on a stack and leave there, the first of it first. -/
def leftOpen {α : Type} (opening : Nat → Reading → Option α) : Nat → List Reading → List α
  | _, [] => []
  | n, r :: rest =>
    (if surplus rest = 0 then (opening n r).toList else []) ++ leftOpen opening (n + 1) rest

/-- Lines take away what was on a stack before them only as far as they have a surplus. -/
theorem foldl_stackAfter {α : Type} {opening : Nat → Reading → Option α}
    (isOpening : ∀ n r, (opening n r).isSome = r.opens) (rs : List Reading) (n : Nat)
    (stack : List α) :
    (rs.zipIdx n).foldl (fun stack line => stackAfter opening line.2 line.1 stack) stack =
      (leftOpen opening n rs).reverse ++ stack.drop (surplus rs) := by
  induction rs generalizing n stack with
  | nil => simp [leftOpen, surplus]
  | cons r rest ih =>
    rw [List.zipIdx_cons, List.foldl_cons, ih]
    have same := isOpening n r
    cases opened : opening n r with
    | some top =>
      have opens : r.opens := by simpa [opened] using same.symm
      have closes : r.closes = false := by
        by_contra closes
        simp [opens_eq_false_of_closes (by simpa using closes)] at opens
      cases more : surplus rest with
      | zero => simp [stackAfter, leftOpen, surplus, opened, opens, closes, more]
      | succ k => simp [stackAfter, leftOpen, surplus, opened, opens, closes, more]
    | none =>
      have opens : r.opens = false := by simpa [opened] using same.symm
      by_cases closes : r.closes
      · simp [stackAfter, leftOpen, surplus, opened, closes, List.drop_tail]
      · simp [stackAfter, leftOpen, surplus, opened, opens, closes]

/-- The open scopes, the innermost first, after one more line. -/
def scopesAfter (line : Nat) (r : Reading) (scopes : List (Option Place)) :
    List (Option Place) :=
  match r.opened? with
  | some name => name.map (·.onLine line) :: scopes
  | none => if r.closes then scopes.tail else scopes

/-- The label that owns `.local` ones after one more line. -/
def ownerAfter (line : Nat) (r : Reading) (owner : Option Place) : Option Place :=
  if r.closes then none else r.absoluteLabel?.map (·.onLine line) <|> owner

/-- The scopes that lines from number `n` on open and leave open, the outermost first. -/
def openFrom : Nat → List Reading → List (Option Place)
  | _, [] => []
  | n, r :: rest =>
    (if surplus rest = 0 then (r.opened?.map fun name => name.map (·.onLine n)).toList else []) ++
      openFrom (n + 1) rest

/-- The place that a line opens a scope at. -/
def openedAt (n : Nat) (r : Reading) : Option (Option Place) :=
  r.opened?.map fun name => name.map (·.onLine n)

theorem scopesAfter_eq (line : Nat) (r : Reading) (scopes : List (Option Place)) :
    scopesAfter line r scopes = stackAfter openedAt line r scopes := by
  unfold scopesAfter stackAfter openedAt
  cases r.opened? <;> rfl

theorem openFrom_eq (n : Nat) (rs : List Reading) : openFrom n rs = leftOpen openedAt n rs := by
  induction rs generalizing n with
  | nil => rfl
  | cons r rest ih => rw [openFrom, leftOpen, ih, openedAt]

/-- Lines close scopes that were open before them only as far as they have a surplus. -/
theorem foldl_scopesAfter (rs : List Reading) (n : Nat) (scopes : List (Option Place)) :
    (rs.zipIdx n).foldl (fun scopes line => scopesAfter line.2 line.1 scopes) scopes =
      (openFrom n rs).reverse ++ scopes.drop (surplus rs) := by
  simp only [scopesAfter_eq, openFrom_eq]
  exact foldl_stackAfter (fun _ _ => Option.isSome_map) rs n scopes

theorem findSome_openFrom (rs : List Reading) (n : Nat) :
    (openFrom n rs).reverse.findSome? id =
      (List.range rs.length).reverse.findSome? fun k =>
        (scopeOn rs k).map (·.onLine (n + k)) := by
  induction rs generalizing n with
  | nil => rfl
  | cons r rest ih =>
    rw [List.length_cons, List.range_succ_eq_map, List.reverse_cons, List.findSome?_append,
      ← List.map_reverse, List.findSome?_map, openFrom, List.reverse_append,
      List.findSome?_append, ih]
    congr 1
    · congr 1
      funext k
      simp [scopeOn, Nat.add_comm 1, Nat.add_assoc]
    · simp only [scopeOn, staysOpen_iff]
      by_cases more : surplus rest = 0
      · cases opened : r.opened? <;> simp [more, opened]
      · simp [more]

/-- The innermost scope with a name, when the open scopes are kept on a stack. -/
theorem innermost_eq_foldl (rs : List Reading) :
    innermost? rs =
      (rs.zipIdx.foldl (fun scopes line => scopesAfter line.2 line.1 scopes) []).findSome? id := by
  rw [foldl_scopesAfter, List.drop_nil, List.append_nil, findSome_openFrom]
  simp [innermost?]

theorem ownerOn_concat {rs : List Reading} {k : Nat} (earlier : k < rs.length) (r : Reading) :
    ownerOn (rs ++ [r]) k = if r.closes then none else ownerOn rs k := by
  rw [ownerOn, List.drop_append_of_le_length (by omega), List.getElem?_append_left earlier,
    List.any_append]
  by_cases closes : r.closes <;> simp [ownerOn, closes]

theorem findSome_congr {α β : Type} {f g : α → Option β} {xs : List α}
    (same : ∀ x ∈ xs, f x = g x) : xs.findSome? f = xs.findSome? g := by
  induction xs with
  | nil => rfl
  | cons x xs ih =>
    rw [List.findSome?_cons, List.findSome?_cons, same x List.mem_cons_self,
      ih fun y member => same y (List.mem_cons_of_mem x member)]

/-- The owner is kept up line by line. -/
theorem owner_concat (rs : List Reading) (r : Reading) :
    owner? (rs ++ [r]) = ownerAfter rs.length r (owner? rs) := by
  have here : ownerOn (rs ++ [r]) rs.length =
      if r.closes then none else r.absoluteLabel?.map (·.onLine rs.length) := by
    simp [ownerOn]
  have before : (List.range rs.length).reverse.findSome? (ownerOn (rs ++ [r])) =
      if r.closes then none else owner? rs := by
    rw [findSome_congr fun k member => ownerOn_concat (by simpa using member) r]
    by_cases closes : r.closes <;> simp [closes, owner?]
  rw [owner?, List.length_append, List.length_singleton, List.range_succ, List.reverse_append,
    List.reverse_singleton, List.singleton_append, List.findSome?_cons, here, before, ownerAfter]
  by_cases closes : r.closes
  · simp [closes]
  · cases label : r.absoluteLabel? <;> simp [closes]

end History

end AsmAtlas
