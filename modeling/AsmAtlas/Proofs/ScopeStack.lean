import AsmAtlas.Proofs.OutlinePlacement
import Mathlib.Data.Int.Order.Basic
import Mathlib.Order.Bounds.Basic
import Mathlib.Tactic.Linarith

/-!
# The stack of open scopes

Every line is an opening, a closing or a neutral one, by what it says on its own. A closing line
takes away the innermost scope, whatever opened it, and does nothing where none is open. So the
scopes that are open after some lines are those of the opening lines behind which the closing lines
never outnumber the opening ones, and their number is the greatest lead that the opening lines have
on any last part of the lines.
-/

namespace AsmAtlas

/-- An open scope as it stands in the text. -/
structure OpenScope where
  /-- Its name, empty for an anonymous block. -/
  name : Text
  kind : ScopeKind
  /-- The place of the symbol of its name; anonymous blocks have none. -/
  place : Option Place
deriving DecidableEq

/-- The scope that line `n` opens: a block of CA65, named or not, or a `MODULE` or `STRUCT` with a
    name. The keywords that close one are told by their ASCII letters, in any case. -/
def Reading.opening? (n : Nat) : Reading → Option OpenScope
  | plain _ (.block name) =>
    some ⟨(name.map (·.text)).getD [], .block, name.map (·.onLine n)⟩
  | plain _ (.scope kind (some name)) => some ⟨name.text, kind, some (name.onLine n)⟩
  | _ => none

theorem Reading.isSome_opening (n : Nat) (r : Reading) : (r.opening? n).isSome = r.opens := by
  cases r with
  | macroLabel name => rfl
  | plain label statement =>
    cases statement with
    | scope kind name => cases name <;> rfl
    | _ => rfl

/-- The place of what a line opens is that of its name. -/
theorem Reading.place_opening (n : Nat) (r : Reading) :
    (r.opening? n).map (·.place) = History.openedAt n r := by
  cases r with
  | macroLabel name => rfl
  | plain label statement =>
    cases statement with
    | scope kind name => cases name <;> rfl
    | _ => rfl

namespace History

/-- The scopes that lines from number `n` on open and leave open, the outermost first: those of the
    opening lines behind which the closing lines outnumber the opening ones nowhere. -/
def openScopes (n : Nat) (rs : List Reading) : List OpenScope :=
  (List.range rs.length).filterMap fun k =>
    if staysOpen (rs.drop (k + 1)) then rs[k]?.bind (·.opening? (n + k)) else none

/-- Behind the first line the other lines say by themselves what they leave open. -/
theorem openScopes_cons (n : Nat) (r : Reading) (rest : List Reading) :
    openScopes n (r :: rest) =
      (if staysOpen rest then (r.opening? n).toList else []) ++ openScopes (n + 1) rest := by
  have later : ((fun k => if staysOpen ((r :: rest).drop (k + 1)) then
        (r :: rest)[k]?.bind (·.opening? (n + k)) else none) ∘ Nat.succ) =
      fun k => if staysOpen (rest.drop (k + 1)) then rest[k]?.bind (·.opening? (n + 1 + k))
        else none := by
    funext k
    simp [Nat.add_comm 1, Nat.add_assoc]
  rw [openScopes, List.length_cons, List.range_succ_eq_map, List.filterMap_cons, List.filterMap_map,
    later, ← openScopes]
  by_cases stays : staysOpen rest
  · cases opened : r.opening? n <;> simp [stays, opened]
  · simp [stays]

theorem openScopes_eq (n : Nat) (rs : List Reading) :
    openScopes n rs = leftOpen Reading.opening? n rs := by
  induction rs generalizing n with
  | nil => rfl
  | cons r rest ih =>
    rw [openScopes_cons, leftOpen, ih]
    simp only [staysOpen_iff]

/-- How far the opening lines are ahead of the closing ones. -/
def lead (part : List Reading) : ℤ :=
  part.countP (·.opens) - part.countP (·.closes)

theorem lead_concat (part : List Reading) (r : Reading) :
    lead (part ++ [r]) =
      if r.opens then lead part + 1 else if r.closes then lead part - 1 else lead part := by
  by_cases opens : r.opens
  · have closes : r.closes = false := by
      by_contra closes
      simp [opens_eq_false_of_closes (by simpa using closes)] at opens
    simp [lead, opens, closes]
    omega
  · by_cases closes : r.closes
    · simp [lead, opens, closes]
      omega
    · simp [lead, opens, closes]

theorem length_stackAfter {α : Type} {opening : Nat → Reading → Option α}
    (isOpening : ∀ n r, (opening n r).isSome = r.opens) (n : Nat) (r : Reading) (stack : List α) :
    (stackAfter opening n r stack).length =
      if r.opens then stack.length + 1 else if r.closes then stack.length - 1
        else stack.length := by
  unfold stackAfter
  rw [← isOpening n r]
  cases opening n r with
  | some top => simp
  | none => by_cases closes : r.closes <;> simp [closes]

/-- A stack is as high as the greatest lead of the opening lines on a last part of the lines. -/
theorem isGreatest_length {α : Type} {opening : Nat → Reading → Option α}
    (isOpening : ∀ n r, (opening n r).isSome = r.opens) (rs : List Reading) :
    IsGreatest {d : ℤ | ∃ part, part <:+ rs ∧ d = lead part}
      (rs.zipIdx.foldl (fun stack line => stackAfter opening line.2 line.1 stack) []).length := by
  induction rs using List.reverseRecOn with
  | nil =>
    refine ⟨⟨[], List.suffix_refl _, rfl⟩, ?_⟩
    rintro d ⟨part, isPart, rfl⟩
    rw [List.suffix_nil.1 isPart]
    exact le_refl _
  | append_singleton rs r ih =>
    obtain ⟨⟨part, isPart, reached⟩, bound⟩ := ih
    rw [List.zipIdx_append, List.foldl_append]
    generalize rs.zipIdx.foldl (fun stack line => stackAfter opening line.2 line.1 stack) [] = stack
      at reached bound
    simp only [List.zipIdx_cons, List.zipIdx_nil, List.foldl_cons, List.foldl_nil,
      length_stackAfter isOpening]
    refine ⟨?_, ?_⟩
    · -- A closing line that finds nothing open leaves the lead of no lines at all.
      by_cases idle : r.opens = false ∧ r.closes ∧ stack.length = 0
      · refine ⟨[], List.nil_suffix, ?_⟩
        simp [idle, lead]
      · refine ⟨part ++ [r], List.suffix_concat_iff.2 (.inr ⟨part, rfl, isPart⟩), ?_⟩
        rw [lead_concat]
        by_cases opens : r.opens
        · simp [opens, reached]
        · by_cases closes : r.closes
          · simp only [opens, closes, if_true, Bool.false_eq_true, if_false]
            simp only [opens, closes, true_and] at idle
            omega
          · simp [opens, closes, reached]
    · rintro d ⟨longer, isLonger, rfl⟩
      rcases List.suffix_concat_iff.1 isLonger with rfl | ⟨earlier, rfl, isEarlier⟩
      · exact Int.natCast_nonneg _
      · have := bound ⟨earlier, isEarlier, rfl⟩
        rw [lead_concat]
        split_ifs <;> omega

end History

/-- What a frame says apart from the number of its entry. -/
def Frame.head (f : Frame) : Text × ScopeKind :=
  (f.name, f.kind)

/-- What an open scope says apart from its place. -/
def OpenScope.head (scope : OpenScope) : Text × ScopeKind :=
  (scope.name, scope.kind)

namespace Scan

/-- The open scopes, the innermost first. -/
def openStack (s : Scan) : List OpenScope :=
  s.frames.map fun f => ⟨f.name, f.kind, f.entry.bind s.placeAt⟩

/-- The open scopes, the outermost first. -/
def openScopes (s : Scan) : List OpenScope :=
  s.openStack.reverse

theorem openStack_eq_zipWith (s : Scan) :
    s.openStack =
      List.zipWith (fun head place => ⟨head.1, head.2, place⟩) (s.frames.map Frame.head)
        s.sketch.scopes := by
  rw [sketch, List.zipWith_map, List.zipWith_self]
  rfl

/-- A line puts the scope that it opens on the stack, or takes one away. -/
theorem heads_step (options : OutlineOptions) (n : Nat) (r : Reading) (s : Scan) :
    (s.step options n r).frames.map Frame.head =
      History.stackAfter (fun n r => (r.opening? n).map OpenScope.head) n r
        (s.frames.map Frame.head) := by
  have labelled : ∀ label, (s.addLabel options n label).frames = s.frames := by
    intro label
    unfold addLabel
    split <;> rfl
  have stated : ∀ (label : Option Named) (statement : Statement) (t : Scan), t.frames = s.frames →
      (t.addStatement n statement).frames.map Frame.head =
        History.stackAfter (fun n r => (r.opening? n).map OpenScope.head) n
          (.plain label statement) (s.frames.map Frame.head) := by
    intro label statement t same
    cases statement with
    | block name =>
      cases name <;> simp [addStatement, addNamed, History.stackAfter, Reading.opening?, push,
        enter, Frame.head, OpenScope.head, same]
    | define name =>
      cases name <;> simp [addStatement, addNamed, History.stackAfter, Reading.opening?,
        Reading.closes, enter, same]
    | close =>
      simp [addStatement, History.stackAfter, Reading.opening?, Reading.closes, pop, same]
    | macroDef name =>
      simp [addStatement, History.stackAfter, Reading.opening?, Reading.closes, enter, same]
    | scope kind name =>
      cases name <;> simp [addStatement, addNamed, History.stackAfter, Reading.opening?,
        Reading.closes, push, enter, Frame.head, OpenScope.head, same]
    | operand text =>
      simp [addStatement, History.stackAfter, Reading.opening?, Reading.closes,
        (alike_classify text t).frames, same]
  cases r with
  | macroLabel name => rfl
  | plain label statement =>
    cases label with
    | none => exact stated none statement s rfl
    | some label => exact stated (some label) statement _ (labelled label)

/-- The stack of open scopes follows every reading. -/
theorem Valid.openStack_step {s : Scan} (valid : s.Valid) (options : OutlineOptions) (n : Nat)
    (r : Reading) :
    (s.step options n r).openStack = History.stackAfter Reading.opening? n r s.openStack := by
  rw [openStack_eq_zipWith, openStack_eq_zipWith, heads_step, (valid.step options n r).2]
  simp only [Sketch.step, History.scopesAfter_eq, History.stackAfter, ← Reading.place_opening]
  cases r.opening? n with
  | some scope => rfl
  | none => by_cases closes : r.closes <;> simp [closes, List.tail_zipWith]

/-- The stack after all lines. -/
theorem Valid.openStack_feed {s : Scan} (valid : s.Valid) (options : OutlineOptions) (n : Nat)
    (lines : List Text) :
    (s.feed options n lines).openStack =
      ((lines.map (Reading.ofLine options)).zipIdx n).foldl
        (fun stack line => History.stackAfter Reading.opening? line.2 line.1 stack)
        s.openStack := by
  induction lines generalizing s n with
  | nil => rfl
  | cons line lines ih =>
    rw [Scan.feed, ih (valid.step options n _).1, valid.openStack_step, List.map_cons,
      List.zipIdx_cons, List.foldl_cons]

/-- Lines from number `n` on leave their own scopes above those that were open before, of which they
    close as many as they have a surplus. -/
theorem Valid.openScopes_feed {s : Scan} (valid : s.Valid) (options : OutlineOptions) (n : Nat)
    (lines : List Text) :
    (s.feed options n lines).openScopes =
      s.openScopes.take
          (s.openScopes.length - History.surplus (lines.map (Reading.ofLine options))) ++
        History.openScopes n (lines.map (Reading.ofLine options)) := by
  rw [openScopes, valid.openStack_feed, History.foldl_stackAfter Reading.isSome_opening,
    History.openScopes_eq, List.reverse_append, List.reverse_reverse, List.reverse_drop]
  simp [openScopes]

end Scan

/-- The discipline of the scope stack. After any lines the open scopes are, from the outermost to
    the innermost and in the order of their lines, those of the opening lines behind which the
    closing lines nowhere outnumber the opening ones. Their number is the greatest lead of opening
    over closing lines on a last part of the lines. And wherever the lines are cut, what the second
    part opens and leaves open is found in it alone: it stands above the scopes of the first part,
    from which only the surplus of closing lines in the second part is taken away. -/
theorem open_scopes_of_lines (options : OutlineOptions) (lines : List Text) :
    (Scan.ofLines options lines).openScopes =
        History.openScopes 0 (lines.map (Reading.ofLine options)) ∧
      IsGreatest
        {d : ℤ | ∃ part, part <:+ lines.map (Reading.ofLine options) ∧
          d = part.countP (·.opens) - part.countP (·.closes)}
        (Scan.ofLines options lines).frames.length ∧
      ∀ k, (Scan.ofLines options lines).openScopes =
        (Scan.ofLines options (lines.take k)).openScopes.take
            ((Scan.ofLines options (lines.take k)).openScopes.length -
              History.surplus ((lines.drop k).map (Reading.ofLine options))) ++
          History.openScopes k ((lines.drop k).map (Reading.ofLine options)) := by
  refine ⟨?_, ?_, ?_⟩
  · have opened := Scan.valid_empty.openScopes_feed options 0 lines
    simpa [Scan.openScopes, Scan.openStack, Scan.ofLines] using opened
  · have height := History.isGreatest_length Reading.isSome_opening
      (lines.map (Reading.ofLine options))
    have stack : (Scan.ofLines options lines).openStack = _ :=
      Scan.valid_empty.openStack_feed options 0 lines
    have same : (Scan.ofLines options lines).openStack.length =
        (Scan.ofLines options lines).frames.length := List.length_map _
    rw [← same, stack]
    exact height
  · intro k
    rcases Nat.lt_or_ge lines.length k with beyond | inside
    · have whole : lines.take k = lines := List.take_of_length_le (by omega)
      have none : lines.drop k = [] := List.drop_eq_nil_of_le (by omega)
      simp [whole, none, History.surplus, History.openScopes]
    · have whole : Scan.ofLines options lines =
          (Scan.ofLines options (lines.take k)).feed options k (lines.drop k) := by
        conv_lhs => rw [← List.take_append_drop k lines]
        rw [Scan.ofLines, Scan.feed_append, List.length_take, Nat.min_eq_left inside, Nat.zero_add]
        rfl
      rw [whole]
      exact (Scan.valid_empty.feed options 0 (lines.take k)).1.openScopes_feed options k _

end AsmAtlas
