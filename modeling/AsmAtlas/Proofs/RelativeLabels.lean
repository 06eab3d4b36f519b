import AsmAtlas.Proofs.CaseForms
import AsmAtlas.Proofs.OutlineHistory
import AsmAtlas.Proofs.ScopeAgreement
import AsmAtlas.Proofs.SegmentStart
import AsmAtlas.Proofs.SurvivingCandidates

/-!
# Relative labels and their parents

The same relative label can be written below many absolute ones. Its names are put together from
the modules around it, from the absolute label before it, its parent, and from the label itself, so
two names can only be equal by accident if the parts are cut at different places. Where no parent
has a dot in it this cannot happen: two such labels share a name if and only if their parents are
equal up to case. The parent is found in the lines alone, by going back to the last absolute label
behind which no module or structure was closed.
-/

namespace AsmAtlas

namespace ScopeState

/-- The absolute label of a line. -/
def absolute? (form : LabelForm) (line : Text) : Option LabelHit :=
  (form.find? line).filter fun hit => !isRelative (hit.span.of line)

/-- What the scope table reads in a line: its label, if it is an absolute one, and the module or
    structure that is opened or closed behind it. -/
def reading (form : LabelForm) (dialect : Dialect) (line : Text) : Reading :=
  match absolute? form line with
  | none => .plain none (Statement.ofScopes dialect line)
  | some hit =>
    .plain (some ⟨hit.span.of line, hit.span.start⟩) (Statement.ofScopes dialect (hit.after line))

/-- The scope table follows this reading. -/
theorem step_eq_take (form : LabelForm) (dialect : Dialect) (line : Text) (s : ScopeState) :
    (s.step form dialect line).2 = s.take (reading form dialect line) := by
  change (s.takeLabel form line).1.takeDirective dialect (s.takeLabel form line).2 = _
  cases absolute : absolute? form line with
  | none =>
    have taken : s.takeLabel form line = (s, line) := by
      cases found : form.find? line with
      | none => rw [takeLabel, found]
      | some hit =>
        have relative : isRelative (hit.span.of line) := by
          simpa [absolute?, found] using absolute
        rw [takeLabel, found]
        exact if_pos relative
    rw [taken, reading, absolute]
    exact takeDirective_eq dialect line s
  | some hit =>
    obtain ⟨found, notRelative⟩ := Option.filter_eq_some_iff.1 absolute
    have relative : isRelative (hit.span.of line) = false := by simpa using notRelative
    have taken : s.takeLabel form line =
        ({ s with owner := some (foldCase (hit.span.of line)) }, hit.after line) := by
      simp [takeLabel, found, relative]
    rw [taken, reading, absolute, take_label (absolute_of_not_relative relative)]
    exact takeDirective_eq dialect (hit.after line) _

/-- The owner of relative labels after some lines, by what was read in them. -/
theorem owner_after (form : LabelForm) (dialect : Dialect) (lines : List Text) :
    (after form dialect {} lines).owner =
      (History.owner? (lines.map (reading form dialect))).map fun place => foldCase place.name := by
  induction lines using List.reverseRecOn with
  | nil => rfl
  | append_singleton lines line ih =>
    have last : after form dialect {} (lines ++ [line]) =
        (after form dialect {} lines).take (reading form dialect line) := by
      rw [after, List.foldl_append, List.foldl_cons, List.foldl_nil, ← after, step_eq_take]
    rw [last, take, ih, List.map_append, List.map_singleton, History.owner_concat,
      History.ownerAfter]
    split_ifs
    · rfl
    · cases (reading form dialect line).absoluteLabel? <;> rfl

end ScopeState

/-- The parent of relative labels on a line: the last absolute label on it or a line before, if no
    line from there on closes a module or structure. -/
def Document.parent? (d : Document) (form : LabelForm) (n : Nat) : Option Place :=
  History.owner? ((d.lines.take (n + 1)).map (ScopeState.reading form d.dialect))

/-- The name of the parent, empty if there is none. -/
def Document.parentName (d : Document) (form : LabelForm) (n : Nat) : Text :=
  ((d.parent? form n).map (·.name)).getD []

/-- The scope table has the folded name of the parent. -/
theorem Document.owner_scopeAt {d : Document} {n : Nat} (inside : n < d.lines.length)
    (form : LabelForm) :
    (Inquiry.scopeAt (d.scopes form) n).owner.getD [] = foldCase (d.parentName form n) := by
  rw [Inquiry.scopeAt, scopes, ScopeState.getElem_table form d.dialect {} inside,
    Option.getD_some, ScopeState.owner_after, parentName, parent?]
  cases History.owner? ((d.lines.take (n + 1)).map (ScopeState.reading form d.dialect)) <;> rfl

theorem ScopeState.isRelative_foldCase {label : Text} (relative : isRelative label) :
    isRelative (foldCase label) := by
  obtain ⟨mark, head, isMark⟩ := (Option.any_eq_true _ _).1 relative
  obtain ⟨name, rfl⟩ := List.head?_eq_some_iff.1 head
  have marks : mark = '.' ∨ mark = '@' := by simpa using isMark
  rcases marks with rfl | rfl <;> rfl

/-- Behind a dot, or at the start, a text without dots is the last part. -/
theorem Text.lastPart_append {lead part : Text} (cut : lead = [] ∨ ∃ front, lead = front ++ ['.'])
    (plain : '.' ∉ part) : Text.lastPart '.' (lead ++ part) = part := by
  have noDot : ∀ c ∈ part, (c != '.') = true := by
    intro c member
    rw [bne_iff_ne]
    rintro rfl
    exact plain member
  change (lead ++ part).rtakeWhile (· != '.') = part
  rw [Text.rtakeWhile_append lead noDot]
  rcases cut with rfl | ⟨front, rfl⟩ <;> simp

namespace Qualified

/-- The names of a relative label: its parent stands before it, at the start or behind the dot that
    ends the modules. -/
theorem exists_lead_of_mem {scope : LineScope} {label name : Text}
    (relative : ScopeState.isRelative (foldCase label))
    (member : name ∈ (of scope label).toList) :
    ∃ lead, name = lead ++ scope.owner.getD [] ++ foldCase label ∧
      (lead = [] ∨ ∃ front, lead = front ++ ['.']) := by
  simp only [of, relative, if_true, toList, List.mem_cons, List.not_mem_nil, or_false] at member
  rcases member with rfl | rfl
  · exact ⟨[], rfl, .inl rfl⟩
  · split_ifs
    · exact ⟨[], rfl, .inl rfl⟩
    · exact ⟨scope.modules ++ ['.'], by simp, .inr ⟨scope.modules, rfl⟩⟩

/-- The same relative label in two places has a common name only below the same parent, if there is
    no dot in the parents. -/
theorem common_iff_of_relative (scope other : LineScope) {label otherLabel : Text}
    (relative : ScopeState.isRelative (foldCase label))
    (same : foldCase otherLabel = foldCase label)
    (plain : '.' ∉ scope.owner.getD []) (plainOther : '.' ∉ other.owner.getD []) :
    (∃ name ∈ (of other otherLabel).toList, name ∈ (of scope label).toList) ↔
      scope.owner.getD [] = other.owner.getD [] := by
  constructor
  · rintro ⟨name, inOther, inScope⟩
    obtain ⟨lead, isName, cut⟩ := exists_lead_of_mem relative inScope
    obtain ⟨otherLead, isOther, otherCut⟩ := exists_lead_of_mem (same ▸ relative) inOther
    rw [isName, same] at isOther
    -- One of the names may have its modules and the other not, so the fronts are not cut alike;
    -- but in both of them the parent is what follows the last dot.
    have fronts := List.append_cancel_right isOther
    calc scope.owner.getD []
        = Text.lastPart '.' (lead ++ scope.owner.getD []) := (Text.lastPart_append cut plain).symm
      _ = Text.lastPart '.' (otherLead ++ other.owner.getD []) := by rw [fronts]
      _ = other.owner.getD [] := Text.lastPart_append otherCut plainOther
  · intro parents
    have isPlain : (of other otherLabel).plain = (of scope label).plain := by
      simp only [of, same, relative, if_true, parents]
    exact ⟨_, List.mem_cons_self, isPlain ▸ List.mem_cons_self⟩

end Qualified

namespace Inquiry

variable {q : Inquiry} {ds : Set Document} {found : Occurrence} {c : Candidate} {d : Document}

/-- The line of a cursor on a label is in the document. -/
theorem line_lt_of_occurrence {boundary : Char → Bool} {position : Position}
    (located : d.occurrence? boundary position = some found) :
    position.line.toNat < d.lines.length := by
  obtain ⟨line, isLine, _⟩ := Option.bind_eq_some_iff.1 located
  exact (List.getElem?_eq_some_iff.1 (Document.getElem_of_lineAt isLine)).1

/-- A candidate with the relative label that was found, up to case, touched by no boundary
    character. -/
structure SameRelative (q : Inquiry) (found : Occurrence) (c : Candidate) (d : Document) :
    Prop where
  document : c.document = some d
  untouched : ¬isTouched q.boundary (d.line c.location.line) c.location.start c.location.stop
  relative : ScopeState.isRelative found.label
  same : foldCase (c.labelIn d) = foldCase found.label

theorem SameRelative.line_lt (carries : q.SameRelative found c d) :
    c.location.line < d.lines.length := by
  by_contra outside
  have noLine : d.line c.location.line = [] := by
    rw [Document.line, List.getElem?_eq_none (by omega)]
    rfl
  have noLabel : c.labelIn d = [] := by
    rw [Candidate.labelIn, labelAt, noLine]
    simp [Text.slice]
  have relative := ScopeState.isRelative_foldCase carries.relative
  rw [← carries.same, noLabel] at relative
  exact absurd relative (by decide)

/-- Declarations included, such a candidate survives if and only if the two labels have the same
    parent up to case. -/
theorem SameRelative.survives_iff (carries : q.SameRelative found c d)
    (located : q.origin.occurrence? q.boundary q.position = some found)
    (declarations : q.includeDeclaration)
    (plain : '.' ∉ q.origin.parentName q.form q.position.line.toNat)
    (plainOther : '.' ∉ d.parentName q.form c.location.line) :
    q.Survives found c ↔
      foldCase (q.origin.parentName q.form q.position.line.toNat) =
        foldCase (d.parentName q.form c.location.line) := by
  have owner := Document.owner_scopeAt (line_lt_of_occurrence located) q.form
  have ownerOther := Document.owner_scopeAt carries.line_lt q.form
  have common := Qualified.common_iff_of_relative
    (scopeAt (q.origin.scopes q.form) q.position.line.toNat)
    (scopeAt (d.scopes q.form) c.location.line)
    (ScopeState.isRelative_foldCase carries.relative) carries.same
    (by rw [owner]; exact dot_not_mem_foldCase plain)
    (by rw [ownerOther]; exact dot_not_mem_foldCase plainOther)
  rw [owner, ownerOther] at common
  rw [← common]
  constructor
  · rintro ⟨e, document, _, _, meets⟩
    obtain rfl := Option.some.inj (carries.document.symm.trans document)
    exact meets
  · intro meets
    refine ⟨d, carries.document, carries.untouched, ?_, meets⟩
    intro without
    simp [without] at declarations

/-- In documents that their paths tell apart, a candidate with the relative label under the cursor
    is left, declarations included, if and only if the two labels have the same parent up to case:
    it comes next, unless its place is left already, and what other candidates follow does not
    change this. Neither the modules around the labels nor their files matter. -/
theorem relative_left_iff_same_parent (before after : List Candidate)
    (apart : ds.InjOn Document.path) (isOver : q.IsOver ds (before ++ c :: after))
    (located : q.origin.occurrence? q.boundary q.position = some found)
    (declarations : q.includeDeclaration) (carries : q.SameRelative found c d)
    (plain : '.' ∉ q.origin.parentName q.form q.position.line.toNat)
    (plainOther : '.' ∉ d.parentName q.form c.location.line) :
    (q.reduce (before ++ [c])).locations =
        (q.reduce before).locations ++
          (if foldCase (q.origin.parentName q.form q.position.line.toNat) =
                foldCase (d.parentName q.form c.location.line) ∧
              ∀ l ∈ (q.reduce before).locations, ¬sameStart l c.location then
            [c.location]
          else []) ∧
      (q.reduce (before ++ [c])).locations <+: (q.reduce (before ++ c :: after)).locations := by
  have split : before ++ c :: after = before ++ [c] ++ after := by simp
  rw [split] at isOver ⊢
  have overHere := isOver.mono (List.subset_append_left (before ++ [c]) after)
  refine ⟨?_, reduce_prefix apart isOver located⟩
  rw [reduce_concat apart overHere located]
  simp only [carries.survives_iff located declarations plain plainOther]

/-- A file with a relative label in use inside a module. -/
def nestedUse : Document :=
  ⟨⟨["a.asm".toList]⟩, .source, [" MODULE m", "go:", " jp .on"].map String.toList⟩

/-- A file with two uses of it outside, below different parents. -/
def outerUses : Document :=
  ⟨⟨["b.asm".toList]⟩, .source, ["GO:", " jp .On", "off:", " jp .on"].map String.toList⟩

/-- The references to the label in the module. -/
def nestedUseInquiry : Inquiry :=
  { form := .marked, origin := nestedUse, position := ⟨2, 5⟩ }

/-- The use on a line of the other file. -/
def outerUse (line : Nat) : Candidate :=
  ⟨⟨outerUses.path, line, 5, 7⟩, some outerUses⟩

/-- Only the use below the parent of the same name is left. -/
theorem nestedUse_left_below_same_parent :
    (nestedUseInquiry.reduce [outerUse 1]).locations = [(outerUse 1).location] ∧
      (nestedUseInquiry.reduce [outerUse 1, outerUse 3]).locations = [(outerUse 1).location] := by
  have apart := Document.injOn_path_pair (show nestedUse.path ≠ outerUses.path by decide)
  have isOver : nestedUseInquiry.IsOver {nestedUse, outerUses} [outerUse 1, outerUse 3] := by
    refine ⟨Set.mem_insert _ _, ?_⟩
    simp [Candidate.IsAmong, outerUse]
  have located : nestedUseInquiry.origin.occurrence? nestedUseInquiry.boundary
      nestedUseInquiry.position = some ⟨".on".toList, "on".toList, 5, 7⟩ := by decide +kernel
  have carries : ∀ line ∈ [1, 3], nestedUseInquiry.SameRelative ⟨".on".toList, "on".toList, 5, 7⟩
      (outerUse line) outerUses := by
    have same : ∀ line ∈ [1, 3], ¬isTouched isWordChar (outerUses.line line) 5 7 ∧
        foldCase ((outerUse line).labelIn outerUses) = foldCase ".on".toList := by decide +kernel
    intro line member
    exact ⟨rfl, (same line member).1, rfl, (same line member).2⟩
  obtain ⟨go, capital, off⟩ : nestedUse.parentName .marked 2 = "go".toList ∧
      outerUses.parentName .marked 1 = "GO".toList ∧
      outerUses.parentName .marked 3 = "off".toList := by decide +kernel
  have equal : foldCase (nestedUse.parentName .marked 2) =
      foldCase (outerUses.parentName .marked 1) := by
    rw [go, capital]
    decide
  have unequal : foldCase (nestedUse.parentName .marked 2) ≠
      foldCase (outerUses.parentName .marked 3) := by
    rw [go, off]
    decide
  have first : (nestedUseInquiry.reduce [outerUse 1]).locations = [(outerUse 1).location] := by
    have nothing : (nestedUseInquiry.reduce []).locations = [] := by decide +kernel
    refine (relative_left_iff_same_parent [] [outerUse 3] apart isOver located rfl
      (carries 1 (by decide)) (go ▸ by decide) (capital ▸ by decide)).1.trans ?_
    rw [nothing, if_pos, List.nil_append]
    exact ⟨equal, by simp⟩
  refine ⟨first, ?_⟩
  refine (relative_left_iff_same_parent [outerUse 1] [] apart isOver located rfl
    (carries 3 (by decide)) (go ▸ by decide) (off ▸ by decide)).1.trans ?_
  rw [first, if_neg, List.append_nil]
  exact fun left => unequal left.1

/-- Of a file that was read twice, the parents in the second state are those of the first. So a
    relative label is left below another parent, in whose document alone it would not be. -/
theorem writtenAnew_left_below_other_parent :
    let found : Occurrence := ⟨".l".toList, "l".toList, 5, 6⟩
    let before : Candidate :=
      ⟨⟨⟨["p.asm".toList]⟩, 1, 6, 7⟩, some (writtenAnew ["x:", " jp y.l"])⟩
    let below : Document := writtenAnew ["z:", " jp .l"]
    let after : Candidate := ⟨⟨⟨["p.asm".toList]⟩, 1, 5, 6⟩, some below⟩
    ownedUse.occurrence? isWordChar ⟨1, 5⟩ = some found ∧
      ownedUseInquiry.SameRelative found after below ∧
      ownedUse.parentName .marked 1 = "x".toList ∧
      below.parentName .marked 1 = "z".toList ∧
      (ownedUseInquiry.reduce [before, after]).locations = [after.location] ∧
      (ownedUseInquiry.reduce [after]).locations = [] := by
  intro found before below after
  have untouched : ¬isTouched isWordChar (below.line 1) 5 6 := by decide +kernel
  have same : foldCase (after.labelIn below) = foldCase found.label := by decide +kernel
  refine ⟨?_, ⟨rfl, untouched, rfl, same⟩, ?_⟩
  · decide +kernel
  · decide +kernel

end Inquiry

end AsmAtlas
