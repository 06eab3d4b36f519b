import AsmAtlas.Proofs.ExcludedLabels
import AsmAtlas.Proofs.NameCharacters

/-!
# The columns of outline symbols

A name of the outline stands at its column of the text that it was read in. For a label this text is
the line. What follows a label is read in the rest of the line, and so the columns of directives
behind a label count from the end of the label.
-/

namespace AsmAtlas

/-- A name made of label characters that stands at its column of a text. -/
structure Named.StandsIn (n : Named) (text : Text) : Prop where
  slice : text.slice n.column (n.column + n.text.length) = n.text
  ofLabel : ∀ c ∈ n.text, Occurrence.isLabelChar c

/-- A part of a text that lies behind a column. -/
theorem Text.slice_drop (t : Text) (origin start stop : Nat) :
    slice (t.drop origin) start stop = slice t (origin + start) (origin + stop) := by
  rw [slice, slice, List.take_drop, List.drop_drop]

namespace Pattern

variable {p : Pattern} {g : Group}

theorem bodies_eq_nil (none : p.groups = []) : p.bodies g = [] := by
  induction p with
  | seq p q ihp ihq =>
    obtain ⟨first, second⟩ := List.append_eq_nil_iff.1 none
    rw [bodies, ihp first, ihq second, List.append_nil]
  | alt p q ihp ihq =>
    obtain ⟨first, second⟩ := List.append_eq_nil_iff.1 none
    rw [bodies, ihp first, ihq second, List.append_nil]
  | group h p => exact absurd none (List.cons_ne_nil _ _)
  | _ => rfl

/-- A name that a group of a match notes stands in the text. -/
theorem standsIn_of_matchStart {text : Text} {m : Match} {n : Named}
    (only : ∀ b ∈ p.bodies g, b.TakesOnly fun c => Occurrence.isLabelChar c)
    (found : p.matchStart text = some m) (named : m.named? g text = some n) : n.StandsIn text := by
  obtain ⟨span, isSpan, rfl⟩ := Option.map_eq_some_iff.1 named
  obtain ⟨ordered, inText, ofLabel⟩ := group_of_matchStart only found isSpan
  have length : (span.of text).length = span.stop - span.start := by
    rw [Span.of, Text.length_slice, Nat.min_eq_left inText]
  refine ⟨?_, ofLabel⟩
  change text.slice span.start (span.start + (span.of text).length) = span.of text
  rw [length, Nat.add_sub_cancel' ordered]
  rfl

end Pattern

/-- The label of a line stands in it. -/
theorem LabelForm.standsIn_of_find? {form : LabelForm} {line : Text} {hit : LabelHit}
    (found : form.find? line = some hit) :
    Named.StandsIn ⟨hit.span.of line, hit.span.start⟩ line := by
  obtain ⟨m, isMatch, isSpan, _⟩ := match_of_find? found
  have bodies : ∀ b ∈ form.pattern.bodies .label, b = Pattern.labelName := by
    cases form <;>
      simp [LabelForm.pattern, LabelForm.inSource, LabelForm.bareAhead, LabelForm.markedAhead,
        Pattern.all, Pattern.any, Pattern.optional, Pattern.exactly, Pattern.colons,
        Pattern.labelName, Pattern.blanks, Pattern.bodies]
  refine Pattern.standsIn_of_matchStart (g := .label) (m := m) ?_ isMatch ?_
  · intro b isBody
    rw [bodies b isBody]
    exact Pattern.takesOnly_labelName
  · rw [Match.named?, isSpan, Option.map_some]

namespace Directive

open Pattern

/-- The name of a directive stands in the text of the directive. -/
theorem standsIn_of_naming {dialect : Dialect} {p : Pattern} (isNaming : p ∈ naming dialect)
    {text : Text} {m : Match} (found : p.matchStart text = some m) {n : Named}
    (named : m.named? .name text = some n) : n.StandsIn text := by
  have leads : (lead dialect).bodies .name = [] :=
    bodies_eq_nil (by cases dialect <;> rfl)
  have gaps : gap.bodies .name = [] := bodies_eq_nil rfl
  have labels : labelName.bodies .name = [] := bodies_eq_nil rfl
  have keyword : ∀ words : List String,
      (any (words.map fun word => spelled word.toList)).groups = [] →
      (keywordAndName dialect words).bodies .name = [labelName] := by
    intro words plain
    simp [keywordAndName, all, Pattern.optional, bodies, leads, gaps, labels, bodies_eq_nil plain]
  have only : ∀ b ∈ p.bodies .name, b.TakesOnly fun c => Occurrence.isLabelChar c := by
    simp only [naming, List.mem_cons, List.not_mem_nil, or_false] at isNaming
    rcases isNaming with rfl | rfl | rfl | rfl
    · have isBody : (blockLine dialect).bodies .name = [blockName] := by
        have plain : (oneOf Keyword.declaring).groups = [] := by decide +kernel
        have names : blockName.bodies .name = [] := bodies_eq_nil rfl
        simp [blockLine, all, Pattern.optional, bodies, leads, gaps, names, nameEnd,
          bodies_eq_nil plain]
      rw [isBody, List.forall_mem_singleton]
      exact takesOnly_blockName
    · have isBody : (macroLine dialect).bodies .name = [labelName] := by
        have plain : (spelled "MACRO".toList).groups = [] := by decide +kernel
        simp only [macroLine, all, bodies, leads, gaps, labels, bodies_eq_nil plain]
        rfl
      rw [isBody, List.forall_mem_singleton]
      exact takesOnly_labelName
    · rw [moduleLine, keyword _ rfl, List.forall_mem_singleton]
      exact takesOnly_labelName
    · rw [structLine, keyword _ rfl, List.forall_mem_singleton]
      exact takesOnly_labelName
  exact standsIn_of_matchStart only found named

end Directive

/-- Behind a label a name stands as far from the end of the label as its column says. The space that
    is put at the end of the line is not part of the name. -/
theorem Named.StandsIn.slice_after {n : Named} {hit : LabelHit} {line : Text}
    (stands : n.StandsIn (hit.after line)) :
    line.slice (hit.stop + n.column) (hit.stop + n.column + n.text.length) = n.text := by
  have isName := stands.slice
  rw [LabelHit.after] at isName
  rw [Nat.add_assoc, ← Text.slice_drop]
  generalize line.drop hit.stop = rest at isName
  by_cases inRest : n.column + n.text.length ≤ rest.length
  · rwa [Text.slice, List.take_append_of_le_length inRest] at isName
  · -- The name would end with the space, unless it is empty.
    have isEnd : (rest ++ [' ']).drop n.column = n.text := by
      rwa [Text.slice, List.take_of_length_le (by simp; omega)] at isName
    by_cases begins : n.column ≤ rest.length
    · rw [List.drop_append_of_le_length begins] at isEnd
      have blank := not_isBlank_of_isLabelChar (stands.ofLabel ' ' (isEnd ▸ by simp))
      exact absurd blank (by decide)
    · have empty : n.text = [] := by
        rw [← isEnd, List.drop_eq_nil_iff, List.length_append, List.length_singleton]
        omega
      simp [empty, Text.slice]

namespace Emission

/-- What a line enters behind its label stands in the text behind it. -/
theorem standsIn_of_mem_behindLabel {dialect : Dialect} {text : Text} {e : Emission}
    (member : e ∈ behindLabel dialect text) : e.named.StandsIn text := by
  obtain ⟨p, isNaming, m, found, named⟩ := exists_of_mem_behindLabel member
  exact Directive.standsIn_of_naming isNaming found named

/-- Whatever a line enters stands in the line, unless it stands behind the label of the line. -/
theorem standsIn_of_mem_ofLine {options : OutlineOptions} {line : Text} {e : Emission}
    (member : e ∈ ofLine options line) :
    e.named.StandsIn line ∨ ∃ hit, Reading.label? options line = some hit ∧
      e ∈ behindLabel options.dialect (hit.after line) := by
  unfold ofLine at member
  split at member
  · exact .inl (standsIn_of_mem_behindLabel member)
  · next hit found =>
    have stands := LabelForm.standsIn_of_find? (Option.filter_eq_some_iff.1 found).1
    simp only at member
    split_ifs at member
    · obtain rfl := List.mem_singleton.1 member
      exact .inl stands
    · rcases List.mem_cons.1 member with rfl | behind
      · exact .inl stands
      · exact .inr ⟨hit, found, behind⟩

end Emission

/-- The names of the outline are made of label characters. -/
theorem isLabelChar_of_mem_walk_outline {options : OutlineOptions} {lines : List Text}
    {symbol : Symbol} (member : symbol ∈ (outline options lines).walk) :
    ∀ c ∈ symbol.name, Occurrence.isLabelChar c := by
  obtain ⟨line, _, e, entered, place⟩ := exists_of_mem_walk_outline member
  have isName : e.named.text = symbol.name := congrArg Place.name place
  rw [← isName]
  rcases Emission.standsIn_of_mem_ofLine entered with inLine | ⟨hit, _, behind⟩
  · exact inLine.ofLabel
  · exact (Emission.standsIn_of_mem_behindLabel behind).ofLabel

/-- Where outline symbols stand. Every symbol has its name in its line, counted from an origin on.
    This is the beginning of the line, unless the symbol is the name of a directive behind a label:
    then it is the end of the label, with its colons. -/
theorem outline_names_in_lines (options : OutlineOptions) (lines : List Text) (symbol : Symbol)
    (member : symbol ∈ (outline options lines).walk) :
    ∃ line origin, lines[symbol.line]? = some line ∧
      line.slice (origin + symbol.column) (origin + symbol.column + symbol.name.length) =
        symbol.name ∧
      (origin = 0 ∨ ∃ hit, Reading.label? options line = some hit ∧ origin = hit.stop ∧
        ∃ e ∈ Emission.behindLabel options.dialect (hit.after line),
          e.named.onLine symbol.line = symbol.place) := by
  obtain ⟨line, isLine, e, entered, place⟩ := exists_of_mem_walk_outline member
  have isName : e.named.text = symbol.name := congrArg Place.name place
  have isColumn : e.named.column = symbol.column := congrArg Place.column place
  rw [← isName, ← isColumn]
  rcases Emission.standsIn_of_mem_ofLine entered with inLine | ⟨hit, found, behind⟩
  · refine ⟨line, 0, isLine, ?_, .inl rfl⟩
    rw [Nat.zero_add]
    exact inLine.slice
  · have stands := Emission.standsIn_of_mem_behindLabel behind
    exact ⟨line, hit.stop, isLine, stands.slice_after, .inr ⟨hit, found, rfl, e, behind, place⟩⟩

/-- A line with a module behind a label. -/
def labelledModule : Text :=
  "foo: MODULE bar".toList

theorem walk_labelledModule :
    (outline {} [labelledModule]).walk =
      [⟨"foo".toList, .function, 0, 0, []⟩, ⟨"bar".toList, .moduleName, 0, 8, []⟩] := by
  decide +kernel

/-- The name of the module stands eight columns behind the end of the label. -/
theorem labelledModule_name_in_line :
    (⟨"bar".toList, .moduleName, 0, 8, []⟩ : Symbol) ∈ (outline {} [labelledModule]).walk ∧
      ∃ line origin, [labelledModule][0]? = some line ∧
        line.slice (origin + 8) (origin + 8 + 3) = "bar".toList ∧
        (origin = 0 ∨ ∃ hit, Reading.label? {} line = some hit ∧ origin = hit.stop ∧
          ∃ e ∈ Emission.behindLabel .source (hit.after line),
            e.named.onLine 0 = ⟨"bar".toList, 0, 8⟩) := by
  have member : (⟨"bar".toList, .moduleName, 0, 8, []⟩ : Symbol) ∈
      (outline {} [labelledModule]).walk := by
    rw [walk_labelledModule]
    exact List.mem_cons_of_mem _ List.mem_cons_self
  exact ⟨member, outline_names_in_lines {} _ _ member⟩

/-- In the line itself something else stands at that column. -/
theorem labelledModule_column_off :
    (outline {} [labelledModule]).walk =
        [⟨"foo".toList, .function, 0, 0, []⟩, ⟨"bar".toList, .moduleName, 0, 8, []⟩] ∧
      labelledModule.slice 8 (8 + 3) ≠ "bar".toList ∧
      labelledModule.slice 12 (12 + 3) = "bar".toList :=
  ⟨walk_labelledModule, by decide, by decide⟩

end AsmAtlas
