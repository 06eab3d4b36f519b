import AsmAtlas.Proofs.LabelSearch
import AsmAtlas.Proofs.WordUses

/-!
# Words that are declared

All declarations are searched by patterns of one shape, in both dialects and for exact words as well
as for queries: a lead, then the wanted word from the edge of a word or from behind a blank, then a
look at what follows. So whatever they find begins at such a place, and no name goes on behind it. A
label in the first column is found by its last segment; only without a colon can something hide it,
which is the same segment once more directly behind the label, written with case forms that are no
word characters.
-/

namespace AsmAtlas

theorem Cursor.isOn_of_mem_through {line : Text} {here : Cursor}
    (member : here ∈ (Cursor.start line).through line) : here.IsOn line :=
  ⟨(of_mem_through rfl rfl rfl member).2, last_of_mem_through rfl rfl member⟩

namespace Pattern

open Cursor WordSearch

variable {w : Wanted} {p : Pattern} {line : Text} {here there : Cursor} {accepts : Char → Bool}
  {dialect : Dialect} {rules : LabelRules}

/-- The last character of a greedy repetition is an accepted one, unless nothing was taken. -/
theorem last_of_mem_manyEnds {rest : Text} (member : there ∈ manyEnds accepts here rest) :
    there.last = here.last ∨ there.last.any accepts := by
  induction rest generalizing here with
  | nil => exact .inl (congrArg last (List.mem_singleton.1 member))
  | cons c rest ih =>
    rw [manyEnds] at member
    split_ifs at member with accepted
    · rcases List.mem_append.1 member with longer | stops
      · rcases ih longer with same | isLast
        · exact .inr (by rw [same]; simpa [Cursor.advance] using accepted)
        · exact .inr isLast
      · exact .inl (congrArg last (List.mem_singleton.1 stops))
    · exact .inl (congrArg last (List.mem_singleton.1 member))

theorem last_of_mem_gap (member : there ∈ gap.ends here) : there.last.any isBlank := by
  obtain ⟨_, inFirst, inMore⟩ := List.mem_flatMap.1 member
  obtain ⟨c, rest, _, blank, rfl⟩ := mem_ends_char.1 inFirst
  rcases last_of_mem_manyEnds inMore with same | isLast
  · rw [same]
    simpa [Cursor.advance] using blank
  · exact isLast

/-- Patterns that take a wanted word from an edge or from behind a blank, and look at what follows
    its name. -/
inductive Declares (w : Wanted) : Pattern → Prop
  | edge {close : Pattern} (closes : ClosesName close) : Declares w (wantedThen w close)
  | blank {lead close : Pattern}
      (behind : ∀ {here there : Cursor}, there ∈ lead.ends here → there.last.any isBlank)
      (closes : ClosesName close) : Declares w (seq lead (seq (group .word w.pattern) close))
  | behind (p : Pattern) {q : Pattern} (declares : Declares w q) : Declares w (seq p q)

/-- A wanted word between two cursors of a line as such patterns take it. -/
structure TakenFrom (w : Wanted) (line : Text) (start stop : Cursor) : Prop where
  on : start.IsOn line
  begins : start.atWordEdge ∨ start.last.any isBlank
  word : stop ∈ w.pattern.ends start
  closed : ¬stop.rest.head?.any isWordOrDot

theorem Declares.exists_takenFrom (declares : Declares w p) (on : here.IsOn line)
    (member : there ∈ p.ends here) :
    ∃ start stop, TakenFrom w line start stop ∧
      there.noted.lookup .word = some ⟨start.column, stop.column⟩ := by
  have taken : ∀ {start : Cursor} {close : Pattern}, ClosesName close → start.IsOn line →
      (start.atWordEdge ∨ start.last.any isBlank) →
      there ∈ (seq (group .word w.pattern) close).ends start →
      ∃ start stop, TakenFrom w line start stop ∧
        there.noted.lookup .word = some ⟨start.column, stop.column⟩ := by
    intro start close closes on begins member
    obtain ⟨_, inGroup, inClose⟩ := List.mem_flatMap.1 member
    obtain ⟨stop, inWord, rfl⟩ := List.mem_map.1 inGroup
    have closed : ¬(stop.note .word start.column).rest.head?.any isWordOrDot :=
      closes.behind inClose
    refine ⟨start, stop, ⟨on, begins, inWord, closed⟩, ?_⟩
    rw [noted_of_groups_eq_nil closes.groups inClose]
    rfl
  induction declares generalizing here with
  | edge closes =>
    rw [wantedThen, ends_wordEdge_seq] at member
    split_ifs at member with edge
    · exact taken closes on (.inl edge) member
    · simp at member
  | blank behind closes =>
    obtain ⟨start, inLead, inWord⟩ := List.mem_flatMap.1 member
    exact taken closes (isOn_of_mem_ends on inLead) (.inr (behind inLead)) inWord
  | behind p declares ih =>
    obtain ⟨middle, inFirst, inSecond⟩ := List.mem_flatMap.1 member
    exact ih (isOn_of_mem_ends on inFirst) inSecond

theorem declares_behindKeyword (keywords : Pattern) :
    Declares w (behindKeyword w keywords dialect) := by
  refine .behind _ (.blank ?_ (closesName_notAhead fun _ ofName => ofName))
  intro here there member
  obtain ⟨stop, inLead, rfl⟩ := List.mem_map.1 member
  obtain ⟨_, _, inRest⟩ := List.mem_flatMap.1 inLead
  obtain ⟨_, _, inGap⟩ := List.mem_flatMap.1 inRest
  have blank : stop.last.any isBlank := last_of_mem_gap inGap
  exact blank

theorem declares_labelWithColon : Declares w (labelWithColon w dialect) := by
  cases dialect with
  | source => exact .behind _ (.edge closesName_closingColon)
  | listing => exact .behind _ (.behind _ (.edge closesName_closingColon))

theorem declares_labelWithoutColon : Declares w (labelWithoutColon w) :=
  .behind _ (.behind _ (.behind _ (.edge (closesName_notAhead fun c ofName => by simp [ofName]))))

/-- All declarations are searched by such patterns. -/
theorem declares_of_mem_declarations (member : p ∈ declarations w dialect rules) :
    Declares w p := by
  rcases List.mem_append.1 member with isLabel | isKeyword
  · rcases List.mem_append.1 isLabel with withColon | without
    · split_ifs at withColon
      · exact List.mem_singleton.1 withColon ▸ declares_labelWithColon
      · simp at withColon
    · split_ifs at without
      · exact List.mem_singleton.1 without ▸ declares_labelWithoutColon
      · simp at without
  · simp only [List.mem_cons, List.not_mem_nil, or_false] at isKeyword
    rcases isKeyword with rfl | rfl | rfl
    · exact declares_behindKeyword _
    · exact declares_behindKeyword _
    · exact declares_behindKeyword _

theorem wordSpan_matchTo {span : Span} (isWord : there.noted.lookup .word = some span) :
    (matchTo here there).wordSpan = span := by
  rw [Match.wordSpan, Match.group?, matchTo, isWord]
  rfl

/-- What a search for declarations finds in a line. -/
theorem exists_takenFrom_of_mem_findAll {m : Match}
    (isDeclaration : p ∈ declarations w dialect rules) (found : m ∈ p.findAll line) :
    ∃ start stop, TakenFrom w line start stop ∧ m.wordSpan = ⟨start.column, stop.column⟩ := by
  obtain ⟨here, isCursor, atHere⟩ := exists_of_mem_findFrom found
  obtain ⟨there, isEnd, rfl⟩ := exists_of_mem_matchesAt atHere
  obtain ⟨start, stop, taken, isWord⟩ :=
    (declares_of_mem_declarations isDeclaration).exists_takenFrom (isOn_of_mem_through isCursor)
      isEnd
  exact ⟨start, stop, taken, wordSpan_matchTo isWord⟩

/-- Where no name goes on, none goes on that reaches from before to behind. -/
theorem TakenFrom.le_of_name {start stop : Cursor} (taken : TakenFrom w line start stop)
    {first last : Nat}
    (ofName : ∀ i, first ≤ i → i < last → (line.drop i).head?.any isWordOrDot)
    (behind : first ≤ stop.column) : last ≤ stop.column := by
  by_contra inside
  refine taken.closed ?_
  rw [(isOn_of_mem_ends taken.on taken.word).rest]
  exact ofName _ behind (Nat.not_le.1 inside)

variable {word : Text} {close : Pattern}

/-- An exact word takes as many characters as it has. -/
theorem TakenFrom.column_exact {start stop : Cursor}
    (taken : TakenFrom (.exact word) line start stop) :
    stop.column = start.column + word.length := by
  have isStop : stop ∈ (spelled word).ends start := taken.word
  rw [ends_spelled] at isStop
  split_ifs at isStop with spells
  · have length := congrArg List.length spells
    simp only [List.length_map, List.length_take] at length
    rw [List.mem_singleton.1 isStop, column_forward start (by omega)]
  · simp at isStop

/-- It is taken where the characters are the same up to case. -/
theorem ends_exact (word : Text) (close : Pattern) (here : Cursor) :
    (seq (group .word (Wanted.exact word).pattern) close).ends here =
      if (here.rest.take word.length).map caseKey = word.map caseKey then
        close.ends ((here.forward word.length).note .word here.column)
      else [] := by
  change (((spelled word).ends here).map (·.note .word here.column)).flatMap close.ends = _
  rw [ends_spelled]
  split_ifs
  · rw [List.map_singleton, List.flatMap_singleton]
  · rfl

end Pattern

namespace LastSegment

open Cursor Pattern

variable {line lead word tail : Text} {close : Pattern} {places : List Cursor}
  (segment : LastSegment line lead word tail)

include segment

/-- A segment is taken as a whole by an exact search for it. -/
theorem takesExact (groups : close.groups = [])
    (closing : ∀ stop : Cursor, stop.rest = tail → close.ends stop ≠ []) {here : Cursor}
    (on : here.IsOn line) (column : here.column = lead.length) :
    TakesWord ((seq (group .word (Wanted.exact word).pattern) close).ends here)
      ⟨lead.length, (lead ++ word).length⟩ := by
  have rest : here.rest = word ++ tail := by rw [on.rest, column, segment.drop_lead]
  have spells : (here.rest.take word.length).map caseKey = word.map caseKey := by
    rw [rest, List.take_left]
  have inside : word.length ≤ here.rest.length := by
    rw [rest, List.length_append]
    exact Nat.le_add_right _ _
  let stop := (here.forward word.length).note .word here.column
  have behind : stop.rest = tail := by
    change (here.forward word.length).rest = tail
    rw [rest_forward, rest, List.drop_left]
  obtain ⟨there, others, isCons⟩ := List.exists_cons_of_ne_nil (closing stop behind)
  refine ⟨there, ?_, ?_⟩
  · rw [ends_exact, if_pos spells, isCons, List.head?_cons]
  · have member : there ∈ close.ends stop := isCons ▸ List.mem_cons_self
    rw [noted_of_groups_eq_nil groups member]
    change some (⟨here.column, (here.forward word.length).column⟩ : Span) = _
    rw [column_forward here inside, column, List.length_append]

/-- The lead of a declaration stops where the segment starts, unless the segment stands there once
    more behind the name. -/
theorem takesExact_flatMap (groups : close.groups = [])
    (closing : ∀ stop : Cursor, stop.rest = tail → close.ends stop ≠ [])
    (clear : ∀ stop : Cursor, stop.rest = tail.drop word.length →
      (tail.take word.length).map caseKey = word.map caseKey → close.ends stop = [])
    (leads : Leads line lead word places) (reaches : ∃ x ∈ places, x.column = lead.length) :
    TakesWord (places.flatMap (wantedThen (.exact word) close).ends)
      ⟨lead.length, (lead ++ word).length⟩ := by
  refine segment.takesWord_of_leads leads reaches
    (fun x on column => segment.takesExact groups closing on column) ?_
  intro x on atEnd
  have rest : x.rest = tail := by rw [on.rest, atEnd, segment.drop_word]
  rw [ends_exact, rest]
  split_ifs with spells
  · refine clear _ ?_ spells
    change (x.forward word.length).rest = _
    rw [rest_forward, rest]
  · rfl

end LastSegment

namespace SourceLabel

open Cursor Pattern WordSearch

variable {line margin mark name tail front word : Text}
  (label : SourceLabel line margin mark name tail)
  (segment : LastSegment line (margin ++ front) word tail) (split : mark ++ name = front ++ word)
  (first : margin = [])

include label segment split first

/-- A label with one colon is declared by its last segment. A colon is no case form of the first
    character of the segment, so nothing behind the name can be taken for it. -/
theorem takesExact_withColon {after : Text} (isColon : tail = ':' :: after)
    (single : after.head? ≠ some ':') :
    TakesWord ((labelWithColon (.exact word) .source).ends (.start line))
      ⟨(margin ++ front).length, (margin ++ front ++ word).length⟩ := by
  have clear : ∀ stop : Cursor, stop.rest = tail.drop word.length →
      (tail.take word.length).map caseKey = word.map caseKey → closingColon.ends stop = [] := by
    intro stop _ spells
    obtain ⟨c, more, isCons⟩ := List.exists_cons_of_ne_nil segment.nonempty
    rw [isCons, isColon] at spells
    have same : caseKey ':' = caseKey c := (List.cons.inj spells).1
    have colon : caseKey ':' = ':' := by decide +kernel
    exact absurd (same.symm.trans colon)
      (caseKey_ne_colon (segment.ofWord c (isCons ▸ List.mem_cons_self)))
  obtain ⟨leads, x, member, reaches⟩ :=
    label.leads_nameStem segment split (isOn_start line) (by rw [first]; rfl)
  have takes := segment.takesExact_flatMap closesName_closingColon.groups
    (closingColon_ne_nil_of_tail isColon single) clear (leads.map_note .before 0)
    ⟨_, List.mem_map_of_mem member, reaches⟩
  rw [ends_labelWithColon]
  exact takes.append _

/-- Without a colon it is too, if the segment does not stand once more behind the name. -/
theorem takesExact_withoutColon (noColon : tail.head? ≠ some ':')
    (free : notReserved.ends (.start line) ≠ [])
    (unechoed : ¬((tail.take word.length).map caseKey = word.map caseKey ∧
      ¬(tail.drop word.length).head?.any fun c => isWordOrDot c || c == ':')) :
    TakesWord ((labelWithoutColon (.exact word)).ends (.start line))
      ⟨(margin ++ front).length, (margin ++ front ++ word).length⟩ := by
  have clear : ∀ stop : Cursor, stop.rest = tail.drop word.length →
      (tail.take word.length).map caseKey = word.map caseKey →
      (notAhead (char fun c => isWordOrDot c || c == ':')).ends stop = [] := by
    intro stop behind spells
    refine List.eq_nil_iff_forall_not_mem.2 fun there member => unechoed ⟨spells, ?_⟩
    rw [← behind]
    exact stops_of_mem_ends_notAhead member
  obtain ⟨leads, x, member, reaches⟩ := label.leads_bareStem segment split first
  rw [ends_labelWithoutColon _ free]
  exact segment.takesExact_flatMap rfl (label.notAhead_ne_nil noColon) clear
    (leads.map_note .before 0) ⟨_, List.mem_map_of_mem member, reaches⟩

end SourceLabel

namespace LabelHit

/-- The last segment of a label stands once more directly behind it, and nothing continues it
    there. -/
def IsEchoed (hit : LabelHit) (line : Text) : Prop :=
  let word := hit.lastSegment line
  let tail := line.drop hit.span.stop
  (tail.take word.length).map caseKey = word.map caseKey ∧
    ¬(tail.drop word.length).head?.any fun c => isWordOrDot c || c == ':'

instance (hit : LabelHit) (line : Text) : Decidable (hit.IsEchoed line) :=
  inferInstanceAs (Decidable (_ ∧ _))

open Cursor Pattern WordSearch

variable {rules : LabelRules} {line : Text} {hit : LabelHit}

/-- The last segment of a label in the first column is found as a declaration of itself. -/
theorem exists_exact_declaration (found : (LabelForm.of .source rules).find? line = some hit)
    (first : hit.span.start = 0)
    (starts : (hit.lastSegment line).head?.any Occurrence.startsSegment)
    (single : hit.stop ≤ hit.span.stop + 1) (unechoed : ¬hit.IsEchoed line) :
    ∃ p ∈ declarations (.exact (hit.lastSegment line)) .source rules, ∃ m ∈ p.findAll line,
      m.wordSpan = hit.segment line := by
  obtain ⟨margin, mark, name, tail, label, span, closed⟩ := LabelForm.sourceLabel_of_find? found
  obtain ⟨front, split, segment, _⟩ := label.exists_lastSegment span starts
  have noMargin : margin = [] := by
    rw [span] at first
    exact List.length_eq_zero_iff.1 first
  have matched : ∀ p ∈ declarations (.exact (hit.lastSegment line)) .source rules,
      TakesWord (p.ends (.start line))
        ⟨(margin ++ front).length, (margin ++ front ++ hit.lastSegment line).length⟩ →
      ∃ p ∈ declarations (.exact (hit.lastSegment line)) .source rules, ∃ m ∈ p.findAll line,
        m.wordSpan = hit.segment line := by
    rintro p isDeclaration ⟨there, isHead, isWord⟩
    refine ⟨p, isDeclaration, _, mem_findAll_of_head isHead, ?_⟩
    rw [wordSpan_matchTo isWord, SourceLabel.segment_eq span split]
  cases closed with
  | colon after on isColon closing =>
    have isDeclaration : labelWithColon (.exact (hit.lastSegment line)) .source ∈
        declarations (.exact (hit.lastSegment line)) .source rules := by
      simp [declarations, labels, on]
    exact matched _ isDeclaration
      (label.takesExact_withColon segment split noMargin isColon (closing single))
  | bare on _ noColon free =>
    have isDeclaration : labelWithoutColon (.exact (hit.lastSegment line)) ∈
        declarations (.exact (hit.lastSegment line)) .source rules := by
      simp [declarations, labels, on]
    have isTail : line.drop hit.span.stop = tail := by
      rw [span, label.split, List.drop_left]
    refine matched _ isDeclaration
      (label.takesExact_withoutColon segment split noMargin noColon free ?_)
    rw [← isTail]
    exact unechoed

end LabelHit
end AsmAtlas
