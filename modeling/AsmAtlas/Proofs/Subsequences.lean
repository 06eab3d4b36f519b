import AsmAtlas.Proofs.FuzzyWords
import AsmAtlas.Proofs.PlainGlobs
import Mathlib.Data.List.Forall2

/-!
# Subsequences

The characters of a query stand in a name in their order if there are increasing places for them.
The expression of a query has gaps around its characters, and each character is read as itself, also
where it means something in the notation of regular expressions. A gap is greedy, and may take
characters that the query needs; but every way to share a name out among gaps and characters is
tried, so the expression takes a whole name exactly if there are such places.
-/

namespace AsmAtlas

namespace Text

/-- Places of a name, from left to right, where the characters of a query stand one by one. -/
structure StandsAt (same : Char → Char → Prop) (query name : Text) (places : List Nat) : Prop where
  increasing : places.Pairwise (· < ·)
  each : List.Forall₂ (fun q i => ∃ c, name[i]? = some c ∧ same q c) query places

variable {query name : Text} {places : List Nat} {key : Char → Char}

/-- What stands at increasing places from a column on is a subsequence of the text from there. -/
theorem sublist_drop_of_stands {column : Nat} (increasing : places.Pairwise (· < ·))
    (behind : ∀ i ∈ places, column ≤ i)
    (each : List.Forall₂ (fun q i => ∃ c, name[i]? = some c ∧ key q = key c) query places) :
    (query.map key).Sublist ((name.drop column).map key) := by
  induction each generalizing column with
  | nil => exact List.nil_sublist _
  | @cons q i query places here _ ih =>
    obtain ⟨c, isChar, same⟩ := here
    obtain ⟨first, later⟩ := List.pairwise_cons.1 increasing
    have next : name.drop i = c :: name.drop (i + 1) := by
      obtain ⟨inside, isElem⟩ := List.getElem?_eq_some_iff.1 isChar
      rw [List.drop_eq_getElem_cons inside, isElem]
    have fromHere : ((q :: query).map key).Sublist ((name.drop i).map key) := by
      rw [next, List.map_cons, List.map_cons, same]
      exact (ih later fun j member => first j member).cons_cons _
    exact fromHere.trans ((List.drop_sublist_drop_left name (behind i List.mem_cons_self)).map key)

/-- There are places for a query, up to a key of the characters, if its keys are a subsequence of
    those of the name. -/
theorem exists_standsAt_iff :
    (∃ places, StandsAt (fun q c => key q = key c) query name places) ↔
      (query.map key).Sublist (name.map key) := by
  constructor
  · rintro ⟨places, stands⟩
    have fromStart :=
      sublist_drop_of_stands stands.increasing (fun i _ => Nat.zero_le i) stands.each
    rwa [List.drop_zero] at fromStart
  · intro sublist
    obtain ⟨found, isFound, keys⟩ := List.sublist_map_iff.1 sublist
    obtain ⟨places, rfl, increasing⟩ := List.sublist_eq_map_getElem isFound
    refine ⟨places.map Fin.val, List.pairwise_map.2 increasing, ?_⟩
    have same : List.Forall₂ (fun q (i : Fin name.length) => key q = key name[i]) query places := by
      rw [List.map_map, ← List.forall₂_eq_eq_eq, List.forall₂_map_left_iff,
        List.forall₂_map_right_iff] at keys
      exact keys
    rw [List.forall₂_map_right_iff]
    exact same.imp fun q i equal => ⟨name[i], List.getElem?_eq_getElem i.isLt, equal⟩

end Text

namespace ExprToken

/-- The set of all characters of dotted names. -/
theorem next_wordOrDot (rest : LooseText) :
    next (.ofText "[\\w.]".toList ++ rest) = .ok (some (.one isWordOrDot, rest)) := by
  have dot : (fun c => isWordChar c || (SetAtom.code (CodePoint.char '.').value).item.accepts c) =
      isWordOrDot := by
    funext c
    have isDot : c = '.' ↔ c.toNat = 46 := by
      rw [← Char.toNat_inj]
      rfl
    have code : (CodePoint.char '.').value = 46 := rfl
    rw [isWordOrDot, Bool.eq_iff_iff]
    simp only [SetAtom.item, SetItem.accepts, code, Bool.or_eq_true, Bool.and_eq_true,
      decide_eq_true_eq, beq_iff_eq, isDot]
    exact or_congr_right (by omega)
  change next (.char '[' :: .char '\\' :: .char 'w' :: .char '.' :: .char ']' :: rest) = _
  simp [next, CharSet.read, CharSet.negation, CharSet.items, CharSet.part, CharSet.atom,
    CharSet.escape]
  exact dot

end ExprToken

namespace Wanted

open Expression

/-- Gaps around the characters of a query, given what may stand for a character. -/
def gapped (standsFor : Char → Char → Bool) (query : Text) : List Pattern :=
  skip :: query.flatMap fun q => [.char (standsFor q), skip]

/-- The notation of a gap. -/
def gapText : Text :=
  "[\\w.]*".toList

theorem readFrom_gap (level : ExprLevel) (outer : List ExprLevel) (rest : LooseText) :
    readFrom level outer (.ofText gapText ++ rest) = readFrom (level.add skip) outer rest := by
  change readFrom level outer (.ofText "[\\w.]".toList ++ .char '*' :: rest) = _
  rw [readFrom_of_next (ExprToken.next_wordOrDot _) rfl]
  exact readFrom_of_next rfl rfl

theorem readFrom_gapped (level : ExprLevel) (outer : List ExprLevel) (query : Text)
    (rest : LooseText) :
    readFrom level outer
        (.ofText (query.flatMap fun q => escapeChar q ++ gapText) ++ rest) =
      readFrom (level.addAll (query.flatMap fun q => [.char (· == q), skip])) outer rest := by
  induction query generalizing level with
  | nil => rfl
  | cons q query ih =>
    have spread : LooseText.ofText ((q :: query).flatMap fun q => escapeChar q ++ gapText) ++ rest =
        .ofText (escapeChar q) ++ (.ofText gapText ++
          (.ofText (query.flatMap fun q => escapeChar q ++ gapText) ++ rest)) := by
      simp [LooseText.ofText]
    have itself : (fun c => CodePoint.char c == CodePoint.char q) = (· == q) := by
      funext c
      rw [Bool.eq_iff_iff]
      simp
    rw [spread, readFrom_of_next (ExprToken.next_escapeChar q _) rfl, readFrom_gap, ih, itself]
    simp [ExprLevel.addAll, ExprLevel.add]

/-- The expression of a query is read as gaps around its characters. -/
theorem read_expression (query : Text) :
    Expression.read (.ofText (fuzzy query).expression) =
      .ok (.all (gapped (fun q c => c == q) query)) := by
  have spread : LooseText.ofText (fuzzy query).expression =
      LooseText.ofText gapText ++
        (LooseText.ofText (query.flatMap fun q => escapeChar q ++ gapText) ++ []) := by
    rw [List.append_nil]
    exact List.map_append
  rw [spread]
  change readFrom {} [] _ = _
  rw [readFrom_gap, readFrom_gapped]
  simp [readFrom, ExprToken.ofText, ExprToken.next, build, ExprLevel.pattern, ExprLevel.add,
    ExprLevel.addAll, gapped, Pattern.any]

end Wanted

namespace Pattern

/-- The match of a whole line. -/
def matchWhole (p : Pattern) (line : Text) : Option Match :=
  p.matchWhere (.start line) fun there => there.rest.isEmpty

/-- A line is matched as a whole if some way to match the pattern leaves nothing of it. -/
theorem isSome_matchWhole_iff {p : Pattern} {line : Text} :
    (p.matchWhole line).isSome ↔ ∃ there ∈ p.ends (.start line), there.rest = [] := by
  rw [matchWhole, matchWhere_eq, Option.isSome_map, List.find?_isSome]
  simp only [List.isEmpty_iff]

theorem ends_all_cons (p : Pattern) (ps : List Pattern) (here : Cursor) :
    (all (p :: ps)).ends here = (p.ends here).flatMap (all ps).ends := by
  cases ps with
  | nil => exact (List.flatMap_singleton' _).symm
  | cons q ps => rfl

end Pattern

namespace Wanted

open Pattern

variable {query name : Text}

/-- A search for a query is one for what its expression is read as, case ignored. -/
theorem ends_fuzzy (query : Text) (here : Cursor) :
    (fuzzy query).pattern.ends here = (all (gapped sameLetter query)).ends here := by
  rw [gapped, ends_all_cons]
  change (skip.ends here).flatMap _ = _
  congr 1
  funext there
  induction query generalizing there with
  | nil => rfl
  | cons q query ih =>
    rw [List.flatMap_cons, List.cons_append, List.cons_append, ends_all_cons]
    change ((letter q).ends there).flatMap _ = ((letter q).ends there).flatMap _
    congr 1
    funext next
    rw [List.nil_append, ends_all_cons]
    change (skip.ends next).flatMap _ = _
    congr 1
    funext last
    exact ih last

/-- A query matches a whole name that has it. -/
theorem isSome_matchWhole_fuzzy (ofName : ∀ c ∈ name, isWordOrDot c) :
    ((fuzzy query).pattern.matchWhole name).isSome ↔ name.HasQuery query := by
  rw [isSome_matchWhole_iff]
  constructor
  · rintro ⟨there, member, nothing⟩
    obtain ⟨run, between, hasQuery, _⟩ := hasQuery_of_mem_ends member
    have isName : name = run := by
      have rest := between.rest
      rwa [nothing, List.append_nil] at rest
    exact isName ▸ hasQuery
  · intro hasQuery
    have split : (Cursor.start name).rest = name ++ [] := (List.append_nil name).symm
    obtain ⟨there, member, nothing, _⟩ := exists_mem_ends_fuzzy split ofName hasQuery
    exact ⟨there, member, nothing⟩

/-- The expression of a query finds subsequences. It is read as gaps around the characters of the
    query, whatever these are, and with case ignored that matches the whole of a dotted name if
    there are increasing places in it where the characters of the query stand up to case. So every
    subsequence of a name finds it, and the empty query finds every name. -/
theorem fuzzy_finds_subsequences (ofName : ∀ c ∈ name, isWordOrDot c) :
    (∀ query : Text,
      Expression.read (.ofText (fuzzy query).expression) =
          .ok (all (gapped (fun q c => c == q) query)) ∧
        (∀ here, (fuzzy query).pattern.ends here = (all (gapped sameLetter query)).ends here) ∧
        (((fuzzy query).pattern.matchWhole name).isSome ↔
          ∃ places, Text.StandsAt (fun q c => sameLetter q c) query name places)) ∧
      (∀ query : Text, query.Sublist name → ((fuzzy query).pattern.matchWhole name).isSome) ∧
      ((fuzzy []).pattern.matchWhole name).isSome := by
  refine ⟨fun query => ⟨read_expression query, ends_fuzzy query, ?_⟩, fun query sublist => ?_, ?_⟩
  · simp only [sameLetter, beq_iff_eq]
    rw [isSome_matchWhole_fuzzy ofName, Text.exists_standsAt_iff]
    rfl
  · exact (isSome_matchWhole_fuzzy ofName).2 (sublist.map caseKey)
  · exact (isSome_matchWhole_fuzzy ofName).2 (List.nil_sublist _)

/-- A long s is found by a capital one, though a gap could take it. -/
theorem longS_found :
    (∀ c ∈ "Set.ſkipSk".toList, isWordOrDot c) ∧
      Text.StandsAt (fun q c => sameLetter q c) "tSK".toList "Set.ſkipSk".toList [2, 4, 5] ∧
      ((fuzzy "tSK".toList).pattern.matchWhole "Set.ſkipSk".toList).isSome := by
  have ofName : ∀ c ∈ "Set.ſkipSk".toList, isWordOrDot c :=
    List.all_eq_true.1 (by decide +kernel)
  have stands :
      Text.StandsAt (fun q c => sameLetter q c) "tSK".toList "Set.ſkipSk".toList [2, 4, 5] :=
    ⟨by decide, .cons ⟨'t', rfl, by decide +kernel⟩
      (.cons ⟨'ſ', rfl, by decide +kernel⟩ (.cons ⟨'k', rfl, by decide +kernel⟩ .nil))⟩
  obtain ⟨finds, _⟩ := fuzzy_finds_subsequences ofName
  exact ⟨ofName, stands, (finds "tSK".toList).2.2.2 ⟨_, stands⟩⟩

end Wanted

end AsmAtlas
