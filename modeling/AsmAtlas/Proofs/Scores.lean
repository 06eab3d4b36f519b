import AsmAtlas.Proofs.Subsequences
import AsmAtlas.Ranking
import Mathlib.Algebra.BigOperators.Intervals
import Mathlib.Data.List.GetD
import Mathlib.Data.List.TakeWhile

/-!
# Scores

A name is scored by taking each character of the folded query at its first place behind the one
before. If the characters stand anywhere in their order, this finds places for all of them, and none
further left than needed, so only names that miss the query have no score. The score is then a sum
over these places. They are places of the folded name, but what a place is worth is read off the
name as it is written, so places behind its end are worth nothing.
-/

namespace AsmAtlas
namespace Ranking

/-- A place from a column on where a character stands for the first time. -/
structure IsFirst (t : Text) (column : Nat) (c : Char) (place : Nat) : Prop where
  behind : column ≤ place
  here : t[place]? = some c
  free : ∀ i, column ≤ i → i < place → t[i]? ≠ some c

/-- The characters of a query, each at its first place behind the one before. -/
inductive TakesFirst (t : Text) : Nat → Text → List Nat → Prop
  | nil {column : Nat} : TakesFirst t column [] []
  | cons {column place : Nat} {c : Char} {query : Text} {places : List Nat}
      (first : IsFirst t column c place) (later : TakesFirst t (place + 1) query places) :
      TakesFirst t column (c :: query) (place :: places)

/-- Places for a query none of which could be further left. -/
structure Leftmost (query t : Text) (places : List Nat) : Prop where
  stands : Text.StandsAt (fun q c => q = c) query t places
  least : ∀ others, Text.StandsAt (fun q c => q = c) query t others →
    List.Forall₂ (· ≤ ·) places others

variable {t query : Text} {column : Nat} {c : Char} {places : List Nat}

theorem exists_isFirst {i : Nat} (behind : column ≤ i) (isChar : t[i]? = some c) :
    ∃ place, IsFirst t column c place := by
  have stands : ∃ i, column ≤ i ∧ t[i]? = some c := ⟨i, behind, isChar⟩
  obtain ⟨behind, here⟩ := Nat.find_spec stands
  exact ⟨Nat.find stands, behind, here, fun i behind before isChar =>
    Nat.find_min stands before ⟨behind, isChar⟩⟩

theorem IsFirst.le {place i : Nat} (first : IsFirst t column c place) (behind : column ≤ i)
    (isChar : t[i]? = some c) : place ≤ i := by
  by_contra before
  exact first.free i behind (Nat.not_le.1 before) isChar

theorem IsFirst.unique {place other : Nat} (first : IsFirst t column c place)
    (again : IsFirst t column c other) : place = other :=
  Nat.le_antisymm (first.le again.behind again.here) (again.le first.behind first.here)

/-- Skipping other characters comes to the first place of a character. -/
theorem IsFirst.takeWhile_ne {place : Nat} (first : IsFirst t column c place) :
    (t.drop column).takeWhile (· != c) = (t.drop column).take (place - column) ∧
      (t.drop column).drop (place - column) = c :: t.drop (place + 1) := by
  have behind : (t.drop column).drop (place - column) = c :: t.drop (place + 1) := by
    obtain ⟨inside, isElem⟩ := List.getElem?_eq_some_iff.1 first.here
    rw [List.drop_drop, Nat.add_sub_cancel' first.behind, List.drop_eq_getElem_cons inside, isElem]
  have other : ∀ d ∈ (t.drop column).take (place - column), d != c := by
    intro d member
    obtain ⟨i, isChar⟩ := List.getElem?_of_mem member
    rw [List.getElem?_take] at isChar
    split_ifs at isChar with before
    rw [List.getElem?_drop] at isChar
    rw [bne_iff_ne]
    rintro rfl
    exact first.free (column + i) (Nat.le_add_right column i) (by omega) isChar
  obtain ⟨skipped, _⟩ := Text.takeWhile_append_of_stops other
    (u := (t.drop column).drop (place - column)) (by simp [behind])
  rw [List.take_append_drop] at skipped
  exact ⟨skipped, behind⟩

/-- They are places of the query, from the column on. -/
theorem TakesFirst.standsAt (takes : TakesFirst t column query places) :
    Text.StandsAt (fun q c => q = c) query t places ∧ ∀ i ∈ places, column ≤ i := by
  induction takes with
  | nil => exact ⟨⟨List.Pairwise.nil, .nil⟩, by simp⟩
  | @cons column place c query places first later ih =>
    obtain ⟨⟨increasing, each⟩, behind⟩ := ih
    refine ⟨⟨List.pairwise_cons.2 ⟨behind, increasing⟩, .cons ⟨c, first.here, rfl⟩ each⟩, ?_⟩
    intro i member
    rcases List.mem_cons.1 member with rfl | isLater
    · exact first.behind
    · have := behind i isLater
      have := first.behind
      omega

/-- No other places of the query from the column on are further left. -/
theorem TakesFirst.le_of_stands (takes : TakesFirst t column query places) {others : List Nat}
    (stands : Text.StandsAt (fun q c => q = c) query t others)
    (behind : ∀ i ∈ others, column ≤ i) :
    List.Forall₂ (· ≤ ·) places others := by
  induction takes generalizing others with
  | nil =>
    obtain rfl := List.forall₂_nil_left_iff.1 stands.each
    exact .nil
  | @cons column place c query places first later ih =>
    obtain ⟨other, others, ⟨d, isChar, rfl⟩, each, rfl⟩ :=
      List.forall₂_cons_left_iff.1 stands.each
    obtain ⟨below, increasing⟩ := List.pairwise_cons.1 stands.increasing
    have upTo := first.le (behind other List.mem_cons_self) isChar
    refine .cons upTo (ih ⟨increasing, each⟩ fun i member => ?_)
    have := below i member
    omega

theorem TakesFirst.leftmost (takes : TakesFirst t 0 query places) : Leftmost query t places :=
  ⟨takes.standsAt.1, fun _ stands => takes.le_of_stands stands fun i _ => Nat.zero_le i⟩

/-- Wherever the characters of a query stand in order, each can be taken at its first place. -/
theorem exists_takesFirst {others : List Nat}
    (stands : Text.StandsAt (fun q c => q = c) query t others)
    (behind : ∀ i ∈ others, column ≤ i) :
    ∃ places, TakesFirst t column query places := by
  induction query generalizing column others with
  | nil => exact ⟨[], .nil⟩
  | cons c query ih =>
    obtain ⟨other, others, ⟨d, isChar, rfl⟩, each, rfl⟩ :=
      List.forall₂_cons_left_iff.1 stands.each
    obtain ⟨below, increasing⟩ := List.pairwise_cons.1 stands.increasing
    have inText := behind other List.mem_cons_self
    obtain ⟨place, first⟩ := exists_isFirst inText isChar
    have upTo := first.le inText isChar
    obtain ⟨places, later⟩ := ih ⟨increasing, each⟩ fun i member => upTo.trans_lt (below i member)
    exact ⟨place :: places, .cons first later⟩

theorem exists_takesFirst_iff :
    (∃ places, TakesFirst t 0 query places) ↔ query.Sublist t := by
  have subsequence : (∃ places, Text.StandsAt (fun q c => q = c) query t places) ↔
      (query.map id).Sublist (t.map id) := Text.exists_standsAt_iff
  rw [List.map_id, List.map_id] at subsequence
  rw [← subsequence]
  constructor
  · rintro ⟨places, takes⟩
    exact ⟨places, takes.standsAt.1⟩
  · rintro ⟨others, stands⟩
    exact exists_takesFirst stands fun i _ => Nat.zero_le i

/-- The leftmost places are those that are taken one after the other. -/
theorem leftmost_iff_takesFirst : Leftmost query t places ↔ TakesFirst t 0 query places := by
  constructor
  · intro leftmost
    obtain ⟨others, takes⟩ := exists_takesFirst leftmost.stands fun i _ => Nat.zero_le i
    have before := leftmost.least others takes.standsAt.1
    have after := takes.leftmost.least places leftmost.stands
    have equal : List.Forall₂ (· = ·) places others :=
      List.Forall₂.mp (fun _ _ upTo behind => Nat.le_antisymm upTo behind) before after.flip
    rw [List.forall₂_eq_eq_eq] at equal
    exact equal ▸ takes
  · exact TakesFirst.leftmost

/-- The column behind the hit before: hit `i` is there if nothing is skipped in front of it. -/
def resumeAt (places : List Nat) : Nat → Nat
  | 0 => 0
  | i + 1 => places.getD i 0 + 1

/-- How many characters are skipped in front of hit `i`. -/
def skippedAt (places : List Nat) (i : Nat) : Nat :=
  places.getD i 0 - resumeAt places i

/-- How many hits in a row, up to the one before hit `i`, have nothing skipped in front of them. -/
def streakAt (places : List Nat) : Nat → Nat
  | 0 => 0
  | i + 1 => if skippedAt places i = 0 then streakAt places i + 1 else 0

/-- What hit `i` is worth for how it follows: more in a longer streak, less behind a wider gap, both
    up to a cap. -/
def linkWorth (places : List Nat) (i : Nat) : Int :=
  if skippedAt places i = 0 then
    (min weights.streakCap ((streakAt places i + 1) * weights.streakStep) : Nat)
  else -(min weights.gapCap (skippedAt places i * weights.gapStep) : Nat)

/-- What a place of a name is worth: the start of a segment, a capital behind a small letter. There
    is nothing behind the end of the name. -/
def placeWorth (name : Text) (i : Nat) : Int :=
  match name[i]? with
  | none => 0
  | some c =>
    if i = 0 ∨ name[i - 1]?.any isSeparator then weights.segmentStart
    else if isCapital c ∧ name[i - 1]?.any isSmall then weights.camelHump
    else 0

/-- What hit `i` is worth. -/
def hitWorth (name : Text) (places : List Nat) (i : Nat) : Int :=
  weights.hit + linkWorth places i + placeWorth name (places.getD i 0)

section

variable {done left : List Nat} {i place : Nat}

theorem resumeAt_append (before : i ≤ done.length) :
    resumeAt (done ++ left) i = resumeAt done i := by
  cases i with
  | zero => rfl
  | succ i => rw [resumeAt, resumeAt, List.getD_append _ _ _ _ before]

theorem skippedAt_append (before : i < done.length) :
    skippedAt (done ++ left) i = skippedAt done i := by
  rw [skippedAt, skippedAt, resumeAt_append before.le, List.getD_append _ _ _ _ before]

theorem streakAt_append (before : i ≤ done.length) :
    streakAt (done ++ left) i = streakAt done i := by
  induction i with
  | zero => rfl
  | succ i ih => rw [streakAt, streakAt, skippedAt_append before, ih (Nat.le_of_succ_le before)]

theorem getD_concat : (done ++ place :: left).getD done.length 0 = place := by
  rw [List.getD_append_right _ _ _ _ le_rfl, Nat.sub_self, List.getD_cons_zero]

theorem skippedAt_concat :
    skippedAt (done ++ place :: left) done.length = place - resumeAt done done.length := by
  rw [skippedAt, getD_concat, resumeAt_append le_rfl]

/-- One more hit starts the streak anew, or makes it longer. -/
theorem streakAt_concat :
    streakAt (done ++ [place]) (done.length + 1) =
      if place - resumeAt done done.length = 0 then streakAt done done.length + 1 else 0 := by
  rw [streakAt, skippedAt_concat, streakAt_append le_rfl]

end

theorem getElem?_placeBonuses (last : Option Char) (name : Text) (i : Nat) :
    (placeBonuses last name)[i]? =
      name[i]?.map (placeBonus (if i = 0 then last else name[i - 1]?)) := by
  induction name generalizing last i with
  | nil => rfl
  | cons c name ih =>
    cases i with
    | zero => rfl
    | succ i =>
      rw [placeBonuses, List.getElem?_cons_succ, ih]
      cases i <;> rfl

theorem placeBonuses_getD (name : Text) (i : Nat) :
    (placeBonuses none name)[i]?.getD 0 = placeWorth name i := by
  rw [getElem?_placeBonuses, placeWorth]
  cases isChar : name[i]? with
  | none => rfl
  | some c =>
    cases i with
    | zero => rfl
    | succ i =>
      obtain ⟨inside, _⟩ := List.getElem?_eq_some_iff.1 isChar
      have before : i < name.length := by omega
      have isLast : name[i]? = some name[i] := List.getElem?_eq_getElem before
      simp [placeBonus, isLast]

/-- What the hit behind some others is worth. -/
theorem hitWorth_concat (name : Text) :
    hitWorth name (done ++ place :: left) done.length =
      linkValue (place - resumeAt done done.length) (streakAt done done.length) + weights.hit +
        (placeBonuses none name)[place]?.getD 0 := by
  have link : linkWorth (done ++ place :: left) done.length =
      linkValue (place - resumeAt done done.length) (streakAt done done.length) := by
    rw [linkWorth, linkValue, skippedAt_concat, streakAt_append le_rfl]
    simp
  rw [hitWorth, link, getD_concat, placeBonuses_getD]
  omega

section

variable {bonuses : List Int} {streak : Nat}

theorem IsFirst.matchValue_cons {place : Nat} (first : IsFirst t column c place) :
    matchValue bonuses column streak (t.drop column) (c :: query) =
      (matchValue bonuses (place + 1) (if place - column = 0 then streak + 1 else 0)
          (t.drop (place + 1)) query).map fun value =>
        linkValue (place - column) streak + weights.hit + bonuses[place]?.getD 0 + value := by
  obtain ⟨skipped, behind⟩ := first.takeWhile_ne
  have length : ((t.drop column).takeWhile (· != c)).length = place - column := by
    obtain ⟨inside, _⟩ := List.getElem?_eq_some_iff.1 first.here
    rw [skipped, List.length_take, List.length_drop]
    omega
  rw [matchValue]
  simp only [length, behind, beq_iff_eq, Nat.add_sub_cancel' first.behind]

theorem matchValue_cons_of_absent (absent : ∀ place, ¬IsFirst t column c place) :
    matchValue bonuses column streak (t.drop column) (c :: query) = none := by
  have other : ∀ d ∈ t.drop column, d != c := by
    intro d member
    obtain ⟨i, isChar⟩ := List.getElem?_of_mem member
    rw [List.getElem?_drop] at isChar
    rw [bne_iff_ne]
    rintro rfl
    obtain ⟨place, first⟩ := exists_isFirst (Nat.le_add_right column i) isChar
    exact absent place first
  rw [matchValue, List.takeWhile_eq_self_iff.2 other]
  simp only [List.drop_length]

end

/-- Behind some hits, the rest of a query has a value if its characters can be taken at their first
    places, and then it is what the hits there are worth. -/
theorem matchValue_eq_some_iff (name t query : Text) (done : List Nat) (value : Int) :
    matchValue (placeBonuses none name) (resumeAt done done.length) (streakAt done done.length)
        (t.drop (resumeAt done done.length)) query = some value ↔
      ∃ left, TakesFirst t (resumeAt done done.length) query left ∧
        value =
          ∑ i ∈ Finset.Ico done.length (done ++ left).length, hitWorth name (done ++ left) i := by
  induction query generalizing done value with
  | nil =>
    rw [matchValue]
    constructor
    · rintro same
      exact ⟨[], .nil, by simpa using same.symm⟩
    · rintro ⟨left, takes, rfl⟩
      cases takes
      simp
  | cons c query ih =>
    by_cases present : ∃ place, IsFirst t (resumeAt done done.length) c place
    · obtain ⟨place, first⟩ := present
      -- the hit is the next of those that are done
      have resume : resumeAt (done ++ [place]) (done ++ [place]).length = place + 1 := by
        rw [List.length_append, List.length_singleton, resumeAt, getD_concat]
      have streak : streakAt (done ++ [place]) (done ++ [place]).length =
          if place - resumeAt done done.length = 0 then streakAt done done.length + 1 else 0 := by
        rw [List.length_append, List.length_singleton, streakAt_concat]
      have next := ih (done ++ [place])
      rw [resume, streak] at next
      have total (left : List Nat) :
          ∑ i ∈ Finset.Ico done.length (done ++ place :: left).length,
              hitWorth name (done ++ place :: left) i =
            linkValue (place - resumeAt done done.length) (streakAt done done.length) +
              weights.hit + (placeBonuses none name)[place]?.getD 0 +
              ∑ i ∈ Finset.Ico (done ++ [place]).length (done ++ [place] ++ left).length,
                hitWorth name (done ++ [place] ++ left) i := by
        have same : done ++ [place] ++ left = done ++ place :: left := by
          rw [List.append_assoc, List.singleton_append]
        rw [same, List.length_append, List.length_append, List.length_singleton,
          Finset.sum_eq_sum_Ico_succ_bot (by simp), hitWorth_concat]
      rw [first.matchValue_cons, Option.map_eq_some_iff]
      simp only [next]
      constructor
      · rintro ⟨_, ⟨left, takes, rfl⟩, rfl⟩
        exact ⟨place :: left, .cons first takes, (total left).symm⟩
      · rintro ⟨_, takes, rfl⟩
        cases takes with
        | @cons _ other _ _ left again later =>
          obtain rfl := first.unique again
          exact ⟨_, ⟨left, later, rfl⟩, (total left).symm⟩
    · rw [matchValue_cons_of_absent (not_exists.1 present)]
      constructor
      · rintro ⟨⟩
      · rintro ⟨_, takes, _⟩
        cases takes with
        | cons first _ => exact absurd ⟨_, first⟩ present

/-- What the hits in a name are worth together; longer names are worth less. -/
def worth (name : Text) (places : List Nat) : Int :=
  ∑ i ∈ Finset.range places.length, hitWorth name places i -
    (name.length / weights.lengthStep : Nat)

theorem score_eq_some_iff {query name : Text} {value : Int} :
    score query name = some value ↔
      query = [] ∧ value = 0 ∨
      query ≠ [] ∧ ∃ places, TakesFirst (foldCase name) 0 (foldCase query) places ∧
        value = worth name places := by
  by_cases empty : query = []
  · simp [score, empty, eq_comm]
  · have matched := matchValue_eq_some_iff name (foldCase name) (foldCase query) []
    simp only [List.length_nil, resumeAt, streakAt, List.drop_zero, List.nil_append,
      ← Finset.range_eq_Ico] at matched
    rw [score, if_neg (by simpa using empty), Option.map_eq_some_iff]
    simp only [matched, empty, false_and, false_or, ne_eq, not_false_eq_true, true_and, worth]
    constructor
    · rintro ⟨_, ⟨places, takes, rfl⟩, rfl⟩
      exact ⟨places, takes, rfl⟩
    · rintro ⟨places, takes, rfl⟩
      exact ⟨_, ⟨places, takes, rfl⟩, rfl⟩

/-- A name has a score if its folding has the folded query as a subsequence. -/
theorem isSome_score_iff {query name : Text} :
    (score query name).isSome ↔ (foldCase query).Sublist (foldCase name) := by
  rw [Option.isSome_iff_exists]
  simp only [score_eq_some_iff]
  by_cases empty : query = []
  · simp [empty, foldCase]
  · rw [← exists_takesFirst_iff]
    simp [empty]

/-- There is a score exactly for the names whose folding has the folded query. It is what the
    leftmost places of the query there are worth, each character at its first place behind the one
    before; that of the empty query is zero. -/
theorem score_counts_leftmost (query name : Text) :
    (score query name = none ↔ ¬(foldCase query).Sublist (foldCase name)) ∧
      ∀ value, score query name = some value ↔
        query = [] ∧ value = 0 ∨
        query ≠ [] ∧ ∃ places, Leftmost (foldCase query) (foldCase name) places ∧
          TakesFirst (foldCase name) 0 (foldCase query) places ∧ value = worth name places := by
  constructor
  · rw [← isSome_score_iff, Option.not_isSome_iff_eq_none]
  · intro value
    rw [score_eq_some_iff]
    simp only [leftmost_iff_takesFirst, ← and_assoc, and_self]

/-- The sharp s is folded to two characters, so that the last hit is behind the end of the name. -/
example : score "ss".toList "ß".toList = some (16 + 15 + 30 + (16 + 30)) := by
  decide +kernel

end Ranking
end AsmAtlas
