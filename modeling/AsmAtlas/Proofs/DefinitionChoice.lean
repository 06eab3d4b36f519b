import AsmAtlas.Proofs.SurvivingCandidates
import Mathlib.Data.List.Basic

/-!
# Choosing a definition

Of the declarations that can be meant by the label under the cursor, the ones of the best rank are
taken: the first of them is the definition, and the others are as good. So every one that is taken
could be meant, and there is a definition as soon as there is a declaration.
-/

namespace AsmAtlas

namespace Rank

/-- A rank is better than another by its scope, then by its file, then by its distance. -/
theorem lt_iff (a b : Rank) : a.lt b ↔
    a.scope < b.scope ∨
      a.scope = b.scope ∧ (a.file < b.file ∨ a.file = b.file ∧ a.distance < b.distance) := by
  simp [lt]

theorem lt_trans {a b c : Rank} (first : a.lt b) (second : b.lt c) : a.lt c := by
  rw [lt_iff] at *
  omega

/-- No rank is better than the same scope in the same file on the same line. -/
theorem eq_best_of_not_lt {r : Rank} (notBetter : ¬(⟨0, 0, 0⟩ : Rank).lt r) : r = ⟨0, 0, 0⟩ := by
  obtain ⟨scope, file, distance⟩ := r
  simp only [lt_iff] at notBetter
  simp only [mk.injEq]
  omega

/-- Ranks of which neither is better are the same. -/
theorem eq_of_not_lt {a b : Rank} (notLess : ¬a.lt b) (notMore : ¬b.lt a) : a = b := by
  obtain ⟨scope, file, distance⟩ := a
  obtain ⟨scope', file', distance'⟩ := b
  simp only [lt_iff] at notLess notMore
  simp only [mk.injEq]
  omega

/-- A rank among some that none of them is better than. -/
def IsLeast (r : Rank) (ranks : List Rank) : Prop :=
  r ∈ ranks ∧ ∀ other ∈ ranks, ¬other.lt r

/-- What comes out of the search for the best is at least as good as what went in. -/
theorem not_lt_least (r : Rank) (others : List Rank) :
    ∀ other : Rank, ¬other.lt r → ¬other.lt (r.least others) := by
  induction others generalizing r with
  | nil => exact fun _ notBetter => notBetter
  | cons first others ih =>
    intro other notBetter
    change ¬other.lt ((if first.lt r then first else r).least others)
    split_ifs with better
    · exact ih first other fun below => notBetter (lt_trans below better)
    · exact ih r other notBetter

theorem isLeast_least (r : Rank) (others : List Rank) :
    (r.least others).IsLeast (r :: others) := by
  induction others generalizing r with
  | nil => exact ⟨List.mem_cons_self, by simp [least, lt_iff]⟩
  | cons first others ih =>
    have start : ∀ a : Rank, ¬a.lt a := by simp [lt_iff]
    change ((if first.lt r then first else r).least others).IsLeast (r :: first :: others)
    split_ifs with better
    · obtain ⟨member, none⟩ := ih first
      refine ⟨List.mem_cons_of_mem r member, ?_⟩
      intro other isOther
      rcases List.mem_cons.1 isOther with rfl | later
      · exact not_lt_least first others other fun below => start _ (lt_trans below better)
      · exact none other later
    · obtain ⟨member, none⟩ := ih r
      refine ⟨?_, ?_⟩
      · rcases List.mem_cons.1 member with same | later
        · rw [same]
          exact List.mem_cons_self
        · exact List.mem_cons_of_mem r (List.mem_cons_of_mem first later)
      · intro other isOther
        rcases List.mem_cons.1 isOther with rfl | later
        · exact none other List.mem_cons_self
        · rcases List.mem_cons.1 later with rfl | last
          · exact not_lt_least r others other better
          · exact none other (List.mem_cons_of_mem r last)

end Rank

namespace Inquiry

variable (q : Inquiry) (name : Qualified)

/-- The rank of a survivor with its names. -/
def rankOf (k : Location × Qualified) : Rank :=
  q.rank name k.1 k.2

/-- The best possible rank is that of the same full name, on the line with the cursor. -/
theorem rankOf_eq_best_iff (k : Location × Qualified) :
    q.rankOf name k = ⟨0, 0, 0⟩ ↔
      k.2.full = name.full ∧ k.1.path = q.origin.path ∧ (k.1.line : Int) = q.position.line := by
  have distance : ((k.1.line : Int) - q.position.line).natAbs = 0 ↔
      (k.1.line : Int) = q.position.line := by omega
  by_cases samePath : k.1.path = q.origin.path
  · simp [rankOf, rank, samePath, distance]
  · simp [rankOf, rank, samePath]

/-- Of some survivors those of the least rank are chosen, the first of them as the location. -/
theorem choose_spec {kept : List (Location × Qualified)} (nonempty : kept ≠ []) :
    ∃ best location ties, best.IsLeast (kept.map (q.rankOf name)) ∧
      q.choose name kept = ⟨[location], ties⟩ ∧
      location :: ties = (kept.filter fun k => q.rankOf name k == best).map (·.1) := by
  obtain ⟨first, rest, rfl⟩ := List.exists_cons_of_ne_nil nonempty
  let best := (q.rankOf name first).least (rest.map (q.rankOf name))
  have least : best.IsLeast ((first :: rest).map (q.rankOf name)) := Rank.isLeast_least _ _
  obtain ⟨k, isKept, isBest⟩ := List.mem_map.1 least.1
  have chosen : k.1 ∈ ((first :: rest).filter fun k => q.rankOf name k == best).map (·.1) :=
    List.mem_map_of_mem (List.mem_filter.2 ⟨isKept, beq_iff_eq.2 isBest⟩)
  obtain ⟨location, ties, isChosen⟩ := List.exists_cons_of_ne_nil (List.ne_nil_of_mem chosen)
  refine ⟨best, location, ties, least, ?_, isChosen.symm⟩
  rw [choose]
  dsimp only
  split
  · next empty => exact absurd (isChosen.symm.trans empty) (List.cons_ne_nil location ties)
  · next found =>
    obtain ⟨rfl, rfl⟩ := List.cons.inj (isChosen.symm.trans found)
    rfl

/-- There is a definition as soon as something survives. -/
theorem choose_locations_eq_nil_iff {kept : List (Location × Qualified)} :
    (q.choose name kept).locations = [] ↔ kept = [] := by
  constructor
  · intro empty
    by_contra nonempty
    obtain ⟨_, location, ties, _, chosen, _⟩ := q.choose_spec name nonempty
    rw [chosen] at empty
    exact List.cons_ne_nil location [] empty
  · rintro rfl
    rfl

/-- The definition and what is as good are locations of survivors. -/
theorem choose_subset (kept : List (Location × Qualified)) :
    (q.choose name kept).locations ++ (q.choose name kept).ambiguous ⊆ kept.map (·.1) := by
  intro l chosen
  have nonempty : kept ≠ [] := by
    rintro rfl
    simp [choose] at chosen
  obtain ⟨best, location, ties, _, isChoice, isChosen⟩ := q.choose_spec name nonempty
  have member : l ∈ location :: ties := by simpa [isChoice] using chosen
  rw [isChosen] at member
  obtain ⟨k, isKept, rfl⟩ := List.mem_map.1 member
  exact List.mem_map_of_mem (List.mem_of_mem_filter isKept)

/-- A survivor of the best possible rank is the definition, if none of that rank comes before it. -/
theorem locations_choose_of_best {kept : List (Location × Qualified)} {k : Location × Qualified}
    {before : Location × Qualified → Location × Qualified → Prop} (ordered : kept.Pairwise before)
    (member : k ∈ kept) (best : q.rankOf name k = ⟨0, 0, 0⟩)
    (first : ∀ other ∈ kept, q.rankOf name other = ⟨0, 0, 0⟩ → ¬before other k) :
    (q.choose name kept).locations = [k.1] := by
  obtain ⟨least, location, ties, ⟨_, notBetter⟩, isChoice, isChosen⟩ :=
    q.choose_spec name (List.ne_nil_of_mem member)
  obtain rfl : least = ⟨0, 0, 0⟩ :=
    Rank.eq_best_of_not_lt (best ▸ notBetter _ (List.mem_map_of_mem member))
  have isBest : k ∈ kept.filter fun k => q.rankOf name k == ⟨0, 0, 0⟩ :=
    List.mem_filter.2 ⟨member, beq_iff_eq.2 best⟩
  cases equals : kept.filter fun k => q.rankOf name k == ⟨0, 0, 0⟩ with
  | nil => simp [equals] at isBest
  | cons head others =>
    rw [equals, List.map_cons] at isChosen
    rw [isChoice, (List.cons.inj isChosen).1]
    rw [equals] at isBest
    rcases List.mem_cons.1 isBest with rfl | later
    · rfl
    · have orderedEquals := ordered.filter fun k => q.rankOf name k == ⟨0, 0, 0⟩
      rw [equals] at orderedEquals
      obtain ⟨isKept, isEqual⟩ := List.mem_filter.1 (equals ▸ List.mem_cons_self)
      exact absurd ((List.pairwise_cons.1 orderedEquals).1 k later)
        (first head isKept (beq_iff_eq.1 isEqual))

/-- The unique reduction chooses among the locations that the plain one has. -/
theorem reduceUnique_of_reduce (candidates : List Candidate) :
    ((q.reduceUnique candidates).locations = [] ↔ (q.reduce candidates).locations = []) ∧
      (q.reduceUnique candidates).locations ++ (q.reduceUnique candidates).ambiguous ⊆
        (q.reduce candidates).locations := by
  unfold reduceUnique reduceUniqueWith reduce reduceWith
  cases q.subject? [] with
  | none => simp
  | some subject =>
    obtain ⟨found, name, cache⟩ := subject
    refine ⟨?_, q.choose_subset name _⟩
    rw [q.choose_locations_eq_nil_iff name]
    exact (List.map_eq_nil_iff (f := fun k : Location × Qualified => k.1)).symm

/-- Whatever survives was a candidate. -/
theorem exists_of_mem_survivors {found : Occurrence} {name : Qualified}
    {kept : List (Location × Qualified)} {cache : ScopeCache} {candidates : List Candidate}
    {k : Location × Qualified}
    (survives : k ∈ (q.survivors found name kept cache candidates).1) :
    k ∈ kept ∨ ∃ c ∈ candidates, c.location = k.1 := by
  induction candidates generalizing kept cache with
  | nil => exact .inl (List.mem_reverse.1 survives)
  | cons c candidates ih =>
    have later : ∀ {kept cache}, k ∈ (q.survivors found name kept cache candidates).1 →
        k ∈ kept ∨ ∃ other ∈ c :: candidates, other.location = k.1 := by
      intro kept cache survives
      refine (ih survives).imp_right ?_
      rintro ⟨other, member, location⟩
      exact ⟨other, List.mem_cons_of_mem c member, location⟩
    rw [survivors] at survives
    split at survives
    · exact later survives
    · simp only at survives
      split_ifs at survives
      · exact later survives
      · rcases later survives with member | candidate
        · rcases List.mem_cons.1 member with rfl | earlier
          · exact .inr ⟨c, List.mem_cons_self, rfl⟩
          · exact .inl earlier
        · exact .inr candidate
      · exact later survives

theorem exists_of_mem_reduce {candidates : List Candidate} {l : Location}
    (member : l ∈ (q.reduce candidates).locations) : ∃ c ∈ candidates, c.location = l := by
  unfold reduce reduceWith at member
  cases subject : q.subject? [] with
  | none => simp [subject] at member
  | some found =>
    rw [subject] at member
    obtain ⟨k, survives, rfl⟩ := List.mem_map.1 member
    rcases q.exists_of_mem_survivors survives with none | candidate
    · exact absurd none List.not_mem_nil
    · exact candidate

/-- Whether one survivor is a better answer than another: the same full name as under the cursor
    goes first, then the file with the cursor, and in this file the smaller distance to its line. -/
def Prefers (a b : Location × Qualified) : Prop :=
  a.2.full = name.full ∧ b.2.full ≠ name.full ∨
    (a.2.full = name.full ↔ b.2.full = name.full) ∧
      (a.1.path = q.origin.path ∧ b.1.path ≠ q.origin.path ∨
        a.1.path = q.origin.path ∧ b.1.path = q.origin.path ∧
          ((a.1.line : Int) - q.position.line).natAbs <
            ((b.1.line : Int) - q.position.line).natAbs)

instance (a b : Location × Qualified) : Decidable (q.Prefers name a b) :=
  inferInstanceAs (Decidable (_ ∨ _))

/-- Ranks are compared as answers are. -/
theorem rankOf_lt_iff (a b : Location × Qualified) :
    (q.rankOf name a).lt (q.rankOf name b) ↔ q.Prefers name a b := by
  rw [Rank.lt_iff, Prefers, rankOf, rankOf, rank, rank]
  by_cases nameA : a.2.full = name.full <;> by_cases nameB : b.2.full = name.full <;>
    by_cases pathA : a.1.path = q.origin.path <;> by_cases pathB : b.1.path = q.origin.path <;>
      simp [nameA, nameB, pathA, pathB]

/-- A survivor has the least rank if no other is preferred to it. -/
theorem rankOf_eq_least_iff {kept : List (Location × Qualified)} {best : Rank}
    (least : best.IsLeast (kept.map (q.rankOf name))) {k : Location × Qualified}
    (member : k ∈ kept) :
    q.rankOf name k = best ↔ ∀ other ∈ kept, ¬q.Prefers name other k := by
  obtain ⟨isRank, notBetter⟩ := least
  constructor
  · rintro rfl other isOther preferred
    exact notBetter _ (List.mem_map_of_mem isOther) ((q.rankOf_lt_iff name _ _).2 preferred)
  · intro unpreferred
    obtain ⟨first, isFirst, rfl⟩ := List.mem_map.1 isRank
    refine Rank.eq_of_not_lt (notBetter _ (List.mem_map_of_mem member)) ?_
    rw [rankOf_lt_iff]
    exact unpreferred first isFirst

/-- The chosen one and those that are as good are the survivors to which none is preferred, in their
    order. -/
theorem choose_eq (kept : List (Location × Qualified)) :
    (q.choose name kept).locations.length ≤ 1 ∧
      (q.choose name kept).locations ++ (q.choose name kept).ambiguous =
        (kept.filter fun k => ∀ other ∈ kept, ¬q.Prefers name other k).map (·.1) := by
  rcases eq_or_ne kept [] with rfl | nonempty
  · exact ⟨Nat.zero_le 1, rfl⟩
  · obtain ⟨best, location, ties, least, isChoice, isChosen⟩ := q.choose_spec name nonempty
    have sameKept : kept.filter (fun k => q.rankOf name k == best) =
        kept.filter fun k => ∀ other ∈ kept, ¬q.Prefers name other k := by
      refine List.filter_congr fun k member => ?_
      rw [Bool.eq_iff_iff, beq_iff_eq, decide_eq_true_iff]
      exact q.rankOf_eq_least_iff name least member
    rw [isChoice, ← sameKept, ← isChosen]
    exact ⟨Nat.le_refl 1, rfl⟩

/-- Asked for a single answer, a reduction gives one location if anything survives, and no other
    number than one or none. The location and the ambiguous ones behind it are the survivors to
    which no survivor is preferred, in their order: it is the first of the best, and the others that
    are as good are ambiguous. So it is with any cache and for all candidates, one survivor or
    many. -/
theorem unique_is_first_of_best (cache : ScopeCache) (candidates : List Candidate) :
    (q.reduceWith cache candidates).1.locations = (q.compared cache candidates).map (·.1) ∧
      (q.reduceUniqueWith cache candidates).1.locations.length ≤ 1 ∧
      ((q.reduceUniqueWith cache candidates).1.locations ≠ [] ↔
        (q.reduceWith cache candidates).1.locations ≠ []) ∧
      (q.reduceUniqueWith cache candidates).1.locations ++
          (q.reduceUniqueWith cache candidates).1.ambiguous =
        ((q.compared cache candidates).filter fun k =>
          ∀ other ∈ q.compared cache candidates,
            ¬q.Prefers (q.comparand cache) other k).map (·.1) := by
  rw [reduceWith_fst, reduceUniqueWith_fst]
  obtain ⟨atMostOne, chosen⟩ := q.choose_eq (q.comparand cache) (q.compared cache candidates)
  refine ⟨rfl, atMostOne, ?_, chosen⟩
  exact not_congr ((q.choose_locations_eq_nil_iff _).trans List.map_eq_nil_iff.symm)

end Inquiry

end AsmAtlas
