import AsmAtlas.Proofs.Findings
import Mathlib.Data.List.Sort

/-!
# What searching documents returns

Document by document, the findings of a search stand in the order of lines and columns. A place is
among them if any of the patterns has a match whose word starts there, and what is kept there is the
first such match of the first such pattern. So which places are found does not depend on the order
of the patterns; only how far the words there reach may.
-/

namespace AsmAtlas

/-- What is left of a list without repeated keys is the first element with its key. -/
theorem find?_of_mem_eraseDupsBy {α β : Type} [BEq β] [LawfulBEq β] {r : α → α → Bool} {key : α → β}
    (same : ∀ a b, r a b = (key a == key b)) {as : List α} {a : α}
    (member : a ∈ as.eraseDupsBy r) : as.find? (key · == key a) = some a := by
  revert member
  refine eraseDupsBy_induction
    (motive := fun as erased => a ∈ erased → as.find? (key · == key a) = some a) (by simp) ?_ as
  intro first as ih member
  rcases List.mem_cons.1 member with rfl | later
  · simp
  · have isLeft := (List.mem_filter.1 (eraseDupsBy_subset _ _ later)).2
    have differ : key a ≠ key first := by simpa [same] using isLeft
    rw [List.find?_cons_of_neg (by simpa using differ.symm), ← ih later, List.find?_filter]
    congr 1
    funext b
    -- an element with this key does not have that of the first one
    by_cases like : key b = key a
    · simp [like, same, differ]
    · simp [like]

namespace Finding

/-- Where a finding stands in its document. -/
def spot (f : Finding) : Nat × Nat :=
  (f.location.line, f.location.start)

/-- Where a finding stands among all documents. -/
def place (f : Finding) : Path × Nat × Nat :=
  (f.location.path, f.spot)

end Finding

namespace Document

variable {d : Document}

theorem find?_findIn (p : Pattern) (n i start : Nat) (lines : List Text) :
    (d.findIn p n lines).find? (·.spot == (n + i, start)) =
      lines[i]?.bind fun line => ((p.findAll line).find? (·.wordSpan.start == start)).map
        (Finding.ofMatch d (n + i) line p) := by
  induction lines generalizing n i with
  | nil => rfl
  | cons line lines ih =>
    rw [findIn, List.find?_append, List.find?_map]
    cases i with
    | zero =>
      have later : (d.findIn p (n + 1) lines).find? (·.spot == (n + 0, start)) = none := by
        rw [List.find?_eq_none]
        intro f member
        obtain ⟨k, _, _, _, _, rfl⟩ := mem_findIn.1 member
        rw [beq_iff_eq]
        intro same
        have isLine : n + 1 + k = n + 0 := congrArg Prod.fst same
        omega
      have test : ((·.spot == (n + 0, start)) ∘ Finding.ofMatch d n line p) =
          (·.wordSpan.start == start) := by
        funext m
        change (n == n + 0 && m.wordSpan.start == start) = _
        rw [Nat.add_zero, beq_self_eq_true, Bool.true_and]
      rw [later, Option.or_none, test]
      rfl
    | succ i =>
      have here : (p.findAll line).find? ((·.spot == (n + (i + 1), start)) ∘
          Finding.ofMatch d n line p) = none := by
        rw [List.find?_eq_none]
        intro m _ same
        have isLine : n = n + (i + 1) := congrArg Prod.fst (beq_iff_eq.1 same)
        omega
      rw [here, Option.map_none, Option.none_or, List.getElem?_cons_succ,
        show n + (i + 1) = n + 1 + i by omega, ih (n + 1) i]

/-- At a place of a document a pattern finds first what its first match there is. -/
theorem find?_find (p : Pattern) (n start : Nat) :
    (d.find p).find? (·.spot == (n, start)) =
      d.lines[n]?.bind fun line => ((p.findAll line).find? (·.wordSpan.start == start)).map
        (Finding.ofMatch d n line p) := by
  have found := find?_findIn (d := d) p 0 n start d.lines
  rwa [Nat.zero_add] at found

end Document

namespace Search

/-- What patterns find in a document: in order, at every place where the word of some match starts,
    and there the first match of the first pattern that has one. -/
structure IsResult (patterns : List Pattern) (d : Document) (found : List Finding) : Prop where
  ordered : found.Pairwise Finding.Precedes
  occurs : ∀ n start, (∃ f ∈ found, f.location.line = n ∧ f.location.start = start) ↔
    ∃ line, d.lines[n]? = some line ∧
      ∃ p ∈ patterns, ∃ m ∈ p.findAll line, m.wordSpan.start = start
  first : ∀ f ∈ found, ∃ line earlier p later m, d.lines[f.location.line]? = some line ∧
    patterns = earlier ++ p :: later ∧
    (∀ q ∈ earlier, ∀ m ∈ q.findAll line, m.wordSpan.start ≠ f.location.start) ∧
    (p.findAll line).find? (·.wordSpan.start == f.location.start) = some m ∧
    f = .ofMatch d f.location.line line p m

variable {patterns : List Pattern} {d : Document}

/-- Of the findings at one place the first one is kept. -/
theorem find?_of_mem_tidy {found : List Finding} {f : Finding} (member : f ∈ tidy found) :
    found.find? (·.spot == f.spot) = some f :=
  find?_of_mem_eraseDupsBy (r := Finding.samePlace) (fun _ _ => rfl) (List.mem_mergeSort.1 member)

theorem isResult_tidy (patterns : List Pattern) (d : Document) :
    IsResult patterns d (tidy (patterns.flatMap d.find)) where
  ordered := pairwise_tidy _
  occurs := by
    intro n start
    constructor
    · rintro ⟨f, member, rfl, rfl⟩
      obtain ⟨p, isPattern, found⟩ := List.mem_flatMap.1 (mem_of_mem_tidy member)
      obtain ⟨k, line, m, isLine, isMatch, rfl⟩ := Document.mem_findIn.1 found
      refine ⟨line, ?_, p, isPattern, m, isMatch, rfl⟩
      change d.lines[0 + k]? = some line
      rw [Nat.zero_add, isLine]
    · rintro ⟨line, isLine, p, isPattern, m, isMatch, rfl⟩
      have found : Finding.ofMatch d (0 + n) line p m ∈ patterns.flatMap d.find :=
        List.mem_flatMap.2 ⟨p, isPattern, Document.mem_findIn.2 ⟨n, line, m, isLine, isMatch, rfl⟩⟩
      obtain ⟨f, isLeft, isLineOf, isStart⟩ := exists_mem_tidy_at found
      exact ⟨f, isLeft, isLineOf.trans (Nat.zero_add n), isStart⟩
  first := by
    intro f member
    have isFirst := find?_of_mem_tidy member
    rw [List.find?_flatMap, List.findSome?_eq_some_iff] at isFirst
    obtain ⟨earlier, p, later, isSplit, found, none⟩ := isFirst
    rw [Finding.spot, Document.find?_find, Option.bind_eq_some_iff] at found
    obtain ⟨line, isLine, found⟩ := found
    obtain ⟨m, isMatch, isFinding⟩ := Option.map_eq_some_iff.1 found
    refine ⟨line, earlier, p, later, m, isLine, isSplit, ?_, isMatch, isFinding.symm⟩
    intro q isEarlier other isOther starts
    have noMatch := none q isEarlier
    rw [Finding.spot, Document.find?_find, isLine, Option.bind_some, Option.map_eq_none_iff,
      List.find?_eq_none] at noMatch
    exact noMatch other isOther (beq_iff_eq.2 starts)

variable {others : List Pattern} {found other : List Finding}

/-- Whether one place of a document stands before another. -/
def SpotBefore (a b : Nat × Nat) : Prop :=
  a.1 < b.1 ∨ a.1 = b.1 ∧ a.2 < b.2

theorem IsResult.pairwise_spot (result : IsResult patterns d found) :
    (found.map Finding.spot).Pairwise SpotBefore :=
  List.pairwise_map.2 result.ordered

theorem IsResult.nodup_spot (result : IsResult patterns d found) :
    (found.map Finding.spot).Nodup := by
  refine result.pairwise_spot.imp ?_
  rintro a b before rfl
  rw [SpotBefore] at before
  omega

theorem IsResult.mem_spot (result : IsResult patterns d found) (spot : Nat × Nat) :
    spot ∈ found.map Finding.spot ↔ ∃ line, d.lines[spot.1]? = some line ∧
      ∃ p ∈ patterns, ∃ m ∈ p.findAll line, m.wordSpan.start = spot.2 := by
  rw [← result.occurs, List.mem_map]
  exact exists_congr fun f => and_congr_right fun _ => Prod.ext_iff

/-- The same patterns in another order find the same places. -/
theorem IsResult.map_spot_eq (result : IsResult patterns d found)
    (again : IsResult others d other) (same : ∀ p, p ∈ others ↔ p ∈ patterns) :
    other.map Finding.spot = found.map Finding.spot := by
  have perm : (other.map Finding.spot).Perm (found.map Finding.spot) := by
    rw [List.perm_ext_iff_of_nodup again.nodup_spot result.nodup_spot]
    intro spot
    rw [again.mem_spot, result.mem_spot]
    simp only [same]
  refine perm.eq_of_pairwise ?_ again.pairwise_spot result.pairwise_spot
  intro a b _ _ before after
  rw [SpotBefore] at before after
  omega

theorem map_place_tidy (patterns : List Pattern) (d : Document) :
    (tidy (patterns.flatMap d.find)).map Finding.place =
      ((tidy (patterns.flatMap d.find)).map Finding.spot).map (d.path, ·) := by
  rw [List.map_map]
  refine List.map_congr_left fun f member => ?_
  obtain ⟨p, _, found⟩ := List.mem_flatMap.1 (mem_of_mem_tidy member)
  rw [Finding.place, Document.path_of_mem_find found]
  rfl

/-- Searching documents goes document by document, and the order of the patterns does not matter to
    the places that are found. -/
theorem documents_find_first (patterns : List Pattern) (ds : List Document) :
    ∃ results : List (List Finding),
      ((documents patterns ds).start none).1 = .ok results.flatten ∧
      List.Forall₂ (IsResult patterns) ds results ∧
      ∀ others : List Pattern, (∀ p, p ∈ others ↔ p ∈ patterns) →
        ∃ found, ((documents others ds).start none).1 = .ok found ∧
          found.map Finding.place = results.flatten.map Finding.place := by
  refine ⟨ds.map fun d => tidy (patterns.flatMap d.find), ?_, ?_, ?_⟩
  · rw [← List.flatMap_def]
    exact (documents_gives_all patterns ds).start
  · rw [List.forall₂_map_right_iff, List.forall₂_same]
    exact fun d _ => isResult_tidy patterns d
  · intro others same
    refine ⟨_, (documents_gives_all others ds).start, ?_⟩
    rw [← List.flatMap_def, List.map_flatMap, List.map_flatMap]
    refine List.flatMap_congr fun d _ => ?_
    rw [map_place_tidy, map_place_tidy,
      (isResult_tidy patterns d).map_spot_eq (isResult_tidy others d) same]

end Search
end AsmAtlas
