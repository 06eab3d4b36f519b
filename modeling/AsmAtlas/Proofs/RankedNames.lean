import AsmAtlas.Ranking
import Mathlib.Algebra.Order.Ring.Int
import Mathlib.Data.Char
import Mathlib.Data.List.Lex
import Mathlib.Data.Prod.Lex

/-!
# Ranked names

Names with a score are sorted by it, then by their length, then by their characters. No two
different names agree in all of that, so sorting leaves no choice, and it does not matter in which
order they came. Names without a score keep theirs, and follow.
-/

namespace AsmAtlas

/-- Code point order is the lexicographic order of texts. -/
theorem Text.le_iff {a b : Text} : a.le b ↔ a ≤ b := by
  induction a generalizing b with
  | nil =>
    cases b with
    | nil => simp [Text.le]
    | cons d b => exact iff_of_true rfl (List.nil_lt_cons d b).le
  | cons c a ih =>
    cases b with
    | nil => simp [Text.le]
    | cons d b =>
      have before : c.toNat < d.toNat ↔ c < d := Iff.rfl
      rw [Text.le, Bool.or_eq_true, Bool.and_eq_true, decide_eq_true_eq, beq_iff_eq, before, ih,
        le_iff_lt_or_eq, le_iff_lt_or_eq, List.cons_lt_cons_iff, List.cons.injEq, and_or_left,
        or_assoc]

namespace Ranking

variable {query : Text} {names : List Text}

/-- What names with a score are sorted by. -/
def sortKey (entry : Int × Text) : ℤ ×ₗ ℕ ×ₗ Text :=
  toLex (-entry.1, toLex (entry.2.length, entry.2))

theorem sortKey_injective : Function.Injective sortKey := by
  rintro ⟨score, name⟩ ⟨otherScore, otherName⟩ same
  simp only [sortKey, EmbeddingLike.apply_eq_iff_eq, Prod.mk.injEq, neg_inj] at same
  exact Prod.ext same.1 same.2.2

theorem le_iff {a b : Int × Text} : le a b ↔ sortKey a ≤ sortKey b := by
  rw [sortKey, sortKey, Prod.Lex.toLex_le_toLex, Prod.Lex.toLex_le_toLex, ← Text.le_iff]
  simp only [le, Bool.or_eq_true, Bool.and_eq_true, decide_eq_true_eq, beq_iff_eq, neg_inj,
    neg_lt_neg_iff]

theorem pairwise_mergeSort_le (entries : List (Int × Text)) :
    (entries.mergeSort le).Pairwise fun a b => sortKey a ≤ sortKey b := by
  have sorted : (entries.mergeSort le).Pairwise fun a b => le a b := by
    refine List.pairwise_mergeSort (fun a b c first second => ?_) (fun a b => ?_) entries
    · exact le_iff.2 ((le_iff.1 first).trans (le_iff.1 second))
    · rw [Bool.or_eq_true, le_iff, le_iff]
      exact le_total _ _
  exact sorted.imp le_iff.1

/-- Scored names can be sorted in one way only. -/
theorem mergeSort_eq_of_perm {entries others : List (Int × Text)} (perm : entries.Perm others) :
    entries.mergeSort le = others.mergeSort le := by
  refine List.Perm.eq_of_pairwise (fun a b _ _ before after => ?_) (pairwise_mergeSort_le entries)
    (pairwise_mergeSort_le others) ?_
  · exact sortKey_injective (le_antisymm before after)
  · exact (List.mergeSort_perm _ _).trans (perm.trans (List.mergeSort_perm _ _).symm)

theorem mem_scored {entry : Int × Text} :
    entry ∈ scored query names ↔ entry.2 ∈ names ∧ score query entry.2 = some entry.1 := by
  rw [scored, List.mem_filterMap]
  constructor
  · rintro ⟨name, member, found⟩
    obtain ⟨value, isScore, rfl⟩ := Option.map_eq_some_iff.1 found
    exact ⟨member, isScore⟩
  · rintro ⟨member, isScore⟩
    exact ⟨entry.2, member, by rw [isScore, Option.map_some]⟩

/-- The names that score are those that are scored. -/
theorem map_snd_scored (query : Text) (names : List Text) :
    (scored query names).map (·.2) = names.filter fun name => (score query name).isSome := by
  induction names with
  | nil => rfl
  | cons name names ih =>
    rw [scored] at ih
    cases value : score query name <;> simp [scored, value, ih]

/-- Whether a name that scores may stand before another one: its score is higher, or the same and it
    is shorter, or as long and its characters come first in code point order. -/
def Precedes (query a b : Text) : Prop :=
  ∃ high low, score query a = some high ∧ score query b = some low ∧
    (low < high ∨ high = low ∧ (a.length < b.length ∨ a.length = b.length ∧ a ≤ b))

/-- The names that score, the best first. -/
def best (query : Text) (names : List Text) : List Text :=
  ((scored query names).mergeSort le).map (·.2)

theorem isSome_score_of_mem_best {name : Text} (member : name ∈ best query names) :
    (score query name).isSome := by
  obtain ⟨entry, isScored, rfl⟩ := List.mem_map.1 member
  obtain ⟨_, isScore⟩ := mem_scored.1 (List.mem_mergeSort.1 isScored)
  rw [isScore, Option.isSome_some]

theorem pairwise_best (query : Text) (names : List Text) :
    (best query names).Pairwise (Precedes query) := by
  refine List.pairwise_map.2 ((pairwise_mergeSort_le _).imp_of_mem ?_)
  intro a b isFirst isSecond sorted
  obtain ⟨_, scoreFirst⟩ := mem_scored.1 (List.mem_mergeSort.1 isFirst)
  obtain ⟨_, scoreSecond⟩ := mem_scored.1 (List.mem_mergeSort.1 isSecond)
  rw [sortKey, sortKey, Prod.Lex.toLex_le_toLex, Prod.Lex.toLex_le_toLex] at sorted
  exact ⟨a.1, b.1, scoreFirst, scoreSecond, by simpa using sorted⟩

theorem perm_rank (query : Text) (names : List Text) : (rank query names).Perm names := by
  have ranked : (best query names).Perm
      (names.filter fun name => (score query name).isSome) := by
    rw [← map_snd_scored]
    exact (List.mergeSort_perm _ _).map _
  have others : names.filter (fun name => (score query name).isNone) =
      names.filter fun name => !(score query name).isSome := by
    simp
  rw [rank, others]
  exact (ranked.append_right _).trans (List.filter_append_perm _ _)

/-- Where all names have a score, none follow the best. -/
theorem rank_eq_best (all : ∀ name ∈ names, (score query name).isSome) :
    rank query names = best query names := by
  have others : names.filter (fun name => (score query name).isNone) = [] :=
    List.filter_eq_nil_iff.2 fun name member => by
      simpa [← Option.isSome_iff_ne_none] using all name member
  rw [rank, others, List.append_nil, best]

/-- Ranking keeps every name as often as it occurs. First come the names that score, by descending
    score, then length, then code points, then the others in their order. The order in which the
    names that score came does not matter. -/
theorem rank_orders_names (query : Text) (names : List Text) :
    (rank query names).Perm names ∧
      (∃ first, rank query names =
          first ++ names.filter (fun name => (score query name).isNone) ∧
        (∀ name ∈ first, (score query name).isSome) ∧ first.Pairwise (Precedes query)) ∧
      ∀ others : List Text, others.Perm names →
        others.filter (fun name => (score query name).isNone) =
            names.filter (fun name => (score query name).isNone) →
          rank query others = rank query names := by
  refine ⟨perm_rank query names, ⟨best query names, rfl, fun name => isSome_score_of_mem_best,
    pairwise_best query names⟩, fun others perm unscored => ?_⟩
  have sorted : (scored query others).mergeSort le = (scored query names).mergeSort le :=
    mergeSort_eq_of_perm (perm.filterMap _)
  rw [rank, rank, sorted, unscored]

/-- Two names that score change places, and a third one that does not stays where it is. -/
theorem swapped_ranked :
    ["Sync".toList, "Other".toList, "SetAndReturn".toList].Perm
        ["SetAndReturn".toList, "Other".toList, "Sync".toList] ∧
      ["Sync".toList, "Other".toList, "SetAndReturn".toList].filter
          (fun name => (score "sn".toList name).isNone) =
        ["SetAndReturn".toList, "Other".toList, "Sync".toList].filter
          (fun name => (score "sn".toList name).isNone) ∧
      rank "sn".toList ["Sync".toList, "Other".toList, "SetAndReturn".toList] =
        rank "sn".toList ["SetAndReturn".toList, "Other".toList, "Sync".toList] := by
  have perm : ["Sync".toList, "Other".toList, "SetAndReturn".toList].Perm
      ["SetAndReturn".toList, "Other".toList, "Sync".toList] := by decide +kernel
  have unscored : ["Sync".toList, "Other".toList, "SetAndReturn".toList].filter
      (fun name => (score "sn".toList name).isNone) =
        ["SetAndReturn".toList, "Other".toList, "Sync".toList].filter
          (fun name => (score "sn".toList name).isNone) := by decide +kernel
  obtain ⟨_, _, same⟩ := rank_orders_names "sn".toList
    ["SetAndReturn".toList, "Other".toList, "Sync".toList]
  exact ⟨perm, unscored, same _ perm unscored⟩

end Ranking
end AsmAtlas
