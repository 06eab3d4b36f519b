import AsmAtlas.Proofs.RenamePlaces

/-!
# What searches find

File by file, what some patterns find comes in the order of lines and columns, each place once.
Every finding lies in a line of its file, and a search that ends has found all of them.
-/

namespace AsmAtlas

namespace Search

theorem mem_of_mem_tidy {found : List Finding} {f : Finding} (member : f ∈ tidy found) :
    f ∈ found :=
  eraseDupsBy_subset _ _ (List.mem_mergeSort.1 member)

/-- Tidied findings of one document are at different places. -/
theorem nodup_tidy (found : List Finding) :
    ((tidy found).map fun f => (f.location.line, f.location.start)).Nodup := by
  have apart : (found.eraseDupsBy Finding.samePlace).Pairwise fun a b =>
      (a.location.line, a.location.start) ≠ (b.location.line, b.location.start) := by
    refine (pairwise_eraseDupsBy _ found).imp ?_
    intro a b differ same
    obtain ⟨sameLine, sameStart⟩ := Prod.mk.inj same
    simp [Finding.samePlace, sameLine, sameStart] at differ
  exact ((List.mergeSort_perm _ _).map _).nodup_iff.2 (List.pairwise_map.2 apart)

/-- Tidied findings are in order, each place once. -/
theorem pairwise_tidy (found : List Finding) : (tidy found).Pairwise Finding.Precedes := by
  have total : ∀ a b : Finding, Finding.le a b || Finding.le b a := by
    intro a b
    simp only [Finding.le, Bool.or_eq_true, Bool.and_eq_true, decide_eq_true_eq, beq_iff_eq]
    omega
  have trans : ∀ a b c : Finding, Finding.le a b → Finding.le b c → Finding.le a c := by
    intro a b c
    simp only [Finding.le, Bool.or_eq_true, Bool.and_eq_true, decide_eq_true_eq, beq_iff_eq]
    omega
  have sorted : (tidy found).Pairwise fun a b => Finding.le a b :=
    List.pairwise_mergeSort trans total _
  refine (sorted.and (List.pairwise_map.1 (nodup_tidy found))).imp ?_
  rintro a b ⟨ordered, apart⟩
  simp only [Finding.le, Bool.or_eq_true, Bool.and_eq_true, decide_eq_true_eq, beq_iff_eq]
    at ordered
  have different : ¬(a.location.line = b.location.line ∧ a.location.start = b.location.start) :=
    fun same => apart (Prod.ext same.1 same.2)
  rw [Finding.Precedes]
  omega

/-- At the place of a finding one is left. -/
theorem exists_mem_tidy_at {found : List Finding} {f : Finding} (member : f ∈ found) :
    ∃ g ∈ tidy found, g.location.line = f.location.line ∧ g.location.start = f.location.start := by
  rcases exists_mem_eraseDupsBy (r := Finding.samePlace) member with isLeft | ⟨g, isLeft, same⟩
  · exact ⟨f, List.mem_mergeSort.2 isLeft, rfl, rfl⟩
  · obtain ⟨sameLine, sameStart⟩ := Bool.and_eq_true_iff.1 same
    exact ⟨g, List.mem_mergeSort.2 isLeft, (beq_iff_eq.1 sameLine).symm,
      (beq_iff_eq.1 sameStart).symm⟩

/-- Findings of a document are at its path. -/
theorem path_of_mem_tidy {d : Document} {patterns : List Pattern} {f : Finding}
    (member : f ∈ tidy (patterns.flatMap d.find)) : f.location.path = d.path := by
  obtain ⟨p, _, found⟩ := List.mem_flatMap.1 (mem_of_mem_tidy member)
  exact Document.path_of_mem_find found

/-- Findings in documents with different paths are in order within each document. -/
theorem pairwise_flatMap_tidy {ds : List Document}
    (apart : ds.Pairwise fun d e => d.path ≠ e.path) (patterns : List Pattern) :
    (ds.flatMap fun d => tidy (patterns.flatMap d.find)).Pairwise fun a b =>
      a.location.path = b.location.path → a.Precedes b := by
  refine List.pairwise_flatMap.2 ⟨fun d _ => ?_, apart.imp ?_⟩
  · refine (pairwise_tidy _).imp ?_
    intro a b precedes _
    exact precedes
  · intro d e differ a inFirst b inSecond same
    rw [path_of_mem_tidy inFirst, path_of_mem_tidy inSecond] at same
    exact absurd same differ

end Search

namespace Workspace

variable {w : Workspace} {files : List Path} {patterns : List Pattern} {f : Finding}

/-- What patterns find in files, tidied file by file. -/
def findings (w : Workspace) (patterns : List Pattern) (files : List Path) : List Finding :=
  (files.filterMap w.load?).flatMap fun d => Search.tidy (patterns.flatMap d.find)

/-- Every finding is in the line of a file. -/
theorem exists_of_mem_findings (member : f ∈ w.findings patterns files) :
    ∃ d line, w.Holds d ∧ f.document = d ∧ f.location.path = d.path ∧ f.text = line ∧
      d.lines[f.location.line]? = some line ∧ ∃ p ∈ patterns, ∃ m ∈ p.findAll line,
        m.wordSpan = ⟨f.location.start, f.location.stop⟩ := by
  obtain ⟨d, isDocument, inDocument⟩ := List.mem_flatMap.1 member
  obtain ⟨q, _, loaded⟩ := List.mem_filterMap.1 isDocument
  obtain ⟨p, isPattern, byPattern⟩ := List.mem_flatMap.1 (Search.mem_of_mem_tidy inDocument)
  obtain ⟨k, line, m, isLine, isMatch, rfl⟩ := Document.mem_findIn.1 byPattern
  have isLineThere : d.lines[0 + k]? = some line := by rw [Nat.zero_add, isLine]
  refine ⟨d, line, holds_of_load loaded, rfl, rfl, ?_, isLineThere, p, isPattern, m, isMatch, rfl⟩
  change d.line (0 + k) = line
  rw [Document.line, isLineThere, Option.getD_some]

/-- It is the text at its place. -/
theorem symbol_of_mem_findings (member : f ∈ w.findings patterns files) :
    f.symbol = f.text.slice f.location.start f.location.stop := by
  obtain ⟨d, _, inDocument⟩ := List.mem_flatMap.1 member
  obtain ⟨p, _, byPattern⟩ := List.mem_flatMap.1 (Search.mem_of_mem_tidy inDocument)
  obtain ⟨k, line, m, isLine, _, rfl⟩ := Document.mem_findIn.1 byPattern
  have text : (Finding.ofMatch d (0 + k) line p m).text = line := by
    change d.line (0 + k) = line
    rw [Document.line, Nat.zero_add, isLine, Option.getD_some]
  rw [text]
  rfl

/-- Within a file they are in order, each place once. -/
theorem pairwise_findings (nodup : files.Nodup) :
    (w.findings patterns files).Pairwise fun a b =>
      a.location.path = b.location.path → a.Precedes b :=
  Search.pairwise_flatMap_tidy (pairwise_load nodup) patterns

end Workspace

namespace Scene

/-- A search that ends has found what the patterns find in the files of its root. -/
theorem findings_of_search {s : Scene} {c : Config} {patterns : List Pattern}
    {hits : List Finding} (gives : (s.search c patterns).CanGive hits) :
    ∃ files, s.filesOf c =
        .ok files ∧ hits = s.workspace.findings patterns files := by
  cases collected : s.filesOf c with
  | error e => exact nomatch gives.eq_of_takes (takes_search_error patterns collected)
  | ok files =>
    have same := (gives.start_none (s.steady_search c patterns)).symm.trans
      (Workspace.search_gives_all collected patterns).start
    exact ⟨files, rfl, Except.ok.inj same⟩

end Scene

end AsmAtlas
