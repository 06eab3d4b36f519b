import AsmAtlas.Proofs.SymbolReports

/-!
# The innermost root

A place belongs to the innermost of the roots that it lies in. The roots of one place form a chain,
in which the longer one always lies within the shorter one, so there is one root that lies within
all the others, and only one. It does not depend on the order in which the roots are named, nor on
how often or by which path.
-/

namespace AsmAtlas

namespace Path

variable {p root other : Path} {roots others : List Path}

theorem length_le_of_isWithin (inside : p.isWithin root) :
    root.parts.length ≤ p.parts.length :=
  (isWithin_iff.1 inside).length_le

theorem isWithin_antisymm (down : root.isWithin other) (up : other.isWithin root) :
    root = other := by
  have same : root.parts = other.parts :=
    (isWithin_iff.1 up).eq_of_length_le (length_le_of_isWithin down)
  cases root
  cases other
  exact congrArg Path.mk same

/-- The roots of one place form a chain: the longer one lies within the shorter one. -/
theorem isWithin_of_length_le (inRoot : p.isWithin root) (inOther : p.isWithin other)
    (longer : other.parts.length ≤ root.parts.length) : root.isWithin other :=
  isWithin_iff.2
    (List.prefix_of_prefix_length_le (isWithin_iff.1 inOther) (isWithin_iff.1 inRoot) longer)

/-- A root of a place that every other root of the place is above. -/
structure IsInnermost (roots : List Path) (p root : Path) : Prop where
  isRoot : root ∈ roots
  inside : p.isWithin root
  within : ∀ other ∈ roots, p.isWithin other → root.isWithin other

theorem IsInnermost.unique (first : IsInnermost roots p root)
    (second : IsInnermost roots p other) : root = other :=
  isWithin_antisymm (first.within other second.isRoot second.inside)
    (second.within root first.isRoot first.inside)

/-- Which root is the innermost one depends on the roots, and not on their order. -/
theorem IsInnermost.congr (same : ∀ root, root ∈ roots ↔ root ∈ others)
    (first : IsInnermost roots p root) : IsInnermost others p root := by
  refine ⟨(same root).1 first.isRoot, first.inside, ?_⟩
  intro other isOther inside
  exact first.within other ((same other).2 isOther) inside

end Path

/-- Erasing repetitions keeps what is left in the order in which it occurs first. -/
theorem pairwise_idxOf_eraseDups {α : Type} [BEq α] [LawfulBEq α] (as : List α) :
    as.eraseDups.Pairwise fun a b => as.idxOf a < as.idxOf b := by
  induction as using List.reverseRecOn with
  | nil => exact List.Pairwise.nil
  | append_singleton as a ih =>
    have earlier : as.eraseDups.Pairwise fun b c => (as ++ [a]).idxOf b < (as ++ [a]).idxOf c := by
      refine ih.imp_of_mem ?_
      intro b c isB isC before
      rw [List.idxOf_append_of_mem (List.mem_eraseDups.1 isB),
        List.idxOf_append_of_mem (List.mem_eraseDups.1 isC)]
      exact before
    rw [List.eraseDups_append]
    by_cases repeated : a ∈ as
    · simpa [List.removeAll, repeated] using earlier
    · have last : ∀ b ∈ as.eraseDups, (as ++ [a]).idxOf b < (as ++ [a]).idxOf a := by
        intro b isB
        have isEarlier := List.mem_eraseDups.1 isB
        rw [List.idxOf_append_of_mem isEarlier, List.idxOf_append_of_notMem repeated]
        exact Nat.lt_add_right _ (List.idxOf_lt_length_of_mem isEarlier)
      have added : ([a].removeAll as).eraseDups = [a] := by
        simp [List.removeAll, repeated, List.eraseDups_cons]
      rw [added, List.pairwise_append]
      refine ⟨earlier, List.pairwise_singleton _ _, ?_⟩
      intro b isB c isC
      obtain rfl := List.mem_singleton.1 isC
      exact last b isB

namespace Context

variable {t : FileTree} {user : Option ByteArray} {roots others : List Path} {p : Path}
  {c : Config}

theorem map_root_build (t : FileTree) (user : Option ByteArray) (roots : List Path) :
    (build t user roots).configs.map (·.root) = roots.eraseDups := by
  rw [build, List.map_map]
  exact List.map_id _

theorem mem_build :
    c ∈ (build t user roots).configs ↔ c.root ∈ roots ∧ c = Config.load t user c.root := by
  rw [build, List.mem_map]
  constructor
  · rintro ⟨root, isRoot, rfl⟩
    exact ⟨List.mem_eraseDups.1 isRoot, rfl⟩
  · rintro ⟨isRoot, loaded⟩
    exact ⟨c.root, List.mem_eraseDups.2 isRoot, loaded.symm⟩

/-- The settings for a place are those of its innermost root. -/
theorem configFor?_build_eq_some_iff :
    (build t user roots).configFor? p = some c ↔
      Path.IsInnermost roots p c.root ∧ c = Config.load t user c.root := by
  have found : ∀ {d}, (build t user roots).configFor? p = some d →
      Path.IsInnermost roots p d.root ∧ d = Config.load t user d.root := by
    intro d owner
    obtain ⟨isConfig, inside, longest⟩ := innermost_of_configFor? owner
    obtain ⟨isRoot, loaded⟩ := mem_build.1 isConfig
    refine ⟨⟨isRoot, inside, ?_⟩, loaded⟩
    intro other isOther inOther
    exact Path.isWithin_of_length_le inside inOther
      (longest (Config.load t user other) (mem_build.2 ⟨isOther, rfl⟩) inOther)
  refine ⟨found, ?_⟩
  rintro ⟨innermost, loaded⟩
  obtain ⟨d, owner⟩ := Option.isSome_iff_exists.1
    (isSome_configFor? (mem_build.2 ⟨innermost.isRoot, loaded⟩) innermost.inside)
  obtain ⟨other, isLoaded⟩ := found owner
  rw [owner, isLoaded, other.unique innermost, ← loaded]

theorem configFor?_build_eq_none_iff :
    (build t user roots).configFor? p = none ↔ ∀ root ∈ roots, ¬p.isWithin root := by
  constructor
  · intro none root isRoot inside
    have isSome := isSome_configFor? (c := Config.load t user root)
      (mem_build.2 ⟨isRoot, rfl⟩) inside
    simp [none] at isSome
  · intro outside
    cases owner : (build t user roots).configFor? p with
    | none => rfl
    | some c =>
      obtain ⟨innermost, _⟩ := configFor?_build_eq_some_iff.1 owner
      exact absurd innermost.inside (outside c.root innermost.isRoot)

/-- A place in some root has an innermost one. -/
theorem exists_isInnermost (inside : ∃ root ∈ roots, p.isWithin root) :
    ∃ root, Path.IsInnermost roots p root := by
  cases owner : (build (.folder []) none roots).configFor? p with
  | some c => exact ⟨c.root, (configFor?_build_eq_some_iff.1 owner).1⟩
  | none =>
    obtain ⟨root, isRoot, within⟩ := inside
    exact absurd within (configFor?_build_eq_none_iff.1 owner root isRoot)

/-- Roots that are the same but for their order and number give a place the same settings. -/
theorem configFor?_build_congr (same : ∀ root, root ∈ roots ↔ root ∈ others) :
    (build t user roots).configFor? p = (build t user others).configFor? p := by
  refine Option.ext fun c => ?_
  rw [configFor?_build_eq_some_iff, configFor?_build_eq_some_iff]
  refine and_congr_left fun _ => ⟨.congr same, .congr fun root => (same root).symm⟩

end Context

/-- The places that paths mean when the present folder is `here`. -/
def WrittenPath.places (here : Path) (paths : List WrittenPath) : List Path :=
  paths.map (·.resolve here)

/-- The innermost root owns a file. Settings are built once for each of the roots, in the order in
    which these are named first. A file outside all of them has none, and any other one has those
    of the only root that lies within all roots of the file. In another order the roots lead to the
    same settings. -/
theorem Context.innermost_root_owns (t : FileTree) (user : Option ByteArray) (here : Path)
    (roots : List WrittenPath) (file : WrittenPath) :
    (((build t user (WrittenPath.places here roots)).configs.map (·.root)).Nodup ∧
      (∀ root, root ∈ (build t user (WrittenPath.places here roots)).configs.map (·.root) ↔
        root ∈ WrittenPath.places here roots) ∧
      ((build t user (WrittenPath.places here roots)).configs.map (·.root)).Pairwise
        fun a b => (WrittenPath.places here roots).idxOf a <
          (WrittenPath.places here roots).idxOf b) ∧
    ((build t user (WrittenPath.places here roots)).configFor? (file.resolve here) = none ↔
      ∀ root ∈ WrittenPath.places here roots, ¬(file.resolve here).isWithin root) ∧
    ((∃ root ∈ WrittenPath.places here roots, (file.resolve here).isWithin root) →
      ∃ root, Path.IsInnermost (WrittenPath.places here roots) (file.resolve here) root ∧
        (∀ other, Path.IsInnermost (WrittenPath.places here roots) (file.resolve here) other →
          other = root) ∧
        (build t user (WrittenPath.places here roots)).configFor? (file.resolve here) =
          some (Config.load t user root)) ∧
    ∀ others : List WrittenPath, others.Perm roots →
      (build t user (WrittenPath.places here others)).configFor? (file.resolve here) =
        (build t user (WrittenPath.places here roots)).configFor? (file.resolve here) := by
  refine ⟨⟨nodup_roots_build t user _, ?_, ?_⟩, configFor?_build_eq_none_iff, ?_, ?_⟩
  · intro root
    rw [map_root_build, List.mem_eraseDups]
  · rw [map_root_build]
    exact pairwise_idxOf_eraseDups _
  · intro inside
    obtain ⟨root, innermost⟩ := exists_isInnermost inside
    refine ⟨root, innermost, ?_, configFor?_build_eq_some_iff.2 ⟨innermost, rfl⟩⟩
    intro other isOther
    exact isOther.unique innermost
  · intro others reordered
    exact configFor?_build_congr fun root => (reordered.map _).mem_iff

namespace Context

/-- A folder in the present one with settings of its own. -/
def libraryFiles : FileTree :=
  .folder [("lib".toList,
    .folder [(Config.fileName, .file "\x7b\"enable_rename\": false\x7d".toUTF8)])]

/-- The folder, the present one, and the folder again by another path. -/
def libraryRoots : List WrittenPath :=
  ["lib", ".", "./x/../lib"].map fun path => .ofText path.toList

/-- A file in the folder. -/
def libraryFile : WrittenPath :=
  .ofText "lib/a.asm".toList

/-- The file has the settings of the folder, in whatever order the roots are named. -/
theorem libraryFile_settings :
    (∃ root ∈ WrittenPath.places ⟨[]⟩ libraryRoots, (libraryFile.resolve ⟨[]⟩).isWithin root) ∧
      libraryRoots.reverse.Perm libraryRoots ∧
      (build libraryFiles none (WrittenPath.places ⟨[]⟩ libraryRoots.reverse)).configFor?
          (libraryFile.resolve ⟨[]⟩) =
        some (Config.load libraryFiles none ⟨["lib".toList]⟩) ∧
      (Config.load libraryFiles none ⟨["lib".toList]⟩).rename = false := by
  have inside : ∃ root ∈ WrittenPath.places ⟨[]⟩ libraryRoots,
      (libraryFile.resolve ⟨[]⟩).isWithin root := ⟨⟨["lib".toList]⟩, by decide, by decide⟩
  have innermost : Path.IsInnermost (WrittenPath.places ⟨[]⟩ libraryRoots)
      (libraryFile.resolve ⟨[]⟩) ⟨["lib".toList]⟩ := ⟨by decide, by decide, by decide⟩
  obtain ⟨_, _, owned, reordered⟩ :=
    innermost_root_owns libraryFiles none ⟨[]⟩ libraryRoots libraryFile
  obtain ⟨root, _, only, found⟩ := owned inside
  refine ⟨inside, List.reverse_perm _, ?_, by decide +kernel⟩
  rw [reordered _ (List.reverse_perm _), found, only _ innermost]

end Context

end AsmAtlas
