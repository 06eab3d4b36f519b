import AsmAtlas.Path.FileTree
import Mathlib.Data.List.Basic

/-!
# Walking through file trees

A file of a tree is found by the names that lead to it. In a tree whose folders have no name twice,
walking through a folder meets each file below it if the names in all folders on the way may be
listed, none of these folders is left out, and they are not more than a walk may have calls. What a
path leads to stands at the end of its names, unless a folder on the way is closed or the path is
too long.
-/

namespace AsmAtlas

namespace FileTree

/-- The names within each folder are different. -/
def HasDistinctNames (t : FileTree) : Prop :=
  ∀ names entries rights, t.get? names = some (folder entries rights) →
    (entries.map Prod.fst).Nodup

theorem get?_folder_cons (entries : List (Text × FileTree)) (rights : Rights) (name : Text)
    (names : List Text) :
    (folder entries rights).get? (name :: names) = (entries.lookup name).bind (·.get? names) := by
  rw [get?]
  cases entries.lookup name <;> rfl

/-- Nothing is below a file. -/
theorem eq_nil_of_get?_file {content : ByteArray} {readable : Bool} {names : List Text}
    {u : FileTree} (found : (file content readable).get? names = some u) : names = [] := by
  cases names with
  | nil => rfl
  | cons name names => cases found

theorem get?_append (t : FileTree) (names more : List Text) :
    t.get? (names ++ more) = (t.get? names).bind (·.get? more) := by
  induction names generalizing t with
  | nil => simp [get?]
  | cons name names ih =>
    cases t with
    | file content readable => rfl
    | folder entries rights =>
      rw [List.cons_append, get?_folder_cons, get?_folder_cons, Option.bind_assoc]
      exact congrArg _ (funext fun t => ih t)

/-- Among different names, looking one up finds its entry. -/
theorem lookup_eq_some_iff {entries : List (Text × FileTree)}
    (distinct : (entries.map Prod.fst).Nodup) {name : Text} {t : FileTree} :
    entries.lookup name = some t ↔ (name, t) ∈ entries := by
  induction entries with
  | nil => simp
  | cons entry entries ih =>
    obtain ⟨other, u⟩ := entry
    rw [List.map_cons, List.nodup_cons] at distinct
    rw [List.mem_cons, Prod.mk.injEq]
    by_cases same : name = other
    · subst same
      have absent : (name, t) ∉ entries := fun member =>
        distinct.1 (List.mem_map.2 ⟨(name, t), member, rfl⟩)
      simp [absent, eq_comm]
    · have differs : (name == other) = false := beq_eq_false_iff_ne.2 same
      rw [List.lookup_cons, differs]
      simp [same, ih distinct.2]

theorem HasDistinctNames.sub {t u : FileTree} (distinct : t.HasDistinctNames) {names : List Text}
    (found : t.get? names = some u) : u.HasDistinctNames := by
  intro more entries rights inner
  refine distinct (names ++ more) entries rights ?_
  rw [get?_append, found, Option.bind_some, inner]

theorem hasDistinctNames_file (content : ByteArray) (readable : Bool) :
    (file content readable).HasDistinctNames := by
  intro names entries rights found
  cases names <;> simp [get?] at found

theorem hasDistinctNames_folder {entries : List (Text × FileTree)} {rights : Rights}
    (distinct : (entries.map Prod.fst).Nodup) (each : ∀ entry ∈ entries, entry.2.HasDistinctNames) :
    (folder entries rights).HasDistinctNames := by
  intro names inner innerRights found
  cases names with
  | nil =>
    obtain ⟨rfl, -⟩ : entries = inner ∧ rights = innerRights := by simpa [get?] using found
    exact distinct
  | cons name names =>
    rw [get?_folder_cons] at found
    obtain ⟨t, isEntry, found⟩ := Option.bind_eq_some_iff.1 found
    exact each _ ((lookup_eq_some_iff distinct).1 isEntry) names inner innerRights found

theorem HasDistinctNames.get?_cons {entries : List (Text × FileTree)} {rights : Rights}
    (distinct : (folder entries rights).HasDistinctNames) {name : Text} {names : List Text}
    {u : FileTree} : (folder entries rights).get? (name :: names) = some u ↔
      ∃ t, (name, t) ∈ entries ∧ t.get? names = some u := by
  simp only [get?_folder_cons, Option.bind_eq_some_iff,
    lookup_eq_some_iff (distinct [] entries rights rfl)]

theorem HasDistinctNames.entry {entries : List (Text × FileTree)} {rights : Rights}
    (distinct : (folder entries rights).HasDistinctNames) {name : Text} {t : FileTree}
    (isEntry : (name, t) ∈ entries) : t.HasDistinctNames := by
  have found : (folder entries rights).get? [name] = some t :=
    distinct.get?_cons.2 ⟨t, isEntry, rfl⟩
  exact distinct.sub found

/-! ## What a walk meets -/

section

variable {t : FileTree} {prunes : Path → Bool} {calls : Nat} {place p : Path}
  {entries : List (Text × FileTree)}

theorem mem_filesAmong : p ∈ filesAmong place entries ↔
    ∃ name content readable, (name, file content readable) ∈ entries ∧ p = place.child name := by
  rw [filesAmong, List.mem_map]
  constructor
  · rintro ⟨⟨name, u⟩, kept, rfl⟩
    obtain ⟨isEntry, isFile⟩ := List.mem_filter.1 kept
    cases u with
    | file content readable => exact ⟨name, content, readable, isEntry, rfl⟩
    | folder inner rights => cases isFile
  · rintro ⟨name, content, readable, isEntry, rfl⟩
    exact ⟨_, List.mem_filter.2 ⟨isEntry, rfl⟩, rfl⟩

theorem mem_seenIn {seen : Option Path} : seen ∈ seenIn t prunes calls place entries ↔
    ∃ name u, (name, u) ∈ entries ∧ prunes (place.child name) = false ∧
      seen ∈ seenAt t prunes calls (place.child name) u := by
  induction entries with
  | nil => simp [seenIn]
  | cons entry entries ih =>
    obtain ⟨name, u⟩ := entry
    have here : seen ∈ (if prunes (place.child name) then []
          else seenAt t prunes calls (place.child name) u) ↔
        prunes (place.child name) = false ∧ seen ∈ seenAt t prunes calls (place.child name) u := by
      split_ifs with pruned <;> simp [pruned]
    rw [seenIn, List.mem_append, ih, here]
    constructor
    · rintro (first | ⟨other, v, isEntry, kept, there⟩)
      · exact ⟨name, u, List.mem_cons_self, first⟩
      · exact ⟨other, v, List.mem_cons_of_mem _ isEntry, kept, there⟩
    · rintro ⟨other, v, isEntry, kept, there⟩
      rcases List.mem_cons.1 isEntry with same | later
      · obtain ⟨rfl, rfl⟩ := Prod.mk.inj same
        exact .inl ⟨kept, there⟩
      · exact .inr ⟨other, v, later, kept, there⟩

/-- A walk through a folder with one file meets the file. -/
theorem seenBelow_lone (name : Text) (content : ByteArray) :
    (folder [(name, file content)]).seenBelow prunes (calls + 1) ⟨[]⟩ = [some ⟨[name]⟩] := by
  have lists : (folder [(name, file content)]).mayList ⟨[]⟩ := rfl
  simp only [seenBelow, get?, seenAt, lists, filesAmong, seenIn]
  split_ifs <;> rfl

/-- The folders on the way along names may be listed, and apart from the first none of them is left
    out. -/
def IsOpenWay (t : FileTree) (prunes : Path → Bool) (place : Path) (names : List Text) : Prop :=
  ∀ way, way <+: names → way ≠ names → t.mayList ⟨place.parts ++ way⟩ ∧
    (way ≠ [] → prunes ⟨place.parts ++ way⟩ = false)

theorem isOpenWay_singleton {name : Text} :
    IsOpenWay t prunes place [name] ↔ t.mayList place := by
  constructor
  · intro opens
    simpa using (opens [] List.nil_prefix (by simp)).1
  · intro lists way isWay proper
    rcases List.prefix_cons_iff.1 isWay with rfl | ⟨behind, rfl, isEnd⟩
    · exact ⟨by simpa using lists, fun nonempty => absurd rfl nonempty⟩
    · exact absurd (by rw [List.prefix_nil.1 isEnd]) proper

theorem isOpenWay_cons {name next : Text} {rest : List Text} :
    IsOpenWay t prunes place (name :: next :: rest) ↔ t.mayList place ∧
      prunes (place.child name) = false ∧
      IsOpenWay t prunes (place.child name) (next :: rest) := by
  have further : ∀ way, place.parts ++ name :: way = (place.child name).parts ++ way := by
    simp [Path.child]
  constructor
  · intro opens
    refine ⟨by simpa using (opens [] List.nil_prefix (by simp)).1,
      (opens [name] (by simp) (by simp)).2 (by simp), fun way isWay proper => ?_⟩
    rw [← further]
    have behind := opens (name :: way) (by simpa using isWay) (by simpa using proper)
    exact ⟨behind.1, fun _ => behind.2 (by simp)⟩
  · rintro ⟨lists, kept, opens⟩ way isWay proper
    rcases List.prefix_cons_iff.1 isWay with rfl | ⟨behind, rfl, inRest⟩
    · exact ⟨by simpa using lists, fun nonempty => absurd rfl nonempty⟩
    · rw [further]
      have further := opens behind inRest (by simpa using proper)
      refine ⟨further.1, fun _ => ?_⟩
      cases behind with
      | nil => simpa using kept
      | cons other behind => exact further.2 (by simp)

/-- What `mem_seenAt` says of a tree. -/
def WalksAt (t : FileTree) (prunes : Path → Bool) (u : FileTree) (calls : Nat) (place : Path) :
    Prop :=
  ∀ p, some p ∈ seenAt t prunes calls place u ↔ ∃ names, names ≠ [] ∧
    p = ⟨place.parts ++ names⟩ ∧
    (∃ content readable, u.get? names = some (file content readable)) ∧
    IsOpenWay t prunes place names ∧ names.length ≤ calls

theorem place_child (place : Path) (name : Text) (names : List Text) :
    (⟨(place.child name).parts ++ names⟩ : Path) = ⟨place.parts ++ name :: names⟩ := by
  simp [Path.child]

/-- A walk through a folder meets its own files, and those that walks through its folders meet. -/
theorem walksAt_folder {rights : Rights} (distinct : (folder entries rights).HasDistinctNames)
    (each : ∀ name u, (name, u) ∈ entries → ∀ calls, WalksAt t prunes u calls (place.child name)) :
    WalksAt t prunes (folder entries rights) calls place := by
  intro p
  cases calls with
  | zero =>
    refine iff_of_false (by simp [seenAt]) ?_
    rintro ⟨names, nonempty, _, _, _, short⟩
    exact nonempty (List.length_eq_zero_iff.1 (Nat.le_zero.1 short))
  | succ calls =>
    have met : some p ∈ seenAt t prunes (calls + 1) place (folder entries rights) ↔
        t.mayList place ∧ (p ∈ filesAmong place entries ∨
          some p ∈ seenIn t prunes calls place entries) := by
      rw [seenAt]
      split_ifs with lists <;> simp [lists]
    rw [met, mem_filesAmong, mem_seenIn]
    constructor
    · rintro ⟨lists, ⟨name, content, readable, isEntry, rfl⟩ | ⟨name, u, isEntry, kept, inEntry⟩⟩
      · exact ⟨[name], by simp, rfl, ⟨content, readable,
          distinct.get?_cons.2 ⟨_, isEntry, rfl⟩⟩, isOpenWay_singleton.2 lists, by simp⟩
      · obtain ⟨names, nonempty, rfl, ⟨content, readable, isFile⟩, opens, short⟩ :=
          (each name u isEntry calls p).1 inEntry
        obtain ⟨next, rest, rfl⟩ := List.exists_cons_of_ne_nil nonempty
        exact ⟨name :: next :: rest, by simp, place_child place name _, ⟨content, readable,
          distinct.get?_cons.2 ⟨u, isEntry, isFile⟩⟩, isOpenWay_cons.2 ⟨lists, kept, opens⟩,
          Nat.succ_le_succ short⟩
    · rintro ⟨names, nonempty, rfl, ⟨content, readable, isFile⟩, opens, short⟩
      obtain ⟨name, rest, rfl⟩ := List.exists_cons_of_ne_nil nonempty
      obtain ⟨u, isEntry, isFile⟩ := distinct.get?_cons.1 isFile
      cases rest with
      | nil =>
        obtain rfl : u = file content readable := by simpa [get?] using isFile
        exact ⟨isOpenWay_singleton.1 opens, .inl ⟨name, content, readable, isEntry, rfl⟩⟩
      | cons next rest =>
        obtain ⟨lists, kept, opens⟩ := isOpenWay_cons.1 opens
        refine ⟨lists, .inr ⟨name, u, isEntry, kept, (each name u isEntry calls _).2 ?_⟩⟩
        exact ⟨next :: rest, by simp, (place_child place name _).symm, ⟨content, readable, isFile⟩,
          opens, Nat.le_of_succ_le_succ short⟩

end

/-- A walk through a tree whose names are different meets the files that a chain of names leads to,
    if the folders on the way may be listed, are not left out, and are not too many. -/
theorem walksAt (t : FileTree) (prunes : Path → Bool) :
    ∀ u : FileTree, u.HasDistinctNames → ∀ (calls : Nat) (place : Path),
      WalksAt t prunes u calls place
  | file content readable, _, calls, place, p => by
    refine iff_of_false (by simp [seenAt]) ?_
    rintro ⟨names, nonempty, _, ⟨other, mode, found⟩, _⟩
    obtain ⟨name, rest, rfl⟩ := List.exists_cons_of_ne_nil nonempty
    cases found
  | folder entries rights, distinct, calls, place, p =>
    walksAt_folder distinct (fun name u isEntry calls =>
      walksAt t prunes u (distinct.entry isEntry) calls (place.child name)) p
termination_by u => sizeOf u
decreasing_by
  have smaller := List.sizeOf_lt_of_mem isEntry
  simp only [Prod.mk.sizeOf_spec] at smaller
  simp only [folder.sizeOf_spec]
  omega

mutual

/-- How many folders of a tree stand one in the other. -/
def depth : FileTree → Nat
  | file _ _ => 0
  | folder entries _ => depthIn entries + 1

/-- How many folders stand one in the other among the entries of a folder. -/
def depthIn : List (Text × FileTree) → Nat
  | [] => 0
  | (_, t) :: rest => max t.depth (depthIn rest)

end

mutual

/-- A walk stops only where folders are nested deeper than it has calls. -/
theorem lt_depth_of_none_mem_seenAt {t : FileTree} {prunes : Path → Bool} :
    ∀ (u : FileTree) {calls : Nat} {place : Path}, none ∈ seenAt t prunes calls place u →
      calls < u.depth
  | file _ _, _, _, stops => by simp [seenAt] at stops
  | folder entries _, calls, place, stops => by
    rw [depth]
    cases calls with
    | zero => exact Nat.succ_pos _
    | succ calls =>
      have inEntries : none ∈ seenIn t prunes calls place entries := by
        rw [seenAt] at stops
        split_ifs at stops
        · simpa using stops
        · cases stops
      exact Nat.succ_lt_succ (lt_depthIn_of_none_mem_seenIn entries inEntries)

theorem lt_depthIn_of_none_mem_seenIn {t : FileTree} {prunes : Path → Bool} :
    ∀ (entries : List (Text × FileTree)) {calls : Nat} {place : Path},
      none ∈ seenIn t prunes calls place entries → calls < depthIn entries
  | [], _, _, stops => by simp [seenIn] at stops
  | (name, u) :: rest, calls, place, stops => by
    rw [depthIn]
    rw [seenIn, List.mem_append] at stops
    rcases stops with here | later
    · split_ifs at here
      · cases here
      · exact Nat.lt_of_lt_of_le (lt_depth_of_none_mem_seenAt u here) (Nat.le_max_left _ _)
    · exact Nat.lt_of_lt_of_le (lt_depthIn_of_none_mem_seenIn rest later) (Nat.le_max_right _ _)

end

theorem depth_le_of_lookup {entries : List (Text × FileTree)} {name : Text} {t : FileTree}
    (isEntry : entries.lookup name = some t) : t.depth ≤ depthIn entries := by
  induction entries with
  | nil => cases isEntry
  | cons entry entries ih =>
    obtain ⟨other, u⟩ := entry
    rw [depthIn]
    rw [List.lookup_cons] at isEntry
    split at isEntry
    · obtain rfl := Option.some.inj isEntry
      exact Nat.le_max_left _ _
    · exact Nat.le_trans (ih isEntry) (Nat.le_max_right _ _)

/-- A chain of names is not longer than folders stand one in the other. -/
theorem length_le_depth {t u : FileTree} {names : List Text} (found : t.get? names = some u) :
    names.length ≤ t.depth := by
  induction names generalizing t with
  | nil => exact Nat.zero_le _
  | cons name names ih =>
    cases t with
    | file content readable => cases found
    | folder entries rights =>
      rw [get?_folder_cons] at found
      obtain ⟨inner, isEntry, found⟩ := Option.bind_eq_some_iff.1 found
      exact Nat.succ_le_succ (Nat.le_trans (ih found) (depth_le_of_lookup isEntry))

theorem isFile_iff {t : FileTree} {p : Path} :
    t.isFile p ↔ ∃ content readable, t.get? p.parts = some (file content readable) := by
  unfold isFile
  split
  · next content readable found => simp [found]
  · next other => simpa using other

/-- The way from a folder to a file is no longer than what stands there is deep. -/
theorem length_le_of_isFile {t : FileTree} {place : Path} {names : List Text} {n : Nat}
    (isFile : t.isFile ⟨place.parts ++ names⟩)
    (shallow : ∀ u, t.get? place.parts = some u → u.depth ≤ n) : names.length ≤ n := by
  obtain ⟨content, readable, found⟩ := isFile_iff.1 isFile
  rw [get?_append] at found
  obtain ⟨u, stands, inner⟩ := Option.bind_eq_some_iff.1 found
  exact Nat.le_trans (length_le_depth inner) (shallow u stands)

theorem isFolder_iff {t : FileTree} {p : Path} :
    t.isFolder p ↔ ∃ entries rights, t.get? p.parts = some (folder entries rights) := by
  unfold isFolder
  split
  · next entries rights found => simp [found]
  · next other => simpa using other

/-- Only a folder has anything below it. -/
theorem isFolder_of_isFile {t : FileTree} {root : Path} {names : List Text} (below : names ≠ [])
    (found : t.isFile ⟨root.parts ++ names⟩) : t.isFolder root := by
  obtain ⟨content, readable, found⟩ := isFile_iff.1 found
  rw [get?_append] at found
  obtain ⟨u, isThere, inner⟩ := Option.bind_eq_some_iff.1 found
  cases u with
  | file bytes mode => exact absurd (eq_nil_of_get?_file inner) below
  | folder entries rights => exact isFolder_iff.2 ⟨entries, rights, isThere⟩

/-- What a walk meets below a folder, by the names that lead there. -/
theorem mem_seenBelow {t : FileTree} (distinct : t.HasDistinctNames) {prunes : Path → Bool}
    {calls : Nat} {root p : Path} :
    some p ∈ t.seenBelow prunes calls root ↔ ∃ names, names ≠ [] ∧ p = ⟨root.parts ++ names⟩ ∧
      t.isFile p ∧ IsOpenWay t prunes root names ∧ names.length ≤ calls := by
  rw [seenBelow]
  split
  · next u found =>
    rw [walksAt t prunes u (distinct.sub found) calls root p]
    refine exists_congr fun names => and_congr_right fun _ => and_congr_right fun isPlace => ?_
    rw [isPlace, isFile_iff, get?_append, found, Option.bind_some]
  · next nothing =>
    refine iff_of_false List.not_mem_nil ?_
    rintro ⟨names, nonempty, rfl, isFile, _⟩
    obtain ⟨entries, rights, found⟩ := isFolder_iff.1 (isFolder_of_isFile nonempty isFile)
    exact nomatch nothing.symm.trans found

/-- A walk below a folder stops only where folders are nested deeper than it has calls. -/
theorem exists_depth_of_none_mem_seenBelow {t : FileTree} {prunes : Path → Bool} {calls : Nat}
    {root : Path} (stops : none ∈ t.seenBelow prunes calls root) :
    ∃ u, t.get? root.parts = some u ∧ calls < u.depth := by
  rw [seenBelow] at stops
  split at stops
  · next u found => exact ⟨u, found, lt_depth_of_none_mem_seenAt u stops⟩
  · cases stops

/-! ## What paths lead to -/

/-- What a path leads to stands at the end of its names. -/
theorem get?_of_reach {t u : FileTree} {names : List Text} (reached : t.reach names = .ok u) :
    t.get? names = some u := by
  induction names generalizing t with
  | nil =>
    rw [reach] at reached
    rw [get?, Except.ok.inj reached]
  | cons name names ih =>
    cases t with
    | file content readable => cases reached
    | folder entries rights =>
      rw [reach] at reached
      split_ifs at reached
      split at reached
      · next inner isEntry =>
        rw [get?_folder_cons, isEntry, Option.bind_some, ih reached]
      · cases reached

theorem get?_of_visit {t u : FileTree} {p : Path} (visited : t.visit p = .ok u) :
    t.get? p.parts = some u := by
  rw [visit] at visited
  split_ifs at visited
  exact get?_of_reach visited

/-- What stands at the end of a chain of names is reached, unless something is in the way. -/
theorem reach_of_get? {t u : FileTree} {names : List Text} (found : t.get? names = some u) :
    t.reach names = .ok u ∨ t.reach names = .error .tooLong ∨ t.reach names = .error .denied := by
  induction names generalizing t with
  | nil =>
    rw [get?] at found
    exact .inl (congrArg Except.ok (Option.some.inj found))
  | cons name names ih =>
    cases t with
    | file content readable => cases found
    | folder entries rights =>
      rw [get?_folder_cons] at found
      obtain ⟨inner, isEntry, found⟩ := Option.bind_eq_some_iff.1 found
      rw [reach, isEntry]
      split_ifs
      · exact .inr (.inr rfl)
      · exact .inr (.inl rfl)
      · exact ih found

/-- Looking up a path fails neither for its length nor for a closed folder. -/
def CanLookUp (t : FileTree) (p : Path) : Prop :=
  t.visit p ≠ .error .tooLong ∧ t.visit p ≠ .error .denied

theorem canLookUp_of_visit {t u : FileTree} {p : Path} (visited : t.visit p = .ok u) :
    t.CanLookUp p := by
  simp [CanLookUp, visited]

theorem visit_of_get? {t u : FileTree} {p : Path} (can : t.CanLookUp p)
    (found : t.get? p.parts = some u) : t.visit p = .ok u := by
  obtain ⟨short, opened⟩ := can
  rw [visit] at short opened ⊢
  split_ifs at short opened ⊢ with long
  · exact absurd rfl short
  · exact ((reach_of_get? found).resolve_right (not_or.2 ⟨short, opened⟩))

end FileTree

end AsmAtlas
