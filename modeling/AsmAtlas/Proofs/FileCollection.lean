import AsmAtlas.Proofs.FileTrees
import AsmAtlas.Proofs.RequestFailures
import AsmAtlas.Proofs.TaskResults

/-!
# Which files are collected

Walking through the folders takes in exactly the files that the globs want, unless a name on the way
to them is hidden, `git` ignores a place on it, or a folder on it may not be listed. The answer of
the file lister is not checked against the globs, but whatever it prints, only visible files below
the root come of it. Either way the files stand in order of their folded paths, each once. All this
is so unless something is in the way: the root, a file that is taken, or a path that the lister
prints is too long or lies in a folder that may not be entered, or folders are nested too deep.
-/

namespace AsmAtlas

/-- Code point order is the order of lists of characters. -/
theorem Text.le_iff_list_le {a b : Text} : Text.le a b ↔ List.le a b := by
  induction a generalizing b with
  | nil => exact iff_of_true rfl (List.nil_le b)
  | cons c a ih =>
    cases b with
    | nil => exact iff_of_false Bool.false_ne_true (List.not_le.2 (List.nil_lt_cons c a))
    | cons d b =>
      rw [Text.le, Bool.or_eq_true, Bool.and_eq_true, decide_eq_true_eq, beq_iff_eq, ih]
      exact (@List.cons_le_cons_iff Char _ _ _ c d a b).symm

/-- The names that lead from a place to one below it. -/
theorem Path.partsFrom?_append (root : Path) (names : List Text) :
    (⟨root.parts ++ names⟩ : Path).partsFrom? root = some names := by
  have inside : (⟨root.parts ++ names⟩ : Path).isWithin root :=
    isWithin_iff.2 (List.prefix_append root.parts names)
  rw [partsFrom?, if_pos inside, List.drop_left]

namespace Collection

/-- A file below a root that no hidden name leads to, and the names that do. -/
structure IsFileBelow (t : FileTree) (root : Path) (names : List Text) (p : Path) : Prop where
  below : names ≠ []
  place : p = ⟨root.parts ++ names⟩
  isFile : t.isFile p
  visible : ∀ name ∈ names, ¬['.'] <+: name

/-- The lister answers with some lines: it starts, ends with the status "done" or "nothing found",
    and prints text. -/
def Lists (tools : Tools) (lines : List Text) : Prop :=
  ∃ reply output, tools.lister = some reply ∧ reply.fails = false ∧
    (reply.status = 0 ∨ reply.status = 1) ∧ Encoding.utf8? reply.output = some output ∧
    lines = outputLines output

/-- The lister answers only once. -/
theorem Lists.unique {tools : Tools} {lines others : List Text} (lists : Lists tools lines)
    (also : Lists tools others) : lines = others := by
  obtain ⟨reply, output, asked, _, _, decoded, rfl⟩ := lists
  obtain ⟨reply', output', asked', _, _, decoded', rfl⟩ := also
  obtain rfl := Option.some.inj (asked.symm.trans asked')
  rw [Option.some.inj (decoded.symm.trans decoded')]

/-- A line that can be asked about: it has no null character, and if it leads below the root, the
    path that it means can be looked up. -/
structure IsReadable (t : FileTree) (root : Path) (line : Text) : Prop where
  noNull : '\x00' ∉ line
  reached : ((WrittenPath.ofText line).resolve root).isWithin root →
    t.CanLookUp ((WrittenPath.ofText line).resolve root)

/-- `git` answers, and a place is among those that it printed. -/
def PrintsIgnored (tools : Tools) (root q : Path) : Prop :=
  ∃ reply, tools.ignorer = some reply ∧ reply.fails = false ∧ reply.status = 0 ∧
    ∃ bytes ∈ reply.output.toList.splitOn 0, ∃ line ≠ [],
      Text.dropEndWhile (· == '/') (Encoding.utf8Lossy bytes) = line ∧
      (WrittenPath.ofText line).resolve root = q

/-- What walking through the folders is to take in. -/
structure IsWanted (t : FileTree) (limits : Limits) (tools : Tools) (filter : FileFilter)
    (root : Path) (names : List Text) (p : Path) : Prop extends IsFileBelow t root names p where
  wanted : Glob.isMatch limits.braces filter.wanted (Text.joinWith ['/'] names) = .ok true
  unwanted : Glob.isMatch limits.braces filter.unwanted (Text.joinWith ['/'] names) = .ok false
  kept : filter.skipIgnored → ∀ way, way ≠ [] → way <+: names →
    ¬PrintsIgnored tools root ⟨root.parts ++ way⟩

/-- The folders on the way along names may be listed. -/
def IsListed (t : FileTree) (root : Path) (names : List Text) : Prop :=
  ∀ way, way <+: names → way ≠ names → t.mayList ⟨root.parts ++ way⟩

/-- Nothing stops a walk: folders are not nested too deep, and what it is to take in can be looked
    up. -/
structure IsWalkable (t : FileTree) (limits : Limits) (tools : Tools) (filter : FileFilter)
    (root : Path) : Prop where
  shallow : ∀ u, t.get? root.parts = some u → u.depth ≤ limits.folders
  reached : ∀ names p, IsWanted t limits tools filter root names p → t.CanLookUp p

variable {t : FileTree} {limits : Limits} {tools : Tools} {filter : FileFilter} {root p : Path}

/-! ## What the programs answer -/

theorem listed?_eq_some_iff {reply : ToolReply} (asked : tools.lister = some reply)
    {lines : List Text} : listed? reply = some lines ↔ Lists tools lines := by
  have answers : (reply.fails || !(reply.status == 0 || reply.status == 1)) = false ↔
      reply.fails = false ∧ (reply.status = 0 ∨ reply.status = 1) := by
    simp only [Bool.or_eq_false_iff, Bool.not_eq_false', Bool.or_eq_true, beq_iff_eq]
  rw [listed?]
  constructor
  · intro answer
    split_ifs at answer with failed
    obtain ⟨output, decoded, rfl⟩ := Option.map_eq_some_iff.1 answer
    obtain ⟨starts, status⟩ := answers.1 (Bool.eq_false_iff.2 failed)
    exact ⟨reply, output, asked, starts, status, decoded, rfl⟩
  · rintro ⟨other, output, isReply, starts, status, decoded, rfl⟩
    obtain rfl := Option.some.inj (asked.symm.trans isReply)
    rw [answers.2 ⟨starts, status⟩, if_neg Bool.false_ne_true, decoded, Option.map_some]

theorem mem_ignored? {reply : ToolReply} {q : Path} :
    q ∈ (ignored? reply root).getD [] ↔ reply.fails = false ∧ reply.status = 0 ∧
      ∃ bytes ∈ reply.output.toList.splitOn 0, ∃ line ≠ [],
        Text.dropEndWhile (· == '/') (Encoding.utf8Lossy bytes) = line ∧
        (WrittenPath.ofText line).resolve root = q := by
  rw [ignored?]
  split_ifs with failed
  · refine iff_of_false List.not_mem_nil ?_
    rintro ⟨starts, status, _⟩
    simp [starts, status] at failed
  · have answers : reply.fails = false ∧ reply.status = 0 := by
      simpa using failed
    simp [answers, List.mem_filter, and_assoc]

theorem mem_askIgnored {q : Path} :
    q ∈ (askIgnored tools filter root).1 ↔
      filter.skipIgnored ∧ PrintsIgnored tools root q := by
  rw [askIgnored, PrintsIgnored]
  split
  · next reply skips asked => simp [skips, asked, mem_ignored?]
  · next other =>
    refine iff_of_false List.not_mem_nil ?_
    rintro ⟨skips, reply, asked, _⟩
    exact other reply skips asked

/-! ## Looking up paths -/

/-- A path that can be looked up leads to what stands at the end of its names. -/
theorem probe_eq (can : t.CanLookUp p) (is : FileTree → Bool) :
    probe t is p = .ok ((t.get? p.parts).any is) := by
  rw [probe]
  split
  · next found visited => rw [FileTree.get?_of_visit visited, Option.any_some]
  · next long => exact absurd long can.1
  · next closed => exact absurd closed can.2
  · next e _ _ failed =>
    cases found : t.get? p.parts with
    | none => rfl
    | some u => cases failed.symm.trans (FileTree.visit_of_get? can found)

theorem leadsToFile_eq (can : t.CanLookUp p) : leadsToFile t p = .ok (t.isFile p) := by
  rw [leadsToFile, probe_eq can, FileTree.isFile]
  rcases t.get? p.parts with _ | ⟨_ | _⟩ <;> rfl

theorem leadsToFolder_eq (can : t.CanLookUp p) : leadsToFolder t p = .ok (t.isFolder p) := by
  rw [leadsToFolder, probe_eq can, FileTree.isFolder]
  rcases t.get? p.parts with _ | ⟨_ | _⟩ <;> rfl

/-! ## Walking -/

theorem textFrom_of_place {names : List Text} (below : names ≠ []) :
    (⟨root.parts ++ names⟩ : Path).textFrom root = Text.joinWith ['/'] names := by
  rw [Path.textFrom, Path.partsFrom?_append]
  simp [Path.relativeText, below]

theorem isIgnored_iff {ignored : List Path} {names : List Text} :
    isIgnored ignored root ⟨root.parts ++ names⟩ ↔
      ∃ way, way ≠ [] ∧ way <+: names ∧ ⟨root.parts ++ way⟩ ∈ ignored := by
  rw [isIgnored, Path.partsFrom?_append, Option.getD_some, List.any_eq_true]
  simp only [List.mem_range, List.contains_iff_mem]
  have onWay : ∀ n, (root.parts ++ names).take (root.parts.length + n + 1) =
      root.parts ++ names.take (n + 1) := by
    intro n
    rw [Nat.add_assoc, List.take_length_add_append]
  simp only [onWay]
  constructor
  · rintro ⟨n, bounded, member⟩
    have nonempty : names.take (n + 1) ≠ [] := by
      rw [ne_eq, List.take_eq_nil_iff]
      rintro (⟨⟨⟩⟩ | rfl)
      simp at bounded
    exact ⟨names.take (n + 1), nonempty, List.take_prefix _ _, member⟩
  · rintro ⟨way, nonempty, isWay, member⟩
    obtain ⟨name, way, rfl⟩ := List.exists_cons_of_ne_nil nonempty
    obtain ⟨rest, rfl⟩ := isWay
    refine ⟨way.length, ?_, by simpa using member⟩
    rw [List.cons_append, List.length_cons, List.length_append]
    omega

theorem isHidden_eq_false_iff {name : Text} : isHidden name = false ↔ ¬['.'] <+: name := by
  cases name with
  | nil => simp [isHidden]
  | cons c name => simp [isHidden, List.cons_prefix_cons, eq_comm (b := c)]

/-- Every name on the way is the last one of a part of the way. -/
theorem forall_last_iff {names : List Text} :
    (∀ way, way ≠ [] → way <+: names →
        isHidden ((root.parts ++ way).getLast?.getD []) = false) ↔
      ∀ name ∈ names, ¬['.'] <+: name := by
  constructor
  · intro visible name member
    obtain ⟨front, back, rfl⟩ := List.append_of_mem member
    have last := visible (front ++ [name]) (by simp) ⟨back, by simp⟩
    rw [← List.append_assoc, List.getLast?_concat, Option.getD_some,
      isHidden_eq_false_iff] at last
    exact last
  · intro visible way nonempty isWay
    obtain ⟨front, name, rfl⟩ := (List.eq_nil_or_concat way).resolve_left nonempty
    rw [List.concat_eq_append, ← List.append_assoc, List.getLast?_concat, Option.getD_some,
      isHidden_eq_false_iff]
    exact visible name (isWay.subset (by simp))

section

variable {wanted unwanted : Text → Bool}

theorem isWanted_eq (isTest : Glob.test limits.braces filter.wanted = .ok wanted)
    (isOther : Glob.test limits.braces filter.unwanted = .ok unwanted) (relative : Text) :
    isWanted (testsOf limits filter) relative = .ok (wanted relative && !unwanted relative) := by
  rw [testsOf, isWanted, isTest, isOther]
  dsimp only
  split_ifs with fits
  · simp [fits, Except.map]
  · simp [Bool.eq_false_iff.2 fits]

/-- What a walk takes of the files that it meets. -/
theorem takes_eq (isTest : Glob.test limits.braces filter.wanted = .ok wanted)
    (isOther : Glob.test limits.braces filter.unwanted = .ok unwanted) (ignored : List Path)
    {names : List Text} (below : names ≠ []) :
    takes t (testsOf limits filter) ignored root ⟨root.parts ++ names⟩ =
      if isHidden ((root.parts ++ names).getLast?.getD []) then .ok false
      else if wanted (Text.joinWith ['/'] names) && !unwanted (Text.joinWith ['/'] names) &&
          !isIgnored ignored root ⟨root.parts ++ names⟩ then
        leadsToFile t ⟨root.parts ++ names⟩
      else .ok false := by
  rw [takes, isWanted_eq isTest isOther, textFrom_of_place below]

/-- The way to a file that a walk meets may be listed, and neither it nor the file is hidden or
    ignored. -/
theorem isOpenWay_iff {ignored : List Path} {names : List Text} (below : names ≠ []) :
    (FileTree.IsOpenWay t (prunes ignored) root names ∧
      isHidden ((root.parts ++ names).getLast?.getD []) = false ∧
      isIgnored ignored root ⟨root.parts ++ names⟩ = false) ↔
    IsListed t root names ∧ (∀ name ∈ names, ¬['.'] <+: name) ∧
      ∀ way, way ≠ [] → way <+: names → ⟨root.parts ++ way⟩ ∉ ignored := by
  rw [Bool.eq_false_iff (b := isIgnored _ _ _), ne_eq, isIgnored_iff]
  constructor
  · rintro ⟨opens, last, kept⟩
    -- A part of the way is a folder that was walked through, or the whole of it.
    have visible : ∀ way, way ≠ [] → way <+: names →
        isHidden ((root.parts ++ way).getLast?.getD []) = false := by
      intro way nonempty isWay
      by_cases whole : way = names
      · rw [whole, last]
      · exact (Bool.or_eq_false_iff.1 ((opens way isWay whole).2 nonempty)).1
    exact ⟨fun way isWay proper => (opens way isWay proper).1, forall_last_iff.1 visible,
      fun way nonempty isWay member => kept ⟨way, nonempty, isWay, member⟩⟩
  · rintro ⟨lists, visible, kept⟩
    have shown : ∀ way, way ≠ [] → way <+: names →
        isHidden ((root.parts ++ way).getLast?.getD []) = false := forall_last_iff.2 visible
    refine ⟨fun way isWay proper => ⟨lists way isWay proper, fun nonempty => ?_⟩,
      shown names below (List.prefix_refl names), ?_⟩
    · exact Bool.or_eq_false_iff.2 ⟨shown way nonempty isWay,
        by simpa using kept way nonempty isWay⟩
    · rintro ⟨way, nonempty, isWay, member⟩
      exact kept way nonempty isWay member

theorem isMatch_eq {deepest : Nat} {glob : LooseText} {accepts : Text → Bool}
    (isTest : Glob.test deepest glob = .ok accepts) (path : Text) :
    Glob.isMatch deepest glob path = .ok (accepts path) := by
  rw [Glob.isMatch, isTest]
  rfl

/-- A file that a walk meets and takes is a wanted one. -/
theorem isWanted_iff (isTest : Glob.test limits.braces filter.wanted = .ok wanted)
    (isOther : Glob.test limits.braces filter.unwanted = .ok unwanted) {names : List Text}
    (below : names ≠ []) (isFile : t.isFile ⟨root.parts ++ names⟩) :
    (FileTree.IsOpenWay t (prunes (askIgnored tools filter root).1) root names ∧
      isHidden ((root.parts ++ names).getLast?.getD []) = false ∧
      (wanted (Text.joinWith ['/'] names) && !unwanted (Text.joinWith ['/'] names) &&
        !isIgnored (askIgnored tools filter root).1 root ⟨root.parts ++ names⟩) = true) ↔
    IsWanted t limits tools filter root names ⟨root.parts ++ names⟩ ∧ IsListed t root names := by
  simp only [Bool.and_eq_true, Bool.not_eq_true']
  constructor
  · rintro ⟨opens, last, ⟨fits, spared⟩, kept⟩
    obtain ⟨lists, visible, kept⟩ := (isOpenWay_iff below).1 ⟨opens, last, kept⟩
    refine ⟨⟨⟨below, rfl, isFile, visible⟩, ?_, ?_, fun skips way nonempty isWay printed => ?_⟩,
      lists⟩
    · rw [isMatch_eq isTest, fits]
    · rw [isMatch_eq isOther, spared]
    · exact kept way nonempty isWay (mem_askIgnored.2 ⟨skips, printed⟩)
  · rintro ⟨⟨⟨_, _, _, visible⟩, fits, spared, kept⟩, lists⟩
    rw [isMatch_eq isTest] at fits
    rw [isMatch_eq isOther] at spared
    have spares : ∀ way, way ≠ [] → way <+: names →
        ⟨root.parts ++ way⟩ ∉ (askIgnored tools filter root).1 := by
      intro way nonempty isWay member
      obtain ⟨skips, printed⟩ := mem_askIgnored.1 member
      exact kept skips way nonempty isWay printed
    obtain ⟨opens, last, kept⟩ := (isOpenWay_iff below).2 ⟨lists, visible, spares⟩
    exact ⟨opens, last, ⟨Except.ok.inj fits, Except.ok.inj spared⟩, kept⟩

/-- A walk decides about every file that it meets, and takes the wanted ones. -/
theorem exists_takes (isTest : Glob.test limits.braces filter.wanted = .ok wanted)
    (isOther : Glob.test limits.braces filter.unwanted = .ok unwanted)
    (walkable : IsWalkable t limits tools filter root) {names : List Text} (below : names ≠ [])
    (isFile : t.isFile ⟨root.parts ++ names⟩)
    (opens : FileTree.IsOpenWay t (prunes (askIgnored tools filter root).1) root names) :
    ∃ taken, takes t (testsOf limits filter) (askIgnored tools filter root).1 root
        ⟨root.parts ++ names⟩ = .ok taken ∧
      (taken ↔ IsWanted t limits tools filter root names ⟨root.parts ++ names⟩ ∧
        IsListed t root names) := by
  rw [takes_eq isTest isOther _ below, ← isWanted_iff isTest isOther below isFile]
  split_ifs with hidden taken
  · refine ⟨false, rfl, iff_of_false Bool.false_ne_true fun met => ?_⟩
    cases met.2.1.symm.trans hidden
  · have isWanted := ((isWanted_iff isTest isOther below isFile).1
      ⟨opens, Bool.eq_false_iff.2 hidden, taken⟩).1
    rw [leadsToFile_eq (walkable.reached _ _ isWanted), isFile]
    exact ⟨true, rfl, iff_of_true rfl ⟨opens, Bool.eq_false_iff.2 hidden, taken⟩⟩
  · exact ⟨false, rfl, iff_of_false Bool.false_ne_true fun met => taken met.2.2⟩

/-- Walking finds the wanted files on whose way all folders may be listed. -/
theorem mem_of_walk (distinct : t.HasDistinctNames)
    (isTest : Glob.test limits.braces filter.wanted = .ok wanted)
    (isOther : Glob.test limits.braces filter.unwanted = .ok unwanted)
    (walkable : IsWalkable t limits tools filter root) :
    ∃ files, walk t limits filter (askIgnored tools filter root).1 root = .ok files ∧
      ∀ p, p ∈ files ↔ ∃ names, IsWanted t limits tools filter root names p ∧
        IsListed t root names := by
  cases walked : walk t limits filter (askIgnored tools filter root).1 root with
  | error e =>
    rcases error_of_takeAll walked with ⟨_, stops⟩ | ⟨p, isMet, fails⟩
    · obtain ⟨u, stands, deep⟩ := FileTree.exists_depth_of_none_mem_seenBelow stops
      exact absurd (walkable.shallow u stands) (Nat.not_le.2 deep)
    · obtain ⟨names, below, rfl, isFile, opens, _⟩ := (FileTree.mem_seenBelow distinct).1 isMet
      obtain ⟨taken, decides, _⟩ := exists_takes isTest isOther walkable below isFile opens
      cases decides.symm.trans fails
  | ok files =>
    refine ⟨files, rfl, fun p => (mem_of_takeAll walked).trans ?_⟩
    constructor
    · rintro ⟨isMet, takesIt⟩
      obtain ⟨names, below, rfl, isFile, opens, _⟩ := (FileTree.mem_seenBelow distinct).1 isMet
      obtain ⟨taken, decides, isWanted⟩ :=
        exists_takes isTest isOther walkable below isFile opens
      exact ⟨names, isWanted.1 (Except.ok.inj (decides.symm.trans takesIt))⟩
    · rintro ⟨names, isWanted, lists⟩
      obtain ⟨below, rfl, isFile, _⟩ := isWanted.toIsFileBelow
      have opens := ((isWanted_iff isTest isOther below isFile).2 ⟨isWanted, lists⟩).1
      obtain ⟨taken, decides, meets⟩ := exists_takes isTest isOther walkable below isFile opens
      obtain rfl : taken = true := meets.2 ⟨isWanted, lists⟩
      have short := FileTree.length_le_of_isFile isFile walkable.shallow
      exact ⟨(FileTree.mem_seenBelow distinct).2 ⟨names, below, rfl, isFile, opens, short⟩,
        decides⟩

end

theorem pairwise_sorted (root : Path) (files : List Path) :
    (sorted root files).Pairwise fun a b =>
      Text.le (foldCase (a.textFrom root)) (foldCase (b.textFrom root)) := by
  refine (List.pairwise_mergeSort (fun a b c first second => ?_) (fun a b => ?_) _).imp ?_
  · exact decide_eq_true (List.le_trans (of_decide_eq_true first) (of_decide_eq_true second))
  · rw [Bool.or_eq_true, decide_eq_true_eq, decide_eq_true_eq]
    exact List.le_total _ _
  · exact fun before => Text.le_iff_list_le.2 (of_decide_eq_true before)

theorem exists_test {deepest : Nat} {glob : LooseText} (compiles : (Glob.test deepest glob).isOk) :
    ∃ accepts, Glob.test deepest glob = .ok accepts := by
  cases test : Glob.test deepest glob with
  | error e => simp [test, Except.isOk, Except.toBool] at compiles
  | ok accepts => exact ⟨accepts, rfl⟩

/-- What is collected if the lister is of no help. -/
theorem mem_of_byWalking (distinct : t.HasDistinctNames)
    (compiles : (Glob.test limits.braces filter.wanted).isOk)
    (excludes : (Glob.test limits.braces filter.unwanted).isOk)
    (walkable : IsWalkable t limits tools filter root) (before : List Command) :
    ∃ files, (byWalking t limits tools filter root before).files = .ok (sorted root files) ∧
      ∀ p, p ∈ files ↔ ∃ names, IsWanted t limits tools filter root names p ∧
        IsListed t root names := by
  obtain ⟨wanted, isTest⟩ := exists_test compiles
  obtain ⟨unwanted, isOther⟩ := exists_test excludes
  obtain ⟨files, walked, members⟩ := mem_of_walk distinct isTest isOther walkable
  exact ⟨files, congrArg (Except.map (sorted root)) walked, members⟩

/-! ## Reading the lines of the lister -/

theorem isFileBelow_iff (isRoot : t.isFolder root) : (∃ names, IsFileBelow t root names p) ↔
    t.isFile p ∧ p.isWithin root ∧ isHiddenBelow root p = false := by
  constructor
  · rintro ⟨names, _, rfl, isFile, visible⟩
    refine ⟨isFile, Path.isWithin_iff.2 (List.prefix_append root.parts names), ?_⟩
    rw [isHiddenBelow, Path.partsFrom?_append, Option.getD_some, List.any_eq_false]
    exact fun name isName => Bool.eq_false_iff.1 (isHidden_eq_false_iff.2 (visible name isName))
  · rintro ⟨isFile, inside, visible⟩
    obtain ⟨names, isParts⟩ := Path.isWithin_iff.1 inside
    obtain rfl : p = ⟨root.parts ++ names⟩ := by rw [isParts]
    refine ⟨names, ?_, rfl, isFile, fun name isName => ?_⟩
    · rintro rfl
      obtain ⟨entries, rights, isFolder⟩ := FileTree.isFolder_iff.1 isRoot
      obtain ⟨content, readable, isFile⟩ := FileTree.isFile_iff.1 isFile
      rw [List.append_nil, isFolder] at isFile
      cases isFile
    · rw [isHiddenBelow, Path.partsFrom?_append, Option.getD_some, List.any_eq_false] at visible
      exact isHidden_eq_false_iff.1 (Bool.eq_false_iff.2 (visible name isName))

/-- A line that can be asked about names a visible file below the root, or nothing. -/
theorem ofLine_eq {line : Text} (isRoot : t.isFolder root) (isReadable : IsReadable t root line) :
    ∃ found, ofLine t root line = .ok found ∧ ∀ p, found = some p ↔
      (∃ names, IsFileBelow t root names p) ∧ (WrittenPath.ofText line).resolve root = p := by
  have reached := isReadable.reached
  rw [ofLine, if_neg (by simpa using isReadable.noNull)]
  simp only [isFileBelow_iff isRoot]
  generalize (WrittenPath.ofText line).resolve root = q at reached ⊢
  by_cases shown : q.isWithin root ∧ isHiddenBelow root q = false
  · rw [shown.1, shown.2, if_neg (by decide), leadsToFile_eq (reached shown.1)]
    refine ⟨_, rfl, fun p => ?_⟩
    cases isFile : t.isFile q with
    | false =>
      refine iff_of_false (by simp) ?_
      rintro ⟨⟨isThere, _⟩, rfl⟩
      cases isFile.symm.trans isThere
    | true =>
      refine Option.some_inj.trans ⟨fun same => ⟨same ▸ ⟨isFile, shown⟩, same⟩, And.right⟩
  · have outside : (!q.isWithin root || isHiddenBelow root q) = true := by
      cases inside : q.isWithin root <;> simp_all
    rw [if_pos outside]
    refine ⟨none, rfl, fun p => iff_of_false (by simp) ?_⟩
    rintro ⟨⟨_, visible⟩, rfl⟩
    exact shown visible

/-- Each of some steps that all succeed gives one of the results. -/
theorem mem_of_mapM {ε α β : Type} {f : α → Except ε β} {as : List α} {bs : List β}
    (mapped : as.mapM f = .ok bs) {a : α} {b : β} (isSource : a ∈ as) (gives : f a = .ok b) :
    b ∈ bs := by
  induction as generalizing bs with
  | nil => cases isSource
  | cons first as ih =>
    rw [List.mapM_cons] at mapped
    cases isFirst : f first with
    | error e => simp [isFirst, bind, Except.bind] at mapped
    | ok c =>
      cases rest : as.mapM f with
      | error e => simp [isFirst, rest, bind, Except.bind] at mapped
      | ok more =>
        obtain rfl : c :: more = bs := by
          simpa [isFirst, rest, bind, Except.bind, pure, Except.pure] using mapped
        rcases List.mem_cons.1 isSource with rfl | later
        · obtain rfl := Except.ok.inj (isFirst.symm.trans gives)
          exact List.mem_cons_self
        · exact List.mem_cons_of_mem c (ih rest later)

theorem length_foldl_follow_le (place : Path) (names : List Text) :
    (names.foldl WrittenPath.follow place).parts.length ≤ place.parts.length + names.length := by
  induction names generalizing place with
  | nil => simp
  | cons name names ih =>
    have step : (WrittenPath.follow place name).parts.length ≤ place.parts.length + 1 := by
      rw [WrittenPath.follow]
      split_ifs
      · simp only [Path.parent, List.length_dropLast]
        omega
      · simp [Path.child]
    have further := ih (WrittenPath.follow place name)
    rw [List.foldl_cons, List.length_cons]
    omega

/-- An empty line means the root, or something above it. -/
theorem ne_nil_of_isFileBelow {line : Text} {names : List Text}
    (isBelow : IsFileBelow t root names ((WrittenPath.ofText line).resolve root)) : line ≠ [] := by
  rintro rfl
  have isPlace := isBelow.place
  have short := length_foldl_follow_le ⟨[]⟩ root.parts
  have whole : (WrittenPath.ofText []).walk root = root.parts := by
    simp [WrittenPath.walk, WrittenPath.ofText]
  rw [WrittenPath.resolve, whole] at isPlace
  have below := List.length_pos_iff.2 isBelow.below
  rw [isPlace] at short
  dsimp only at short
  rw [List.length_append, List.length_nil] at short
  omega

/-- If all lines of the lister can be asked about, the visible files below the root that they name
    are found. -/
theorem mem_of_ofListed {lines : List Text} (isRoot : t.isFolder root)
    (readable : ∀ line ∈ lines, line ≠ [] → IsReadable t root line) :
    ∃ files, ofListed t root lines = .ok files ∧ ∀ p, p ∈ files ↔
      (∃ names, IsFileBelow t root names p) ∧
        ∃ line ∈ lines, (WrittenPath.ofText line).resolve root = p := by
  cases named : (lines.filter (!·.isEmpty)).mapM (ofLine t root) with
  | error e =>
    obtain ⟨line, kept, fails⟩ := exists_of_mapM_eq_error named
    obtain ⟨isLine, nonempty⟩ := List.mem_filter.1 kept
    obtain ⟨found, gives, _⟩ := ofLine_eq isRoot (readable line isLine (by simpa using nonempty))
    cases fails.symm.trans gives
  | ok found =>
    refine ⟨found.filterMap id, by rw [ofListed, named]; rfl, fun p => ?_⟩
    have isNamed : p ∈ found.filterMap id ↔ some p ∈ found := by simp
    rw [isNamed]
    constructor
    · intro member
      obtain ⟨line, kept, gives⟩ := exists_of_mem_mapM named _ member
      obtain ⟨isLine, nonempty⟩ := List.mem_filter.1 kept
      obtain ⟨other, also, isFound⟩ :=
        ofLine_eq isRoot (readable line isLine (by simpa using nonempty))
      obtain rfl := Except.ok.inj (gives.symm.trans also)
      obtain ⟨isBelow, isPlace⟩ := (isFound p).1 rfl
      exact ⟨isBelow, line, isLine, isPlace⟩
    · rintro ⟨⟨names, isBelow⟩, line, isLine, rfl⟩
      have nonempty : line ≠ [] := ne_nil_of_isFileBelow isBelow
      obtain ⟨other, gives, isFound⟩ := ofLine_eq isRoot (readable line isLine nonempty)
      obtain rfl := (isFound _).2 ⟨⟨names, isBelow⟩, rfl⟩
      exact mem_of_mapM named (List.mem_filter.2 ⟨isLine, by simpa using nonempty⟩) gives

/-! ## Collecting -/

/-- What is collected if the lister answers. -/
theorem collect_of_lists {lines : List Text} (entered : t.CanLookUp root) (isRoot : t.isFolder root)
    (notBlank : filter.wanted.isBlankText = false) (lists : Lists tools lines) :
    (collect t limits tools filter root).files = (ofListed t root lines).map (sorted root) := by
  obtain ⟨reply, _, asked, _⟩ := id lists
  rw [collect, notBlank, leadsToFolder_eq entered, isRoot, if_neg (by decide), asked]
  dsimp only
  rw [(listed?_eq_some_iff asked).2 lists]

/-- What is collected if the lister does not answer. -/
theorem collect_of_not_lists (entered : t.CanLookUp root) (isRoot : t.isFolder root)
    (notBlank : filter.wanted.isBlankText = false) (silent : ¬∃ lines, Lists tools lines) :
    ∃ before, collect t limits tools filter root = byWalking t limits tools filter root before := by
  rw [collect, notBlank, leadsToFolder_eq entered, isRoot, if_neg (by decide)]
  dsimp only
  split
  · exact ⟨_, rfl⟩
  · next reply asked =>
    split
    · next lines listed => exact absurd ⟨lines, (listed?_eq_some_iff asked).1 listed⟩ silent
    · exact ⟨_, rfl⟩

/-- Nothing is wanted by a blank glob, or below a root that is no folder. -/
theorem not_isWanted {names : List Text}
    (idle : (filter.wanted.isBlankText || !t.isFolder root) = true) :
    ¬IsWanted t limits tools filter root names p := by
  rintro ⟨⟨below, rfl, isFile, _⟩, fits, _⟩
  rcases Bool.or_eq_true_iff.1 idle with blank | noFolder
  · rw [Glob.isMatch, Glob.test, if_pos blank] at fits
    cases fits
  · rw [FileTree.isFolder_of_isFile below isFile] at noFolder
    cases noFolder

theorem collect_of_idle (entered : t.CanLookUp root)
    (idle : (filter.wanted.isBlankText || !t.isFolder root) = true) :
    collect t limits tools filter root = {} := by
  rw [collect, leadsToFolder_eq entered]
  split_ifs with blank
  · rfl
  · have noFolder : t.isFolder root = false := by simpa [blank] using idle
    rw [noFolder]

/-- Files are collected without repetition and sorted by their folded paths. If the lister does not
    answer they are the wanted ones to which the folders on the way may be listed; if it answers
    they are, for a glob that is not blank, the visible files below the root that it named. This is
    so for different names, globs that compile and a root that can be looked up; if the lister
    answers also its lines must be such that can be asked about, and if it does not nothing may
    stop the walk. -/
theorem sorted_files_exact (distinct : t.HasDistinctNames)
    (compiles : (Glob.test limits.braces filter.wanted).isOk)
    (excludes : (Glob.test limits.braces filter.unwanted).isOk)
    (entered : t.CanLookUp root)
    (readable : ∀ lines, Lists tools lines → ∀ line ∈ lines, line ≠ [] → IsReadable t root line)
    (walkable : (¬∃ lines, Lists tools lines) → IsWalkable t limits tools filter root) :
    ∃ files, (collect t limits tools filter root).files = .ok files ∧
      files.Nodup ∧
      files.Pairwise (fun a b =>
        Text.le (foldCase (a.textFrom root)) (foldCase (b.textFrom root))) ∧
      ((¬∃ lines, Lists tools lines) → ∀ p, p ∈ files ↔
        ∃ names, IsWanted t limits tools filter root names p ∧ IsListed t root names) ∧
      ∀ lines, Lists tools lines → ∀ p, p ∈ files ↔ filter.wanted.isBlankText = false ∧
        (∃ names, IsFileBelow t root names p) ∧
          ∃ line ∈ lines, (WrittenPath.ofText line).resolve root = p := by
  by_cases idle : (filter.wanted.isBlankText || !t.isFolder root) = true
  · refine ⟨[], by rw [collect_of_idle entered idle], .nil, .nil, fun _ p => ?_,
      fun lines _ p => iff_of_false List.not_mem_nil ?_⟩
    · simp [not_isWanted idle]
    · rintro ⟨notBlank, ⟨names, below, rfl, isFile, _⟩, _⟩
      rw [notBlank, FileTree.isFolder_of_isFile below isFile] at idle
      cases idle
  · obtain ⟨notBlank, isRoot⟩ : filter.wanted.isBlankText = false ∧ t.isFolder root := by
      simpa using idle
    by_cases lists : ∃ lines, Lists tools lines
    · obtain ⟨lines, lists⟩ := lists
      obtain ⟨files, found, named⟩ := mem_of_ofListed isRoot (readable lines lists)
      have collected : (collect t limits tools filter root).files = _ :=
        collect_of_lists entered isRoot notBlank lists
      rw [found] at collected
      refine ⟨sorted root files, collected, nodup_sorted root files, pairwise_sorted root files,
        fun silent => absurd ⟨lines, lists⟩ silent, fun others also p => ?_⟩
      obtain rfl := also.unique lists
      rw [mem_sorted, named p]
      exact (and_iff_right notBlank).symm
    · obtain ⟨before, isWalk⟩ : ∃ before, collect t limits tools filter root = _ :=
        collect_of_not_lists entered isRoot notBlank lists
      obtain ⟨files, found, wanted⟩ :=
        mem_of_byWalking distinct compiles excludes (walkable lists) before
      refine ⟨sorted root files, by rw [isWalk, found], nodup_sorted root files,
        pairwise_sorted root files, fun _ p => mem_sorted.trans (wanted p), fun lines also => ?_⟩
      exact absurd ⟨lines, also⟩ lists

/-- A folder with a hidden file and a generated one. -/
def sampleTree : FileTree :=
  .folder [("w".toList, .folder [("b.asm".toList, .file .empty), (".old.asm".toList, .file .empty),
    ("gen".toList, .folder [("c.asm".toList, .file .empty)])])]

def sampleRoot : Path := ⟨["w".toList]⟩

def sampleFilter : FileFilter :=
  { wanted := .ofText "*.asm".toList, unwanted := .ofText "{x,y}/**".toList, skipIgnored := true }

/-- Only `git` is installed; it answers `gen/`. -/
def ignoring : Tools :=
  { ignorer := some { output := [0x67, 0x65, 0x6E, 0x2F, 0x00].toByteArray } }

/-- Only `rg` is installed, and prints a text. -/
def printing (output : Text) : Tools :=
  { lister := some { output := (output.flatMap String.utf8EncodeChar).toByteArray } }

theorem lists_printing {output : Text} {lines : List Text} (isOutput : outputLines output = lines) :
    Lists (printing output) lines := by
  refine ⟨_, output, rfl, rfl, .inl rfl, ?_, isOutput.symm⟩
  rw [Encoding.utf8?]
  exact congrArg (Option.map Array.toList) List.utf8Decode?_utf8Encode

theorem hasDistinctNames_sampleTree : sampleTree.HasDistinctNames := by
  have file := FileTree.hasDistinctNames_file .empty true
  have generated : (FileTree.folder [("c.asm".toList, .file .empty)]).HasDistinctNames :=
    FileTree.hasDistinctNames_folder (by decide) (by simpa using file)
  have inside : (FileTree.folder [("b.asm".toList, .file .empty),
      (".old.asm".toList, .file .empty),
      ("gen".toList, .folder [("c.asm".toList, .file .empty)])]).HasDistinctNames :=
    FileTree.hasDistinctNames_folder (by decide) (by simpa using ⟨file, generated⟩)
  exact FileTree.hasDistinctNames_folder (by decide) (by simpa using inside)

/-- `rg` prints a file below the root and one above it. -/
def sampleOutput : Text :=
  "b.asm\n../x\n".toList

theorem lists_sampleOutput :
    Lists (printing sampleOutput) ["b.asm".toList, "../x".toList, []] :=
  lists_printing (by decide +kernel)

theorem isReadable_sampleOutput {lines : List Text} (lists : Lists (printing sampleOutput) lines) :
    ∀ line ∈ lines, line ≠ [] → IsReadable sampleTree sampleRoot line := by
  rw [lists.unique lists_sampleOutput]
  intro line isLine nonempty
  obtain rfl | rfl : line = "b.asm".toList ∨ line = "../x".toList := by
    simpa [nonempty] using isLine
  · exact ⟨by decide, fun _ => FileTree.canLookUp_of_visit rfl⟩
  · exact ⟨by decide, fun outside => absurd outside (by decide)⟩

theorem canLookUp_sampleTree {q : Path} (isFile : sampleTree.isFile q) :
    sampleTree.CanLookUp q := by
  obtain ⟨content, readable, found⟩ := FileTree.isFile_iff.1 isFile
  obtain ⟨_ | ⟨top, names⟩⟩ := q
  · cases found
  obtain ⟨inner, isEntry, found⟩ := hasDistinctNames_sampleTree.get?_cons.1 found
  have distinct := hasDistinctNames_sampleTree.entry isEntry
  obtain ⟨rfl, rfl⟩ := Prod.mk.inj (List.mem_singleton.1 isEntry)
  rcases names with _ | ⟨name, names⟩
  · cases found
  obtain ⟨inner, isEntry, found⟩ := distinct.get?_cons.1 found
  have distinct := distinct.entry isEntry
  simp only [List.mem_cons, List.not_mem_nil, or_false, Prod.mk.injEq] at isEntry
  rcases isEntry with ⟨rfl, rfl⟩ | ⟨rfl, rfl⟩ | ⟨rfl, rfl⟩
  · obtain rfl := FileTree.eq_nil_of_get?_file found
    exact FileTree.canLookUp_of_visit rfl
  · obtain rfl := FileTree.eq_nil_of_get?_file found
    exact FileTree.canLookUp_of_visit rfl
  · rcases names with _ | ⟨last, names⟩
    · cases found
    obtain ⟨inner, isEntry, found⟩ := distinct.get?_cons.1 found
    obtain ⟨rfl, rfl⟩ := Prod.mk.inj (List.mem_singleton.1 isEntry)
    obtain rfl := FileTree.eq_nil_of_get?_file found
    exact FileTree.canLookUp_of_visit rfl

theorem isWalkable_sampleTree : IsWalkable sampleTree {} ignoring sampleFilter sampleRoot where
  shallow := by
    rintro u stands
    obtain rfl := Option.some.inj stands
    decide
  reached := fun _ _ isWanted => canLookUp_sampleTree isWanted.isFile

theorem isWanted_sampleTree :
    IsWanted sampleTree {} ignoring sampleFilter sampleRoot ["b.asm".toList]
      ⟨["w".toList, "b.asm".toList]⟩ where
  below := by decide
  place := rfl
  isFile := rfl
  visible := by decide
  wanted := by decide +kernel
  unwanted := by decide +kernel
  kept := by
    rintro skips way nonempty isWay printed
    obtain rfl : way = ["b.asm".toList] :=
      (List.prefix_cons_iff.1 isWay).resolve_left nonempty |>.elim fun _ ⟨same, isNil⟩ => by
        rw [same, List.prefix_nil.1 isNil]
    have spared : ⟨["w".toList, "b.asm".toList]⟩ ∉
        (askIgnored ignoring sampleFilter sampleRoot).1 := by decide +kernel
    exact spared (mem_askIgnored.2 ⟨skips, printed⟩)

/-- By walking, `b.asm` is found and the generated file is not; the lister does not lead out of the
    root. -/
theorem sorted_files_of_sampleTree :
    (∃ files, (collect sampleTree {} ignoring sampleFilter sampleRoot).files = .ok files ∧
      ⟨["w".toList, "b.asm".toList]⟩ ∈ files ∧
      ⟨["w".toList, "gen".toList, "c.asm".toList]⟩ ∉ files) ∧
    ∃ files,
      (collect sampleTree {} (printing sampleOutput) sampleFilter sampleRoot).files = .ok files ∧
        ⟨["x".toList]⟩ ∉ files := by
  have compiles : (Glob.test ({} : Limits).braces sampleFilter.wanted).isOk := by decide +kernel
  have excludes : (Glob.test ({} : Limits).braces sampleFilter.unwanted).isOk := by decide +kernel
  have entered : sampleTree.CanLookUp sampleRoot := FileTree.canLookUp_of_visit rfl
  have silent : ¬∃ lines, Lists ignoring lines := by
    rintro ⟨_, _, _, asked, _⟩
    cases asked
  constructor
  · obtain ⟨files, collected, _, _, isWalk, _⟩ :=
      sorted_files_exact hasDistinctNames_sampleTree compiles excludes entered
        (fun lines lists => absurd ⟨lines, lists⟩ silent) fun _ => isWalkable_sampleTree
    have lists : IsListed sampleTree sampleRoot ["b.asm".toList] := by
      intro way isWay proper
      rcases List.prefix_cons_iff.1 isWay with rfl | ⟨behind, rfl, isEnd⟩
      · rfl
      · exact absurd (by rw [List.prefix_nil.1 isEnd]) proper
    refine ⟨files, collected, (isWalk silent _).2 ⟨_, isWanted_sampleTree, lists⟩,
      fun generated => ?_⟩
    obtain ⟨names, ⟨⟨_, isPlace, _, _⟩, _, _, kept⟩, _⟩ := (isWalk silent _).1 generated
    have below : sampleRoot.parts ++ ["gen".toList, "c.asm".toList] = sampleRoot.parts ++ names :=
      congrArg Path.parts isPlace
    obtain rfl := List.append_cancel_left below
    have ignored : ⟨["w".toList, "gen".toList]⟩ ∈
        (askIgnored ignoring sampleFilter sampleRoot).1 := by decide +kernel
    exact kept rfl ["gen".toList] (by decide) (by decide) (mem_askIgnored.1 ignored).2
  · obtain ⟨files, collected, _, _, _, isList⟩ :=
      sorted_files_exact hasDistinctNames_sampleTree compiles excludes entered
        (fun _ lists => isReadable_sampleOutput lists)
        fun quiet => absurd ⟨_, lists_sampleOutput⟩ quiet
    refine ⟨files, collected, fun outside => ?_⟩
    obtain ⟨_, ⟨names, _, isPlace, _, _⟩, _⟩ := (isList _ lists_sampleOutput _).1 outside
    cases isPlace

/-- `rg` prints one name that is longer than names can be. -/
def longOutput : Text :=
  List.replicate 300 'a' ++ ['\n']

/-- A name that no file can have stops the collection, although nothing is wrong with the globs. -/
theorem longOutput_stops :
    sampleTree.HasDistinctNames ∧ (Glob.test ({} : Limits).braces sampleFilter.wanted).isOk ∧
      (Glob.test ({} : Limits).braces sampleFilter.unwanted).isOk ∧
      Lists (printing longOutput) [List.replicate 300 'a', []] ∧
      (∀ line ∈ [List.replicate 300 'a', []], '\x00' ∉ line) ∧
      (collect sampleTree {} (printing longOutput) sampleFilter sampleRoot).files =
        .error .longName := by
  have lists : Lists (printing longOutput) [List.replicate 300 'a', []] :=
    lists_printing (by decide +kernel)
  refine ⟨hasDistinctNames_sampleTree, by decide +kernel, by decide +kernel, lists,
    by decide +kernel, ?_⟩
  rw [collect_of_lists (FileTree.canLookUp_of_visit rfl) rfl (by decide +kernel) lists]
  decide +kernel

end Collection

end AsmAtlas
