import AsmAtlas.Proofs.Findings

/-!
# Symbols of nested roots

A file below several roots is searched once for each of them, each time with the settings of that
root. It is reported for the innermost one only: every collected file lies below the root that it
was collected for, so it has an innermost root, and since no root is named twice that one is a
single root. Within a root the files differ, and within a file the places.

A link is collected where it stands, but read where it leads. If it leads to another collected file,
that one is reported twice, and if it leads out of all roots, what is found there has no innermost
root and is reported for every root that it was found for.
-/

namespace AsmAtlas

namespace Path

variable {p root : Path}

theorem isWithin_iff : p.isWithin root ↔ root.parts <+: p.parts :=
  List.isPrefixOf_iff_prefix

theorem isWithin_refl (p : Path) : p.isWithin p :=
  isWithin_iff.2 (List.prefix_refl p.parts)

theorem isWithin_of_child {name : Text} (inside : p.isWithin (root.child name)) :
    p.isWithin root :=
  isWithin_iff.2 ((List.prefix_append root.parts [name]).trans (isWithin_iff.1 inside))

end Path

section

variable {ε α β : Type}

theorem exists_of_map_eq_ok {f : α → β} {x : Except ε α} {b : β} (mapped : x.map f = .ok b) :
    ∃ a, x = .ok a ∧ f a = b := by
  cases x with
  | error e => simp [Except.map] at mapped
  | ok a => exact ⟨a, rfl, Except.ok.inj mapped⟩

/-- Whatever comes out of a list of steps that all succeed comes out of one of them. -/
theorem exists_of_mem_mapM {f : α → Except ε β} {as : List α} {bs : List β}
    (mapped : as.mapM f = .ok bs) : ∀ b ∈ bs, ∃ a ∈ as, f a = .ok b := by
  induction as generalizing bs with
  | nil =>
    obtain rfl : [] = bs := Except.ok.inj mapped
    simp
  | cons a as ih =>
    rw [List.mapM_cons] at mapped
    cases first : f a with
    | error e => simp [first, bind, Except.bind] at mapped
    | ok b =>
      cases rest : as.mapM f with
      | error e => simp [first, rest, bind, Except.bind] at mapped
      | ok more =>
        obtain rfl : b :: more = bs := by
          simpa [first, rest, bind, Except.bind, pure, Except.pure] using mapped
        intro other member
        rcases List.mem_cons.1 member with rfl | later
        · exact ⟨a, List.mem_cons_self, first⟩
        · obtain ⟨source, isSource, gives⟩ := ih rest other later
          exact ⟨source, List.mem_cons_of_mem a isSource, gives⟩

end

namespace FileTree

theorem isWithin_of_mem_filesAmong {place p : Path} {entries : List (Text × FileTree)}
    (member : p ∈ filesAmong place entries) : p.isWithin place := by
  obtain ⟨entry, _, rfl⟩ := List.mem_map.1 member
  exact Path.isWithin_of_child (place.child entry.1).isWithin_refl

mutual

/-- What a walk through a folder meets lies below the folder. -/
theorem isWithin_of_mem_seenAt {t : FileTree} {prunes : Path → Bool} {p : Path} :
    ∀ (u : FileTree) {calls : Nat} {place : Path}, some p ∈ seenAt t prunes calls place u →
      p.isWithin place
  | file _ _, _, _, member => by simp [seenAt] at member
  | folder entries _, calls, place, member => by
    cases calls with
    | zero => simp [seenAt] at member
    | succ calls =>
      rw [seenAt] at member
      split_ifs at member
      · rcases List.mem_append.1 member with own | inner
        · obtain ⟨q, isFile, same⟩ := List.mem_map.1 own
          exact Option.some.inj same ▸ isWithin_of_mem_filesAmong isFile
        · exact isWithin_of_mem_seenIn entries inner
      · cases member

theorem isWithin_of_mem_seenIn {t : FileTree} {prunes : Path → Bool} {p : Path} :
    ∀ (entries : List (Text × FileTree)) {calls : Nat} {place : Path},
      some p ∈ seenIn t prunes calls place entries → p.isWithin place
  | [], _, _, member => by simp [seenIn] at member
  | (name, u) :: rest, calls, place, member => by
    rw [seenIn, List.mem_append] at member
    rcases member with here | later
    · split_ifs at here
      · cases here
      · exact Path.isWithin_of_child (isWithin_of_mem_seenAt u here)
    · exact isWithin_of_mem_seenIn rest later

end

theorem isWithin_of_mem_seenBelow {t : FileTree} {prunes : Path → Bool} {calls : Nat}
    {root p : Path} (member : some p ∈ t.seenBelow prunes calls root) : p.isWithin root := by
  rw [seenBelow] at member
  split at member
  · exact isWithin_of_mem_seenAt _ member
  · cases member

end FileTree

namespace Collection

variable {t : FileTree} {limits : Limits} {root : Path} {files : List Path}

theorem mem_sorted {p : Path} : p ∈ sorted root files ↔ p ∈ files := by
  rw [sorted, List.mem_mergeSort, List.mem_eraseDups]

/-- If nothing stops a walk, it takes what passes the test. -/
theorem mem_of_takeAll {takes : Path → Except Failure Bool} {seen : List (Option Path)}
    (taken : takeAll takes seen = .ok files) {p : Path} :
    p ∈ files ↔ some p ∈ seen ∧ takes p = .ok true := by
  induction seen generalizing files with
  | nil =>
    obtain rfl := Except.ok.inj taken
    simp
  | cons met rest ih =>
    cases met with
    | none => cases taken
    | some q =>
      rw [takeAll] at taken
      split at taken
      · cases taken
      · cases taken
      · next more takesIt rest =>
        obtain rfl := Except.ok.inj taken
        rw [List.mem_cons, List.mem_cons, ih rest, Option.some.injEq, or_and_right]
        exact or_congr_left ⟨fun same => ⟨same, same ▸ takesIt⟩, And.left⟩
      · next more leaves rest =>
        obtain rfl := Except.ok.inj taken
        rw [List.mem_cons, ih rest, Option.some.injEq, or_and_right]
        refine (or_iff_right ?_).symm
        rintro ⟨rfl, takesIt⟩
        cases leaves.symm.trans takesIt

/-- What is found by walking lies below the root. -/
theorem isWithin_of_walk {filter : FileFilter} {ignored : List Path}
    (walked : walk t limits filter ignored root = .ok files) : ∀ p ∈ files, p.isWithin root :=
  fun _ member => FileTree.isWithin_of_mem_seenBelow ((mem_of_takeAll walked).1 member).1

/-- The file that the lister named lies below the root. -/
theorem isWithin_of_ofLine {line : Text} {p : Path} (named : ofLine t root line = .ok (some p)) :
    p.isWithin root := by
  unfold ofLine at named
  split_ifs at named
  dsimp only at named
  split_ifs at named with outside
  · cases named
  · obtain ⟨isFile, _, isNamed⟩ := exists_of_map_eq_ok named
    cases isFile with
    | false => cases isNamed
    | true =>
      obtain rfl := Option.some.inj isNamed
      simp only [Bool.or_eq_true, not_or, Bool.not_eq_true', Bool.not_eq_false] at outside
      exact outside.1

theorem isWithin_of_ofListed {lines : List Text} (listed : ofListed t root lines = .ok files) :
    ∀ p ∈ files, p.isWithin root := by
  rw [ofListed] at listed
  obtain ⟨found, named, rfl⟩ := exists_of_map_eq_ok listed
  intro p member
  obtain ⟨_, isFound, rfl⟩ := List.mem_filterMap.1 member
  obtain ⟨line, _, gives⟩ := exists_of_mem_mapM named _ isFound
  exact isWithin_of_ofLine gives

/-- Whatever the programs print, every collected file lies below the root. -/
theorem isWithin_of_collect {tools : Tools} {filter : FileFilter}
    (collected : (collect t limits tools filter root).files = .ok files) :
    ∀ p ∈ files, p.isWithin root := by
  have walked : ∀ before, (byWalking t limits tools filter root before).files = .ok files →
      ∀ p ∈ files, p.isWithin root := by
    intro before found
    obtain ⟨seen, isSeen, rfl⟩ := exists_of_map_eq_ok found
    intro p member
    exact isWithin_of_walk isSeen p (mem_sorted.1 member)
  unfold collect at collected
  split at collected
  · obtain rfl : [] = files := Except.ok.inj collected
    simp
  · split at collected
    · cases collected
    · obtain rfl : [] = files := Except.ok.inj collected
      simp
    · split at collected
      · exact walked _ collected
      · split at collected
        · obtain ⟨seen, listed, rfl⟩ := exists_of_map_eq_ok collected
          intro p member
          exact isWithin_of_ofListed listed p (mem_sorted.1 member)
        · exact walked _ collected

end Collection

namespace Context

/-- The next settings are taken over, or what was held stays. -/
theorem deeper_eq_or (best : Option Config) (next : Config) :
    deeper best next = some next ∨ deeper best next = best := by
  unfold deeper
  cases best with
  | none => exact .inl rfl
  | some held =>
    dsimp only
    split_ifs
    · exact .inl rfl
    · exact .inr rfl

/-- What is held after a step has a root no shorter than that of the next settings, and of those
    held before. -/
theorem exists_deeper {best : Option Config} {next e : Config}
    (offered : e = next ∨ best = some e) :
    ∃ b, deeper best next = some b ∧ e.root.parts.length ≤ b.root.parts.length := by
  unfold deeper
  cases best with
  | none =>
    obtain rfl : e = next := by simpa using offered
    exact ⟨e, rfl, Nat.le_refl _⟩
  | some held =>
    have offered : e = next ∨ held = e := by simpa using offered
    dsimp only
    split_ifs with shorter
    · refine ⟨next, rfl, ?_⟩
      rcases offered with rfl | rfl <;> omega
    · refine ⟨held, rfl, ?_⟩
      rcases offered with rfl | rfl <;> omega

/-- The deepest of some settings is one of them, and none of them has a longer root. -/
theorem foldl_deeper {cs : List Config} {best : Option Config} {c : Config}
    (deepest : cs.foldl deeper best = some c) :
    (c ∈ cs ∨ best = some c) ∧
      (∀ e ∈ cs, e.root.parts.length ≤ c.root.parts.length) ∧
      ∀ e, best = some e → e.root.parts.length ≤ c.root.parts.length := by
  induction cs generalizing best with
  | nil =>
    refine ⟨.inr deepest, by simp, ?_⟩
    intro e isBest
    rw [List.foldl_nil, isBest] at deepest
    exact Nat.le_of_eq (by rw [Option.some.inj deepest])
  | cons first cs ih =>
    obtain ⟨among, longest, longer⟩ := ih deepest
    refine ⟨?_, ?_, ?_⟩
    · rcases among with later | now
      · exact .inl (List.mem_cons_of_mem first later)
      · rcases deeper_eq_or best first with taken | kept
        · obtain rfl := Option.some.inj (taken.symm.trans now)
          exact .inl List.mem_cons_self
        · exact .inr (kept ▸ now)
    · intro e member
      rcases List.mem_cons.1 member with rfl | later
      · obtain ⟨b, now, bound⟩ := exists_deeper (.inl rfl)
        exact bound.trans (longer b now)
      · exact longest e later
    · intro e isBest
      obtain ⟨b, now, bound⟩ := exists_deeper (.inr isBest)
      exact bound.trans (longer b now)

theorem isSome_foldl_deeper {cs : List Config} {best : Option Config}
    (begun : best.isSome ∨ cs ≠ []) : (cs.foldl deeper best).isSome := by
  induction cs generalizing best with
  | nil => simpa using begun
  | cons first cs ih =>
    obtain ⟨b, now, _⟩ : ∃ b, deeper best first = some b ∧
        first.root.parts.length ≤ b.root.parts.length := exists_deeper (.inl rfl)
    exact ih (.inl (Option.isSome_of_eq_some now))

variable {context : Context} {p : Path} {c : Config}

/-- The settings for a place are those of the innermost root that it lies in. -/
theorem innermost_of_configFor? (owner : context.configFor? p = some c) :
    c ∈ context.configs ∧ p.isWithin c.root ∧
      ∀ e ∈ context.configs, p.isWithin e.root → e.root.parts.length ≤ c.root.parts.length := by
  obtain ⟨among, longest, -⟩ := foldl_deeper owner
  rcases among with member | none
  · obtain ⟨isConfig, inside⟩ := List.mem_filter.1 member
    exact ⟨isConfig, inside, fun e isOther within =>
      longest e (List.mem_filter.2 ⟨isOther, within⟩)⟩
  · simp at none

/-- A place in a root has settings. -/
theorem isSome_configFor? (isConfig : c ∈ context.configs) (inside : p.isWithin c.root) :
    (context.configFor? p).isSome :=
  isSome_foldl_deeper (.inr (List.ne_nil_of_mem (List.mem_filter.2 ⟨isConfig, inside⟩)))

/-- No two settings that were built have the same root. -/
theorem nodup_roots_build (t : FileTree) (user : Option ByteArray) (roots : List Path) :
    ((build t user roots).configs.map (·.root)).Nodup := by
  have same : (build t user roots).configs.map (·.root) = roots.eraseDups := by
    rw [build, List.map_map]
    exact List.map_id _
  rw [same]
  exact nodup_eraseDups roots

/-- Whatever is reported for a root is not excluded there, and lies in a file whose innermost root
    it is, or outside all roots. -/
theorem owner_of_isReported (distinct : (context.configs.map (·.root)).Nodup)
    (isConfig : c ∈ context.configs) {f : Finding} (passes : context.isReported c f) :
    ¬c.isExcluded f.symbol ∧ (context.configFor? f.location.path = some c ∨
      ∀ other ∈ context.configs, ¬f.location.path.isWithin other.root) := by
  obtain ⟨included, owned⟩ := Bool.and_eq_true_iff.1 passes
  refine ⟨by simpa using included, ?_⟩
  cases isOwner : context.configFor? f.location.path with
  | none =>
    refine .inr fun other isOther inside => ?_
    have isSome := isSome_configFor? isOther inside
    rw [isOwner] at isSome
    cases isSome
  | some owner =>
    rw [isOwner, Option.all_some, beq_iff_eq] at owned
    have same :=
      List.inj_on_of_nodup_map distinct (innermost_of_configFor? isOwner).1 isConfig owned
    exact .inl (congrArg some same)

end Context

/-- Whether a root is asked for a query: the feature is on, and the query is long enough. -/
def Config.asks (c : Config) (query : Text) : Bool :=
  c.symbols && c.symbolsLength ≤ query.length

namespace Archive

/-- The declarations in some files that match a query, by the rules of a root. -/
def matching (a : Archive) (query : Text) (c : Config) (files : List Path) : List Finding :=
  (files.filterMap a.load?).flatMap fun d =>
    Search.tidy ((WordSearch.declarations (.fuzzy query) .source c.rules).flatMap d.find)

/-- Those of them that are reported for the root. -/
def reported (a : Archive) (context : Context) (query : Text) (c : Config) (files : List Path) :
    List Scene.Declared :=
  ((a.matching query c files).filter (context.isReported c)).map fun f => ⟨f.symbol, f.location⟩

variable {a : Archive} {context : Context} {query : Text} {c : Config} {files : List Path}

theorem symbolsOf_gives (asked : c.asks query)
    (collected : (a.collection c.filter c.root).files = .ok files) :
    (a.symbolsOf context c query).Gives (a.reported context query c files.eraseDups) := by
  have goesOn : (!c.symbols || decide (query.length < c.symbolsLength)) = false := by
    simp only [Config.asks, Bool.and_eq_true, decide_eq_true_eq] at asked
    simp [asked.1, asked.2]
  rw [symbolsOf, goesOn]
  exact (search_gives collected _).bind (.pure _)

theorem symbolsOf_unasked (unasked : c.asks query = false) :
    a.symbolsOf context c query = pure [] := by
  have closed : (!c.symbols || decide (query.length < c.symbolsLength)) = true := by
    simp only [Config.asks, Bool.and_eq_false_iff, decide_eq_false_iff_not] at unasked
    rcases unasked with off | short
    · simp [off]
    · simp [Nat.not_le.1 short]
  rw [symbolsOf, closed]
  rfl

theorem symbols_start (a : Archive) (context : Context) (query : Text) :
    ((a.symbols context query).start none).1 = a.symbolsBelow context query context.configs := by
  obtain ⟨after, ran⟩ := a.symbolsOfAll_unlimited context query context.configs []
  rw [Task.start, symbols, ran]

/-- If every root gives something, all of it is found, root after root. -/
theorem symbolsBelow_of_ok {own : Config → List Scene.Declared} {configs : List Config}
    (gives : ∀ c ∈ configs, ((a.symbolsOf context c query).start none).1 = .ok (own c)) :
    a.symbolsBelow context query configs = .ok (configs.flatMap own) := by
  induction configs with
  | nil => rfl
  | cons c configs ih =>
    rw [a.symbolsBelow_cons_of_ok context (gives c List.mem_cons_self),
      ih fun e member => gives e (List.mem_cons_of_mem c member)]
    rfl

/-- If the files of the roots that are asked can be collected, the answer is what the roots report,
    one after the other. -/
theorem exists_own (gathers : ∀ c ∈ context.configs, c.asks query →
      ∃ files, (a.collection c.filter c.root).files = .ok files) :
    ∃ own : Config → List Scene.Declared,
      (∀ c ∈ context.configs, ((a.symbolsOf context c query).start none).1 = .ok (own c)) ∧
      ((a.symbols context query).start none).1 = .ok (context.configs.flatMap own) ∧
      ∀ c ∈ context.configs, c.asks query = false ∧ own c = [] ∨
        c.asks query = true ∧ ∃ files, (a.collection c.filter c.root).files = .ok files ∧
          own c = a.reported context query c files.eraseDups := by
  have each : ∀ c ∈ context.configs, ∃ own,
      ((a.symbolsOf context c query).start none).1 = .ok own ∧
      (c.asks query = false ∧ own = [] ∨
        c.asks query = true ∧ ∃ files, (a.collection c.filter c.root).files = .ok files ∧
          own = a.reported context query c files.eraseDups) := by
    intro c isConfig
    cases asked : c.asks query with
    | false => exact ⟨[], by rw [symbolsOf_unasked asked]; rfl, .inl ⟨rfl, rfl⟩⟩
    | true =>
      obtain ⟨files, collected⟩ := gathers c isConfig asked
      exact ⟨_, (symbolsOf_gives asked collected).start, .inr ⟨rfl, files, collected, rfl⟩⟩
  choose! own gives reports using each
  exact ⟨own, gives, by rw [symbols_start, symbolsBelow_of_ok gives], reports⟩

/-- A finding lies in the document of one of the files. -/
theorem exists_of_mem_matching {f : Finding} (member : f ∈ a.matching query c files) :
    ∃ p ∈ files, ∃ d, a.load? p = some d ∧ f.location.path = d.path := by
  obtain ⟨d, isDocument, inDocument⟩ := List.mem_flatMap.1 member
  obtain ⟨p, isFile, loaded⟩ := List.mem_filterMap.1 isDocument
  exact ⟨p, isFile, d, loaded, Search.path_of_mem_tidy inDocument⟩

/-- The files of a root are loaded as different documents, each of which lies below the root. A link
    to another of the files, or out of the root, breaks this. -/
structure LoadsApart (a : Archive) (root : Path) (files : List Path) : Prop where
  inside : ∀ p ∈ files, ∀ d, a.load? p = some d → d.path.isWithin root
  apart : ∀ p ∈ files, ∀ q ∈ files, ∀ d e, a.load? p = some d → a.load? q = some e →
    d.path = e.path → p = q

/-- The findings in different documents are at different places. -/
theorem nodup_matching {root : Path} (loads : a.LoadsApart root files) :
    ((a.matching query c files.eraseDups).map (·.location)).Nodup := by
  have different : (files.eraseDups.filterMap a.load?).Pairwise fun d e => d.path ≠ e.path := by
    refine List.pairwise_filterMap.2 ((nodup_eraseDups files).imp_of_mem ?_)
    intro p q isFile isOther differ d loaded e loadedOther same
    exact differ (loads.apart p (List.mem_eraseDups.1 isFile) q (List.mem_eraseDups.1 isOther)
      d e loaded loadedOther same)
  refine List.pairwise_map.2 ((Search.pairwise_flatMap_tidy different _).imp ?_)
  intro f g precedes same
  have before := precedes (congrArg Location.path same)
  rw [Finding.Precedes, same] at before
  omega

theorem nodup_reported {root : Path} (loads : a.LoadsApart root files) :
    ((a.reported context query c files.eraseDups).map (·.location)).Nodup := by
  rw [reported, List.map_map]
  exact (nodup_matching loads).sublist (List.filter_sublist.map _)

/-- Whatever a root reports is found in the document of one of the files, is not excluded there, and
    lies in a file whose innermost root it is, or outside all roots. -/
theorem of_mem_reported (distinct : (context.configs.map (·.root)).Nodup)
    (isConfig : c ∈ context.configs) {e : Scene.Declared}
    (member : e ∈ a.reported context query c files) :
    (∃ p ∈ files, ∃ d, a.load? p = some d ∧ e.location.path = d.path) ∧ ¬c.isExcluded e.name ∧
      (context.configFor? e.location.path = some c ∨
        ∀ other ∈ context.configs, ¬e.location.path.isWithin other.root) := by
  obtain ⟨f, kept, rfl⟩ := List.mem_map.1 member
  obtain ⟨found, passes⟩ := List.mem_filter.1 kept
  exact ⟨exists_of_mem_matching found, Context.owner_of_isReported distinct isConfig passes⟩

/-- If the documents lie below the root, it is the innermost root of whatever it reports. -/
theorem LoadsApart.owner_of_mem_reported (loads : a.LoadsApart c.root files)
    (distinct : (context.configs.map (·.root)).Nodup) (isConfig : c ∈ context.configs)
    {e : Scene.Declared} (member : e ∈ a.reported context query c files.eraseDups) :
    context.configFor? e.location.path = some c := by
  obtain ⟨⟨p, isFile, d, loaded, path⟩, -, owner | outside⟩ :=
    of_mem_reported distinct isConfig member
  · exact owner
  · have inside := loads.inside p (List.mem_eraseDups.1 isFile) d loaded
    exact absurd (path ▸ inside) (outside c isConfig)

/-- Roots that are the innermost ones of what they report report nothing at the same location. -/
theorem nodup_flatMap_of_owned {own : Config → List Scene.Declared}
    (distinct : (context.configs.map (·.root)).Nodup)
    (nodup : ∀ c ∈ context.configs, ((own c).map (·.location)).Nodup)
    (owned : ∀ c ∈ context.configs, ∀ e ∈ own c,
      context.configFor? e.location.path = some c) :
    ((context.configs.flatMap own).map (·.location)).Nodup := by
  rw [List.map_flatMap]
  refine List.pairwise_flatMap.2 ⟨nodup, (List.pairwise_map.1 distinct).imp_of_mem ?_⟩
  intro c other isConfig isOther differ l inFirst m inSecond same
  obtain ⟨e, isOwn, rfl⟩ := List.mem_map.1 inFirst
  obtain ⟨e', isOwn', rfl⟩ := List.mem_map.1 inSecond
  have owner := owned c isConfig e isOwn
  rw [same, owned other isOther e' isOwn'] at owner
  exact differ (congrArg Config.root (Option.some.inj owner).symm)

/-- The search for symbols over roots of any kind, repeated, nested or disjoint, if the files of the
    roots that are asked can be collected. The answer is what the roots report, one after the other.
    Whatever a root reports is found in the document of a file that was collected for it, and that
    document has the root as its innermost one or lies outside all roots; the feature is on there,
    the query is long enough for it, and the name is not among its excluded ones. If the files of
    each root are loaded as different documents below it, no location is reported twice, and every
    document has an innermost root. -/
theorem symbols_reported_once {t : FileTree} {user : Option ByteArray} {roots : List Path}
    {context : Context} (built : context = .build t user roots) (a : Archive) (query : Text)
    (gathers : ∀ c ∈ context.configs, c.asks query →
      ∃ files, (a.collection c.filter c.root).files = .ok files) :
    ∃ own : Config → List Scene.Declared,
      (∀ c ∈ context.configs, ((a.symbolsOf context c query).start none).1 = .ok (own c)) ∧
      ((a.symbols context query).start none).1 = .ok (context.configs.flatMap own) ∧
      (∀ c ∈ context.configs, ∀ e ∈ own c,
        (∃ files, (a.collection c.filter c.root).files = .ok files ∧
          ∃ p ∈ files, ∃ d, a.load? p = some d ∧ e.location.path = d.path) ∧
        (context.configFor? e.location.path = some c ∨
          ∀ other ∈ context.configs, ¬e.location.path.isWithin other.root) ∧
        c.symbols = true ∧ c.symbolsLength ≤ query.length ∧ ¬c.isExcluded e.name) ∧
      ((∀ c ∈ context.configs, c.asks query → ∀ files,
          (a.collection c.filter c.root).files = .ok files → a.LoadsApart c.root files) →
        ((context.configs.flatMap own).map (·.location)).Nodup ∧
        ∀ c ∈ context.configs, ∀ e ∈ own c,
          context.configFor? e.location.path = some c ∧
          ∀ other ∈ context.configs, e.location.path.isWithin other.root →
            other.root.parts.length ≤ c.root.parts.length) := by
  have distinct : (context.configs.map (·.root)).Nodup := by
    rw [built]
    exact Context.nodup_roots_build t user roots
  obtain ⟨own, gives, answered, reports⟩ := exists_own gathers
  refine ⟨own, gives, answered, ?_, fun loads => ?_⟩
  · intro c isConfig e isOwn
    rcases reports c isConfig with ⟨_, none⟩ | ⟨asked, files, collected, found⟩
    · simp [none] at isOwn
    · obtain ⟨⟨p, isFile, loaded⟩, included, owner⟩ :=
        of_mem_reported distinct isConfig (found ▸ isOwn)
      obtain ⟨on, long⟩ := Bool.and_eq_true_iff.1 asked
      exact ⟨⟨files, collected, p, List.mem_eraseDups.1 isFile, loaded⟩, owner, on,
        of_decide_eq_true long, included⟩
  · have owned : ∀ c ∈ context.configs, ∀ e ∈ own c,
        context.configFor? e.location.path = some c := by
      intro c isConfig e isOwn
      rcases reports c isConfig with ⟨_, none⟩ | ⟨asked, files, collected, found⟩
      · simp [none] at isOwn
      · exact (loads c isConfig asked files collected).owner_of_mem_reported distinct isConfig
          (found ▸ isOwn)
    have nodup : ∀ c ∈ context.configs, ((own c).map (·.location)).Nodup := by
      intro c isConfig
      rcases reports c isConfig with ⟨_, none⟩ | ⟨asked, files, collected, found⟩
      · simp [none]
      · rw [found]
        exact nodup_reported (loads c isConfig asked files collected)
    exact ⟨nodup_flatMap_of_owned distinct nodup owned, fun c isConfig e isOwn =>
      ⟨owned c isConfig e isOwn, (Context.innermost_of_configFor? (owned c isConfig e isOwn)).2.2⟩⟩

end Archive

/-- Without links the files of a root are loaded as different documents below it. -/
theorem Workspace.loadsApart_archive {w : Workspace} {filter : FileFilter} {root : Path}
    {files : List Path} (collected : (w.collection filter root).files = .ok files) :
    w.archive.LoadsApart root files where
  inside := by
    intro p isFile d loaded
    rw [path_of_load loaded]
    exact Collection.isWithin_of_collect collected p isFile
  apart := by
    intro p _ q _ d e loaded loadedOther same
    rw [path_of_load loaded, path_of_load loadedOther] at same
    exact same

namespace Scene

/-- The declarations in some files that are reported for a root. -/
def reported (s : Scene) (query : Text) (c : Config) (files : List Path) : List Declared :=
  s.workspace.archive.reported s.context query c files

variable {s : Scene} {query : Text} {c : Config} {files : List Path}

/-- If the files of the roots that are asked can be collected, the answer is what the roots report,
    one after the other. -/
theorem exists_own
    (gathers : ∀ c ∈ s.context.configs, c.asks query → ∃ files, s.filesOf c = .ok files) :
    ∃ own : Config → List Declared,
      ((s.symbols query).start none).1 = .ok (s.context.configs.flatMap own) ∧
      ∀ c ∈ s.context.configs, c.asks query = false ∧ own c = [] ∨
        c.asks query = true ∧
          ∃ files, s.filesOf c = .ok files ∧ own c = s.reported query c files := by
  obtain ⟨own, _, answered, reports⟩ := Archive.exists_own (a := s.workspace.archive) gathers
  refine ⟨own, answered, fun c isConfig => (reports c isConfig).imp_right ?_⟩
  rintro ⟨asked, files, collected, isOwn⟩
  rw [eraseDups_of_nodup (Collection.nodup_collect collected)] at isOwn
  exact ⟨asked, files, collected, isOwn⟩

/-- Whatever is reported for a root lies in a file whose innermost root it is, and is not excluded
    there. -/
theorem owner_of_mem_reported (distinct : (s.context.configs.map (·.root)).Nodup)
    (isConfig : c ∈ s.context.configs) (collected : s.filesOf c = .ok files) {e : Declared}
    (member : e ∈ s.reported query c files) :
    s.context.configFor? e.location.path = some c ∧ ¬c.isExcluded e.name := by
  rw [reported, ← eraseDups_of_nodup (Collection.nodup_collect collected)] at member
  exact ⟨(Workspace.loadsApart_archive collected).owner_of_mem_reported distinct isConfig member,
    (Archive.of_mem_reported distinct isConfig member).2.1⟩

/-- A file in a folder. -/
def nestedFiles : FileTree :=
  .folder [("lib".toList, .folder [("b.asm".toList, .file "SetAndReturn: ret".toUTF8)])]

/-- Roots around that file: the top, the folder, and the top again. -/
def nestedScene : Scene :=
  { workspace := { files := nestedFiles }
    context := .build nestedFiles none [⟨[]⟩, ⟨["lib".toList]⟩, ⟨[]⟩] }

theorem nestedScene_gathers :
    ∀ c ∈ nestedScene.context.configs, ∃ files, nestedScene.filesOf c = .ok files := by
  have all : nestedScene.context.configs.all (fun c => (nestedScene.filesOf c).isOk) = true := by
    decide +kernel
  intro c isConfig
  have ok := List.all_eq_true.1 all c isConfig
  cases found : nestedScene.filesOf c with
  | error e => rw [found] at ok; cases ok
  | ok files => exact ⟨files, rfl⟩

/-- The label of the file is found below both roots and reported for the inner one. -/
theorem nestedScene_reported_once :
    ((nestedScene.symbols "sn".toList).start none).1 =
        .ok [⟨"SetAndReturn".toList, ⟨⟨["lib".toList, "b.asm".toList]⟩, 0, 0, 12⟩⟩] ∧
      ∃ own : Config → List Declared,
        ((nestedScene.symbols "sn".toList).start none).1 =
          .ok (nestedScene.context.configs.flatMap own) ∧
        ((nestedScene.context.configs.flatMap own).map (·.location)).Nodup := by
  have built : nestedScene.context =
      .build nestedFiles none [⟨[]⟩, ⟨["lib".toList]⟩, ⟨[]⟩] := rfl
  obtain ⟨own, _, answered, _, once⟩ :=
    Archive.symbols_reported_once built nestedScene.workspace.archive "sn".toList
      fun c isConfig _ => nestedScene_gathers c isConfig
  have nodup := (once fun _ _ _ _ collected => Workspace.loadsApart_archive collected).1
  exact ⟨by decide +kernel, own, answered, nodup⟩

/-- A root whose settings file asks for a range of characters from the last to the first. -/
def bracketed : Scene :=
  let files : FileTree := .folder
    [(Config.fileName, .file "\x7b\"include_files\": \"[z-a]\"\x7d".toUTF8),
      ("a.asm".toList, .file "go: ret".toUTF8)]
  ⟨{ files }, .build files none [⟨[]⟩]⟩

end Scene

namespace Archive

/-- A root with a file, and a folder in it with two links: `b.asm` leads to the file, and `c.asm` to
    one that is not in the root. The folder is a root as well. -/
def linked : Archive :=
  let place (names : List String) : Path := ⟨names.map String.toList⟩
  { collection := fun _ root =>
      { files := .ok <|
          if root.parts.length == 1 then
            [place ["w", "lib", "c.asm"], place ["w", "a.asm"], place ["w", "lib", "b.asm"]]
          else [place ["w", "lib", "b.asm"], place ["w", "lib", "c.asm"]] }
    load? := fun p =>
      if p == place ["w", "lib", "c.asm"] then
        some (.ofText (place ["x", "c.asm"]) "fox: nop".toList)
      else some (.ofText (place ["w", "a.asm"]) "foo: nop".toList) }

/-- The settings of both roots. -/
def linkedContext : Context :=
  .build (.folder []) none [⟨["w".toList]⟩, ⟨["w".toList, "lib".toList]⟩]

/-- The file is reported twice for the outer root, and the other one once for each root although it
    is in none; and where a glob has no meaning there is no answer at all. -/
theorem linked_reported_twice :
    (let foo : Scene.Declared := ⟨"foo".toList, ⟨⟨["w".toList, "a.asm".toList]⟩, 0, 0, 3⟩⟩
      let fox : Scene.Declared := ⟨"fox".toList, ⟨⟨["x".toList, "c.asm".toList]⟩, 0, 0, 3⟩⟩
      ((linked.symbols linkedContext "fo".toList).start none).1 = .ok [fox, foo, foo, fox] ∧
        linkedContext.configFor? fox.location.path = none) ∧
      ((Scene.bracketed.symbols "go".toList).start none).1 =
        .error (.failed (.badGlob .badRange)) := by
  decide +kernel

end Archive
end AsmAtlas
