import AsmAtlas.Request.Basic
import Mathlib.Data.List.Basic
import Mathlib.Data.List.Nodup

/-!
# What tasks give when nobody stops them

With every poll answered yes a task is an ordinary function: reading files gives the documents that
can be read, and searching them gives what the patterns find, document after document.
-/

namespace AsmAtlas

namespace Task

variable {α β : Type}

/-- A task ends with `a` if nobody stops it, whatever programs were run before. -/
def Gives (task : Task α) (a : α) : Prop :=
  ∀ commands, ∃ commands', task ⟨none, commands⟩ = (.ok a, ⟨none, commands'⟩)

theorem Gives.pure (a : α) : Gives (Pure.pure a) a :=
  fun commands => ⟨commands, rfl⟩

/-- One task after the other. -/
theorem Gives.bind {task : Task α} {a : α} {next : α → Task β} {b : β} (first : Gives task a)
    (second : Gives (next a) b) : Gives (task >>= next) b := by
  intro commands
  obtain ⟨between, ran⟩ := first commands
  obtain ⟨after, ranNext⟩ := second between
  refine ⟨after, ?_⟩
  change ExceptT.bindCont next (task ⟨none, commands⟩).1 (task ⟨none, commands⟩).2 = _
  rw [ran]
  exact ranNext

theorem poll_gives : Gives poll false :=
  fun commands => ⟨commands, rfl⟩

theorem checkpoint_gives : Gives checkpoint () :=
  poll_gives.bind (.pure ())

/-- The same task for every element. -/
theorem Gives.mapM {f : α → Task β} {g : α → β} {as : List α}
    (each : ∀ a ∈ as, Gives (f a) (g a)) : Gives (as.mapM f) (as.map g) := by
  induction as with
  | nil => exact .pure []
  | cons a as ih =>
    rw [List.mapM_cons]
    have tail := ih fun b member => each b (List.mem_cons_of_mem a member)
    exact (each a List.mem_cons_self).bind (tail.bind (.pure _))

/-- A task that is not cancelled has a result. -/
theorem Gives.attempt {task : Task α} {a : α} (gives : Gives task a) :
    Gives task.attempt (some a) := by
  intro commands
  obtain ⟨after, ran⟩ := gives commands
  exact ⟨after, by rw [Task.attempt, ran]⟩

theorem ofCollection_gives {c : Collection} {files : List Path} (collected : c.files = .ok files) :
    Gives (ofCollection c) files := by
  intro commands
  exact ⟨commands ++ c.commands, by rw [ofCollection, collected]; rfl⟩

/-- Starting a task with unlimited patience ends with what it gives. -/
theorem Gives.start {task : Task α} {a : α} (gives : Gives task a) :
    (task.start none).1 = .ok a := by
  obtain ⟨after, ran⟩ := gives []
  rw [Task.start, ran]

end Task

/-- Nothing is erased from a list in which no element is like an earlier one. -/
theorem eraseDupsBy_of_pairwise {α : Type} {r : α → α → Bool} {as : List α}
    (differ : as.Pairwise fun a b => r b a = false) : as.eraseDupsBy r = as := by
  induction as with
  | nil => rfl
  | cons a as ih =>
    obtain ⟨fromHead, differTail⟩ := List.pairwise_cons.1 differ
    have kept : (as.filter fun b => r b a = false) = as :=
      List.filter_eq_self.2 fun b member => by simp [fromHead b member]
    rw [List.eraseDupsBy_cons, kept, ih differTail]

theorem eraseDups_of_nodup {α : Type} [BEq α] [LawfulBEq α] {as : List α} (nodup : as.Nodup) :
    as.eraseDups = as :=
  eraseDupsBy_of_pairwise (nodup.imp fun differ => by simpa using Ne.symm differ)

/-- Behind the first element erasing goes on with the elements that are not like it. -/
theorem eraseDupsBy_induction {α : Type} {r : α → α → Bool} {motive : List α → List α → Prop}
    (nil : motive [] [])
    (cons : ∀ a as, motive (as.filter fun b => r b a = false)
        ((as.filter fun b => r b a = false).eraseDupsBy r) →
      motive (a :: as) (a :: (as.filter fun b => r b a = false).eraseDupsBy r))
    (as : List α) : motive as (as.eraseDupsBy r) := by
  induction bound : as.length using Nat.strongRecOn generalizing as with
  | _ n ih =>
    cases as with
    | nil => exact nil
    | cons a as =>
      have shorter : (as.filter fun b => r b a = false).length < n := by
        have := List.length_filter_le (fun b => decide (r b a = false)) as
        rw [List.length_cons] at bound
        omega
      rw [List.eraseDupsBy_cons]
      exact cons a as (ih _ shorter _ rfl)

theorem eraseDupsBy_sublist {α : Type} (r : α → α → Bool) (as : List α) :
    (as.eraseDupsBy r).Sublist as := by
  refine eraseDupsBy_induction (motive := fun as erased => erased.Sublist as)
    (List.Sublist.refl []) ?_ as
  intro a as sublist
  exact (sublist.trans List.filter_sublist).cons_cons a

theorem eraseDupsBy_subset {α : Type} (r : α → α → Bool) (as : List α) :
    as.eraseDupsBy r ⊆ as :=
  (eraseDupsBy_sublist r as).subset

/-- What is left of a first part stays as it is, and a second part loses also what is like it. -/
theorem eraseDupsBy_append {α : Type} (r : α → α → Bool) (as bs : List α) :
    (as ++ bs).eraseDupsBy r =
      as.eraseDupsBy r ++ (bs.filter fun b => !(as.eraseDupsBy r).any (r b)).eraseDupsBy r := by
  refine eraseDupsBy_induction (motive := fun as erased => ∀ bs, (as ++ bs).eraseDupsBy r =
    erased ++ (bs.filter fun b => !erased.any (r b)).eraseDupsBy r) (by simp) ?_ as bs
  intro a as later bs
  rw [List.cons_append, List.eraseDupsBy_cons, List.filter_append, later, List.filter_filter,
    List.cons_append]
  refine congrArg (fun left => a :: (_ ++ left)) (congrArg _ (List.filter_congr fun b _ => ?_))
  rw [List.any_cons, Bool.not_or, Bool.and_comm]
  cases r b a <;> rfl

/-- No element that is left is like an earlier one. -/
theorem pairwise_eraseDupsBy {α : Type} (r : α → α → Bool) (as : List α) :
    (as.eraseDupsBy r).Pairwise fun a b => r b a = false := by
  refine eraseDupsBy_induction (motive := fun _ erased => erased.Pairwise fun a b => r b a = false)
    List.Pairwise.nil ?_ as
  intro a as apart
  refine List.pairwise_cons.2 ⟨?_, apart⟩
  intro b member
  simpa using (List.mem_filter.1 (eraseDupsBy_subset r _ member)).2

/-- An element that is erased is like one that is left. -/
theorem exists_mem_eraseDupsBy {α : Type} {r : α → α → Bool} {as : List α} {a : α}
    (member : a ∈ as) : a ∈ as.eraseDupsBy r ∨ ∃ b ∈ as.eraseDupsBy r, r a b := by
  revert member
  refine eraseDupsBy_induction
    (motive := fun as erased => a ∈ as → a ∈ erased ∨ ∃ b ∈ erased, r a b) (by simp) ?_ as
  intro first as ih member
  rcases List.mem_cons.1 member with rfl | later
  · exact .inl List.mem_cons_self
  · cases like : r a first with
    | true => exact .inr ⟨first, List.mem_cons_self, like⟩
    | false =>
      rcases ih (List.mem_filter.2 ⟨later, by simp [like]⟩) with left | ⟨b, isLeft, likeLeft⟩
      · exact .inl (List.mem_cons_of_mem first left)
      · exact .inr ⟨b, List.mem_cons_of_mem first isLeft, likeLeft⟩

theorem nodup_eraseDups {α : Type} [BEq α] [LawfulBEq α] (as : List α) : as.eraseDups.Nodup :=
  (pairwise_eraseDupsBy (· == ·) as).imp fun differ => Ne.symm (by simpa using differ)

namespace Collection

theorem nodup_sorted (root : Path) (files : List Path) : (sorted root files).Nodup :=
  (List.mergeSort_perm _ _).nodup_iff.2 (nodup_eraseDups files)

/-- A result behind `sorted` has no repetitions. -/
theorem nodup_of_map_sorted {ε : Type} {root : Path} {found : Except ε (List Path)}
    {files : List Path} (collected : found.map (sorted root) = .ok files) : files.Nodup := by
  cases found with
  | error e => simp [Except.map] at collected
  | ok seen =>
    obtain rfl : sorted root seen = files := by simpa [Except.map] using collected
    exact nodup_sorted root seen

/-- No file is collected twice. -/
theorem nodup_collect {t : FileTree} {limits : Limits} {tools : Tools} {filter : FileFilter}
    {root : Path} {files : List Path}
    (collected : (collect t limits tools filter root).files = .ok files) :
    files.Nodup := by
  unfold collect at collected
  split at collected
  · obtain rfl : [] = files := by simpa using collected
    exact List.nodup_nil
  · split at collected
    · cases collected
    · obtain rfl : [] = files := by simpa using collected
      exact List.nodup_nil
    · split at collected
      · exact nodup_of_map_sorted collected
      · split at collected
        · exact nodup_of_map_sorted collected
        · exact nodup_of_map_sorted collected

end Collection

namespace Search

/-- Patterns find what each of them finds in every document, tidied document by document. -/
theorem documents_gives_all (patterns : List Pattern) (ds : List Document) :
    (documents patterns ds).Gives (ds.flatMap fun d => tidy (patterns.flatMap d.find)) := by
  have each : ∀ d, (document patterns d).Gives (tidy (patterns.flatMap d.find)) := by
    intro d
    have found : Task.Gives (patterns.mapM fun p => do Task.checkpoint; return d.find p)
        (patterns.map d.find) := by
      apply Task.Gives.mapM
      intro p _
      exact Task.Gives.bind Task.checkpoint_gives (.pure _)
    exact Task.Gives.bind found (.pure _)
  have all : Task.Gives (ds.mapM (document patterns))
      (ds.map fun d => tidy (patterns.flatMap d.find)) :=
    .mapM fun d _ => each d
  exact all.bind (.pure _)

/-- One pattern finds its findings in every document. -/
theorem documents_gives (p : Pattern) (ds : List Document) :
    (documents [p] ds).Gives (ds.flatMap fun d => tidy (d.find p)) := by
  simpa only [List.flatMap_singleton] using documents_gives_all [p] ds

end Search

namespace Archive

variable {a : Archive} {filter : FileFilter} {root : Path} {files : List Path}

/-- Reading gives the documents of the files that can be read. -/
theorem readAll_gives (a : Archive) (ps : List Path) :
    (a.readAll ps).Gives (ps.filterMap a.load?) := by
  have one : ∀ p, (a.readOne p).Gives (a.load? p) := fun p => Task.poll_gives.bind (.pure _)
  refine Task.checkpoint_gives.bind ?_
  cases ps with
  | nil => exact .pure []
  | cons p ps =>
    have read : Task.Gives ((p :: ps).mapM a.readOne) ((p :: ps).map a.load?) :=
      .mapM fun q _ => one q
    refine read.bind (Task.checkpoint_gives.bind ?_)
    rw [List.filterMap_map]
    exact .pure _

theorem filesBelow_gives (collected : (a.collection filter root).files = .ok files) :
    (a.filesBelow filter root).Gives files :=
  Task.ofCollection_gives collected

/-- Searching the files below a root gives what the patterns find in each of them. A file that was
    collected twice is read once. -/
theorem search_gives (collected : (a.collection filter root).files = .ok files)
    (patterns : List Pattern) :
    (a.search patterns filter [root]).Gives ((files.eraseDups.filterMap a.load?).flatMap fun d =>
      Search.tidy (patterns.flatMap d.find)) := by
  have all : (a.filesBelowAll filter [root]).Gives files.eraseDups := by
    have listed : Task.Gives ([root].mapM (a.filesBelow filter)) ([root].map fun _ => files) := by
      apply Task.Gives.mapM
      intro q member
      rw [List.mem_singleton.1 member]
      exact filesBelow_gives collected
    have joined : ([root].map fun _ => files).flatten.eraseDups = files.eraseDups := by simp
    refine listed.bind ?_
    rw [joined]
    exact .pure _
  exact all.bind ((a.readAll_gives _).bind (Search.documents_gives_all patterns _))

end Archive

namespace Workspace

/-- Reading gives the documents of the files that can be read. -/
theorem readAll_gives (w : Workspace) (ps : List Path) :
    (w.readAll ps).Gives (ps.filterMap w.load?) :=
  w.archive.readAll_gives ps

theorem filesBelow_gives {w : Workspace} {filter : FileFilter} {root : Path} {files : List Path}
    (collected : (w.collection filter root).files = .ok files) :
    (w.filesBelow filter root).Gives files :=
  Task.ofCollection_gives collected

/-- Searching the files below a root gives what the patterns find in each of them. -/
theorem search_gives_all {w : Workspace} {filter : FileFilter} {root : Path} {files : List Path}
    (collected : (w.collection filter root).files = .ok files)
    (patterns : List Pattern) :
    (w.search patterns filter [root]).Gives
      ((files.filterMap w.load?).flatMap fun d => Search.tidy (patterns.flatMap d.find)) := by
  have found := Archive.search_gives (a := w.archive) collected patterns
  rwa [eraseDups_of_nodup (Collection.nodup_collect collected)] at found

/-- The same for one pattern. -/
theorem search_gives {w : Workspace} {filter : FileFilter} {root : Path} {files : List Path}
    (collected : (w.collection filter root).files = .ok files)
    (p : Pattern) :
    (w.search [p] filter [root]).Gives
      ((files.filterMap w.load?).flatMap fun d => Search.tidy (d.find p)) := by
  simpa only [List.flatMap_singleton] using search_gives_all collected [p]

end Workspace

end AsmAtlas
