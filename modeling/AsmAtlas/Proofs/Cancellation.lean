import AsmAtlas.Proofs.TaskResults
import AsmAtlas.Request.Rename
import AsmAtlas.Request.Usage
import Mathlib.Order.Monotone.Defs
import Mathlib.Order.Nat

/-!
# Losing interest in a request

A task polls in several places, and one of them, the reading of a single file, does not even stop
when the answer is no. Still the work as a whole takes a certain number of polls: with as many it
ends as it does without any limit, and with fewer it is cancelled. So a request that loses interest
has no answer at all, and the search for symbols, which keeps what it has, keeps whole roots only.
-/

namespace AsmAtlas

namespace Task

variable {α β : Type}

theorem bind_apply (task : Task α) (next : α → Task β) (session : Session) :
    (task >>= next) session =
      match task session with
      | (.ok a, session) => next a session
      | (.error e, session) => (.error e, session) := by
  change ExceptT.bindCont next (task session).1 (task session).2 = _
  rcases task session with ⟨_ | _, _⟩ <;> rfl

/-- A task polls `polls` times and then ends with `result`. If fewer polls are answered yes it is
    cancelled, and every poll after it would be answered no. -/
structure Takes (task : Task α) (polls : Nat) (result : Except Halt α) : Prop where
  uncancelled : result ≠ .error .cancelled
  unlimited : ∀ commands, ∃ after, task ⟨none, commands⟩ = (result, ⟨none, after⟩)
  enough : ∀ spare commands, ∃ after,
    task ⟨some (polls + spare), commands⟩ = (result, ⟨some spare, after⟩)
  short : ∀ n < polls, ∀ commands, ∃ after,
    task ⟨some n, commands⟩ = (.error .cancelled, ⟨some 0, after⟩)

namespace Takes

variable {task : Task α} {polls : Nat} {result : Except Halt α}

theorem pure (a : α) : Takes (Pure.pure a) 0 (.ok a) where
  uncancelled := by simp
  unlimited := fun commands => ⟨commands, rfl⟩
  enough := fun spare commands => ⟨commands, by rw [Nat.zero_add]; rfl⟩
  short := fun n below => absurd below n.not_lt_zero

/-- One task after the other takes the polls of both. -/
theorem bind {next : α → Task β} {a : α} {later : Nat} {last : Except Halt β}
    (first : Takes task polls (.ok a)) (second : Takes (next a) later last) :
    Takes (task >>= next) (polls + later) last where
  uncancelled := second.uncancelled
  unlimited := by
    intro commands
    obtain ⟨between, ran⟩ := first.unlimited commands
    obtain ⟨after, ranNext⟩ := second.unlimited between
    exact ⟨after, by rw [bind_apply, ran]; exact ranNext⟩
  enough := by
    intro spare commands
    obtain ⟨between, ran⟩ := first.enough (later + spare) commands
    obtain ⟨after, ranNext⟩ := second.enough spare between
    rw [← Nat.add_assoc] at ran
    exact ⟨after, by rw [bind_apply, ran]; exact ranNext⟩
  short := by
    intro n below commands
    by_cases early : n < polls
    · obtain ⟨after, ran⟩ := first.short n early commands
      exact ⟨after, by rw [bind_apply, ran]⟩
    · obtain ⟨between, ran⟩ := first.enough (n - polls) commands
      obtain ⟨after, ranNext⟩ := second.short (n - polls) (by omega) between
      rw [Nat.add_sub_cancel' (by omega)] at ran
      exact ⟨after, by rw [bind_apply, ran]; exact ranNext⟩

/-- Nothing comes after a task that fails. -/
theorem bind_error {next : α → Task β} {e : Halt} (fails : Takes task polls (.error e)) :
    Takes (task >>= next) polls (.error e) where
  uncancelled := by
    intro cancelled
    obtain rfl : e = .cancelled := by injection cancelled
    exact fails.uncancelled rfl
  unlimited := by
    intro commands
    obtain ⟨after, ran⟩ := fails.unlimited commands
    exact ⟨after, by rw [bind_apply, ran]⟩
  enough := by
    intro spare commands
    obtain ⟨after, ran⟩ := fails.enough spare commands
    exact ⟨after, by rw [bind_apply, ran]⟩
  short := by
    intro n below commands
    obtain ⟨after, ran⟩ := fails.short n below commands
    exact ⟨after, by rw [bind_apply, ran]⟩

theorem checkpoint : Takes checkpoint 1 (.ok ()) where
  uncancelled := by simp
  unlimited := fun commands => ⟨commands, rfl⟩
  enough := fun spare commands => ⟨commands, by rw [Nat.add_comm]; rfl⟩
  short := by
    intro n below commands
    obtain rfl : n = 0 := by omega
    exact ⟨commands, rfl⟩

theorem ofCollection (c : Collection) :
    Takes (ofCollection c) 0 (c.files.mapError .failed) where
  uncancelled := by cases c.files <;> simp [Except.mapError]
  unlimited := fun commands => ⟨commands ++ c.commands, rfl⟩
  enough := fun spare commands => ⟨commands ++ c.commands, by rw [Nat.zero_add]; rfl⟩
  short := fun n below => absurd below n.not_lt_zero

/-- What a task ends with when nobody stops it. -/
theorem start_none (takes : Takes task polls result) : (task.start none).1 = result := by
  obtain ⟨after, ran⟩ := takes.unlimited []
  rw [start, ran]

theorem attempt_enough (takes : Takes task polls result) (spare : Nat) (commands : List Command) :
    ∃ after, task.attempt ⟨some (polls + spare), commands⟩ =
      (result.map some, ⟨some spare, after⟩) := by
  obtain ⟨after, ran⟩ := takes.enough spare commands
  refine ⟨after, ?_⟩
  rw [attempt, ran]
  rcases result with (_ | e) | a
  · exact absurd rfl takes.uncancelled
  · rfl
  · rfl

theorem attempt_short (takes : Takes task polls result) {n : Nat} (below : n < polls)
    (commands : List Command) :
    ∃ after, task.attempt ⟨some n, commands⟩ = (.ok none, ⟨some 0, after⟩) := by
  obtain ⟨after, ran⟩ := takes.short n below commands
  exact ⟨after, by rw [attempt, ran]⟩

theorem attempt_unlimited (takes : Takes task polls result) (commands : List Command) :
    ∃ after, task.attempt ⟨none, commands⟩ = (result.map some, ⟨none, after⟩) := by
  obtain ⟨after, ran⟩ := takes.unlimited commands
  refine ⟨after, ?_⟩
  rw [attempt, ran]
  rcases result with (_ | e) | a
  · exact absurd rfl takes.uncancelled
  · rfl
  · rfl

end Takes

/-- A task that is either cancelled or ends as it does without a limit. -/
def Steady (task : Task α) : Prop :=
  ∃ polls result, task.Takes polls result

namespace Steady

theorem pure (a : α) : Steady (Pure.pure a) :=
  ⟨0, .ok a, .pure a⟩

theorem bind {task : Task α} {next : α → Task β} (first : task.Steady)
    (second : ∀ a, (next a).Steady) : (task >>= next).Steady := by
  obtain ⟨polls, result, takes⟩ := first
  cases result with
  | error e => exact ⟨polls, .error e, takes.bind_error⟩
  | ok a =>
    obtain ⟨later, last, takesNext⟩ := second a
    exact ⟨polls + later, last, takes.bind takesNext⟩

theorem mapM {f : α → Task β} (each : ∀ a, (f a).Steady) (as : List α) :
    Steady (as.mapM f) := by
  induction as with
  | nil => exact pure []
  | cons a as ih =>
    rw [List.mapM_cons]
    exact (each a).bind fun b => ih.bind fun bs => pure (b :: bs)

theorem checkpoint : Steady checkpoint :=
  ⟨1, .ok (), .checkpoint⟩

end Steady

/-- A request that, however long the interest in it lasts, has no answer or the one that it has
    when nobody stops it; and once the interest lasts long enough, lasting longer changes
    nothing. -/
structure AllOrNothing (request : Task (Option α)) : Prop where
  nothing_or_all : ∀ n, (request.start (some n)).1 = .ok none ∨
    (request.start (some n)).1 = (request.start none).1
  lasts : ∀ m n, m ≤ n → (request.start (some m)).1 = (request.start none).1 →
    (request.start (some n)).1 = (request.start none).1
  reached : ∃ n, (request.start (some n)).1 = (request.start none).1

/-- A request whose answer depends on the number of polls only by a threshold. -/
theorem AllOrNothing.of_threshold {request : Task (Option α)} (polls : Nat)
    (short : ∀ n < polls, (request.start (some n)).1 = .ok none)
    (enough : ∀ n, polls ≤ n → (request.start (some n)).1 = (request.start none).1) :
    AllOrNothing request where
  nothing_or_all := by
    intro n
    rcases Nat.lt_or_ge n polls with below | above
    · exact .inl (short n below)
    · exact .inr (enough n above)
  lasts := by
    intro m n longer full
    rcases Nat.lt_or_ge n polls with below | above
    · -- Both are too short, and the whole answer is that there is none.
      rw [short n below, ← full, short m (by omega)]
    · exact enough n above
  reached := ⟨polls, enough polls (Nat.le_refl polls)⟩

theorem AllOrNothing.pure (a : Option α) : AllOrNothing (Pure.pure a) :=
  .of_threshold 0 (fun n below => absurd below n.not_lt_zero) fun _ _ => rfl

/-- A steady task that is attempted, with something made of its result. -/
theorem Steady.attempt_map {task : Task α} (steady : task.Steady) (f : α → β) :
    AllOrNothing (task.attempt >>= fun found => Pure.pure (found.map f)) := by
  obtain ⟨polls, result, takes⟩ := steady
  refine .of_threshold polls ?_ ?_
  · intro n below
    obtain ⟨after, ran⟩ := takes.attempt_short below []
    rw [start, bind_apply, ran]
    rfl
  · intro n above
    obtain ⟨after, ran⟩ := takes.attempt_enough (n - polls) []
    obtain ⟨after', ranUnlimited⟩ := takes.attempt_unlimited []
    rw [Nat.add_sub_cancel' above] at ran
    rw [start, start, bind_apply, bind_apply, ran, ranUnlimited]
    cases result <;> rfl

theorem Steady.attempt {task : Task α} (steady : task.Steady) : AllOrNothing task.attempt := by
  have mapped := steady.attempt_map id
  have same : (task.attempt >>= fun found => Pure.pure (found.map id)) = task.attempt := by
    simp
  rwa [same] at mapped

/-- A task ends with `a` in some session. -/
def CanGive (task : Task α) (a : α) : Prop :=
  ∃ before after, task before = (.ok a, after)

namespace CanGive

theorem of_start {task : Task α} {patience : Patience} {a : α}
    (ended : (task.start patience).1 = .ok a) : CanGive task a :=
  ⟨_, _, Prod.ext ended rfl⟩

theorem eq_of_pure {a b : α} (gives : CanGive (Pure.pure a) b) : a = b := by
  obtain ⟨_, _, ran⟩ := gives
  exact Except.ok.inj (Prod.mk.inj ran).1

/-- What a task gives that is made of two comes from both of them. -/
theorem exists_of_bind {task : Task α} {next : α → Task β} {b : β}
    (gives : CanGive (task >>= next) b) : ∃ a, CanGive task a ∧ CanGive (next a) b := by
  obtain ⟨before, after, ran⟩ := gives
  rw [bind_apply] at ran
  rcases first : task before with ⟨_ | a, between⟩
  · rw [first] at ran
    exact nomatch (Prod.mk.inj ran).1
  · rw [first] at ran
    exact ⟨a, ⟨before, between, first⟩, between, after, ran⟩

theorem of_attempt {task : Task α} {a : α} (gives : CanGive task.attempt (some a)) :
    CanGive task a := by
  obtain ⟨before, after, ran⟩ := gives
  rw [Task.attempt] at ran
  rcases result : task before with ⟨(_ | _) | b, between⟩
  · rw [result] at ran
    cases (Prod.mk.inj ran).1
  · rw [result] at ran
    cases (Prod.mk.inj ran).1
  · rw [result] at ran
    obtain rfl : b = a := Option.some.inj (Except.ok.inj (Prod.mk.inj ran).1)
    exact ⟨before, between, result⟩

theorem exists_of_mapM {f : α → Task β} {as : List α} {bs : List β}
    (gives : CanGive (as.mapM f) bs) {b : β} (member : b ∈ bs) : ∃ a ∈ as, CanGive (f a) b := by
  induction as generalizing bs with
  | nil =>
    rw [List.mapM_nil] at gives
    simp [← gives.eq_of_pure] at member
  | cons a as ih =>
    rw [List.mapM_cons] at gives
    obtain ⟨first, isFirst, gives⟩ := gives.exists_of_bind
    obtain ⟨rest, isRest, gives⟩ := gives.exists_of_bind
    rw [← gives.eq_of_pure] at member
    rcases List.mem_cons.1 member with rfl | later
    · exact ⟨a, List.mem_cons_self, isFirst⟩
    · obtain ⟨a', isElement, givesThere⟩ := ih isRest later
      exact ⟨a', List.mem_cons_of_mem a isElement, givesThere⟩

/-- Whatever a task gives that takes its polls is what it gives when nobody stops it. -/
theorem eq_of_takes {task : Task α} {polls : Nat} {result : Except Halt α} {a : α}
    (gives : CanGive task a) (takes : Takes task polls result) : result = .ok a := by
  obtain ⟨⟨patience, commands⟩, after, ran⟩ := gives
  rcases patience with _ | n
  · obtain ⟨_, unlimited⟩ := takes.unlimited commands
    exact (Prod.mk.inj (unlimited.symm.trans ran)).1
  · by_cases below : n < polls
    · obtain ⟨_, short⟩ := takes.short n below commands
      exact nomatch (Prod.mk.inj (short.symm.trans ran)).1
    · obtain ⟨_, enough⟩ := takes.enough (n - polls) commands
      rw [Nat.add_sub_cancel' (by omega)] at enough
      exact (Prod.mk.inj (enough.symm.trans ran)).1

theorem start_none {task : Task α} {a : α} (gives : CanGive task a) (steady : task.Steady) :
    (task.start none).1 = .ok a := by
  obtain ⟨polls, result, takes⟩ := steady
  rw [takes.start_none]
  exact gives.eq_of_takes takes

end CanGive

end Task

namespace Archive

open AsmAtlas.Task

/-- Reading files one by one goes on to the last of them whatever the polls say: with enough polls
    it gives all documents, and with fewer it leaves none for what follows. -/
theorem mapM_readOne (a : Archive) (ps : List Path) (patience : Patience)
    (commands : List Command) :
    ∃ ds, (ps.mapM a.readOne) ⟨patience, commands⟩ =
        (.ok ds, ⟨patience.map (· - ps.length), commands⟩) ∧
      ((∀ n ∈ patience, ps.length ≤ n) → ds = ps.map a.load?) := by
  induction ps generalizing patience with
  | nil =>
    refine ⟨[], ?_, fun _ => rfl⟩
    cases patience <;> rfl
  | cons p ps ih =>
    have one : ∃ d, a.readOne p ⟨patience, commands⟩ =
        (.ok d, ⟨patience.map (· - 1), commands⟩) ∧
          ((∀ n ∈ patience, 0 < n) → d = a.load? p) := by
      rcases patience with _ | _ | n
      · exact ⟨a.load? p, rfl, fun _ => rfl⟩
      · exact ⟨none, rfl, fun positive => absurd (positive 0 rfl) (Nat.lt_irrefl 0)⟩
      · exact ⟨a.load? p, rfl, fun _ => rfl⟩
    obtain ⟨d, read, first⟩ := one
    obtain ⟨ds, readRest, rest⟩ := ih (patience.map (· - 1))
    refine ⟨d :: ds, ?_, ?_⟩
    · rw [List.mapM_cons, bind_apply, read]
      simp only
      rw [bind_apply, readRest]
      cases patience with
      | none => rfl
      | some n =>
        simp only [Option.map_some, List.length_cons, Nat.sub_sub, Nat.add_comm 1]
        rfl
    · intro enough
      have positive : ∀ n ∈ patience, 0 < n := fun n member => by
        have := enough n member
        rw [List.length_cons] at this
        omega
      have left : ∀ n ∈ patience.map (· - 1), ps.length ≤ n := fun n member => by
        obtain ⟨m, isPatience, rfl⟩ := Option.map_eq_some_iff.1 member
        have := enough m isPatience
        rw [List.length_cons] at this
        omega
      rw [first positive, rest left, List.map_cons]

/-- A file that was not read because nobody was interested is never missing from a result: the
    poll after all files have been read is answered no as well. -/
theorem takes_readAll (a : Archive) {ps : List Path} (nonempty : ps ≠ []) :
    (a.readAll ps).Takes (ps.length + 2) (.ok (ps.filterMap a.load?)) := by
  have unfolded : a.readAll ps =
      checkpoint >>= fun _ => ps.mapM a.readOne >>= fun ds =>
        checkpoint >>= fun _ => Pure.pure (ds.filterMap id) := by
    simp [readAll, nonempty]
  have found : ps.filterMap a.load? = (ps.map a.load?).filterMap id := by
    rw [List.filterMap_map]
    rfl
  have body : Takes (ps.mapM a.readOne >>= fun ds =>
      checkpoint >>= fun _ => Pure.pure (ds.filterMap id)) (ps.length + 1)
      (.ok (ps.filterMap a.load?)) := by
    refine ⟨by simp, ?_, ?_, ?_⟩
    · intro commands
      obtain ⟨ds, read, all⟩ := a.mapM_readOne ps none commands
      obtain rfl := all (by simp)
      exact ⟨commands, by rw [bind_apply, read, found]; rfl⟩
    · intro spare commands
      obtain ⟨ds, read, all⟩ := a.mapM_readOne ps (some (ps.length + 1 + spare)) commands
      obtain rfl := all (by simp; omega)
      have left : ps.length + 1 + spare - ps.length = spare + 1 := by omega
      rw [Option.map_some, left] at read
      exact ⟨commands, by rw [bind_apply, read, found]; rfl⟩
    · intro n below commands
      obtain ⟨ds, read, _⟩ := a.mapM_readOne ps (some n) commands
      have left : n - ps.length = 0 := by omega
      rw [Option.map_some, left] at read
      exact ⟨commands, by rw [bind_apply, read]; rfl⟩
  rw [unfolded, show ps.length + 2 = 1 + (ps.length + 1) by omega]
  exact Takes.checkpoint.bind body

theorem steady_readAll (a : Archive) (ps : List Path) : (a.readAll ps).Steady := by
  by_cases empty : ps = []
  · subst empty
    exact Steady.checkpoint.bind fun _ => .pure []
  · exact ⟨_, _, a.takes_readAll empty⟩

theorem steady_filesBelow (a : Archive) (filter : FileFilter) (root : Path) :
    (a.filesBelow filter root).Steady :=
  ⟨0, _, .ofCollection _⟩

end Archive

namespace Search

open AsmAtlas.Task

theorem steady_documents (patterns : List Pattern) (ds : List Document) :
    (documents patterns ds).Steady := by
  have one : ∀ d, (document patterns d).Steady := by
    intro d
    refine Steady.bind (Steady.mapM (fun p => ?_) patterns) fun found => .pure _
    exact Steady.checkpoint.bind fun _ => .pure (d.find p)
  exact (Steady.mapM one ds).bind fun found => .pure found.flatten

end Search

namespace Archive

open AsmAtlas.Task

theorem steady_search (a : Archive) (patterns : List Pattern) (filter : FileFilter)
    (roots : List Path) : (a.search patterns filter roots).Steady := by
  have files : (a.filesBelowAll filter roots).Steady :=
    (Steady.mapM (a.steady_filesBelow filter) roots).bind fun _ => .pure _
  exact files.bind fun ps =>
    (a.steady_readAll ps).bind fun ds => Search.steady_documents patterns ds

variable (a : Archive) (context : Context)

theorem steady_symbolsOf (c : Config) (query : Text) : (a.symbolsOf context c query).Steady := by
  unfold symbolsOf
  split
  · exact .pure []
  · exact (a.steady_search _ c.filter [c.root]).bind fun _ => .pure _

/-- What the search for symbols finds below some roots when nobody stops it. -/
def symbolsBelow (query : Text) (configs : List Config) : Except Halt (List Scene.Declared) :=
  (configs.mapM fun c => ((a.symbolsOf context c query).start none).1).map List.flatten

theorem symbolsBelow_cons_of_error {query : Text} {c : Config} {e : Halt}
    (fails : ((a.symbolsOf context c query).start none).1 = .error e) (configs : List Config) :
    a.symbolsBelow context query (c :: configs) = .error e := by
  rw [symbolsBelow, List.mapM_cons, fails]
  rfl

theorem symbolsBelow_cons_of_ok {query : Text} {c : Config} {found : List Scene.Declared}
    (gives : ((a.symbolsOf context c query).start none).1 = .ok found) (configs : List Config) :
    a.symbolsBelow context query (c :: configs) =
      (a.symbolsBelow context query configs).map (found ++ ·) := by
  rw [symbolsBelow, List.mapM_cons, gives, symbolsBelow]
  cases configs.mapM fun c => ((a.symbolsOf context c query).start none).1 <;> rfl

/-- A root is searched as a whole or not at all. -/
theorem takes_symbolsAsked (query : Text) (c : Config) :
    ∃ polls, (a.symbolsAsked context query c).Takes polls
      ((a.symbolsOf context c query).start none).1 := by
  obtain ⟨polls, result, takes⟩ := a.steady_symbolsOf context c query
  rw [takes.start_none]
  exact ⟨1 + polls, Takes.checkpoint.bind takes⟩

theorem symbolsOfAll_unlimited (query : Text) (configs : List Config) (commands : List Command) :
    ∃ after, a.symbolsOfAll context query configs ⟨none, commands⟩ =
      (a.symbolsBelow context query configs, ⟨none, after⟩) := by
  induction configs generalizing commands with
  | nil => exact ⟨commands, rfl⟩
  | cons c configs ih =>
    obtain ⟨polls, takes⟩ := a.takes_symbolsAsked context query c
    obtain ⟨between, ran⟩ := takes.attempt_unlimited commands
    rw [symbolsOfAll, bind_apply, ran]
    cases first : ((a.symbolsOf context c query).start none).1 with
    | error e => exact ⟨between, by rw [a.symbolsBelow_cons_of_error context first]; rfl⟩
    | ok found =>
      obtain ⟨after, ranRest⟩ := ih between
      refine ⟨after, ?_⟩
      rw [a.symbolsBelow_cons_of_ok context first]
      change (a.symbolsOfAll context query configs >>= fun more => Pure.pure (found ++ more))
        ⟨none, between⟩ = _
      rw [bind_apply, ranRest]
      cases a.symbolsBelow context query configs <;> rfl

/-- How many roots are finished before the interest is lost. -/
theorem exists_finished (query : Text) (configs : List Config) :
    ∃ finished : Nat → Nat, Monotone finished ∧ (∀ n, finished n ≤ configs.length) ∧
      (∃ n, finished n = configs.length) ∧
      ∀ n commands, (a.symbolsOfAll context query configs ⟨some n, commands⟩).1 =
        a.symbolsBelow context query (configs.take (finished n)) := by
  induction configs with
  | nil =>
    refine ⟨fun _ => 0, monotone_const, fun _ => Nat.le_refl 0, ⟨0, rfl⟩, ?_⟩
    intro n commands
    rfl
  | cons c configs ih =>
    obtain ⟨finished, grows, bounded, ⟨all, complete⟩, below⟩ := ih
    obtain ⟨polls, takes⟩ := a.takes_symbolsAsked context query c
    refine ⟨fun n => if n < polls then 0 else finished (n - polls) + 1, ?_, ?_, ?_, ?_⟩
    · intro m n longer
      have later := @grows (m - polls) (n - polls) (by omega)
      dsimp only
      split_ifs <;> omega
    · intro n
      have := bounded (n - polls)
      dsimp only
      rw [List.length_cons]
      split_ifs <;> omega
    · refine ⟨polls + all, ?_⟩
      dsimp only
      rw [if_neg (by omega), Nat.add_sub_cancel_left, complete, List.length_cons]
    · intro n commands
      dsimp only
      rw [symbolsOfAll, bind_apply]
      split_ifs with short
      · obtain ⟨after, ran⟩ := takes.attempt_short short commands
        rw [ran]
        rfl
      · obtain ⟨between, ran⟩ := takes.attempt_enough (n - polls) commands
        rw [Nat.add_sub_cancel' (by omega)] at ran
        rw [ran, List.take_succ_cons]
        cases first : ((a.symbolsOf context c query).start none).1 with
        | error e => rw [a.symbolsBelow_cons_of_error context first]; rfl
        | ok found =>
          have rest := below (n - polls) between
          rw [a.symbolsBelow_cons_of_ok context first]
          change ((a.symbolsOfAll context query configs >>= fun more => Pure.pure (found ++ more))
            ⟨some (n - polls), between⟩).1 = _
          rw [bind_apply, ← rest]
          rcases a.symbolsOfAll context query configs ⟨some (n - polls), between⟩
            with ⟨_ | _, _⟩ <;> rfl

end Archive

namespace Scene

open AsmAtlas.Task

variable (s : Scene)

theorem steady_search (c : Config) (patterns : List Pattern) : (s.search c patterns).Steady :=
  s.workspace.archive.steady_search patterns c.filter [c.root]

theorem steady_declarationsOf (c : Config) (origin : Document) (found : Occurrence) :
    (s.declarationsOf c origin found).Steady :=
  (s.steady_search c _).bind fun _ => .pure _

theorem steady_referencesFrom (c : Config) (origin : Document) (position : Position)
    (includeDeclaration : Bool) :
    (s.referencesFrom c origin position includeDeclaration).Steady := by
  unfold referencesFrom
  split
  · exact .pure []
  · split
    · exact .pure []
    · exact (s.steady_search c _).bind fun _ => .pure _

theorem steady_wordsOf (c : Config) : (s.wordsOf c).Steady :=
  (s.workspace.archive.steady_filesBelow c.filter c.root).bind fun files =>
    (s.workspace.archive.steady_readAll files).bind fun ds =>
      (Search.steady_documents _ ds).bind fun _ => .pure _

theorem steady_unreferencedIn (c : Config) (index : WordIndex) (cache : ScopeCache)
    (ds : List Document) : (unreferencedIn c index cache ds).Steady := by
  induction ds generalizing cache with
  | nil => exact .pure []
  | cons d ds ih => exact Steady.checkpoint.bind fun _ => (ih _).bind fun _ => .pure _

theorem steady_unreferencedOf (c : Config) : (s.unreferencedOf c).Steady :=
  (s.steady_wordsOf c).bind fun (ds, index) => steady_unreferencedIn c index [] ds

theorem references_allOrNothing (p : Path) (position : Position) (includeDeclaration : Bool) :
    (s.references p position includeDeclaration).AllOrNothing := by
  unfold references
  split
  · exact .pure none
  · exact (s.steady_referencesFrom _ _ position includeDeclaration).attempt

theorem definition_allOrNothing (p : Path) (position : Position) :
    (s.definition p position).AllOrNothing := by
  unfold definition
  split
  · exact .pure none
  · split
    · exact .pure none
    · split
      · exact .pure _
      · exact ((s.steady_declarationsOf _ _ _).bind fun _ => .pure _).attempt

theorem hover_allOrNothing (p : Path) (position : Position) :
    (s.hover p position).AllOrNothing := by
  unfold hover
  split
  · exact .pure none
  · split
    · exact .pure none
    · split
      · exact .pure _
      · exact ((s.steady_declarationsOf _ _ _).bind fun _ => .pure _).attempt

theorem complete_allOrNothing (p : Path) (position : Position) :
    (s.complete p position).AllOrNothing := by
  unfold complete
  split
  · exact .pure none
  · split
    · exact .pure none
    · simp only
      split
      · exact .pure _
      · exact ((s.steady_search _ _).bind fun _ => .pure _).attempt

theorem editsFor_allOrNothing (p : Path) (position : Position) (name : Text) :
    (s.editsFor p position name).AllOrNothing := by
  unfold editsFor
  split
  · exact .pure none
  · exact (s.steady_referencesFrom _ _ position true).attempt_map _

theorem lenses_allOrNothing (p : Path) : (s.lenses p).AllOrNothing := by
  unfold lenses
  split
  · exact .pure none
  · exact ((s.steady_wordsOf _).bind fun _ => .pure _).attempt

theorem unreferenced_allOrNothing : s.unreferenced.AllOrNothing :=
  (Steady.mapM s.steady_unreferencedOf s.context.configs).attempt_map List.flatten

/-- What the search for symbols finds below some roots when nobody stops it. -/
def symbolsBelow (query : Text) (configs : List Config) : Except Halt (List Declared) :=
  (configs.mapM fun c => ((s.symbolsOf c query).start none).1).map List.flatten

/-- Losing interest leaves nothing half done. However many polls are answered yes, a request ends
    with no answer or exactly as it does when nobody stops it, and once it does so it does for all
    larger numbers. Only the search for symbols keeps what it has: everything that the first roots
    give when nobody stops it, as many of them as were finished, and more polls finish no fewer. -/
theorem requests_all_or_nothing (p : Path) (position : Position) (includeDeclaration : Bool)
    (name query : Text) :
    (s.references p position includeDeclaration).AllOrNothing ∧
    (s.definition p position).AllOrNothing ∧
    (s.complete p position).AllOrNothing ∧
    (∀ task, s.rename p position name = .ok task → task.AllOrNothing) ∧
    (s.hover p position).AllOrNothing ∧
    (s.lenses p).AllOrNothing ∧
    s.unreferenced.AllOrNothing ∧
    ((s.symbols query).start none).1 = s.symbolsBelow query s.context.configs ∧
    ∃ finished : Nat → Nat, Monotone finished ∧ (∀ n, finished n ≤ s.context.configs.length) ∧
      (∃ n, finished n = s.context.configs.length) ∧
      ∀ n, ((s.symbols query).start (some n)).1 =
        s.symbolsBelow query (s.context.configs.take (finished n)) := by
  refine ⟨s.references_allOrNothing p position includeDeclaration,
    s.definition_allOrNothing p position, s.complete_allOrNothing p position, ?_,
    s.hover_allOrNothing p position, s.lenses_allOrNothing p, s.unreferenced_allOrNothing, ?_, ?_⟩
  · intro task accepted
    unfold rename at accepted
    split_ifs at accepted
    obtain rfl := Except.ok.inj accepted
    exact s.editsFor_allOrNothing p position name
  · obtain ⟨after, ran⟩ :=
      s.workspace.archive.symbolsOfAll_unlimited s.context query s.context.configs []
    exact congrArg Prod.fst ran
  · obtain ⟨finished, grows, bounded, complete, below⟩ :=
      s.workspace.archive.exists_finished s.context query s.context.configs
    exact ⟨finished, grows, bounded, complete, fun n => below n []⟩

/-- A root with nothing but one file. -/
def lone (source : String) : Scene :=
  { workspace := { files := .folder [("a.asm".toList, .file source.toUTF8)] }
    context := ⟨[{ root := ⟨[]⟩ }]⟩ }

/-- The place of that file. -/
def lonePath : Path :=
  ⟨["a.asm".toList]⟩

/-- Renaming the only label of a file takes four polls: three for the one file that is read, and
    one for the search in it. -/
theorem lone_rename_all_or_nothing :
    ∃ task, (lone "go: ret").rename lonePath ⟨0, 0⟩ "on".toList = .ok task ∧
      task.AllOrNothing ∧ (task.start (some 3)).1 = .ok none ∧
      (task.start (some 4)).1 =
        .ok (some [⟨lonePath, [⟨⟨lonePath, 0, 0, 2⟩, "on".toList⟩]⟩]) := by
  have accepted : (lone "go: ret").rename lonePath ⟨0, 0⟩ "on".toList =
      .ok ((lone "go: ret").editsFor lonePath ⟨0, 0⟩ "on".toList) := by
    rw [rename, if_pos (by decide +kernel)]
  obtain ⟨_, _, _, renames, _⟩ :=
    requests_all_or_nothing (lone "go: ret") lonePath ⟨0, 0⟩ true "on".toList []
  exact ⟨_, accepted, renames _ accepted, by decide +kernel, by decide +kernel⟩

end Scene

end AsmAtlas
