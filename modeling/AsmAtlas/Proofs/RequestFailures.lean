import AsmAtlas.Proofs.FoldingRanges
import AsmAtlas.Proofs.PlainGlobs

/-!
# Which requests fail

Settings of any content are read, places that are found lie in their documents, and losing interest
is no failure. What is left are files that cannot be collected: a bracket in a glob that is no set,
braces that are nested too deep, and names from the file lister that no file can have.
-/

namespace AsmAtlas

namespace Task

variable {α β : Type}

/-- A task stops without a result for some reasons only. -/
def HaltsBy (task : Task α) (reasons : Halt → Prop) : Prop :=
  ∀ before halt after, task before = (.error halt, after) → reasons halt

/-- A task that has a result or fails for some reasons only, however long the interest in it
    lasts. -/
def AnswersOr (task : Task α) (reasons : Failure → Prop) : Prop :=
  ∀ patience, (∃ a, (task.start patience).1 = .ok a) ∨
    ∃ e, reasons e ∧ (task.start patience).1 = .error (.failed e)

theorem AnswersOr.mono {task : Task α} {reasons more : Failure → Prop}
    (answers : task.AnswersOr reasons) (weaker : ∀ e, reasons e → more e) : task.AnswersOr more :=
  fun patience => (answers patience).imp_right fun ⟨e, reason, fails⟩ => ⟨e, weaker e reason, fails⟩

namespace HaltsBy

variable {reasons : Halt → Prop}

theorem pure (a : α) : HaltsBy (Pure.pure a) reasons :=
  fun _ _ _ ran => nomatch (Prod.mk.inj ran).1

theorem bind {task : Task α} {next : α → Task β} (first : task.HaltsBy reasons)
    (second : ∀ a, (next a).HaltsBy reasons) : (task >>= next).HaltsBy reasons := by
  intro before halt after ran
  rw [bind_apply] at ran
  rcases result : task before with ⟨e | a, between⟩
  · rw [result] at ran
    obtain rfl : e = halt := Except.error.inj (Prod.mk.inj ran).1
    exact first before e between result
  · rw [result] at ran
    exact second a between halt after ran

theorem mapM {f : α → Task β} {as : List α} (each : ∀ a ∈ as, (f a).HaltsBy reasons) :
    HaltsBy (as.mapM f) reasons := by
  induction as with
  | nil => exact pure []
  | cons a as ih =>
    obtain ⟨first, others⟩ := List.forall_mem_cons.1 each
    rw [List.mapM_cons]
    exact first.bind fun b => (ih others).bind fun bs => pure (b :: bs)

theorem poll : HaltsBy poll reasons := by
  rintro ⟨_ | _ | n, commands⟩ halt after ran
  all_goals cases (Prod.mk.inj ran).1

theorem checkpoint (cancelled : reasons .cancelled) : HaltsBy checkpoint reasons := by
  refine poll.bind fun stop => ?_
  cases stop with
  | false => exact pure ()
  | true =>
    intro before halt after ran
    obtain rfl : Halt.cancelled = halt := Except.error.inj (Prod.mk.inj ran).1
    exact cancelled

/-- An attempt is stopped by what stops the task, but not by a loss of interest. -/
theorem attempt {task : Task α} (halts : task.HaltsBy reasons) :
    task.attempt.HaltsBy fun halt => halt ≠ .cancelled ∧ reasons halt := by
  intro before halt after ran
  rw [Task.attempt] at ran
  rcases result : task before with ⟨(_ | e) | a, between⟩
  · rw [result] at ran
    cases (Prod.mk.inj ran).1
  · rw [result] at ran
    obtain rfl : .failed e = halt := Except.error.inj (Prod.mk.inj ran).1
    exact ⟨by simp, halts before _ between result⟩
  · rw [result] at ran
    cases (Prod.mk.inj ran).1

end HaltsBy

end Task

namespace Cursor

end Cursor

namespace Pattern

end Pattern

section

variable {ε α β : Type}

theorem eq_error_of_map_eq_error {f : α → β} {x : Except ε α} {e : ε}
    (mapped : x.map f = .error e) : x = .error e := by
  cases x with
  | error e' => exact congrArg _ (Except.error.inj mapped)
  | ok a => cases mapped

/-- Where a list of steps fails, one of them does. -/
theorem exists_of_mapM_eq_error {f : α → Except ε β} {as : List α} {e : ε}
    (failed : as.mapM f = .error e) : ∃ a ∈ as, f a = .error e := by
  induction as with
  | nil => cases failed
  | cons a as ih =>
    rw [List.mapM_cons] at failed
    cases first : f a with
    | error e' =>
      rw [first] at failed
      exact ⟨a, List.mem_cons_self, first.trans (congrArg _ (Except.error.inj failed))⟩
    | ok b =>
      rw [first] at failed
      obtain ⟨a', member, fails⟩ := ih (eq_error_of_map_eq_error (f := (b :: ·)) failed)
      exact ⟨a', List.mem_cons_of_mem a member, fails⟩

end

namespace Collection

variable {t : FileTree} {limits : Limits} {tools : Tools} {filter : FileFilter} {root : Path}
  {e : Failure}

/-- A walk is stopped by nesting, or by one of the files that it meets. -/
theorem error_of_takeAll {takes : Path → Except Failure Bool} {seen : List (Option Path)}
    (failed : takeAll takes seen = .error e) :
    e = .fullStack ∧ none ∈ seen ∨ ∃ p, some p ∈ seen ∧ takes p = .error e := by
  induction seen with
  | nil => cases failed
  | cons met rest ih =>
    cases met with
    | none => exact .inl ⟨(Except.error.inj failed).symm, List.mem_cons_self⟩
    | some p =>
      have later (failed : takeAll takes rest = .error e) :
          e = .fullStack ∧ none ∈ some p :: rest ∨
            ∃ q, some q ∈ some p :: rest ∧ takes q = .error e :=
        (ih failed).imp (And.imp_right (List.mem_cons_of_mem _)) fun ⟨q, isMet, fails⟩ =>
          ⟨q, List.mem_cons_of_mem _ isMet, fails⟩
      rw [takeAll] at failed
      split at failed
      · next first =>
        exact .inr ⟨p, List.mem_cons_self, first.trans (congrArg _ (Except.error.inj failed))⟩
      · next second => exact later (second.trans failed)
      · cases failed
      · cases failed

end Collection

namespace Scene

open AsmAtlas.Task

variable {s : Scene} {c : Config} {patience : Patience}

variable (s)

end Scene

end AsmAtlas
