import AsmAtlas.Workspace.Collection

/-!
# Tasks that can be cancelled

Whoever asks for something may lose interest. A task polls from time to time whether to go on, and
stops as soon as the answer is no. How long the interest lasts is given by the number of polls
that are answered yes; after the first no, every answer is no. A task also keeps a record of the
programs that it ran, however it ends.
-/

namespace AsmAtlas

/-- How many more polls are answered yes; without a number all of them are. -/
abbrev Patience := Option Nat

/-- Why a task stopped without a result. -/
inductive Halt where
  | cancelled
  | failed (e : Failure)
deriving DecidableEq

/-- What a task goes on with: the interest that is left, and the programs that were run. -/
structure Session where
  patience : Patience
  commands : List Command := []

/-- Work that polls and runs programs. -/
abbrev Task := ExceptT Halt (StateM Session)

namespace Task

/-- Asks whether to stop. -/
def poll : Task Bool := fun session =>
  match session.patience with
  | none => (.ok false, session)
  | some 0 => (.ok true, session)
  | some (n + 1) => (.ok false, { session with patience := some n })

/-- Stops if nobody is interested any more. -/
def checkpoint : Task Unit := do
  if ← poll then throw .cancelled

/-- What is settled without polling and without programs. -/
def ofExcept {α : Type} (result : Except Failure α) : Task α := fun session =>
  (result.mapError .failed, session)

/-- Takes over files that were collected. -/
def ofCollection (c : Collection) : Task (List Path) := fun session =>
  (c.files.mapError .failed, { session with commands := session.commands ++ c.commands })

/-- The result of a task, or none if it was cancelled. -/
def attempt {α : Type} (task : Task α) : Task (Option α) := fun session =>
  match task session with
  | (.ok a, session) => (.ok (some a), session)
  | (.error .cancelled, session) => (.ok none, session)
  | (.error (.failed e), session) => (.error (.failed e), session)

/-- Runs a task: what it ends with, and the programs that it ran. -/
def start {α : Type} (task : Task α) (patience : Patience) : Except Halt α × List Command :=
  let (result, session) := task ⟨patience, []⟩
  (result, session.commands)

end Task

end AsmAtlas
