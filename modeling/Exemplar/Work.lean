/-
Work: programs with files that may fail.
-/
import Exemplar.Failure
import Exemplar.Files.Operations

namespace Exemplar

/-- A program with files that may fail. -/
abbrev Work := ExceptT Failure Action

namespace Work

/-- The same work, whose failures name the activity. -/
def within {α : Type} (activity : Activity) (work : Work α) : Work α :=
  ExceptT.mk (do return Attempt.within activity (← work.run))

def ofAction {α : Type} (program : Action α) : Work α := ExceptT.lift program

def ofAttempt {m : Type → Type} [Monad m] {α : Type} (attempt : Attempt α) :
    ExceptT Failure m α :=
  ExceptT.mk (return attempt)

/-- A file operation as work. -/
def ofFile {α : Type} (program : Action (Except FileError α)) : Work α :=
  ExceptT.mk (do return Attempt.ofFile (← program))

/-- What came of the work, as a value to decide on. -/
def outcome {m : Type → Type} [Monad m] {α : Type} (work : ExceptT Failure m α) :
    ExceptT Failure m (Attempt α) :=
  ExceptT.lift work.run

/-- The work, and then something that is done whether or not it failed. -/
def andThen {α : Type} (work : Work α) (closing : Action Unit) : Work α :=
  ExceptT.mk (do
    let result ← work.run
    closing
    return result)

/-- The work, and then something that is done only if it failed. -/
def onFailure {α : Type} (work : Work α) (closing : Action Unit) : Work α :=
  ExceptT.mk (do
    match ← work.run with
    | .ok value => return .ok value
    | .error failure => do
      closing
      return .error failure)

end Work
end Exemplar
