/-
Programs that work with files.

A program is a value: it is finished, or it makes one request and goes on with
the reply.  One request is one atomic operation of the system, so whatever can be
observed between two operations of a run is the state between two requests, and a
run that is cut off is a shorter run of the same program.  What the replies are
is decided elsewhere: by a model of a disk, or by a real one.
-/
import Exemplar.Files.Error

namespace Exemplar

/-- What a path leads to. -/
inductive Kind where
  | directory
  | file
  deriving DecidableEq, Repr

/-- Reading a file can fail when it is opened or when its bytes are asked for; a directory can be
opened but not read. -/
inductive ReadError where
  | opening (error : FileError)
  | reading (error : FileError)
  deriving DecidableEq, Repr

def ReadError.error : ReadError → FileError
  | .opening error | .reading error => error

inductive Request where
  | kindOf (path : Path)
  | makeDirectory (path : Path)
  /-- The names in a directory. -/
  | list (path : Path)
  /-- Everything below a directory, each directory before what is in it. -/
  | walk (path : Path)
  /-- The path to a directory from the root, without dots. -/
  | locate (path : Path)
  | read (path : Path)
  | write (path : Path) (bytes : ByteArray)
  /-- A new file under a name nobody else uses, between the given beginning and ending. -/
  | newFile (directory : Path) (beginning ending : String)
  | newDirectory (directory : Path) (beginning : String)
  | removeFile (path : Path)
  /-- Removes an empty directory. -/
  | removeDirectory (path : Path)
  | rename (source target : Path)
  /-- Seconds since 1970. -/
  | clock
  /-- A number that belongs to this run of the program. -/
  | processNumber

abbrev Request.Reply : Request → Type
  | .kindOf _ => Option Kind
  | .makeDirectory _ => Except FileError Unit
  | .list _ => Except FileError (List String)
  | .walk _ => Except FileError (List (List String × Kind))
  | .locate _ => Except FileError Path
  | .read _ => Except ReadError ByteArray
  | .write .. => Except FileError Unit
  | .newFile .. => Except FileError Path
  | .newDirectory .. => Except FileError Path
  | .removeFile _ => Except FileError Unit
  | .removeDirectory _ => Except FileError Unit
  | .rename .. => Except FileError Unit
  | .clock => Nat
  | .processNumber => Nat

inductive Action (α : Type) where
  | done (value : α)
  | ask (request : Request) (next : request.Reply → Action α)

namespace Action

def bind {α β : Type} (program : Action α) (next : α → Action β) : Action β :=
  match program with
  | .done value => next value
  | .ask request rest => .ask request fun reply => (rest reply).bind next

instance : Monad Action where
  pure := .done
  bind := bind

theorem bind_done {α : Type} (program : Action α) : program.bind .done = program := by
  induction program with
  | done value => rfl
  | ask request rest ih => simp only [bind]; congr 1; funext reply; exact ih reply

theorem bind_assoc {α β γ : Type} (program : Action α) (first : α → Action β)
    (second : β → Action γ) :
    (program.bind first).bind second = program.bind fun value => (first value).bind second := by
  induction program with
  | done value => rfl
  | ask request rest ih => simp only [bind]; congr 1; funext reply; exact ih reply

instance : LawfulMonad Action :=
  LawfulMonad.mk' Action (fun program => bind_done program) (fun _ _ => rfl) bind_assoc

/-- The program that makes one request and answers with its reply. -/
def request (r : Request) : Action r.Reply := .ask r .done

/-- Runs a program against something that answers requests and changes while doing so. -/
def run {σ α : Type} (answer : (r : Request) → σ → r.Reply × σ) : Action α → σ → α × σ
  | .done value, s => (value, s)
  | .ask r next, s => (next (answer r s).1).run answer (answer r s).2

theorem run_bind {σ α β : Type} (answer : (r : Request) → σ → r.Reply × σ) (program : Action α)
    (next : α → Action β) (s : σ) :
    (program.bind next).run answer s
      = (next (program.run answer s).1).run answer (program.run answer s).2 := by
  induction program generalizing s with
  | done value => rfl
  | ask r rest ih => simp only [bind, run]; exact ih _ _

end Action
end Exemplar
