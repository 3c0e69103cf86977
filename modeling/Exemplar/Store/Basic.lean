/-
The store: predictions and artifacts under the names of fixtures.

Both kinds are replaced as a whole.  What is not finished lies beside its final
place under a hidden name that starts with the fixture's name, so that what an
interrupted run left behind can be told from everything else and swept away.
-/
import Exemplar.Work

namespace Exemplar

structure Store where
  sheetDirectory : Path
  artifactDirectory : Path
  deriving DecidableEq, Repr

namespace Store

def sheetPath (s : Store) (name : String) : Path := s.sheetDirectory.entry (name ++ ".csv")

def artifactPath (s : Store) (name : String) : Path := s.artifactDirectory.entry name

/-- Removes an entry with all that is below it. -/
def removeAny (path : Path) : Action (Except FileError Unit) := do
  if ← Files.isDirectory path then Files.removeTree path else Action.request (.removeFile path)

/-- Removes the stale entries of a directory as far as that is possible. -/
def sweep (directory : Path) (stale : Path → Bool) : Action Unit := do
  match ← Action.request (.list directory) with
  | .error _ => return ()
  | .ok names => ((names.map directory.entry).filter stale).forM fun path => do
    let _ ← removeAny path
    return ()

end Store
end Exemplar
