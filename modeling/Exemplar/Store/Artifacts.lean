/-
Artifacts on disk.

An artifact is prepared in a scratch directory and renamed to its name.  One that
was there before is renamed aside first, so its name is vacant only between two
renames, and is put back if the new one cannot be moved in.  Where an artifact
cannot be renamed it is copied beside its final place and renamed from there.
-/
import Exemplar.Store.Basic

namespace Exemplar
namespace Store

/-- Hidden entries that belong to the artifact of a fixture start like this. -/
def hiddenBeginning (name : String) : String := "." ++ name ++ "."

/-- The hidden neighbour of an artifact that this run uses for a purpose. -/
def neighbour (s : Store) (name purpose : String) : Action Path :=
  return s.artifactDirectory.entry (hiddenBeginning name ++ purpose ++ "-"
    ++ Decimal.natText (← Action.request .processNumber))

def ensureArtifactDirectory (s : Store) : Work Unit :=
  Work.within (.creatingArtifactRoot s.artifactDirectory)
    (.ofFile (Files.ensureDirectory s.artifactDirectory))

/-- A new hidden directory in which the artifact of a fixture can be prepared. -/
def newScratch (s : Store) (name : String) : Work Path := do
  s.ensureArtifactDirectory
  Work.within .creatingScratch
    (.ofFile (Action.request
      (.newDirectory s.artifactDirectory (hiddenBeginning name ++ "scratch-"))))

/-- Removes a scratch directory, if it is still there. -/
def removeScratch (scratch : Path) : Action Unit := do
  let _ ← Files.removeTree scratch
  return ()

/-- Whether a path is a leftover of the fixture's artifact, other than one that holds the artifact
that is about to be installed. -/
def isLeftover (name : String) (prepared path : Path) : Bool :=
  path.nameBeginsWith (hiddenBeginning name) && !prepared.startsWith path

/-- Removes a directory if it exists. -/
def clear (path : Path) : Work Unit := do
  if ← Work.ofAction (Files.pathExists path) then
    Work.within (.clearing path) (.ofFile (Files.removeTree path))

/-- Copies one entry below `source` to its place below `target`. -/
def copyEntry (source target : Path) : Kind → Work Unit
  | .directory => Work.within (.creating target) (.ofFile (Files.ensureDirectory target))
  | .file => Work.within (.copying source target) (.ofFile (Files.copyFile source target))

/-- As many names as no path has. -/
def mostLevels : Nat := 4096

/-- Copies all that is below a directory, as far as it is not deeper than the given number of
levels.  What lies in a directory is asked for when the copy gets there, so one that is made inside
its own source finds itself, and goes on until paths are too long. -/
def copyBelow : Nat → Path → Path → Work Unit
  | 0, _, target => Work.within (.creating target) (throw (.file .nameTooLong))
  | levels + 1, source, target => do
    let found ← Work.within (.reading source) (.ofFile (Files.entries source))
    found.forM fun (name, kind) => do
      copyEntry (source.entry name) (target.entry name) kind
      if kind = .directory then copyBelow levels (source.entry name) (target.entry name)

/-- Copies a directory with all that is below it. -/
def copyTree (source target : Path) : Work Unit := do
  copyEntry source target .directory
  copyBelow mostLevels source target

/-- Copies a directory beside its final place, renames it, and removes the source. -/
def copyIntoPlace (s : Store) (name : String) (source target : Path) : Work Unit := do
  let staging ← Work.ofAction (s.neighbour name "staging")
  clear staging
  copyTree source staging
  Work.within (.moving target) (.ofFile (Action.request (.rename staging target)))
  Work.within (.removing source) (.ofFile (Files.removeTree source))

/-- Moves a directory to a name that is vacant. -/
def moveIntoPlace (s : Store) (name : String) (source target : Path) : Work Unit := do
  match ← Work.ofAction (Action.request (.rename source target)) with
  | .ok () => return ()
  | .error _ => s.copyIntoPlace name source target

/-- Moves a prepared artifact to the place of one that was renamed aside, which is put back on
failure and removed otherwise. -/
def swapIn (s : Store) (name : String) (prepared target aside : Path) : Work Unit := do
  Work.onFailure (s.moveIntoPlace name prepared target) (do
    let _ ← Action.request (.rename aside target)
    return ())
  Work.ofAction (do
    let _ ← Files.removeTree aside
    return ())

/-- Replaces the artifact that has the name. -/
def replaceExisting (s : Store) (name : String) (prepared target : Path) : Work Unit := do
  let aside ← Work.ofAction (s.neighbour name "replaced")
  clear aside
  match ← Work.ofAction (Action.request (.rename target aside)) with
  | .ok () => s.swapIn name prepared target aside
  | .error _ =>
    Work.within (.removing target) (.ofFile (Files.removeTree target))
    s.moveIntoPlace name prepared target

/-- Installs a prepared artifact under the name of a fixture, in the place of an earlier one. -/
def replaceArtifact (s : Store) (name : String) (prepared : Path) : Work Path := do
  s.ensureArtifactDirectory
  let target := s.artifactPath name
  Work.ofAction (sweep s.artifactDirectory (isLeftover name prepared))
  if ← Work.ofAction (Files.pathExists target) then s.replaceExisting name prepared target
  else s.moveIntoPlace name prepared target
  return target

end Store
end Exemplar
