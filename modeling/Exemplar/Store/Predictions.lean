/-
Predictions on disk: staged to a hidden file first, then renamed to their name.
-/
import Exemplar.Store.Basic
import Exemplar.Store.Sheet

namespace Exemplar

/-- Predictions in a hidden file, and the path that they will have. -/
structure StagedSheet where
  file : Path
  target : Path
  deriving DecidableEq, Repr

namespace StagedSheet

/-- Removes the hidden file, if it is still there. -/
def discard (staged : StagedSheet) : Action Unit := do
  let _ ← Action.request (.removeFile staged.file)
  return ()

/-- Renames the hidden file over the final path. -/
def rename (staged : StagedSheet) : Work Path := do
  Work.within (.persisting staged.target)
    (.ofFile (Action.request (.rename staged.file staged.target)))
  return staged.target

/-- Puts the predictions in place, or removes them. -/
def commit (staged : StagedSheet) : Work Path := Work.onFailure staged.rename staged.discard

end StagedSheet

namespace Store

/-- Hidden files of predictions start like this. -/
def stagedBeginning (name : String) : String := "." ++ name ++ "-"

def stagedEnding : String := ".csv.tmp"

/-- Whether a path looks like staged predictions of a fixture. -/
def isStaged (name : String) (path : Path) : Bool :=
  path.nameBeginsWith (stagedBeginning name) && path.nameEndsIn stagedEnding

/-- Writes predictions to a hidden file, after sweeping away those of earlier runs. -/
def stage (s : Store) (name : String) (sheet : PredictionSheet) : Work StagedSheet := do
  Work.within (.creatingSheetDirectory s.sheetDirectory)
    (.ofFile (Files.ensureDirectory s.sheetDirectory))
  Work.ofAction (sweep s.sheetDirectory (isStaged name))
  let file ← Work.within .creatingStagedSheet
    (.ofFile (Action.request (.newFile s.sheetDirectory (stagedBeginning name) stagedEnding)))
  let staged : StagedSheet := ⟨file, s.sheetPath name⟩
  Work.onFailure
    (Work.within (.serializing name)
      (.ofFile (Action.request (.write file sheet.written.bytes)))) staged.discard
  return staged

/-- Removes the predictions of a fixture; answers whether there were any. -/
def discardSheet (s : Store) (name : String) : Work Bool := do
  let path := s.sheetPath name
  match ← Work.ofAction (Action.request (.removeFile path)) with
  | .ok () => return true
  | .error .notFound => return false
  | .error error => throw ((Failure.file error).within (.removing path))

/-- What was being read when record number `record` turned out to be faulty. -/
def readingRecordOf (path : Path) (record : Nat) : Activity :=
  if record = 0 then .readingHeaderOf path else .reading path

/-- Reads the predictions of a fixture as they are written. -/
def readSheet (s : Store) (name : String) : Work Csv.Sheet := do
  let path := s.sheetPath name
  match ← Work.ofAction (Action.request (.read path)) with
  | .error (.opening error) => throw ((Failure.csv (.file error)).within (.opening path))
  | .error (.reading error) => throw ((Failure.csv (.file error)).within (.readingHeaderOf path))
  | .ok bytes =>
    match Csv.read bytes.toList with
    | .ok sheet => return sheet
    | .error fault =>
      throw ((Failure.csv fault.error).within (readingRecordOf path fault.record))

/-- Writes predictions in the place of those of an earlier run. -/
def writeSheet (s : Store) (name : String) (sheet : PredictionSheet) : Work Path := do
  (← s.stage name sheet).commit

end Store
end Exemplar
