/-
Fixtures: a trained model as an artifact, and beside it the predictions that it
makes for the rows it was trained on.

A fixture is built by training, predicting and preparing everything under hidden
names before anything that is visible changes.  Then the old predictions go
first, so that they never stand beside the new artifact, and the new ones come
last.  A fixture is verified by loading its artifact and predicting again.
-/
import Exemplar.Inputs.Pair
import Exemplar.Model.Basic
import Exemplar.Store.Artifacts
import Exemplar.Store.Predictions

namespace Exemplar
namespace Fixture

/-- What a prediction sheet records. -/
inductive Output where
  | pointOnly
  | withProbabilities (classCount : Nat)
  deriving DecidableEq, Repr

/-- Classes come with probabilities, numbers do not. -/
def Output.ofTask : Task → Output
  | .classification n => .withProbabilities n
  | .regression => .pointOnly

structure Spec where
  name : String
  steps : UInt64
  output : Output
  deriving DecidableEq, Repr

/-- What came of a fixture, and where it is. -/
structure Report where
  name : String
  estimator : String
  rows : Nat
  predictions : Path
  artifact : Path
  deriving DecidableEq, Repr

variable {M : Type} [Estimator M]

/-- The sheet of predictions for the output that is asked for. -/
def sheetOf (model : M) (training : TrainingInputs) (spec : Spec) (targets : List Value) :
    Attempt PredictionSheet :=
  match spec.output with
  | .pointOnly => .ok (.pointOnly targets)
  | .withProbabilities classCount => do
    let probabilities ← Attempt.within (.predictingProbabilities spec.name)
      (Estimator.probabilities model training)
    Attempt.ofData (PredictionSheet.withProbabilities targets probabilities classCount)

/-- Predicts every row that the model is trained on. -/
def score (model : M) (training : TrainingInputs) (spec : Spec) : Attempt PredictionSheet := do
  let targets ← Attempt.within (.predicting spec.name) (Estimator.predict model training)
  if targets.length ≠ training.rowCount then
    Attempt.ofData (.error (.rowCount .pointPredictions training.rowCount targets.length))
  sheetOf model training spec targets

/-- Exports a model to the scratch directory and answers the directory of the artifact, which must
be one below. -/
def exportInto (model : M) (serving : ServingInputs) (name : String) (scratch : Path) :
    Work Path := do
  let directory ← Work.within (.exporting name) (Estimator.exportTo model scratch serving)
  if directory.startsWith scratch && (← Work.ofAction (Files.isDirectory directory)) then
    return directory
  else throw (.refusal (.strayExport name directory))

/-- Installs what was prepared in the scratch directory, and then the staged predictions. -/
def install (model : M) (inputs : InputPair) (store : Store) (spec : Spec)
    (staged : StagedSheet) (scratch : Path) : Work Report := do
  let directory ← exportInto model inputs.serving spec.name scratch
  let _ ← store.discardSheet spec.name
  let artifact ← store.replaceArtifact spec.name directory
  let predictions ← staged.rename
  return ⟨spec.name, Estimator.name model, inputs.training.rowCount, predictions, artifact⟩

/-- Installs a model and staged predictions by way of a scratch directory of their own. -/
def installVia (model : M) (inputs : InputPair) (store : Store) (spec : Spec)
    (staged : StagedSheet) : Work Report := do
  let scratch ← store.newScratch spec.name
  Work.andThen (install model inputs store spec staged scratch) (Store.removeScratch scratch)

/-- Trains a model and makes a fixture of it. -/
def build (model : M) (inputs : InputPair) (spec : Spec) (store : Store) : Work Report := do
  let trained ← Work.within (.training spec.name) (Estimator.fit model inputs.training spec.steps)
  let sheet ← Work.ofAttempt (score trained inputs.training spec)
  let staged ← store.stage spec.name sheet
  Work.onFailure (installVia trained inputs store spec staged) staged.discard

/-- Where stored records first differ from those expected, from row `index` on. -/
def compareRecords (index : Nat) : List (List String) → List (List String) → Except DataError Unit
  | expected :: es, stored :: ss =>
    if stored = expected then compareRecords (index + 1) es ss
    else .error (.prediction (.row index) expected stored)
  | _, _ => .ok ()

/-- Whether a stored sheet holds exactly the expected cells. -/
def compare (expected : PredictionSheet) (stored : Csv.Sheet) : Except DataError Unit :=
  if stored.header ≠ expected.header then
    .error (.prediction .header expected.header stored.header)
  else if stored.rows.length ≠ expected.rowCount then
    .error (.rowCount .storedPredictions expected.rowCount stored.rows.length)
  else compareRecords 0 expected.records stored.rows

/-- Loads the artifact of a fixture and compares its predictions with those stored. -/
def verify (inputs : InputPair) (spec : Spec) (store : Store) : Work Report := do
  let artifact := store.artifactPath spec.name
  if !(← Work.ofAction (Files.isDirectory artifact)) then
    throw (.refusal (.noArtifact spec.name artifact))
  let description ← Artifact.readDescription artifact
  Work.within (.matchingDataset spec.name)
    (.ofAttempt (.ofData (description.checkServing inputs.serving)))
  let model ← Work.within (.reloading spec.name) (Model.load artifact)
  let expected ← Work.ofAttempt (score model inputs.training spec)
  let stored ← store.readSheet spec.name
  Work.within (.comparing spec.name) (.ofAttempt (.ofData (compare expected stored)))
  return ⟨spec.name, model.name, stored.rows.length, store.sheetPath spec.name, artifact⟩

end Fixture
end Exemplar
