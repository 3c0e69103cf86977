/-
Models of either family.
-/
import Exemplar.Model.Estimator
import Exemplar.Model.Linear
import Exemplar.Model.Network

namespace Exemplar

inductive Model where
  | linear (m : LinearModel)
  | network (m : NetworkModel)

namespace Model

def name : Model → String
  | linear m => m.name
  | network m => m.name

def fit (model : Model) (inputs : TrainingInputs) (steps : UInt64) : Attempt Model :=
  match model with
  | linear m => (m.fit inputs steps).map linear
  | network m => (m.fit inputs steps).map network

def predict : Model → TrainingInputs → Attempt (List Value)
  | linear m => m.predict
  | network m => m.predict

def probabilities : Model → TrainingInputs → Attempt (List (List Float))
  | linear m => m.probabilities
  | network m => m.probabilities

def describe : Model → ServingInputs → Except DataError Description
  | linear m => m.describe
  | network m => m.describe

def toVariables : Model → Variables
  | linear m => m.toVariables
  | network m => m.toVariables

def exportTo : Model → Path → ServingInputs → Work Path
  | linear m => m.exportTo
  | network m => m.exportTo

/-- An untrained model for a task over some encodings. -/
def build (architecture : Architecture) (task : Task) (encodings : List Encoding)
    (hiddenUnits : List Nat) (seed : Int64) : Attempt Model := do
  let head ← Head.ofTask task
  let columns := encodings.map (Encoding.resolve architecture.density)
  match architecture with
  | .linear => return linear (← LinearModel.new head columns)
  | .network => return network (← NetworkModel.new head columns hiddenUnits seed)

/-- The model that a description and its variables stand for. -/
def restore (d : Description) (recorded : Variables) : Attempt Model :=
  match d.architecture with
  | .linear => (LinearModel.restore d recorded).map linear
  | .network => (NetworkModel.restore d recorded).map network

/-- Reads the model in a directory.  Its format must be the current one, and the model that is
restored must be of the kind that was recorded. -/
def load (directory : Path) : Work Model := do
  let description ← Artifact.readDescription directory
  if description.formatVersion ≠ Description.currentVersion then
    throw (.refusal (.formatVersion directory description.formatVersion.toNat
      Description.currentVersion.toNat))
  let recorded ← Artifact.readVariables directory
  let model ← Work.ofAttempt (restore description recorded)
  if model.name ≠ description.estimator then
    throw (.refusal (.otherName directory description.estimator model.name))
  return model

end Model

instance : Estimator Model where
  name := Model.name
  fit model inputs steps := Work.ofAttempt (model.fit inputs steps)
  predict := Model.predict
  probabilities := Model.probabilities
  exportTo := Model.exportTo

end Exemplar
