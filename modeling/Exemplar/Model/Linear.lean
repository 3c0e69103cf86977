/-
Linear models: one layer of weights over the slots of sparse rows.
-/
import Exemplar.Artifact.Files
import Exemplar.Inputs.Layout
import Exemplar.Inputs.Training
import Exemplar.Learning.Linear

namespace Exemplar

structure LinearModel where
  head : Head
  layout : Layout
  layer : Layer Float
  /-- How many steps the model was trained for, as a word that wraps. -/
  steps : UInt64

namespace LinearModel

def learningRate : Float := 0.2

def weightsName : String := "linear/weights"
def biasName : String := "linear/bias"

/-- An untrained model, all of whose weights are zero. -/
def new (head : Head) (columns : List InputColumn) : Attempt LinearModel :=
  let width := Layout.width ⟨columns⟩
  if Layer.canBeHeld width head.logitCount then
    .ok {
      head
      layout := ⟨columns⟩
      layer := .constant width head.logitCount 0.0
      steps := 0 }
  else .error .crash

def name (m : LinearModel) : String := Architecture.linear.modelName m.head

def logits (m : LinearModel) (row : SparseRow) : List Float := Linear.logits m.layer row

/-- The rows of the inputs. -/
def rows (m : LinearModel) (inputs : TrainingInputs) : Attempt (List SparseRow) := do
  let batch ← Attempt.ofData inputs.batch
  Attempt.ofData (m.layout.sparseRows batch.features)

/-- The rows of the inputs with their targets. -/
def examples (m : LinearModel) (inputs : TrainingInputs) :
    Attempt (List (SparseRow × Float)) := do
  let batch ← Attempt.ofData inputs.batch
  let rows ← Attempt.ofData (m.layout.sparseRows batch.features)
  let targets ← m.head.targets batch.label
  if rows.isEmpty then Attempt.refuse (.emptyDataset m.name)
  return rows.zip targets

/-- One step of training, on a layer and its accumulators. -/
def step (m : LinearModel) (examples : List (SparseRow × Float))
    (state : Layer Float × Layer Float) : Layer Float × Layer Float :=
  let count := Binary64.ofInt examples.length
  let gradient := Linear.gradient m.head.gradient count state.1 examples
  state.1.descend learningRate gradient state.2

/-- The layer after some steps of training with fresh accumulators. -/
def train (m : LinearModel) (examples : List (SparseRow × Float)) (steps : Nat) : Layer Float :=
  (Nat.repeat (m.step examples) steps (m.layer, m.layer.fill Adagrad.initial)).1

/-- The model after training; nothing is trained if some target has no logit. -/
def fit (m : LinearModel) (inputs : TrainingInputs) (steps : UInt64) : Attempt LinearModel := do
  let examples ← m.examples inputs
  let reached := examples.all fun (_, target) => m.head.reaches m.layer.outputs target
  if steps ≠ 0 ∧ !reached then .error .crash
  else return { m with layer := m.train examples steps.toNat, steps := m.steps + steps }

def predict (m : LinearModel) (inputs : TrainingInputs) : Attempt (List Value) := do
  let rows ← m.rows inputs
  rows.mapM fun row => m.head.predict (m.logits row)

def probabilities (m : LinearModel) (inputs : TrainingInputs) : Attempt (List (List Float)) := do
  if m.head.classCount?.isNone then Attempt.refuse (.noProbabilities m.name)
  let rows ← m.rows inputs
  rows.mapM fun row => return (← m.head.probabilities (m.logits row)).getD []

/-! ## Artifacts -/

def describe (m : LinearModel) (serving : ServingInputs) : Except DataError Description :=
  Description.of m.name .linear m.head m.layout.columns [] m.steps serving

def toVariables (m : LinearModel) : Variables :=
  SortedMap.ofList [
    (weightsName, ⟨[m.layout.width, m.head.logitCount], m.layer.weights⟩),
    (biasName, ⟨[m.head.logitCount], m.layer.bias⟩)]

def exportTo (m : LinearModel) (base : Path) (serving : ServingInputs) : Work Path := do
  let description ← Work.ofAttempt (.ofData (m.describe serving))
  Artifact.write base description m.toVariables

/-- The model that a description and its variables stand for. -/
def restore (d : Description) (recorded : Variables) : Attempt LinearModel := do
  if d.architecture ≠ .linear ∨ !d.hiddenUnits.isEmpty then
    Attempt.refuse (.notLinear d.estimator)
  let width := Layout.width ⟨d.columns⟩
  if !Layer.canBeHeld width d.head.logitCount then .error .crash
  let weights ← recorded.valuesOf weightsName [width, d.head.logitCount]
  let bias ← recorded.valuesOf biasName [d.head.logitCount]
  if recorded.length ≠ 2 then Attempt.refuse (.linearVariables recorded.length)
  return {
    head := d.head
    layout := ⟨d.columns⟩
    layer := .ofFlat width d.head.logitCount weights bias
    steps := d.steps }

end LinearModel
end Exemplar
