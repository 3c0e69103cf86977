/-
Networks as models: layers of weights over dense rows.
-/
import Exemplar.Artifact.Files
import Exemplar.Inputs.Layout
import Exemplar.Inputs.Training
import Exemplar.Learning.Network

namespace Exemplar

structure NetworkModel where
  head : Head
  layout : Layout
  hiddenUnits : List Nat
  layers : Network Float
  /-- How many steps the model was trained for, as a word that wraps. -/
  steps : UInt64

namespace NetworkModel

def learningRate : Float := 0.05

/-- The sizes of the layers' outputs. -/
def sizes (head : Head) (hiddenUnits : List Nat) : List Nat := hiddenUnits ++ [head.logitCount]

/-- What hinders a network over some columns with hidden layers of the given sizes. -/
def fault? (columns : List InputColumn) (hiddenUnits : List Nat) : Option Refusal :=
  if !Layout.isDense ⟨columns⟩ then some .sparseInput
  else if hiddenUnits.contains 0 then some (.emptyHiddenLayer hiddenUnits)
  else none

/-- Inputs and outputs of layers of the given sizes. -/
def shapes (inputs : Nat) : List Nat → List (Nat × Nat)
  | [] => []
  | outputs :: rest => (inputs, outputs) :: shapes outputs rest

/-- Whether every layer of a network can be held. -/
def canBeHeld (shapes : List (Nat × Nat)) : Bool :=
  shapes.all fun (inputs, outputs) => Layer.canBeHeld inputs outputs

def check (columns : List InputColumn) (hiddenUnits : List Nat) : Attempt Unit :=
  match fault? columns hiddenUnits with
  | some refusal => .refuse refusal
  | none => .ok ()

/-- An untrained model with drawn weights. -/
def new (head : Head) (columns : List InputColumn) (hiddenUnits : List Nat) (seed : Int64) :
    Attempt NetworkModel := do
  check columns hiddenUnits
  let width := Layout.width ⟨columns⟩
  if !canBeHeld (shapes width (sizes head hiddenUnits)) then .error .crash
  return {
    head
    layout := ⟨columns⟩
    hiddenUnits
    layers := .random width (sizes head hiddenUnits) (.ofSeed seed)
    steps := 0 }

def name (m : NetworkModel) : String := Architecture.network.modelName m.head

def logits (m : NetworkModel) (row : List Float) : List Float := Network.logits m.layers row

/-- All weights and biases, layer by layer. -/
def parameters (m : NetworkModel) : List Float :=
  m.layers.flatMap fun layer => layer.weights ++ layer.bias

/-- The rows of the inputs. -/
def rows (m : NetworkModel) (inputs : TrainingInputs) : Attempt (List (List Float)) := do
  let batch ← Attempt.ofData inputs.batch
  Attempt.ofData (m.layout.denseRows batch.features)

/-- The rows of the inputs with their targets. -/
def examples (m : NetworkModel) (inputs : TrainingInputs) :
    Attempt (List (List Float × Float)) := do
  let batch ← Attempt.ofData inputs.batch
  let rows ← Attempt.ofData (m.layout.denseRows batch.features)
  let targets ← m.head.targets batch.label
  if rows.isEmpty then Attempt.refuse (.emptyDataset m.name)
  return rows.zip targets

/-- One step of training, on the layers and their accumulators. -/
def step (m : NetworkModel) (examples : List (List Float × Float))
    (state : Network Float × List (Layer Float)) : Network Float × List (Layer Float) :=
  let count := Binary64.ofInt examples.length
  let gradient := Network.gradient m.head.gradient count state.1 examples
  Network.descend learningRate state.1 gradient state.2

/-- The layers after some steps of training with fresh accumulators. -/
def train (m : NetworkModel) (examples : List (List Float × Float)) (steps : Nat) :
    Network Float :=
  (Nat.repeat (m.step examples) steps (m.layers, m.layers.map (·.fill Adagrad.initial))).1

/-- The number of logits, which is that of the last layer's outputs. -/
def logitCount (m : NetworkModel) : Nat := (m.layers.getLast?.map Layer.outputs).getD 0

/-- The model after training; nothing is trained if some target has no logit. -/
def fit (m : NetworkModel) (inputs : TrainingInputs) (steps : UInt64) : Attempt NetworkModel := do
  let examples ← m.examples inputs
  let reached := examples.all fun (_, target) => m.head.reaches m.logitCount target
  if steps ≠ 0 ∧ !reached then .error .crash
  else return { m with layers := m.train examples steps.toNat, steps := m.steps + steps }

def predict (m : NetworkModel) (inputs : TrainingInputs) : Attempt (List Value) := do
  let rows ← m.rows inputs
  rows.mapM fun row => m.head.predict (m.logits row)

def probabilities (m : NetworkModel) (inputs : TrainingInputs) : Attempt (List (List Float)) := do
  if m.head.classCount?.isNone then Attempt.refuse (.noProbabilities m.name)
  let rows ← m.rows inputs
  rows.mapM fun row => return (← m.head.probabilities (m.logits row)).getD []

/-! ## Artifacts -/

/-- The name of layer number `index` of `count`. -/
def layerName (count index : Nat) : String :=
  if index + 1 = count then "dnn/logits" else "dnn/hiddenlayer_" ++ Decimal.natText index

def kernelName (count index : Nat) : String := layerName count index ++ "/kernel"
def biasName (count index : Nat) : String := layerName count index ++ "/bias"

def describe (m : NetworkModel) (serving : ServingInputs) : Except DataError Description :=
  Description.of m.name .network m.head m.layout.columns m.hiddenUnits m.steps serving

/-- The variables of one layer. -/
def layerVariables (count : Nat) (layer : Layer Float) (index : Nat) : List (String × Variable) :=
  [(kernelName count index, ⟨[layer.inputs, layer.outputs], layer.weights⟩),
    (biasName count index, ⟨[layer.outputs], layer.bias⟩)]

def toVariables (m : NetworkModel) : Variables :=
  SortedMap.ofList (m.layers.zipIdx.flatMap fun (layer, index) =>
    layerVariables m.layers.length layer index)

def exportTo (m : NetworkModel) (base : Path) (serving : ServingInputs) : Work Path := do
  let description ← Work.ofAttempt (.ofData (m.describe serving))
  Artifact.write base description m.toVariables

/-- Layer number `index` of `count`, of the given shape, from the variables. -/
def restoreLayer (recorded : Variables) (count index : Nat) (shape : Nat × Nat) :
    Attempt (Layer Float) := do
  let weights ← recorded.valuesOf (kernelName count index) [shape.1, shape.2]
  let bias ← recorded.valuesOf (biasName count index) [shape.2]
  return .ofFlat shape.1 shape.2 weights bias

/-- The model that a description and its variables stand for. -/
def restore (d : Description) (recorded : Variables) : Attempt NetworkModel := do
  if d.architecture ≠ .network then Attempt.refuse (.notNetwork d.estimator)
  check d.columns d.hiddenUnits
  let shapes := shapes (Layout.width ⟨d.columns⟩) (sizes d.head d.hiddenUnits)
  if !canBeHeld shapes then .error .crash
  let layers ← shapes.zipIdx.mapM fun (shape, index) =>
    restoreLayer recorded shapes.length index shape
  if recorded.length ≠ 2 * shapes.length then
    Attempt.refuse (.networkVariables recorded.length (2 * shapes.length) d.hiddenUnits)
  return {
    head := d.head
    layout := ⟨d.columns⟩
    hiddenUnits := d.hiddenUnits
    layers
    steps := d.steps }

end NetworkModel
end Exemplar
