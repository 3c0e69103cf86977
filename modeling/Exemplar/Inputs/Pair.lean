/-
Training and serving inputs that agree on their features.
-/
import Exemplar.Inputs.Serving
import Exemplar.Inputs.Training

namespace Exemplar

def mismatch (disagreement : Disagreement) : Except DataError Unit :=
  .error (.signatureMismatch disagreement)

/-- Checks one feature's tensor and placeholder: both are single columns. -/
def checkShapes (rows : Nat) (placeholders : SortedMap Placeholder) (name : String)
    (tensor : Column) : Except DataError Unit :=
  let shape := ((placeholders.get? name).map (·.shape)).getD []
  if tensor.shape ≠ [rows, 1] then mismatch (.tensorShape name tensor.shape)
  else if shape[1]? ≠ some (.fixed 1) then mismatch (.placeholderShape name (shape.map Dim.text))
  else .ok ()

/-- Whether training and serving agree: the same names with the same types, no label when serving,
and single columns throughout. -/
def checkParity (training : TrainingInputs) (serving : ServingInputs) : Except DataError Unit := do
  let batch ← training.batch
  let signature := serving.signature
  let trained := batch.features.mapValues Column.elementType
  let served := signature.features.mapValues (·.type)
  if trained ≠ served then mismatch (.trainingFeatures trained served)
  if signature.label.isSome then mismatch .servingLabel
  if signature.defaultInputs ≠ signature.features then mismatch .defaultInputs
  batch.features.forM fun (name, tensor) =>
    checkShapes training.rowCount signature.features name tensor

structure InputPair where
  training : TrainingInputs
  serving : ServingInputs

/-- The pair for a table and its roles, if both sides agree. -/
def InputPair.of (table : Table) (roles : Roles) : Except DataError InputPair := do
  let pair : InputPair := ⟨⟨table, roles⟩, ⟨roles⟩⟩
  checkParity pair.training pair.serving
  return pair

end Exemplar
