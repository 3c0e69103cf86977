/-
What an artifact says about its model: how to build it again, and how it is
called when it serves.
-/
import Exemplar.Inputs.Serving
import Exemplar.Learning.Architecture

namespace Exemplar

structure TensorInfo where
  type : ElementType
  shape : List Dim
  deriving DecidableEq, Repr

/-- One way to call a model: tensors by name that go in and come out. -/
structure CallSignature where
  method : String
  inputs : SortedMap TensorInfo
  outputs : SortedMap TensorInfo
  deriving DecidableEq, Repr

structure Description where
  formatVersion : UInt32
  estimator : String
  architecture : Architecture
  head : Head
  columns : List InputColumn
  hiddenUnits : List Nat
  /-- How many steps the model was trained for. -/
  steps : UInt64
  signatures : SortedMap CallSignature
  deriving DecidableEq, Repr

namespace Description

/-- The only version of the format that can be read. -/
def currentVersion : UInt32 := 1

/-- The key of the signature that serving uses. -/
def servingKey : String := "serving_default"

def servingSignature? (d : Description) : Option CallSignature := d.signatures.get? servingKey

/-- The types that a model's columns expect, by name. -/
def columnTypes (columns : List InputColumn) : Signature :=
  SortedMap.ofList (columns.map fun column => (column.column, column.type))

/-- A model can be served if its columns are the placeholders with the same types. -/
def checkColumns (columns : List InputColumn) (serving : ServingInputs) : Except DataError Unit :=
  if columnTypes columns = serving.types then .ok ()
  else .error (.signatureMismatch (.modelColumns (columnTypes columns) serving.types))

/-- A tensor of any number of rows. -/
def rowsOf (type : ElementType) (columns : Nat) : TensorInfo := ⟨type, [.unbound, .fixed columns]⟩

/-- How a model with a head is called when it serves. -/
def callSignature (head : Head) (serving : ServingInputs) : CallSignature :=
  let inputs := serving.placeholders.mapValues fun p => ⟨p.type, p.shape⟩
  match head.classCount? with
  | some classes =>
    ⟨"classify", inputs,
      [("classes", rowsOf .int64 1), ("probabilities", rowsOf .float64 classes)]⟩
  | none => ⟨"regress", inputs, [("predictions", rowsOf .float64 1)]⟩

/-- The description of a model for the given serving inputs, which must fit its columns. -/
def of (estimator : String) (architecture : Architecture) (head : Head)
    (columns : List InputColumn) (hiddenUnits : List Nat) (steps : UInt64)
    (serving : ServingInputs) : Except DataError Description := do
  checkColumns columns serving
  return {
    formatVersion := currentVersion
    estimator, architecture, head, columns, hiddenUnits, steps
    signatures := [(servingKey, callSignature head serving)] }

/-- Checks that a described model can be served: its columns and its recorded inputs must have the
names and types of the placeholders. -/
def checkServing (d : Description) (serving : ServingInputs) : Except DataError Unit := do
  checkColumns d.columns serving
  match d.servingSignature? with
  | none => .error (.signatureMismatch (.noSignature servingKey))
  | some signature =>
    let recorded : Signature := signature.inputs.mapValues (·.type)
    if recorded = serving.types then .ok ()
    else .error (.signatureMismatch (.recordedInputs recorded serving.types))

end Description
end Exemplar
