/-
Training inputs: the batch that a table and its roles stand for.
-/
import Exemplar.Inputs.Encoding

namespace Exemplar

/-- The features by name, and the label.  Every column is a tensor of shape `[rows, 1]`. -/
structure Batch where
  features : SortedMap Column
  label : Column

namespace Column

def shape (c : Column) : List Nat := [c.length, 1]

def floats? : Column → Option (List Float)
  | floats cells => some cells
  | _ => none

def texts? : Column → Option (List String)
  | texts cells => some cells
  | _ => none

end Column

structure TrainingInputs where
  table : Table
  roles : Roles

namespace TrainingInputs

def rowCount (inputs : TrainingInputs) : Nat := inputs.table.rowCount

/-- A column of the table, which must have the expected type. -/
def tensor (inputs : TrainingInputs) (expected : ElementType) (name : String) :
    Except DataError Column := do
  let column ← inputs.table.column name
  if column.elementType = expected then .ok column
  else .error (.typeMismatch name expected column.elementType)

/-- The tensors of several columns under their names. -/
def tensors (inputs : TrainingInputs) (expected : ElementType) (names : List String) :
    Except DataError (List (String × Column)) :=
  names.mapM fun name => (inputs.tensor expected name).map (name, ·)

/-- The batch, the same at every call. -/
def batch (inputs : TrainingInputs) : Except DataError Batch := do
  let continuous ← inputs.tensors .float64 inputs.roles.continuous
  let categorical ← inputs.tensors .string inputs.roles.categorical
  let label ← inputs.tensor inputs.roles.task.labelType inputs.roles.label
  return ⟨SortedMap.ofList (continuous ++ categorical), label⟩

end TrainingInputs
end Exemplar
