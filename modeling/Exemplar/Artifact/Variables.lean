/-
The numbers of a trained model, by name.
-/
import Exemplar.Decimal.Power
import Exemplar.Failure
import Exemplar.SortedMap

namespace Exemplar

structure Variable where
  shape : List Nat
  values : List Float

/-- The variables of a model. -/
abbrev Variables := SortedMap Variable

namespace Variables

/-- The number of values of a tensor, as a 64-bit word counts them. -/
def sizeOf (shape : List Nat) : Nat := shape.foldl (· * ·) 1 % twoTo 64

/-- The values of a variable, which must exist with exactly the given shape. -/
def valuesOf (recorded : Variables) (name : String) (shape : List Nat) : Attempt (List Float) :=
  match recorded.get? name with
  | none => .refuse (.missingVariable name)
  | some found =>
    if found.shape ≠ shape then .refuse (.variableShape name found.shape shape)
    else if found.values.length ≠ sizeOf shape then
      .refuse (.variableCount name found.values.length (sizeOf shape))
    else .ok found.values

end Variables
end Exemplar
