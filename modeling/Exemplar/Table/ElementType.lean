/-
The types of cells and tensor elements.
-/
namespace Exemplar

inductive ElementType where
  | int64
  | float64
  | string
  deriving DecidableEq, Repr

namespace ElementType

def all : List ElementType := [.int64, .float64, .string]

/-- The name in files and messages. -/
def name : ElementType → String
  | .int64 => "int64"
  | .float64 => "float64"
  | .string => "string"

/-- The name in listings of signatures. -/
def title : ElementType → String
  | .int64 => "Int64"
  | .float64 => "Float64"
  | .string => "String"

end ElementType
end Exemplar
