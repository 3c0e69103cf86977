/-
Columns: cells of one type.
-/
import Exemplar.Decimal.Literal
import Exemplar.Decimal.Written
import Exemplar.Table.ElementType
import Exemplar.Text.Blank

namespace Exemplar

inductive Column where
  | ints (cells : List Int64)
  | floats (cells : List Float)
  | texts (cells : List String)

namespace Column

def length : Column → Nat
  | ints cells => cells.length
  | floats cells => cells.length
  | texts cells => cells.length

def elementType : Column → ElementType
  | ints _ => .int64
  | floats _ => .float64
  | texts _ => .string

/-- Every cell as a category is spelled.  A number with a fraction never reads as an integer. -/
def spellings : Column → List String
  | ints cells => cells.map fun i => Decimal.intText i.toInt
  | floats cells => cells.map Decimal.category.text
  | texts cells => cells

/-- The integer that a cell spells, blanks around it aside. -/
def readInt? (cell : String) : Option Int64 := Decimal.readInt64? (Text.trim cell.toList)

/-- The number that a cell spells, blanks around it aside. -/
def readFloat? (cell : String) : Option Float := Decimal.readFloat? (Text.trim cell.toList)

/-- The narrowest column that holds every cell. -/
def infer (cells : List String) : Column :=
  match cells.mapM readInt? with
  | some values => ints values
  | none =>
    match cells.mapM readFloat? with
    | some values => floats values
    | none => texts cells

end Column
end Exemplar
