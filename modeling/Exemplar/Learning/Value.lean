/-
Point predictions: a class or a number.
-/
import Exemplar.Decimal.Written

namespace Exemplar

inductive Value where
  | int (i : Int64)
  | float (x : Float)

def Value.text : Value → String
  | int i => Decimal.intText i.toInt
  | float x => Decimal.plain.text x

end Exemplar
