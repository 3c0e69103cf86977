/-
The arithmetic that training is written in.

Training uses only the operations below, so the same code runs on binary64
numbers and can be read over exact ones.  `neutral` is what a sum starts from: it
leaves every number it is added to as it is, which for binary64 is minus zero.
-/
namespace Exemplar

class Scalar (α : Type) extends Add α, Sub α, Mul α, Div α where
  zero : α
  neutral : α
  isZero : α → Bool
  isPositive : α → Bool

instance : Scalar Float where
  zero := 0.0
  neutral := -0.0
  isZero x := x == 0.0
  isPositive x := 0.0 < x

namespace Scalar

variable {α : Type} [Scalar α]

/-- The sum from left to right. -/
def sum (xs : List α) : α := xs.foldl (· + ·) neutral

def dot (xs ys : List α) : α := sum (List.zipWith (· * ·) xs ys)

/-- The number if it is positive, and zero otherwise. -/
def rectify (x : α) : α := if isPositive x then x else zero

end Scalar
end Exemplar
