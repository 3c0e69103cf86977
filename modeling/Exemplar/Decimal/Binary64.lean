/-
Binary64 numbers taken apart and put together with exact natural arithmetic.

A word is split into sign, significand `m` and exponent `q`, so that its value is
`± m * 2 ^ q`, and `roundRatio` is the other direction: the word nearest to a
ratio of two naturals, a tie going to the even significand.  Both speak of the
same `m` and `q`, so a statement about writing and reading a number is a
statement about naturals.
-/
import Exemplar.Decimal.Power

namespace Exemplar
namespace Binary64

/-- What a word stands for. -/
inductive Parts where
  | nan
  | infinite (negative : Bool)
  | finite (negative : Bool) (significand : Nat) (exponent : Int)
  deriving DecidableEq, Repr

/-- The exponent of the smallest positive number, `2 ^ leastExponent`. -/
def leastExponent : Int := -1074

/-- The word of positive infinity, one above the largest finite word. -/
def infinityWord : Nat := 2047 * twoTo 52

/-- The significand and exponent of a word without its sign bit, read as finite.  Subnormal words
share the exponent of the first normal ones and lack the leading bit. -/
def fields (word : Nat) : Nat × Int :=
  let biased := word / twoTo 52
  let fraction := word % twoTo 52
  if biased = 0 then (fraction, leastExponent)
  else (twoTo 52 + fraction, leastExponent + (biased - 1 : Nat))

def Parts.ofWord (word : Nat) : Parts :=
  let negative := decide (twoTo 63 ≤ word)
  let magnitude := word % twoTo 63
  if infinityWord < magnitude then .nan
  else if magnitude = infinityWord then .infinite negative
  else .finite negative (fields magnitude).1 (fields magnitude).2

/-- The parts of a number. -/
def Parts.ofFloat (x : Float) : Parts := .ofWord x.toBits.toNat

/-- `num / den` to the nearest natural, a half going to the even one. -/
def divideToEven (num den : Nat) : Nat :=
  let quotient := num / den
  let twice := 2 * (num % den)
  if den < twice ∨ (twice = den ∧ quotient % 2 = 1) then quotient + 1 else quotient

/-- The largest `e` with `2 ^ e ≤ num / den`, for positive `num` and `den`. -/
def binaryOrder (num den : Nat) : Int :=
  let guess : Int := (num.log2 : Int) - den.log2
  if den * twoTo guess.toNat ≤ num * twoTo (-guess).toNat then guess else guess - 1

/-- The unsigned word nearest to `num / den`.  The significand is counted in units of `2 ^ q`, and
the word of `m * 2 ^ q` is `(q - leastExponent) * 2 ^ 52 + m` for normal and subnormal numbers
alike: a significand that rounds up to `2 ^ 53` carries into the exponent by itself. -/
def roundRatio (num den : Nat) : Nat :=
  if num = 0 then 0
  else
    let q := max (binaryOrder num den - 52) leastExponent
    let significand := divideToEven (num * twoTo (-q).toNat) (den * twoTo q.toNat)
    min ((q - leastExponent).toNat * twoTo 52 + significand) infinityWord

/-- The number with the given sign and unsigned word. -/
def withSign (negative : Bool) (word : Nat) : Float :=
  Float.ofBits (UInt64.ofNat (if negative then twoTo 63 + word else word))

/-- The number nearest to an integer. -/
def ofInt (i : Int) : Float := withSign (decide (i < 0)) (roundRatio i.natAbs 1)

/-- The one value that is not a number. -/
def nan : Float := withSign false (infinityWord + twoTo 51)

end Binary64
end Exemplar
