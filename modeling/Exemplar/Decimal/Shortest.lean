/-
The fewest decimal digits that read back as a given binary64 number.

Every real strictly inside the interval between the midpoints to the two
neighbouring numbers rounds to `m * 2 ^ q`, and the midpoints themselves do when
`m` is even.  For one, two, … digits the value's two neighbours on that decimal
grid are tested against the interval with exact arithmetic; the first grid with a
hit wins, and of two hits the nearer.  If any point of a grid lies in the
interval, one of the value's two neighbours on that grid does, so no shorter
decimal is missed.
-/
import Exemplar.Decimal.Binary64

namespace Exemplar

/-- The decimal `digits * 10 ^ exponent`. -/
structure Decimal where
  digits : Nat
  exponent : Int
  deriving DecidableEq, Repr

namespace Decimal

/-- Which of two equally near decimals is taken. -/
inductive Tie where
  | up
  | even
  deriving DecidableEq, Repr

/-- The interval of reals that round to a number, in units of `scale`: `value / scale` is the number
itself, `low / scale` and `high / scale` the midpoints to its neighbours. -/
structure Interval where
  low : Nat
  value : Nat
  high : Nat
  scale : Nat
  /-- Whether the midpoints themselves round to the number. -/
  closed : Bool
  deriving Repr

/-- The interval of `m * 2 ^ q`.  Below a power of two the neighbour is half as far away. -/
def Interval.of (m : Nat) (q : Int) : Interval :=
  let up := twoTo (q - 2).toNat
  let below := if m = twoTo 52 ∧ q ≠ Binary64.leastExponent then 1 else 2
  { low := (4 * m - below) * up
    value := 4 * m * up
    high := (4 * m + 2) * up
    scale := twoTo (2 - q).toNat
    closed := m % 2 = 0 }

def Interval.aboveLow (r : Interval) (num den : Nat) : Bool :=
  if r.closed then r.low * den ≤ num * r.scale else r.low * den < num * r.scale

def Interval.belowHigh (r : Interval) (num den : Nat) : Bool :=
  if r.closed then num * r.scale ≤ r.high * den else num * r.scale < r.high * den

/-- The point of the grid of multiples of `10 ^ unit` that stands for the number, if the interval
holds one. -/
def Interval.gridPoint? (r : Interval) (tie : Tie) (unit : Int) : Option Nat :=
  let num := tenTo unit.toNat
  let den := tenTo (-unit).toNat
  let floor := r.value * den / (r.scale * num)
  let lower := r.aboveLow (floor * num) den
  let upper := r.belowHigh ((floor + 1) * num) den
  let roundsUp :=
    let twice := 2 * r.value * den
    let middle := (2 * floor + 1) * num * r.scale
    match tie with
    | .up => decide (middle ≤ twice)
    | .even => decide (middle < twice) || (decide (middle = twice) && floor % 2 == 1)
  match lower, upper with
  | true, true => some (if roundsUp then floor + 1 else floor)
  | true, false => some floor
  | false, true => some (floor + 1)
  | false, false => none

/-- The largest `k` with `10 ^ k ≤ value / scale`, found by trying at most `fuel` powers downwards
from `k`. -/
def decimalOrder (value scale : Nat) : Nat → Int → Int
  | 0, k => k
  | fuel + 1, k =>
    if scale * tenTo k.toNat ≤ value * tenTo (-k).toNat then k
    else decimalOrder value scale fuel (k - 1)

/-- An upper bound of the decimal order of a ratio, at most a few powers too high:
`1233 / 4096` is slightly above the decimal logarithm of two. -/
def orderBound (value scale : Nat) : Int :=
  let twos : Int := (value.log2 : Int) + 1 - scale.log2
  (twos * 1233).fdiv 4096 + 1

/-- The first grid with a point for the number, of those with one to seventeen digits. -/
def firstPoint (r : Interval) (tie : Tie) (order : Int) : Option Decimal :=
  (List.range 17).findSome? fun (k : Nat) => (r.gridPoint? tie (order - k)).map (⟨·, order - k⟩)

/-- Ten as a single digit is one at the next power. -/
def carryTen (d : Decimal) : Decimal :=
  if d.digits = 10 then ⟨1, d.exponent + 1⟩ else d

/-- The shortest decimal that reads back as `m * 2 ^ q`; zero is the digit zero. -/
def shortest (tie : Tie) (m : Nat) (q : Int) : Decimal :=
  if m = 0 then ⟨0, 0⟩
  else
    let r := Interval.of m q
    let order := decimalOrder r.value r.scale 8 (orderBound r.value r.scale)
    ((firstPoint r tie order).map carryTen).getD ⟨m, 0⟩

end Decimal
end Exemplar
