/-
Sets of characters given as ranges of code points, and maps that shift whole
ranges.  The tables of character properties are values of these types.
-/
namespace Exemplar
namespace Text

/-- Whether a code point lies in one of the ranges, both ends included. -/
def inRanges (ranges : List (Nat × Nat)) (code : Nat) : Bool :=
  ranges.any fun (first, last) => first ≤ code && code ≤ last

/-- Every `step`-th code point from `first` to `last`. -/
structure Stride where
  first : Nat
  last : Nat
  step : Nat
  deriving DecidableEq, Repr

def Stride.contains (s : Stride) (code : Nat) : Bool :=
  s.first ≤ code && code ≤ s.last && (code - s.first) % s.step == 0

def inStrides (strides : List Stride) (code : Nat) : Bool :=
  strides.any (·.contains code)

/-- A stride whose code points all move by the same distance. -/
structure Shift where
  source : Stride
  distance : Int
  deriving DecidableEq, Repr

/-- Where a list of shifts takes a code point; one outside all of them stays. -/
def shiftCode (shifts : List Shift) (code : Nat) : Nat :=
  match shifts.find? (·.source.contains code) with
  | some shift => ((code : Int) + shift.distance).toNat
  | none => code

end Text
end Exemplar
