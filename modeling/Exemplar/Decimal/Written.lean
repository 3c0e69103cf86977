/-
How numbers are written.

A `Style` holds the decisions of one format: which magnitudes are written with a
decimal point in place, whether whole numbers keep a fraction digit, how the
exponent looks, which of two equally near decimals is taken, and the words for
the values that are no numbers.  The digits themselves are the same for every
style up to ties.
-/
import Exemplar.Decimal.Shortest

namespace Exemplar
namespace Decimal

structure Style where
  /-- The power of ten of the first digit at which positional notation ends below. -/
  least? : Option Int
  /-- The power of ten of the first digit from which an exponent is written. -/
  limit? : Option Int
  /-- What follows a whole number in positional notation. -/
  wholeEnding : List Char
  /-- What stands before an exponent that is not negative. -/
  exponentPlus : List Char
  tie : Tie
  nanText : String
  infinityText : String
  minusInfinityText : String

/-- Plain text: never an exponent, whole numbers without a fraction. -/
def plain : Style where
  least? := none
  limit? := none
  wholeEnding := []
  exponentPlus := []
  tie := .up
  nanText := "NaN"
  infinityText := "inf"
  minusInfinityText := "-inf"

/-- The spelling of a number as a category: a fraction digit or an exponent always shows that the
category was a number with a fraction, so it never reads as an integer. -/
def category : Style where
  least? := none
  limit? := some 16
  wholeEnding := ['.', '0']
  exponentPlus := []
  tie := .up
  nanText := "nan"
  infinityText := "inf"
  minusInfinityText := "-inf"

/-- The spelling of a number in JSON text, which has no words for what is not finite. -/
def json : Style where
  least? := some (-5)
  limit? := some 16
  wholeEnding := ['.', '0']
  exponentPlus := ['+']
  tie := .even
  nanText := "null"
  infinityText := "null"
  minusInfinityText := "null"

/-- The digits of a natural number. -/
def natDigits (n : Nat) : List Char := Nat.toDigits 10 n

/-- The digits of an integer, after a minus sign if it is negative. -/
def intDigits (i : Int) : List Char :=
  if i < 0 then '-' :: natDigits i.natAbs else natDigits i.natAbs

def natText (n : Nat) : String := String.ofList (natDigits n)

def intText (i : Int) : String := String.ofList (intDigits i)

/-- Digits with the decimal point after the first `point` of them; zeros fill up on either side. -/
def positional (ending digits : List Char) (point : Int) : List Char :=
  if point ≤ 0 then '0' :: '.' :: List.replicate (-point).toNat '0' ++ digits
  else if digits.length ≤ point.toNat then
    digits ++ List.replicate (point.toNat - digits.length) '0' ++ ending
  else digits.take point.toNat ++ '.' :: digits.drop point.toNat

/-- One digit before the point, the others behind it, then the power of ten. -/
def scientific (plus digits : List Char) (order : Int) : List Char :=
  let fraction := digits.drop 1
  digits.take 1 ++ (if fraction.isEmpty then [] else '.' :: fraction)
    ++ 'e' :: (if order < 0 then [] else plus) ++ intDigits order

/-- Whether a number whose first digit stands at the given power of ten is written positionally. -/
def Style.isPositional (style : Style) (order : Int) : Bool :=
  style.least?.all (· ≤ order) && style.limit?.all (order < ·)

/-- A decimal without its sign. -/
def Style.magnitude (style : Style) (d : Decimal) : List Char :=
  let digits := natDigits d.digits
  let order := d.exponent + digits.length - 1
  if style.isPositional order then positional style.wholeEnding digits (order + 1)
  else scientific style.exponentPlus digits order

/-- The text of a number. -/
def Style.text (style : Style) (x : Float) : String :=
  match Binary64.Parts.ofFloat x with
  | .nan => style.nanText
  | .infinite negative => if negative then style.minusInfinityText else style.infinityText
  | .finite negative m q =>
    String.ofList ((if negative then ['-'] else []) ++ style.magnitude (shortest style.tie m q))

end Decimal
end Exemplar
