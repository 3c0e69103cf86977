/-
The literals that count as numbers.

An integer literal is an optional sign and decimal digits, in the range of a
64-bit integer.  A real literal also admits a fraction, an exponent, and the
words for infinity and for the value that is no number; its value is the
binary64 number nearest to the decimal it spells.
-/
import Exemplar.Decimal.Binary64

namespace Exemplar
namespace Decimal

/-- Splits off a leading sign; `true` stands for minus. -/
def splitSign : List Char → Bool × List Char
  | '-' :: rest => (true, rest)
  | '+' :: rest => (false, rest)
  | text => (false, text)

/-- The natural number that a list of decimal digits spells. -/
def natOfDigits (digits : List Char) : Nat :=
  digits.foldl (fun n c => 10 * n + (c.toNat - '0'.toNat)) 0

/-- The number that one or more decimal digits spell. -/
def readNat? (text : List Char) : Option Nat :=
  if text.isEmpty || !text.all Char.isDigit then none else some (natOfDigits text)

/-- An optional sign and decimal digits. -/
def readInt? (text : List Char) : Option Int :=
  let (negative, digits) := splitSign text
  (readNat? digits).map fun n => if negative then -(n : Int) else n

/-- An integer literal in the range of a 64-bit integer. -/
def readInt64? (text : List Char) : Option Int64 :=
  (readInt? text).bind fun i =>
    if Int64.minValue.toInt ≤ i ∧ i ≤ Int64.maxValue.toInt then some (Int64.ofInt i) else none

/-- The unsigned word nearest to `digits * 10 ^ exponent`.  Powers far outside the range of the
format are decided without computing them: the format holds no number from `10 ^ 310` on, and what
is below `10 ^ -330` rounds to zero. -/
def decimalWord (digits : Nat) (exponent : Int) : Nat :=
  if digits = 0 then 0
  else
    let order : Int := exponent + (Nat.toDigits 10 digits).length
    if 310 < order then Binary64.infinityWord
    else if order < -330 then 0
    else Binary64.roundRatio (digits * tenTo exponent.toNat) (tenTo (-exponent).toNat)

/-- An unsigned decimal: digits with at most one point, at least one digit, and perhaps an exponent
after `e`.  The value is a natural number and a power of ten. -/
def readUnsigned? (text : List Char) : Option (Nat × Int) :=
  let whole := text.takeWhile Char.isDigit
  let rest := text.dropWhile Char.isDigit
  let (fraction, rest) := match rest with
    | '.' :: after => (after.takeWhile Char.isDigit, after.dropWhile Char.isDigit)
    | _ => ([], rest)
  let power? := match rest with
    | [] => some 0
    | c :: after => if c = 'e' ∨ c = 'E' then readInt? after else none
  if whole.isEmpty && fraction.isEmpty then none
  else power?.map fun power => (natOfDigits (whole ++ fraction), power - fraction.length)

/-- The words that stand for infinity and for no number, in lower case. -/
def wordValue? (text : String) : Option Nat :=
  if text = "inf" ∨ text = "infinity" then some Binary64.infinityWord
  else if text = "nan" then some (Binary64.infinityWord + twoTo 51)
  else none

/-- A real literal. -/
def readFloat? (text : List Char) : Option Float :=
  let (negative, rest) := splitSign text
  let word? := match readUnsigned? rest with
    | some (digits, exponent) => some (decimalWord digits exponent)
    | none => wordValue? (String.ofList (rest.map Char.toLower))
  word?.map (Binary64.withSign negative)

end Decimal
end Exemplar
