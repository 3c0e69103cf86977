/-
Digits are read back, alone and in decimals.
-/
import Exemplar.Decimal.Literal
import Exemplar.Decimal.Written
import Mathlib.Algebra.Group.Nat.Defs

namespace Exemplar
namespace Decimal

theorem natOfDigits_natDigits (n : Nat) : natOfDigits (natDigits n) = n :=
  Nat.ofDigitChars_ten_toDigits

theorem isDigit_of_mem_natDigits {n : Nat} {c : Char} (h : c ∈ natDigits n) :
    c.isDigit = true :=
  Nat.isDigit_of_mem_toDigits (by decide) (by decide) h

theorem natDigits_ne_nil (n : Nat) : natDigits n ≠ [] := Nat.toDigits_ne_nil

theorem natOfDigits_append (a b : List Char) :
    natOfDigits (a ++ b) = natOfDigits a * 10 ^ b.length + natOfDigits b := by
  show Nat.ofDigitChars 10 _ 0 = _
  rw [Nat.ofDigitChars_append, Nat.ofDigitChars_eq_ofDigitChars_zero, Nat.mul_comm]
  rfl

theorem natOfDigits_zeros (n : Nat) : natOfDigits (List.replicate n '0') = 0 := by
  show Nat.ofDigitChars 10 _ 0 = _
  rw [Nat.ofDigitChars_replicate_zero, Nat.mul_zero]

/-- A list of digits before something that is none. -/
structure Splits (digits rest : List Char) : Prop where
  digits : ∀ c ∈ digits, c.isDigit = true
  rest : rest.head?.any Char.isDigit = false

theorem Splits.takeWhile {digits rest : List Char} (h : Splits digits rest) :
    (digits ++ rest).takeWhile Char.isDigit = digits := by
  rw [List.takeWhile_append_of_pos h.digits]
  cases rest with
  | nil => simp
  | cons c after =>
    have hc : c.isDigit = false := by simpa using h.rest
    simp [hc]

theorem Splits.dropWhile {digits rest : List Char} (h : Splits digits rest) :
    (digits ++ rest).dropWhile Char.isDigit = rest := by
  rw [List.dropWhile_append_of_pos h.digits]
  cases rest with
  | nil => rfl
  | cons c after =>
    have hc : c.isDigit = false := by simpa using h.rest
    simp [hc]

/-! ## Integers -/

theorem readNat?_of_digits {digits : List Char} (hne : digits ≠ [])
    (h : ∀ c ∈ digits, c.isDigit = true) : readNat? digits = some (natOfDigits digits) := by
  unfold readNat?
  rw [if_neg]
  simpa [hne] using h

theorem splitSign_cons {c : Char} {rest : List Char} (h : c.isDigit = true) :
    splitSign (c :: rest) = (false, c :: rest) := by
  unfold splitSign
  split
  · rename_i heq
    rw [(List.cons.inj heq).1] at h
    exact absurd h (by decide)
  · rename_i heq
    rw [(List.cons.inj heq).1] at h
    exact absurd h (by decide)
  · rfl

theorem splitSign_of_digits {digits : List Char} (h : ∀ c ∈ digits, c.isDigit = true) :
    splitSign digits = (false, digits) := by
  cases digits with
  | nil => rfl
  | cons c rest => exact splitSign_cons (h c List.mem_cons_self)

theorem readInt?_intDigits (i : Int) : readInt? (intDigits i) = some i := by
  have hread := readNat?_of_digits (natDigits_ne_nil i.natAbs) fun _ h => isDigit_of_mem_natDigits h
  rw [natOfDigits_natDigits] at hread
  unfold readInt? intDigits
  by_cases hneg : i < 0
  · rw [if_pos hneg,
      show splitSign ('-' :: natDigits i.natAbs) = (true, natDigits i.natAbs) from rfl]
    dsimp only
    rw [hread]
    show some (-(i.natAbs : Int)) = some i
    congr 1
    omega
  · rw [if_neg hneg, splitSign_of_digits fun _ h => isDigit_of_mem_natDigits h]
    dsimp only
    rw [hread]
    show some (i.natAbs : Int) = some i
    congr 1
    omega

theorem readInt?_plus {i : Int} (h : 0 ≤ i) : readInt? ('+' :: intDigits i) = some i := by
  have hdigits : intDigits i = natDigits i.natAbs := if_neg (by omega)
  have hread := readInt?_intDigits i
  rw [hdigits] at hread ⊢
  unfold readInt? at hread ⊢
  rw [splitSign_of_digits fun _ h => isDigit_of_mem_natDigits h] at hread
  exact hread

/-! ## Unsigned decimals -/

/-- What stands behind the digits of a decimal: nothing, or a power of ten. -/
inductive Scale : List Char → Int → Prop where
  | none : Scale [] 0
  | power {after : List Char} {exponent : Int} :
    readInt? after = some exponent → Scale ('e' :: after) exponent

variable {whole fraction text : List Char} {exponent : Int}

theorem Scale.head (h : Scale text exponent) : text.head?.any Char.isDigit = false := by
  cases h <;> rfl

theorem readUnsigned?_whole (hne : whole ≠ [])
    (hwhole : ∀ c ∈ whole, c.isDigit = true) (hscale : Scale text exponent) :
    readUnsigned? (whole ++ text) = some (natOfDigits whole, exponent) := by
  have hsplits : Splits whole text := ⟨hwhole, hscale.head⟩
  have hempty : whole.isEmpty = false := by simpa using hne
  unfold readUnsigned?
  rw [hsplits.takeWhile, hsplits.dropWhile]
  cases hscale with
  | none => simp [hempty]
  | power hread => simp [hempty, hread]

theorem readUnsigned?_point (whole fraction : List Char) (hne : whole ≠ [])
    (hwhole : ∀ c ∈ whole, c.isDigit = true) (hfraction : ∀ c ∈ fraction, c.isDigit = true)
    (hscale : Scale text exponent) :
    readUnsigned? (whole ++ '.' :: (fraction ++ text))
      = some (natOfDigits (whole ++ fraction), exponent - fraction.length) := by
  have hsplits : Splits whole ('.' :: (fraction ++ text)) := ⟨hwhole, rfl⟩
  have hsplits' : Splits fraction text := ⟨hfraction, hscale.head⟩
  have hempty : whole.isEmpty = false := by simpa using hne
  unfold readUnsigned?
  rw [hsplits.takeWhile, hsplits.dropWhile]
  have htake := hsplits'.takeWhile
  have hdrop := hsplits'.dropWhile
  cases hscale with
  | none =>
    rw [List.append_nil] at htake hdrop ⊢
    simp [hempty, htake, hdrop]
  | power hread => simp [hempty, hread, htake, hdrop]

end Decimal
end Exemplar
