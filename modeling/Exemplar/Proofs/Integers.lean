/-
Naturals as numbers.

A natural below `2 ^ 53` has a number of its own, from which it is read back.
-/
import Exemplar.Proofs.Words

namespace Exemplar
namespace Binary64

open Float.Model Float.Model.UnpackedFloat

variable {i : Nat}

theorem log2_le (hpos : 0 < i) (h : i < twoTo 53) : i.log2 ≤ 52 := by
  have hlt := (Nat.log2_lt hpos.ne').2 h
  omega

theorem log2_bounds_scaled (hpos : 0 < i) (h : i < twoTo 53) :
    2 ^ 52 ≤ i * 2 ^ (52 - i.log2) ∧ i * 2 ^ (52 - i.log2) < 2 ^ 53 := by
  have hlog := log2_le hpos h
  have hlow : 2 ^ i.log2 ≤ i := Nat.log2_self_le hpos.ne'
  have hhigh : i < 2 ^ (i.log2 + 1) := Nat.lt_log2_self
  have hsplit : 2 ^ i.log2 * 2 ^ (52 - i.log2) = 2 ^ 52 := by
    rw [← Nat.pow_add]
    congr 1
    omega
  constructor
  · calc 2 ^ 52 = 2 ^ i.log2 * 2 ^ (52 - i.log2) := hsplit.symm
      _ ≤ i * 2 ^ (52 - i.log2) := Nat.mul_le_mul_right _ hlow
  · calc i * 2 ^ (52 - i.log2) < 2 ^ (i.log2 + 1) * 2 ^ (52 - i.log2) :=
          Nat.mul_lt_mul_of_pos_right hhigh (Nat.two_pow_pos _)
      _ = 2 * (2 ^ i.log2 * 2 ^ (52 - i.log2)) := by rw [Nat.pow_succ]; ring
      _ = 2 ^ 53 := by rw [hsplit, ← Nat.pow_succ']

theorem binaryOrder_ofNat (hpos : 0 < i) : binaryOrder i 1 = i.log2 := by
  have hle : 1 * twoTo (((i.log2 : Int) - Nat.log2 1).toNat)
      ≤ i * twoTo (-((i.log2 : Int) - Nat.log2 1)).toNat := by
    have hone : Nat.log2 1 = 0 := rfl
    rw [hone, Nat.cast_zero, sub_zero, Int.toNat_natCast,
      show (-(i.log2 : Int)).toNat = 0 by omega]
    show 1 * 2 ^ i.log2 ≤ i * 1
    rw [one_mul, mul_one]
    exact Nat.log2_self_le hpos.ne'
  unfold binaryOrder
  dsimp only
  rw [if_pos hle]
  show (i.log2 : Int) - (0 : Nat) = _
  omega

/-- The significand of a natural has its leading bit in the highest place. -/
theorem roundRatio_ofNat (hpos : 0 < i) (h : i < twoTo 53) :
    roundRatio i 1 = (i.log2 + 1022) * 2 ^ 52 + i * 2 ^ (52 - i.log2) := by
  have hlog := log2_le hpos h
  obtain ⟨hlow, hhigh⟩ := log2_bounds_scaled hpos h
  have hunit : max (binaryOrder i 1 - 52) leastExponent = (i.log2 : Int) - 52 := by
    rw [binaryOrder_ofNat hpos]
    unfold leastExponent
    omega
  have hexact : divideToEven (i * twoTo (52 - i.log2)) (1 * twoTo 0) = i * 2 ^ (52 - i.log2) := by
    show divideToEven (i * 2 ^ (52 - i.log2)) 1 = _
    exact divideToEven_eq (by decide) (by omega) (by omega) (by omega)
  unfold roundRatio
  rw [if_neg hpos.ne']
  dsimp only
  rw [hunit, show (-((i.log2 : Int) - 52)).toNat = 52 - i.log2 by omega,
    show ((i.log2 : Int) - 52).toNat = 0 by omega, hexact]
  unfold leastExponent infinityWord
  rw [show ((i.log2 : Int) - 52 - -1074).toNat = i.log2 + 1022 by omega, twoTo_52]
  omega

/-! ## Reading a natural back -/

theorem mantissa_shiftRight (em : ExtendedMantissa) (n : Nat) :
    (em >>> n).mantissa = em.mantissa / 2 ^ n := by
  show (n.repeat ExtendedMantissa.shiftRightOne em).mantissa = _
  induction n with
  | zero => exact (Nat.div_one _).symm
  | succ n ih =>
    show (n.repeat ExtendedMantissa.shiftRightOne em).mantissa / 2 = _
    rw [ih, Nat.div_div_eq_div_mul, Nat.pow_succ]

/-- Places behind the point are cut off. -/
theorem roundToInt_positive (m n : Nat) :
    roundToInt .positive m (-(n : Int)) = ((m / 2 ^ n : Nat) : Int) := by
  have hshift : (-(n : Int) - 0).toNat = 0 := by omega
  have hamount : (0 - (-(n : Int) - (0 : Nat))).toNat = n := by omega
  unfold roundToInt decreaseExponent shiftToExponent
  dsimp only
  rw [hshift, hamount, mantissa_shiftRight]
  rfl

/-- The bits of a finite number are kept as they are. -/
theorem unpack_ofBits {word : UInt64} (h : @unpackExponent .binary64 word.toBitVec ≠ -1#11) :
    (Float.ofBits word).toModel.unpack
      = assemble (Sign.ofBitVec (@unpackSign .binary64 word.toBitVec))
          (@unpackExponent .binary64 word.toBitVec) (@unpackMantissa .binary64 word.toBitVec) := by
  have hpack : UnpackedFloat.pack .binary64 (UnpackedFloat.unpack .binary64 word.toBitVec)
      = word.toBitVec :=
    (pack_assemble fun heq => absurd heq h).trans (packComponents_unpack _)
  show UnpackedFloat.unpack .binary64
    (UnpackedFloat.pack .binary64 (UnpackedFloat.unpack .binary64 word.toBitVec)) = _
  rw [hpack]
  rfl

section

variable {word : Nat} (h : word < 2 ^ 64)
include h

theorem toNat_toBitVec_ofNat : (UInt64.ofNat word).toBitVec.toNat = word := by
  show (BitVec.ofNat 64 word).toNat = word
  rw [BitVec.toNat_ofNat]
  omega

theorem toNat_unpackExponent :
    (@unpackExponent .binary64 (UInt64.ofNat word).toBitVec).toNat = word / 2 ^ 52 % 2 ^ 11 := by
  show (BitVec.extractLsb' 52 11 (UInt64.ofNat word).toBitVec).toNat = _
  rw [BitVec.extractLsb'_toNat, Nat.shiftRight_eq_div_pow, toNat_toBitVec_ofNat h]

theorem toNat_unpackMantissa :
    (@unpackMantissa .binary64 (UInt64.ofNat word).toBitVec).toNat = word % 2 ^ 52 := by
  show (BitVec.extractLsb' 0 52 (UInt64.ofNat word).toBitVec).toNat = _
  rw [BitVec.extractLsb'_toNat, Nat.shiftRight_zero, toNat_toBitVec_ofNat h]

theorem sign_of_lt (hlt : word < 2 ^ 63) :
    Sign.ofBitVec (@unpackSign .binary64 (UInt64.ofNat word).toBitVec) = .positive := by
  have hzero : @unpackSign .binary64 (UInt64.ofNat word).toBitVec = 0#1 := by
    apply BitVec.eq_of_toNat_eq
    show (BitVec.extractLsb' 63 1 (UInt64.ofNat word).toBitVec).toNat = 0
    rw [BitVec.extractLsb'_toNat, Nat.shiftRight_eq_div_pow, toNat_toBitVec_ofNat h,
      Nat.div_eq_of_lt hlt]
  rw [hzero]
  rfl

end

/-- A natural is read back from its number. -/
theorem toUInt64_ofInt (h : i < twoTo 53) : (ofInt i).toUInt64.toNat = i := by
  rcases Nat.eq_zero_or_pos i with rfl | hpos
  · rfl
  have hlog := log2_le hpos h
  obtain ⟨hlow, hhigh⟩ := log2_bounds_scaled hpos h
  have hbits : ofInt i = Float.ofBits (.ofNat (roundRatio i 1)) := by
    unfold ofInt withSign
    rw [Int.natAbs_natCast, if_neg (by simp)]
  have hword := roundRatio_ofNat hpos h
  generalize roundRatio i 1 = word at hbits hword
  generalize hm : i * 2 ^ (52 - i.log2) = m at hlow hhigh hword
  have hexponent := toNat_unpackExponent (show word < 2 ^ 64 by omega)
  have hmantissa := toNat_unpackMantissa (show word < 2 ^ 64 by omega)
  have hsign := sign_of_lt (show word < 2 ^ 64 by omega) (by omega)
  rw [show word / 2 ^ 52 % 2 ^ 11 = i.log2 + 1023 by omega] at hexponent
  rw [show word % 2 ^ 52 = m - 2 ^ 52 by omega] at hmantissa
  have hfinite : @unpackExponent .binary64 (UInt64.ofNat word).toBitVec ≠ -1#11 := by
    intro heq
    rw [heq] at hexponent
    change 2047 = _ at hexponent
    omega
  have hnormal : @unpackExponent .binary64 (UInt64.ofNat word).toBitVec ≠ 0#11 := by
    intro heq
    rw [heq] at hexponent
    change 0 = _ at hexponent
    omega
  show (UnpackedFloat.toUInt64 (ofInt i).toModel.unpack).toNat = i
  rw [hbits, unpack_ofBits hfinite, hsign, assemble, if_neg hfinite, if_neg hnormal]
  show (UInt64.ofNatClamp (roundToInt .positive _ _).toNat).toNat = i
  rw [leading_eq, hmantissa, hexponent,
    show ((i.log2 + 1023 : Nat) : Int) - (1023 + 52) = -((52 - i.log2 : Nat) : Int) by omega,
    roundToInt_positive, show 4503599627370496 + (m - 2 ^ 52) = m by omega, ← hm,
    Nat.mul_div_cancel _ (Nat.two_pow_pos _), Int.toNat_natCast]
  have hsize : i < UInt64.size := by
    rw [twoTo_53] at h
    show i < 18446744073709551616
    omega
  unfold UInt64.ofNatClamp
  rw [dif_pos hsize]
  exact UInt64.toNat_ofNatLT

end Binary64
end Exemplar
