/-
The word of a number.

A number is that of its word, and the word of one that is finite is given by its
sign, its significand and its exponent.  What is no number is one value.
-/
import Exemplar.Proofs.Rounding

namespace Exemplar
namespace Binary64

open Float.Model Float.Model.UnpackedFloat

theorem leading_eq (mantissa : BitVec 52) :
    (1#1 ++ mantissa).toNat = 4503599627370496 + mantissa.toNat := by
  rw [BitVec.toNat_append, ← Nat.shiftLeft_add_eq_or_of_lt mantissa.isLt]
  rfl

/-- What the three parts of a word stand for. -/
def assemble (sign : Sign) (exponent : BitVec 11) (mantissa : BitVec 52) : UnpackedFloat :=
  if exponent = -1#11 then if mantissa = 0#52 then .infinity sign else .notANumber
  else if exponent = 0#11 then
    if h : mantissa = 0#52 then .zero sign
    else .finite sign mantissa.toNat (exponent.toNat - (1023 + 52) + 1)
      (Nat.pos_of_ne_zero fun h' => h (BitVec.eq_of_toNat_eq h'))
  else .finite sign (1#1 ++ mantissa).toNat (exponent.toNat - (1023 + 52))
    (by rw [leading_eq]; omega)

theorem pack_assemble {sign : Sign} {exponent : BitVec 11} {mantissa : BitVec 52}
    (hnan : exponent = -1#11 → mantissa ≠ 0#52 →
      packComponents .binary64 sign exponent mantissa = packedNaN .binary64) :
    UnpackedFloat.pack .binary64 (assemble sign exponent mantissa)
      = packComponents .binary64 sign exponent mantissa := by
  have hlt := mantissa.isLt
  by_cases hexponent : exponent = -1#11
  · by_cases hmantissa : mantissa = 0#52
    · rw [assemble, if_pos hexponent, if_pos hmantissa, hexponent, hmantissa]
      rfl
    · rw [assemble, if_pos hexponent, if_neg hmantissa]
      exact (hnan hexponent hmantissa).symm
  by_cases hzero : exponent = 0#11
  · by_cases hmantissa : mantissa = 0#52
    · rw [assemble, if_neg hexponent, if_pos hzero, dif_pos hmantissa, hzero, hmantissa]
      rfl
    · have hlog : mantissa.toNat.log2 + 1 ≠ 53 := by
        have := (Nat.log2_lt fun h => hmantissa (BitVec.eq_of_toNat_eq h)).2 hlt
        omega
      rw [assemble, if_neg hexponent, if_pos hzero, dif_neg hmantissa, hzero,
        UnpackedFloat.pack.eq_def]
      dsimp only
      rw [if_neg (by decide), show Format.binary64.mantissaBits = 53 from rfl, if_neg hlog,
        BitVec.ofNat_toNat, BitVec.setWidth_eq]
  · have hmantissa := leading_eq mantissa
    have hlog : (1#1 ++ mantissa).toNat.log2 = 52 := by
      rw [hmantissa, Nat.log2_eq_iff (by omega)]
      norm_num
      omega
    have hbiased : ((exponent.toNat : Int) - (1023 + 52) + (1023 : Nat) + (52 : Nat)).toNat
        = exponent.toNat := by omega
    have htop : ¬ 2 ^ 11 ≤ exponent.toNat + 1 := by
      intro hle
      apply hexponent
      apply BitVec.eq_of_toNat_eq
      have := exponent.isLt
      show exponent.toNat = 2047
      omega
    have hkept : BitVec.ofNat 52 (1#1 ++ mantissa).toNat = mantissa := by
      apply BitVec.eq_of_toNat_eq
      rw [BitVec.toNat_ofNat, hmantissa]
      omega
    rw [assemble, if_neg hexponent, if_neg hzero, UnpackedFloat.pack.eq_def]
    dsimp only
    rw [show Format.binary64.exponentBias = 1023 from rfl, hbiased, hlog, if_neg htop,
      show Format.binary64.mantissaBits = 53 from rfl, if_pos rfl, hkept, BitVec.ofNat_toNat,
      BitVec.setWidth_eq]

/-- What has the greatest exponent is not finite, and everything else is. -/
theorem isFinite_assemble (sign : Sign) (exponent : BitVec 11) (mantissa : BitVec 52) :
    (assemble sign exponent mantissa).isFinite = true ↔ exponent ≠ -1#11 := by
  by_cases hexponent : exponent = -1#11
  · refine iff_of_false ?_ (not_not.2 hexponent)
    rw [assemble, if_pos hexponent]
    by_cases hmantissa : mantissa = 0#52
    · rw [if_pos hmantissa]
      exact Bool.false_ne_true
    · rw [if_neg hmantissa]
      exact Bool.false_ne_true
  · refine iff_of_true ?_ hexponent
    rw [assemble, if_neg hexponent]
    by_cases hzero : exponent = 0#11
    · rw [if_pos hzero]
      by_cases hmantissa : mantissa = 0#52
      · rw [dif_pos hmantissa]
        rfl
      · rw [dif_neg hmantissa]
        rfl
    · rw [if_neg hzero]
      rfl

/-- What has the greatest exponent and a mantissa is no number, and everything else is one. -/
theorem isNaN_assemble (sign : Sign) (exponent : BitVec 11) (mantissa : BitVec 52) :
    (assemble sign exponent mantissa).isNaN = true ↔ exponent = -1#11 ∧ mantissa ≠ 0#52 := by
  by_cases hexponent : exponent = -1#11
  · rw [assemble, if_pos hexponent]
    by_cases hmantissa : mantissa = 0#52
    · rw [if_pos hmantissa]
      exact iff_of_false Bool.false_ne_true fun h => h.2 hmantissa
    · rw [if_neg hmantissa]
      exact iff_of_true rfl ⟨hexponent, hmantissa⟩
  · refine iff_of_false ?_ fun h => hexponent h.1
    rw [assemble, if_neg hexponent]
    by_cases hzero : exponent = 0#11
    · rw [if_pos hzero]
      by_cases hmantissa : mantissa = 0#52
      · rw [dif_pos hmantissa]
        exact Bool.false_ne_true
      · rw [dif_neg hmantissa]
        exact Bool.false_ne_true
    · rw [if_neg hzero]
      exact Bool.false_ne_true

theorem unpackExponent_toNat (bits : UInt64) :
    (@unpackExponent .binary64 bits.toBitVec).toNat = bits.toNat / 4503599627370496 % 2048 := by
  show (BitVec.extractLsb' 52 11 bits.toBitVec).toNat = _
  rw [BitVec.extractLsb'_toNat, Nat.shiftRight_eq_div_pow]
  rfl

theorem unpackMantissa_toNat (bits : UInt64) :
    (@unpackMantissa .binary64 bits.toBitVec).toNat = bits.toNat % 4503599627370496 := by
  show (BitVec.extractLsb' 0 52 bits.toBitVec).toNat = _
  rw [BitVec.extractLsb'_toNat, Nat.shiftRight_eq_div_pow, Nat.pow_zero, Nat.div_one]
  rfl

theorem packComponents_unpack (b : BitVec 64) :
    packComponents .binary64 (Sign.ofBitVec (@unpackSign .binary64 b))
      (@unpackExponent .binary64 b) (@unpackMantissa .binary64 b) = b := by
  have hsign (s : BitVec 1) : (Sign.ofBitVec s).toBitVec = s := by
    revert s
    decide
  rw [packComponents, hsign]
  show BitVec.extractLsb' 63 1 b ++ BitVec.extractLsb' 52 11 b ++ BitVec.extractLsb' 0 52 b = b
  have h : BitVec.extractLsb' 63 1 b ++ BitVec.extractLsb' 52 11 b = BitVec.extractLsb' 52 12 b :=
    BitVec.extractLsb'_append_extractLsb'_eq_extractLsb' rfl
  rw [h]
  exact BitVec.extractLsb'_append_extractLsb'

/-- A number is that of its word. -/
theorem ofBits_toBits (x : Float) : Float.ofBits x.toBits = x := by
  obtain ⟨bits, hvalid⟩ := x
  have hpack : UnpackedFloat.pack .binary64 (UnpackedFloat.unpack .binary64 bits.toBitVec)
      = bits.toBitVec := by
    refine (pack_assemble fun hexponent hmantissa => ?_).trans (packComponents_unpack _)
    rw [packComponents_unpack]
    exact hvalid.eq_packedNaN hexponent hmantissa
  apply congrArg Float.ofModel
  have hbits : UInt64.ofBitVec (UnpackedFloat.pack .binary64
      (UnpackedFloat.unpack .binary64 bits.toBitVec)) = bits := by rw [hpack]
  show (⟨_, _⟩ : Float.Model) = _
  congr 1

theorem fields_spec {word : Nat} (h : word < infinityWord) :
    wordOf (fields word).1 (fields word).2 = word ∧
      (word = 0 ∨ IsNumber (fields word).1 (fields word).2) := by
  have hdiv := Nat.div_add_mod word (twoTo 52)
  have hmod := Nat.mod_lt word (twoTo_pos 52)
  unfold infinityWord at h
  unfold fields wordOf
  dsimp only
  rw [twoTo_52] at *
  split
  · rename_i hzero
    refine ⟨by dsimp only; omega, ?_⟩
    by_cases hword : word = 0
    · exact .inl hword
    · refine .inr ⟨?_, ?_, ?_, ?_, .inr rfl⟩ <;>
        simp only [twoTo_53, leastExponent] at * <;> omega
  · refine ⟨by simp only [leastExponent]; omega, .inr ⟨?_, ?_, ?_, ?_, .inl ?_⟩⟩ <;>
      simp only [twoTo_52, twoTo_53, leastExponent] at * <;> omega

/-- A number is that of its sign and its unsigned word. -/
theorem withSign_magnitude (x : Float) :
    withSign (decide (twoTo 63 ≤ x.toBits.toNat)) (x.toBits.toNat % twoTo 63) = x := by
  have hlt : x.toBits.toNat < 18446744073709551616 := x.toBits.toNat_lt
  have hnat : (if decide (twoTo 63 ≤ x.toBits.toNat) = true
      then twoTo 63 + x.toBits.toNat % twoTo 63 else x.toBits.toNat % twoTo 63)
        = x.toBits.toNat := by
    rw [twoTo_63]
    split
    · simp_all
      omega
    · simp_all
  unfold withSign
  rw [hnat, UInt64.ofNat_toNat, ofBits_toBits]

/-- A finite number is zero, or its significand and exponent are those of a number. -/
theorem parts_of_finite {x : Float} {negative : Bool} {m : Nat} {q : Int}
    (h : Parts.ofFloat x = .finite negative m q) :
    withSign negative (wordOf m q) = x ∧ (wordOf m q = 0 ∧ m = 0 ∨ IsNumber m q) := by
  unfold Parts.ofFloat Parts.ofWord at h
  dsimp only at h
  split at h
  · cases h
  split at h
  · cases h
  obtain ⟨rfl, rfl, rfl⟩ := Parts.finite.inj h
  have hmagnitude : x.toBits.toNat % twoTo 63 < infinityWord := by omega
  obtain ⟨hword, hnumber⟩ := fields_spec hmagnitude
  rw [hword]
  refine ⟨withSign_magnitude x, ?_⟩
  rcases hnumber with hzero | hnumber
  · rw [hzero]
    exact .inl ⟨rfl, rfl⟩
  · exact .inr hnumber

/-- An infinite number is that of the word of infinity. -/
theorem parts_of_infinite {x : Float} {negative : Bool} (h : Parts.ofFloat x = .infinite negative) :
    withSign negative infinityWord = x := by
  unfold Parts.ofFloat Parts.ofWord at h
  dsimp only at h
  split at h
  · cases h
  split at h
  · rename_i hword
    obtain rfl := Parts.infinite.inj h
    rw [← hword]
    exact withSign_magnitude x
  · cases h

/-- A finite number has no greater unsigned word than infinity has. -/
theorem isFinite_iff_lt (x : Float) :
    x.isFinite = true ↔ x.toBits.toNat % twoTo 63 < infinityWord := by
  obtain ⟨bits, -⟩ := x
  have hfinite : (UnpackedFloat.unpack .binary64 bits.toBitVec).isFinite = true
      ↔ @unpackExponent .binary64 bits.toBitVec ≠ -1#11 := by
    exact isFinite_assemble ..
  refine hfinite.trans ?_
  show _ ↔ bits.toNat % twoTo 63 < _
  rw [Ne, ← BitVec.toNat_inj, unpackExponent_toNat, twoTo_63, infinityWord, twoTo_52]
  show ¬ _ = 2047 ↔ _
  omega

/-- What is no number has a greater unsigned word than infinity has. -/
theorem isNaN_iff_lt (x : Float) :
    x.isNaN = true ↔ infinityWord < x.toBits.toNat % twoTo 63 := by
  obtain ⟨bits, -⟩ := x
  have hnan : (UnpackedFloat.unpack .binary64 bits.toBitVec).isNaN = true
      ↔ @unpackExponent .binary64 bits.toBitVec = -1#11 ∧
        @unpackMantissa .binary64 bits.toBitVec ≠ 0#52 := by
    exact isNaN_assemble ..
  refine hnan.trans ?_
  show _ ↔ _ < bits.toNat % twoTo 63
  rw [Ne, ← BitVec.toNat_inj, ← BitVec.toNat_inj, unpackExponent_toNat, unpackMantissa_toNat,
    twoTo_63, infinityWord, twoTo_52]
  show _ = 2047 ∧ ¬ _ = 0 ↔ _
  omega

/-- All that is no number is one value. -/
theorem eq_nan {x : Float} (h : x.isNaN = true) : x = nan := by
  obtain ⟨bits, hvalid⟩ := x
  obtain ⟨hexponent, hmantissa⟩ := (isNaN_assemble ..).1 h
  have hbits : bits.toBitVec = packedNaN .binary64 := hvalid.eq_packedNaN hexponent hmantissa
  have hnan : nan.toBits.toBitVec = packedNaN .binary64 := by decide +kernel
  rw [← ofBits_toBits nan, ← UInt64.toBitVec_inj.1 (hbits.trans hnan.symm)]
  exact (ofBits_toBits _).symm

theorem parts_eq_nan_iff {x : Float} : Parts.ofFloat x = .nan ↔ x.isNaN = true := by
  rw [isNaN_iff_lt]
  unfold Parts.ofFloat Parts.ofWord
  dsimp only
  split
  · exact iff_of_true rfl ‹_›
  · refine iff_of_false ?_ ‹_›
    split <;> exact nofun

theorem parts_of_isFinite {x : Float} (h : x.isFinite = true) :
    ∃ negative m q, Parts.ofFloat x = .finite negative m q := by
  have hlt := (isFinite_iff_lt x).1 h
  unfold Parts.ofFloat Parts.ofWord
  dsimp only
  rw [if_neg (by omega), if_neg (by omega)]
  exact ⟨_, _, _, rfl⟩

theorem isFinite_of_parts {x : Float} {negative : Bool} {m : Nat} {q : Int}
    (h : Parts.ofFloat x = .finite negative m q) : x.isFinite = true := by
  rw [isFinite_iff_lt]
  unfold Parts.ofFloat Parts.ofWord at h
  dsimp only at h
  split at h
  · cases h
  split at h
  · cases h
  omega

end Binary64
end Exemplar
