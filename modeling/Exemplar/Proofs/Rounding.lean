/-
What rounds to a number.

A finite number stands for `m * 2 ^ q`.  A ratio of naturals rounds to it if it
lies between the midpoints to the two neighbours, and the midpoints themselves
do if `m` is even.  So the word that a ratio is rounded to depends only on the
rational that it stands for.
-/
import Exemplar.Decimal.Binary64
import Mathlib.Algebra.Order.Field.Power
import Mathlib.Tactic.FieldSimp
import Mathlib.Tactic.Linarith
import Mathlib.Tactic.NormNum
import Mathlib.Tactic.Positivity
import Mathlib.Tactic.Ring

namespace Exemplar

theorem cast_twoTo (n : Nat) : (twoTo n : ℚ) = 2 ^ n := by
  rw [twoTo, Nat.pow_eq, Nat.cast_pow, Nat.cast_ofNat]

theorem cast_tenTo (n : Nat) : (tenTo n : ℚ) = 10 ^ n := by
  rw [tenTo, Nat.pow_eq, Nat.cast_pow, Nat.cast_ofNat]

/-- A power with an integer for exponent is a ratio of powers with naturals for exponents. -/
theorem zpow_eq_div {b : ℚ} (hb : b ≠ 0) (i : Int) : b ^ i = b ^ i.toNat / b ^ (-i).toNat := by
  rw [← zpow_natCast, ← zpow_natCast, ← zpow_sub₀ hb]
  congr 1
  omega

theorem two_zpow_eq (i : Int) : (2 : ℚ) ^ i = twoTo i.toNat / twoTo (-i).toNat := by
  rw [cast_twoTo, cast_twoTo, zpow_eq_div (by decide)]

theorem ten_zpow_eq (i : Int) : (10 : ℚ) ^ i = tenTo i.toNat / tenTo (-i).toNat := by
  rw [cast_tenTo, cast_tenTo, zpow_eq_div (by decide)]

theorem cast_twoTo_pos (n : Nat) : (0 : ℚ) < twoTo n := Nat.cast_pos.2 (twoTo_pos n)

theorem cast_tenTo_pos (n : Nat) : (0 : ℚ) < tenTo n := Nat.cast_pos.2 (tenTo_pos n)

namespace Binary64

/-! ## Rounding to a natural -/

/-- What lies within a half of a natural is rounded to it; a half goes to even naturals only. -/
theorem divideToEven_eq {num den k : Nat} (hden : 0 < den)
    (hlow : 2 * k * den ≤ 2 * num + den) (hhigh : 2 * num ≤ 2 * k * den + den)
    (htie : 2 * k * den = 2 * num + den ∨ 2 * num = 2 * k * den + den → k % 2 = 0) :
    divideToEven num den = k := by
  have hnum := Nat.div_add_mod num den
  have hrem := Nat.mod_lt num hden
  unfold divideToEven
  generalize num / den = quotient at *
  generalize num % den = rest at *
  subst hnum
  have hupper : k ≤ quotient + 1 := by
    by_contra h
    have := Nat.mul_le_mul_right den (show quotient + 2 ≤ k by omega)
    nlinarith
  have hlower : quotient ≤ k := by
    by_contra h
    have := Nat.mul_le_mul_right den (show k + 1 ≤ quotient by omega)
    nlinarith
  rcases (show k = quotient ∨ k = quotient + 1 by omega) with rfl | rfl
  · rw [if_neg]
    have hcomm : k * den = den * k := Nat.mul_comm ..
    rintro (h | ⟨h, hodd⟩)
    · nlinarith
    · have := htie (.inr (by nlinarith))
      omega
  · rw [if_pos]
    have hcomm : quotient * den = den * quotient := Nat.mul_comm ..
    rcases Nat.lt_or_ge den (2 * rest) with h | h
    · exact .inl h
    · have heq : 2 * rest = den := by nlinarith
      have := htie (.inl (by nlinarith))
      exact .inr ⟨heq, by omega⟩

theorem divideToEven_ratio {num den k : Nat} (hden : 0 < den)
    (hlow : (k : ℚ) - 1 / 2 ≤ num / den) (hhigh : (num : ℚ) / den ≤ k + 1 / 2)
    (htie : (k : ℚ) - 1 / 2 = num / den ∨ (num : ℚ) / den = k + 1 / 2 → k % 2 = 0) :
    divideToEven num den = k := by
  have hpos : (0 : ℚ) < den := Nat.cast_pos.2 hden
  rw [le_div_iff₀ hpos] at hlow
  rw [div_le_iff₀ hpos] at hhigh
  rw [eq_div_iff hpos.ne', div_eq_iff hpos.ne'] at htie
  refine divideToEven_eq hden ?_ ?_ ?_
  · rw [← Nat.cast_le (α := ℚ)]
    push_cast
    linarith
  · rw [← Nat.cast_le (α := ℚ)]
    push_cast
    linarith
  · rintro (h | h)
    · refine htie (.inl ?_)
      have h' := congrArg (Nat.cast : ℕ → ℚ) h
      push_cast at h'
      linarith
    · refine htie (.inr ?_)
      have h' := congrArg (Nat.cast : ℕ → ℚ) h
      push_cast at h'
      linarith

/-! ## The order of a ratio -/

theorem log2_bounds {n : Nat} (h : 0 < n) : (2 : ℚ) ^ (n.log2 : Int) ≤ n ∧
    (n : ℚ) < 2 ^ ((n.log2 : Int) + 1) := by
  constructor
  · rw [zpow_natCast]
    exact_mod_cast Nat.log2_self_le (by omega)
  · rw [← Nat.cast_succ, zpow_natCast]
    exact_mod_cast Nat.lt_log2_self

theorem binaryOrder_bounds {num den : Nat} (hnum : 0 < num) (hden : 0 < den) :
    (2 : ℚ) ^ binaryOrder num den ≤ num / den ∧
      (num : ℚ) / den < 2 ^ (binaryOrder num den + 1) := by
  have hpos : (0 : ℚ) < den := Nat.cast_pos.2 hden
  obtain ⟨hlow, hhigh⟩ := log2_bounds hnum
  obtain ⟨hlow', hhigh'⟩ := log2_bounds hden
  have hupper : (num : ℚ) / den < 2 ^ ((num.log2 : Int) - den.log2 + 1) := by
    rw [div_lt_iff₀ hpos]
    calc (num : ℚ) < 2 ^ ((num.log2 : Int) + 1) := hhigh
      _ = 2 ^ ((num.log2 : Int) - den.log2 + 1) * 2 ^ (den.log2 : Int) := by
        rw [← zpow_add₀ (by decide)]
        congr 1
        omega
      _ ≤ 2 ^ ((num.log2 : Int) - den.log2 + 1) * den := by gcongr
  have hlower : (2 : ℚ) ^ ((num.log2 : Int) - den.log2 - 1) ≤ num / den := by
    rw [le_div_iff₀ hpos]
    calc (2 : ℚ) ^ ((num.log2 : Int) - den.log2 - 1) * den
        ≤ 2 ^ ((num.log2 : Int) - den.log2 - 1) * 2 ^ ((den.log2 : Int) + 1) := by gcongr
      _ = 2 ^ (num.log2 : Int) := by
        rw [← zpow_add₀ (by decide)]
        congr 1
        omega
      _ ≤ num := hlow
  unfold binaryOrder
  generalize (num.log2 : Int) - den.log2 = guess at *
  have hguess : den * twoTo guess.toNat ≤ num * twoTo (-guess).toNat ↔
      (2 : ℚ) ^ guess ≤ num / den := by
    rw [two_zpow_eq, div_le_div_iff₀ (cast_twoTo_pos _) hpos, mul_comm den]
    exact_mod_cast Iff.rfl
  dsimp only
  split
  · exact ⟨hguess.1 ‹_›, hupper⟩
  · refine ⟨hlower, ?_⟩
    rw [sub_add_cancel]
    exact not_le.1 (mt hguess.2 ‹_›)

theorem binaryOrder_eq {num den : Nat} {e : Int} (hnum : 0 < num) (hden : 0 < den)
    (hlow : (2 : ℚ) ^ e ≤ num / den) (hhigh : (num : ℚ) / den < 2 ^ (e + 1)) :
    binaryOrder num den = e := by
  obtain ⟨hlow', hhigh'⟩ := binaryOrder_bounds hnum hden
  have h := (zpow_lt_zpow_iff_right₀ (show (1 : ℚ) < 2 by norm_num)).1 (hlow'.trans_lt hhigh)
  have h' := (zpow_lt_zpow_iff_right₀ (show (1 : ℚ) < 2 by norm_num)).1 (hlow.trans_lt hhigh')
  omega

theorem binaryOrder_lt {num den : Nat} {e : Int} (hnum : 0 < num) (hden : 0 < den)
    (hhigh : (num : ℚ) / den < 2 ^ e) : binaryOrder num den < e :=
  (zpow_lt_zpow_iff_right₀ (show (1 : ℚ) < 2 by norm_num)).1
    ((binaryOrder_bounds hnum hden).1.trans_lt hhigh)

/-! ## The numbers that are not zero -/

/-- The significand and the exponent of a finite number other than zero. -/
structure IsNumber (m : Nat) (q : Int) : Prop where
  pos : 0 < m
  lt : m < twoTo 53
  least : leastExponent ≤ q
  most : q ≤ 971
  normal : twoTo 52 ≤ m ∨ q = leastExponent

/-- How far the lower midpoint is from a number, in quarters of its last place.  Below a power of
two the neighbour is half as far away. -/
def quartersBelow (m : Nat) (q : Int) : Nat := if m = twoTo 52 ∧ q ≠ leastExponent then 1 else 2

/-- A rational that is rounded to a number. -/
structure Rounds (m : Nat) (q : Int) (x : ℚ) : Prop where
  low : (m - quartersBelow m q / 4 : ℚ) * 2 ^ q ≤ x
  high : x ≤ (m + 1 / 2 : ℚ) * 2 ^ q
  even : (m - quartersBelow m q / 4 : ℚ) * 2 ^ q = x ∨ x = (m + 1 / 2 : ℚ) * 2 ^ q → m % 2 = 0

/-- The word of a finite number without its sign. -/
def wordOf (m : Nat) (q : Int) : Nat := (q - leastExponent).toNat * twoTo 52 + m

theorem twoTo_52 : twoTo 52 = 4503599627370496 := rfl

theorem twoTo_53 : twoTo 53 = 9007199254740992 := rfl

theorem twoTo_63 : twoTo 63 = 9223372036854775808 := rfl

variable {m : Nat} {q : Int} {x : ℚ}

theorem IsNumber.wordOf_lt (h : IsNumber m q) : wordOf m q < infinityWord := by
  have hlt := h.lt
  have hmost := h.most
  unfold wordOf infinityWord leastExponent
  rw [twoTo_52]
  rw [twoTo_53] at hlt
  omega

theorem IsNumber.quartersBelow_le (h : IsNumber m q) : (quartersBelow m q : ℚ) ≤ 2 * m := by
  have hpos : (1 : ℚ) ≤ m := Nat.one_le_cast.2 h.pos
  unfold quartersBelow
  split
  · push_cast
    linarith
  · push_cast
    linarith

/-- The significand that a ratio is rounded to in units of `2 ^ q`. -/
theorem divideToEven_scaled {num den k : Nat} (hden : 0 < den)
    (hlow : (k - 1 / 2 : ℚ) * 2 ^ q ≤ num / den) (hhigh : (num : ℚ) / den ≤ (k + 1 / 2) * 2 ^ q)
    (htie : (k - 1 / 2 : ℚ) * 2 ^ q = num / den ∨ (num : ℚ) / den = (k + 1 / 2) * 2 ^ q →
      k % 2 = 0) :
    divideToEven (num * twoTo (-q).toNat) (den * twoTo q.toNat) = k := by
  have hunit : (0 : ℚ) < 2 ^ q := zpow_pos (by norm_num) q
  have hden' : (den : ℚ) ≠ 0 := Nat.cast_ne_zero.2 hden.ne'
  have hscaled : ((num * twoTo (-q).toNat : Nat) : ℚ) / (den * twoTo q.toNat : Nat)
      = num / den / 2 ^ q := by
    have hup := (cast_twoTo_pos q.toNat).ne'
    have hdown := (cast_twoTo_pos (-q).toNat).ne'
    rw [two_zpow_eq q]
    push_cast
    field_simp
  refine divideToEven_ratio (Nat.mul_pos hden (twoTo_pos _)) ?_ ?_ ?_
  · rwa [hscaled, le_div_iff₀ hunit]
  · rwa [hscaled, div_le_iff₀ hunit]
  · rwa [hscaled, eq_div_iff hunit.ne', div_eq_iff hunit.ne']

/-- The word of what has order `q + 52` or less, or of what is rounded in units of `2 ^ q`. -/
theorem roundRatio_of_unit {num den k : Nat} (hnum : 0 < num)
    (hunit : max (binaryOrder num den - 52) leastExponent = q)
    (hsignificand : divideToEven (num * twoTo (-q).toNat) (den * twoTo q.toNat) = k)
    (hword : wordOf k q < infinityWord) : roundRatio num den = wordOf k q := by
  unfold roundRatio
  rw [if_neg hnum.ne']
  dsimp only
  rw [hunit, hsignificand]
  exact Nat.min_eq_left hword.le

theorem Rounds.pos (h : IsNumber m q) (hx : Rounds m q x) : 0 < x := by
  have hunit : (0 : ℚ) < 2 ^ q := zpow_pos (by norm_num) q
  have hposm : (1 : ℚ) ≤ m := Nat.one_le_cast.2 h.pos
  have hquarters : (quartersBelow m q : ℚ) ≤ 2 := by
    unfold quartersBelow
    split <;> norm_num
  exact lt_of_lt_of_le (mul_pos (by linarith) hunit) hx.low

theorem Rounds.lt (h : IsNumber m q) (hx : Rounds m q x) : x < 2 ^ (q + 53) := by
  have hunit : (0 : ℚ) < 2 ^ q := zpow_pos (by norm_num) q
  have hltm : (m : ℚ) + 1 ≤ 2 ^ (53 : Int) := by
    have := h.lt
    rw [twoTo_53] at this
    exact_mod_cast this
  refine hx.high.trans_lt ?_
  rw [add_comm q, zpow_add₀ (by norm_num)]
  gcongr
  linarith

/-- What is not below the power of two is at least a half of the last place below the number. -/
theorem Rounds.half_below (hx : Rounds m q x)
    (h : quartersBelow m q = 2 ∨ (m : ℚ) * 2 ^ q ≤ x) :
    (m - 1 / 2 : ℚ) * 2 ^ q ≤ x ∧ ((m - 1 / 2 : ℚ) * 2 ^ q = x → m % 2 = 0) := by
  have hunit : (0 : ℚ) < 2 ^ q := zpow_pos (by norm_num) q
  rcases h with h | h
  · have hquarters : (m - quartersBelow m q / 4 : ℚ) = m - 1 / 2 := by
      rw [h]
      norm_num
    rw [← hquarters]
    exact ⟨hx.low, fun heq => hx.even (.inl heq)⟩
  · have hlt : (m - 1 / 2 : ℚ) * 2 ^ q < m * 2 ^ q := by
      gcongr
      linarith
    exact ⟨hlt.le.trans h, fun heq => absurd (heq ▸ hlt) (not_lt.2 h)⟩

theorem roundRatio_of_half_below {num den : Nat} (hden : 0 < den) (hnum : 0 < num)
    (h : IsNumber m q) (hx : Rounds m q (num / den))
    (hunit : max (binaryOrder num den - 52) leastExponent = q)
    (hbelow : quartersBelow m q = 2 ∨ (m : ℚ) * 2 ^ q ≤ num / den) :
    roundRatio num den = wordOf m q := by
  obtain ⟨hlow, heven⟩ := hx.half_below hbelow
  refine roundRatio_of_unit hnum hunit (divideToEven_scaled hden hlow hx.high ?_) h.wordOf_lt
  rintro (heq | heq)
  · exact heven heq
  · exact hx.even (.inr heq)

/-- A ratio is rounded to the number between whose midpoints it lies. -/
theorem roundRatio_eq {num den : Nat} (hden : 0 < den) (h : IsNumber m q)
    (hx : Rounds m q (num / den)) : roundRatio num den = wordOf m q := by
  have hunit : (0 : ℚ) < 2 ^ q := zpow_pos (by norm_num) q
  have hnum : 0 < num := by
    rcases Nat.eq_zero_or_pos num with rfl | hnum
    · simpa using hx.pos h
    · exact hnum
  have horder := binaryOrder_lt hnum hden (hx.lt h)
  by_cases hleast : q = leastExponent
  · refine roundRatio_of_half_below hden hnum h hx (by omega) (.inl ?_)
    simp [quartersBelow, hleast]
  have hpower : (2 : ℚ) ^ (q + 52) = 4503599627370496 * 2 ^ q := by
    rw [add_comm, zpow_add₀ (by norm_num)]
    norm_num
  have hm : twoTo 52 ≤ m := h.normal.resolve_right hleast
  rw [twoTo_52] at hm
  have hm' : (4503599627370496 : ℚ) ≤ m := by exact_mod_cast hm
  have hq := h.least
  by_cases habove : (2 : ℚ) ^ (q + 52) ≤ num / den
  · have heq := binaryOrder_eq hnum hden habove (by
      rw [add_assoc]
      exact hx.lt h)
    refine roundRatio_of_half_below hden hnum h hx (by omega) ?_
    by_cases hmin : m = twoTo 52
    · right
      rw [hmin, twoTo_52, Nat.cast_ofNat, ← hpower]
      exact habove
    · left
      simp [quartersBelow, hmin]
  -- Just below a power of two the last place is half as large, and the significand is rounded up
  -- to the next power.
  · have hmin : m = twoTo 52 := by
      by_contra hne
      have hgt : (4503599627370496 : ℚ) + 1 ≤ m := by
        rw [twoTo_52] at hne
        exact_mod_cast (show 4503599627370496 + 1 ≤ m by omega)
      have hlow := (hx.half_below (.inl (by simp [quartersBelow, hne]))).1
      refine habove (le_trans ?_ hlow)
      rw [hpower]
      gcongr
      linarith
    have hlow := hx.low
    have hquarters : quartersBelow m q = 1 := by simp [quartersBelow, hmin, hleast]
    have hhalf : (2 : ℚ) ^ (q - 1) = 2 ^ q / 2 := by
      rw [zpow_sub₀ (by norm_num)]
      norm_num
    rw [hquarters, hmin, twoTo_52] at hlow
    push_cast at hlow
    rw [not_le, hpower] at habove
    have heq : binaryOrder num den = q + 51 := by
      refine binaryOrder_eq hnum hden ?_ ?_
      · refine le_trans ?_ hlow
        rw [add_comm, zpow_add₀ (by norm_num)]
        gcongr
        norm_num
      · rw [add_assoc]
        exact habove.trans_eq hpower.symm
    have hsignificand : divideToEven (num * twoTo (-(q - 1)).toNat) (den * twoTo (q - 1).toNat)
        = twoTo 53 := by
      refine divideToEven_scaled hden ?_ ?_ fun _ => by rw [twoTo_53]
      · rw [hhalf, twoTo_53]
        push_cast
        linarith
      · rw [hhalf, twoTo_53]
        push_cast
        linarith
    have hword : wordOf (twoTo 53) (q - 1) = wordOf m q := by
      unfold wordOf leastExponent at *
      rw [hmin, twoTo_52, twoTo_53]
      omega
    have hlt := h.wordOf_lt
    rw [← hword] at hlt ⊢
    exact roundRatio_of_unit hnum (by unfold leastExponent at *; omega) hsignificand hlt

end Binary64
end Exemplar
