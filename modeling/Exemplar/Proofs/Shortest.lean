/-
The shortest decimal of a number rounds to it.

Any point of a decimal grid that is found for a number lies between the number's
midpoints.  With seventeen digits the steps of the grid are smaller than the
distance of the midpoints, so one of the two points next to the number is found.
-/
import Exemplar.Decimal.Shortest
import Exemplar.Proofs.Rounding

namespace Exemplar

open Binary64

namespace Decimal

variable {m : Nat} {q : Int} {x : ℚ}

/-- The rational that a decimal stands for. -/
def value (d : Decimal) : ℚ := d.digits * 10 ^ d.exponent

/-! ## The interval of a number -/

theorem quarter_eq (q : Int) : (2 : ℚ) ^ (q - 2) = 2 ^ q / 4 := by
  rw [zpow_sub₀ (by norm_num)]
  norm_num

theorem scale_pos (m : Nat) (q : Int) : 0 < (Interval.of m q).scale := twoTo_pos _

theorem ratio_eq (n : Nat) (m : Nat) (q : Int) :
    ((n * twoTo (q - 2).toNat : Nat) : ℚ) / (Interval.of m q).scale = n / 4 * 2 ^ q := by
  have hscale : (Interval.of m q).scale = twoTo (-(q - 2)).toNat := by
    rw [neg_sub]
    rfl
  rw [hscale, Nat.cast_mul, mul_div_assoc, ← two_zpow_eq, quarter_eq]
  ring

theorem low_eq (h : IsNumber m q) : ((Interval.of m q).low : ℚ) / (Interval.of m q).scale
    = (m - quartersBelow m q / 4 : ℚ) * 2 ^ q := by
  have hle : quartersBelow m q ≤ 4 * m := by
    have := h.pos
    unfold quartersBelow
    split <;> omega
  have hlow : (Interval.of m q).low = (4 * m - quartersBelow m q) * twoTo (q - 2).toNat := rfl
  rw [hlow, ratio_eq, Nat.cast_sub hle]
  push_cast
  ring

theorem value_eq (m : Nat) (q : Int) :
    ((Interval.of m q).value : ℚ) / (Interval.of m q).scale = m * 2 ^ q := by
  have hvalue : (Interval.of m q).value = 4 * m * twoTo (q - 2).toNat := rfl
  rw [hvalue, ratio_eq]
  push_cast
  ring

theorem high_eq (m : Nat) (q : Int) :
    ((Interval.of m q).high : ℚ) / (Interval.of m q).scale = (m + 1 / 2) * 2 ^ q := by
  have hhigh : (Interval.of m q).high = (4 * m + 2) * twoTo (q - 2).toNat := rfl
  rw [hhigh, ratio_eq]
  push_cast
  ring

theorem aboveLow_iff {num den : Nat} (h : IsNumber m q) (hden : 0 < den) :
    (Interval.of m q).aboveLow num den = true ↔
      (m - quartersBelow m q / 4 : ℚ) * 2 ^ q ≤ num / den ∧
        ((m - quartersBelow m q / 4 : ℚ) * 2 ^ q = num / den → m % 2 = 0) := by
  have hden' : (0 : ℚ) < den := Nat.cast_pos.2 hden
  have hscale : (0 : ℚ) < (Interval.of m q).scale := Nat.cast_pos.2 (scale_pos m q)
  have hclosed : (Interval.of m q).closed = decide (m % 2 = 0) := rfl
  rw [← low_eq h, Interval.aboveLow, hclosed]
  by_cases heven : m % 2 = 0
  · rw [decide_eq_true heven, if_pos rfl, decide_eq_true_eq, div_le_div_iff₀ hscale hden']
    simp only [heven, implies_true, and_true]
    exact_mod_cast Iff.rfl
  · rw [decide_eq_false heven, if_neg (by decide), decide_eq_true_eq]
    simp only [heven]
    refine Iff.trans ?_ lt_iff_le_and_ne
    rw [div_lt_div_iff₀ hscale hden']
    exact_mod_cast Iff.rfl

theorem belowHigh_iff {num den : Nat} (hden : 0 < den) :
    (Interval.of m q).belowHigh num den = true ↔
      (num : ℚ) / den ≤ (m + 1 / 2) * 2 ^ q ∧
        ((num : ℚ) / den = (m + 1 / 2) * 2 ^ q → m % 2 = 0) := by
  have hden' : (0 : ℚ) < den := Nat.cast_pos.2 hden
  have hscale : (0 : ℚ) < (Interval.of m q).scale := Nat.cast_pos.2 (scale_pos m q)
  have hclosed : (Interval.of m q).closed = decide (m % 2 = 0) := rfl
  rw [← high_eq, Interval.belowHigh, hclosed]
  by_cases heven : m % 2 = 0
  · rw [decide_eq_true heven, if_pos rfl, decide_eq_true_eq, div_le_div_iff₀ hden' hscale]
    simp only [heven, implies_true, and_true]
    exact_mod_cast Iff.rfl
  · rw [decide_eq_false heven, if_neg (by decide), decide_eq_true_eq]
    simp only [heven]
    refine Iff.trans ?_ lt_iff_le_and_ne
    rw [div_lt_div_iff₀ hden' hscale]
    exact_mod_cast Iff.rfl

/-! ## Points of a grid -/

theorem rounds_of_le (hx : x ≤ m * 2 ^ q)
    (hlow : (m - quartersBelow m q / 4 : ℚ) * 2 ^ q ≤ x ∧
      ((m - quartersBelow m q / 4 : ℚ) * 2 ^ q = x → m % 2 = 0)) : Rounds m q x := by
  have hunit : (0 : ℚ) < 2 ^ q := zpow_pos (by norm_num) q
  have hlt : (m : ℚ) * 2 ^ q < (m + 1 / 2) * 2 ^ q := by
    gcongr
    linarith
  refine ⟨hlow.1, hx.trans hlt.le, ?_⟩
  rintro (heq | heq)
  · exact hlow.2 heq
  · exact absurd (hx.trans_lt hlt) (heq ▸ lt_irrefl _)

theorem rounds_of_ge (hx : m * 2 ^ q ≤ x)
    (hhigh : x ≤ (m + 1 / 2 : ℚ) * 2 ^ q ∧ (x = (m + 1 / 2 : ℚ) * 2 ^ q → m % 2 = 0)) :
    Rounds m q x := by
  have hunit : (0 : ℚ) < 2 ^ q := zpow_pos (by norm_num) q
  have hquarters : (0 : ℚ) < quartersBelow m q := by
    unfold quartersBelow
    split <;> norm_num
  have hlt : (m - quartersBelow m q / 4 : ℚ) * 2 ^ q < m * 2 ^ q := by
    gcongr
    linarith
  refine ⟨hlt.le.trans hx, hhigh.1, ?_⟩
  rintro (heq | heq)
  · exact absurd (hlt.trans_le hx) (heq ▸ lt_irrefl _)
  · exact hhigh.2 heq

theorem grid_eq (n : Nat) (unit : Int) :
    ((n * tenTo unit.toNat : Nat) : ℚ) / tenTo (-unit).toNat = n * 10 ^ unit := by
  rw [Nat.cast_mul, mul_div_assoc, ← ten_zpow_eq]

/-- The point of the grid at or below a number. -/
def floorPoint (r : Interval) (unit : Int) : Nat :=
  r.value * tenTo (-unit).toNat / (r.scale * tenTo unit.toNat)

theorem floorPoint_bounds (m : Nat) (q unit : Int) :
    (floorPoint (.of m q) unit : ℚ) * 10 ^ unit ≤ m * 2 ^ q ∧
      (m : ℚ) * 2 ^ q < (floorPoint (.of m q) unit + 1 : Nat) * 10 ^ unit := by
  have hscale : (0 : ℚ) < (Interval.of m q).scale := Nat.cast_pos.2 (scale_pos m q)
  have hup := cast_tenTo_pos unit.toNat
  have hdown := cast_tenTo_pos (-unit).toNat
  have hpos : 0 < (Interval.of m q).scale * tenTo unit.toNat :=
    Nat.mul_pos (scale_pos m q) (tenTo_pos _)
  have hle := Nat.div_mul_le_self ((Interval.of m q).value * tenTo (-unit).toNat)
    ((Interval.of m q).scale * tenTo unit.toNat)
  have hlt := Nat.lt_div_mul_add hpos (a := (Interval.of m q).value * tenTo (-unit).toNat)
  rw [← floorPoint] at hle hlt
  rw [← value_eq, ← grid_eq, ← grid_eq, div_le_div_iff₀ hdown hscale, div_lt_div_iff₀ hscale hdown]
  constructor
  · norm_cast
    linarith
  · norm_cast
    linarith

theorem gridPoint?_eq (r : Interval) (tie : Tie) (unit : Int) (n : Nat)
    (h : r.gridPoint? tie unit = some n) :
    (n = floorPoint r unit ∧ r.aboveLow (n * tenTo unit.toNat) (tenTo (-unit).toNat) = true) ∨
      (n = floorPoint r unit + 1 ∧
        r.belowHigh (n * tenTo unit.toNat) (tenTo (-unit).toNat) = true) := by
  unfold Interval.gridPoint? at h
  have hfloor : r.value * tenTo (-unit).toNat / (r.scale * tenTo unit.toNat)
    = floorPoint r unit := rfl
  dsimp only at h
  rw [hfloor] at h
  split at h
  · rename_i hlower hupper
    have hchoice (up : Bool) (heq : (if up then floorPoint r unit + 1 else floorPoint r unit) = n) :
        n = floorPoint r unit ∨ n = floorPoint r unit + 1 := by
      cases up <;> simp_all
    rcases hchoice _ (Option.some_inj.1 h) with rfl | rfl
    · exact .inl ⟨rfl, hlower⟩
    · exact .inr ⟨rfl, hupper⟩
  · rename_i hlower _
    rw [Option.some_inj] at h
    exact .inl ⟨h.symm, h ▸ hlower⟩
  · rename_i _ hupper
    rw [Option.some_inj] at h
    exact .inr ⟨h.symm, h ▸ hupper⟩
  · cases h

theorem gridPoint?_rounds {tie : Tie} {unit : Int} {n : Nat} (h : IsNumber m q)
    (hpoint : (Interval.of m q).gridPoint? tie unit = some n) :
    Rounds m q (n * 10 ^ unit) := by
  obtain ⟨hle, hlt⟩ := floorPoint_bounds m q unit
  rcases gridPoint?_eq _ _ _ _ hpoint with ⟨rfl, hlower⟩ | ⟨rfl, hupper⟩
  · rw [aboveLow_iff h (tenTo_pos _), grid_eq] at hlower
    exact rounds_of_le hle hlower
  · rw [belowHigh_iff (tenTo_pos _), grid_eq] at hupper
    exact rounds_of_ge hlt.le hupper

/-- A grid with steps of at most the sixteenth power of ten below the number has a point for it. -/
theorem gridPoint?_isSome (tie : Tie) {unit : Int} (h : IsNumber m q)
    (hstep : (10 : ℚ) ^ unit * 10 ^ 16 ≤ m * 2 ^ q) :
    ((Interval.of m q).gridPoint? tie unit).isSome = true := by
  have hunit : (0 : ℚ) < 2 ^ q := zpow_pos (by norm_num) q
  by_contra hnone
  have hneither : (Interval.of m q).aboveLow (floorPoint (.of m q) unit * tenTo unit.toNat)
      (tenTo (-unit).toNat) ≠ true ∧
      (Interval.of m q).belowHigh ((floorPoint (.of m q) unit + 1) * tenTo unit.toNat)
        (tenTo (-unit).toNat) ≠ true := by
    have hfloor : (Interval.of m q).value * tenTo (-unit).toNat
        / ((Interval.of m q).scale * tenTo unit.toNat) = floorPoint (.of m q) unit := rfl
    unfold Interval.gridPoint? at hnone
    dsimp only at hnone
    rw [hfloor] at hnone
    split at hnone <;> simp_all
  rw [Ne, aboveLow_iff h (tenTo_pos _), grid_eq, Ne, belowHigh_iff (tenTo_pos _), grid_eq]
    at hneither
  obtain ⟨hlower, hupper⟩ := hneither
  have hlow : (floorPoint (.of m q) unit : ℚ) * 10 ^ unit
      ≤ (m - quartersBelow m q / 4 : ℚ) * 2 ^ q := by
    by_contra hlt
    rw [not_le] at hlt
    exact hlower ⟨hlt.le, fun heq => absurd hlt (heq ▸ lt_irrefl _)⟩
  have hhigh : (m + 1 / 2 : ℚ) * 2 ^ q
      ≤ (floorPoint (.of m q) unit + 1 : Nat) * 10 ^ unit := by
    by_contra hlt
    rw [not_le] at hlt
    exact hupper ⟨hlt.le, fun heq => absurd hlt (heq ▸ lt_irrefl _)⟩
  have hwidth : (1 / 2 + quartersBelow m q / 4 : ℚ) * 2 ^ q ≤ 10 ^ unit := by
    push_cast at hhigh
    linarith
  have hm : (1 / 2 + quartersBelow m q / 4 : ℚ) * 10 ^ 16 ≤ m := by
    refine le_of_mul_le_mul_right ?_ hunit
    linarith
  have hlt := h.lt
  unfold quartersBelow at hm
  split at hm
  · rename_i hmin
    rw [hmin.1, twoTo_52] at hm
    norm_num at hm
  · rw [twoTo_53] at hlt
    norm_num at hm
    omega

/-! ## The order of a number -/

/-- The order that is found is not too large, if it is not so after the last step. -/
theorem decimalOrder_le {value scale fuel : Nat} {k : Int} (hscale : 0 < scale)
    (h : (10 : ℚ) ^ (k - fuel) ≤ value / scale) :
    (10 : ℚ) ^ decimalOrder value scale fuel k ≤ value / scale := by
  have hscale' : (0 : ℚ) < scale := Nat.cast_pos.2 hscale
  induction fuel generalizing k with
  | zero => simpa [decimalOrder] using h
  | succ fuel ih =>
    unfold decimalOrder
    split
    · rename_i hle
      rw [ten_zpow_eq, div_le_div_iff₀ (cast_tenTo_pos _) hscale', mul_comm]
      exact_mod_cast hle
    · apply ih
      rwa [sub_sub, add_comm 1, ← Nat.cast_succ]

/-- Eight steps below the bound that goes with a binary order. -/
def lastTried (twos : Int) : Int := (twos * 1233).fdiv 4096 + 1 - (8 : Nat)

theorem lastTried_le : ∀ n : Nat, n < 2200 → tenTo (lastTried ((n : Int) - 1100)).toNat
    * twoTo (-((n : Int) - 1100 - 2)).toNat
      ≤ twoTo ((n : Int) - 1100 - 2).toNat * tenTo (-lastTried ((n : Int) - 1100)).toNat := by
  decide +kernel

theorem orderBound_le {value scale : Nat} (hvalue : 0 < value) (hscale : 0 < scale)
    (hlow : (2 : ℚ) ^ (-1075 : Int) ≤ value / scale)
    (hhigh : (value : ℚ) / scale < 2 ^ (1025 : Int)) :
    (10 : ℚ) ^ (orderBound value scale - (8 : Nat)) ≤ value / scale := by
  have hscale' : (0 : ℚ) < scale := Nat.cast_pos.2 hscale
  obtain ⟨hv, hv'⟩ := log2_bounds hvalue
  obtain ⟨hs, hs'⟩ := log2_bounds hscale
  have hless : (2 : ℚ) ^ ((value.log2 : Int) + 1 - scale.log2 - 2) ≤ value / scale := by
    rw [le_div_iff₀ hscale']
    calc (2 : ℚ) ^ ((value.log2 : Int) + 1 - scale.log2 - 2) * scale
        ≤ 2 ^ ((value.log2 : Int) + 1 - scale.log2 - 2) * 2 ^ ((scale.log2 : Int) + 1) := by gcongr
      _ = 2 ^ (value.log2 : Int) := by
        rw [← zpow_add₀ (by norm_num)]
        congr 1
        omega
      _ ≤ value := hv
  have hmore : (value : ℚ) / scale < 2 ^ ((value.log2 : Int) + 1 - scale.log2) := by
    rw [div_lt_iff₀ hscale']
    calc (value : ℚ) < 2 ^ ((value.log2 : Int) + 1) := hv'
      _ = 2 ^ ((value.log2 : Int) + 1 - scale.log2) * 2 ^ (scale.log2 : Int) := by
        rw [← zpow_add₀ (by norm_num)]
        congr 1
        omega
      _ ≤ 2 ^ ((value.log2 : Int) + 1 - scale.log2) * scale := by gcongr
  unfold orderBound
  dsimp only
  generalize (value.log2 : Int) + 1 - scale.log2 = twos at *
  have htwos : -1075 < twos :=
    (zpow_lt_zpow_iff_right₀ (show (1 : ℚ) < 2 by norm_num)).1 (hlow.trans_lt hmore)
  have htwos' : twos - 2 < 1025 :=
    (zpow_lt_zpow_iff_right₀ (show (1 : ℚ) < 2 by norm_num)).1 (hless.trans_lt hhigh)
  refine le_trans ?_ hless
  have hspec := lastTried_le (twos + 1100).toNat (by omega)
  rw [show (((twos + 1100).toNat : Nat) : Int) - 1100 = twos by omega] at hspec
  rw [← lastTried, ten_zpow_eq, two_zpow_eq, div_le_div_iff₀ (cast_tenTo_pos _) (cast_twoTo_pos _)]
  exact_mod_cast hspec

/-! ## The shortest decimal -/

theorem IsNumber.range (h : IsNumber m q) :
    (2 : ℚ) ^ (-1075 : Int) ≤ m * 2 ^ q ∧ (m : ℚ) * 2 ^ q < 2 ^ (1024 : Int) := by
  have hpos : (1 : ℚ) ≤ m := Nat.one_le_cast.2 h.pos
  have hlt : (m : ℚ) < 2 ^ (53 : Int) := by
    have := h.lt
    rw [twoTo_53] at this
    exact_mod_cast this
  have hleast := h.least
  have hmost := h.most
  unfold leastExponent at hleast
  constructor
  · calc (2 : ℚ) ^ (-1075 : Int) ≤ 1 * 2 ^ q := by
          rw [one_mul]
          exact zpow_le_zpow_right₀ (by norm_num) (by omega)
      _ ≤ m * 2 ^ q := by gcongr
  · calc (m : ℚ) * 2 ^ q < 2 ^ (53 : Int) * 2 ^ q := by gcongr
      _ = 2 ^ (53 + q) := (zpow_add₀ (by norm_num) _ _).symm
      _ ≤ 2 ^ (1024 : Int) := zpow_le_zpow_right₀ (by norm_num) (by omega)

theorem firstPoint_rounds (tie : Tie) {order : Int} (h : IsNumber m q)
    (horder : (10 : ℚ) ^ order ≤ m * 2 ^ q) :
    ∃ d, firstPoint (.of m q) tie order = some d ∧ Rounds m q d.value := by
  have hsome : (firstPoint (.of m q) tie order).isSome = true := by
    unfold firstPoint
    rw [List.findSome?_isSome_iff]
    refine ⟨16, by simp, ?_⟩
    rw [Option.isSome_map]
    refine gridPoint?_isSome tie h ?_
    rwa [← zpow_natCast, ← zpow_add₀ (by norm_num), Nat.cast_ofNat, sub_add_cancel]
  obtain ⟨d, hd⟩ := Option.isSome_iff_exists.1 hsome
  refine ⟨d, hd, ?_⟩
  unfold firstPoint at hd
  obtain ⟨k, -, hk⟩ := List.exists_of_findSome?_eq_some hd
  obtain ⟨n, hn, rfl⟩ := Option.map_eq_some_iff.1 hk
  exact gridPoint?_rounds h hn

theorem carryTen_value (d : Decimal) : d.carryTen.value = d.value := by
  unfold carryTen
  split
  · rename_i h
    unfold value
    rw [h, zpow_add₀ (by norm_num)]
    push_cast
    ring
  · rfl

/-- The shortest decimal of a number rounds to it. -/
theorem shortest_rounds (tie : Tie) (h : IsNumber m q) : Rounds m q (shortest tie m q).value := by
  obtain ⟨hlow, hhigh⟩ := IsNumber.range h
  have hvalue : 0 < (Interval.of m q).value :=
    Nat.mul_pos (Nat.mul_pos (by decide) h.pos) (twoTo_pos _)
  unfold shortest
  rw [if_neg h.pos.ne']
  dsimp only
  have horder : (10 : ℚ) ^ decimalOrder (Interval.of m q).value (Interval.of m q).scale 8
      (orderBound (Interval.of m q).value (Interval.of m q).scale) ≤ m * 2 ^ q := by
    rw [← value_eq] at hlow hhigh ⊢
    refine decimalOrder_le (scale_pos m q) (orderBound_le hvalue (scale_pos m q) hlow ?_)
    exact hhigh.trans_le (zpow_le_zpow_right₀ (by norm_num) (by omega))
  obtain ⟨d, hd, hrounds⟩ := firstPoint_rounds tie h horder
  rw [hd, Option.map_some, Option.getD_some, carryTen_value]
  exact hrounds

end Decimal
end Exemplar
