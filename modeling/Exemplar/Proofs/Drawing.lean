/-
What a generator draws.

The state is a word that wraps and is never reduced, but its lowest 31 bits depend on
nothing above them, and only they are handed out.  So the values are those of the
generator modulo `2 ^ 31`, of which every state lies on one cycle: the multiplier leaves
one when it is divided by four and the increment is odd, so `2 ^ k` steps add an odd
multiple of `2 ^ k`.
-/
import Exemplar.Learning.Generator
import Mathlib.Data.Int.ModEq
import Mathlib.Data.List.Iterate
import Mathlib.Dynamics.PeriodicPts.Lemmas
import Mathlib.Tactic.LinearCombination
import Mathlib.Tactic.Ring

namespace Exemplar
namespace Generator

open Function

/-! ## Steps of an affine map -/

/-- Twice as many steps are the steps taken twice, which doubles the power of two and keeps the
other factor odd. -/
theorem iterate_two_pow {a c : ℤ} (ha : a % 4 = 1) (hc : c % 2 = 1) (k : ℕ) :
    ∃ t s : ℤ, ∀ x,
      (fun y => a * y + c)^[2 ^ k] x = x + 2 ^ k * (2 * (2 * t * x + s) + 1) := by
  induction k with
  | zero =>
    have ha' := Int.mul_ediv_add_emod a 4
    have hc' := Int.mul_ediv_add_emod c 2
    rw [ha] at ha'
    rw [hc] at hc'
    refine ⟨a / 4, c / 2, fun x => ?_⟩
    show a * x + c = _
    linear_combination -x * ha' - hc'
  | succ k ih =>
    obtain ⟨t, s, h⟩ := ih
    refine ⟨t * (1 + 2 ^ (k + 1) * t), s + 2 ^ k * t * (2 * s + 1), fun x => ?_⟩
    rw [pow_succ, mul_two, iterate_add_apply, h, h]
    ring

/-! ## The cycle -/

/-- The value after another one. -/
def following (x : ℕ) : ℕ := (1103515245 * x + 12345) % 2 ^ 31

theorem following_lt (x : ℕ) : following x < 2 ^ 31 := Nat.mod_lt _ (by decide)

theorem iterate_following_lt {x : ℕ} (hx : x < 2 ^ 31) (n : ℕ) : following^[n] x < 2 ^ 31 := by
  cases n with
  | zero => exact hx
  | succ n =>
    rw [iterate_succ_apply']
    exact following_lt _

/-- It is all the same whether every step is reduced or only the last one. -/
theorem iterate_following_modEq (x n : ℕ) : ((following^[n] x : ℕ) : ℤ)
    ≡ (fun y : ℤ => 1103515245 * y + 12345)^[n] x [ZMOD 2 ^ 31] := by
  induction n with
  | zero => exact Int.ModEq.refl _
  | succ n ih =>
    have hcast : ((following (following^[n] x) : ℕ) : ℤ)
        = (1103515245 * (following^[n] x : ℕ) + 12345) % 2 ^ 31 := by
      unfold following
      push_cast
      rfl
    rw [iterate_succ_apply', iterate_succ_apply', hcast]
    exact (Int.mod_modEq _ _).trans ((ih.mul_left _).add_right _)

theorem isPeriodicPt_following_iff {x : ℕ} (hx : x < 2 ^ 31) (n : ℕ) :
    IsPeriodicPt following n x ↔
      (2 ^ 31 : ℤ) ∣ (fun y : ℤ => 1103515245 * y + 12345)^[n] x - x := by
  have hmod := iterate_following_modEq x n
  rw [← Int.modEq_iff_dvd]
  constructor
  · intro hperiodic
    have heq : following^[n] x = x := hperiodic
    rwa [heq] at hmod
  · intro hsame
    have hnat : following^[n] x ≡ x [MOD 2 ^ 31] := by
      exact_mod_cast hmod.trans hsame.symm
    exact hnat.eq_of_lt_of_lt (iterate_following_lt hx n) hx

/-- From any value it takes all of them to come back. -/
theorem minimalPeriod_following {x : ℕ} (hx : x < 2 ^ 31) :
    minimalPeriod following x = 2 ^ 31 := by
  have : Fact (Nat.Prime 2) := ⟨Nat.prime_two⟩
  have hsteps := @iterate_two_pow 1103515245 12345 (by decide) (by decide)
  apply minimalPeriod_eq_prime_pow (k := 30)
  · obtain ⟨t, s, h⟩ := hsteps 30
    rw [isPeriodicPt_following_iff hx, h]
    omega
  · obtain ⟨t, s, h⟩ := hsteps 31
    rw [isPeriodicPt_following_iff hx, h, add_sub_cancel_left]
    exact Dvd.intro _ rfl

theorem iterate_following_inj {x y : ℕ} (hx : x < 2 ^ 31) (hy : y < 2 ^ 31) {n : ℕ}
    (h : following^[n] x = following^[n] y) : x = y := by
  have hperiodic {z : ℕ} (hz : z < 2 ^ 31) : IsPeriodicPt following^[n] (2 ^ 31) z := by
    rw [← minimalPeriod_following hz]
    exact (isPeriodicPt_minimalPeriod following z).iterate n
  exact (hperiodic hx).eq_of_apply_eq_same (hperiodic hy) (by decide) h

/-- One turn of the cycle meets every value once. -/
theorem count_cycle {x v : ℕ} (hx : x < 2 ^ 31) (hv : v < 2 ^ 31) :
    (List.iterate following x (2 ^ 31)).count v = 1 := by
  have hnodup : (List.iterate following x (2 ^ 31)).Nodup := by
    rw [← List.range_map_iterate, ← minimalPeriod_following hx]
    exact nodup_periodicOrbit
  have hsubset : List.iterate following x (2 ^ 31) ⊆ List.range (2 ^ 31) := by
    intro y hy
    obtain ⟨i, -, rfl⟩ := List.mem_iterate.1 hy
    exact List.mem_range.2 (iterate_following_lt hx i)
  have hperm := (List.subperm_of_subset hnodup hsubset).perm_of_length_le (by
    rw [List.length_range, List.length_iterate])
  rw [hperm.count_eq]
  exact List.count_eq_one_of_mem List.nodup_range (List.mem_range.2 hv)

/-! ## Words -/

/-- What the generator goes on from. -/
def residue (g : Generator) : ℕ := g.state.toBitVec.toNat % 2 ^ 31

theorem residue_lt (g : Generator) : g.residue < 2 ^ 31 := Nat.mod_lt _ (by decide)

/-- A word that wraps keeps its lowest bits as they would be without wrapping. -/
theorem residue_next (g : Generator) : g.next.2.residue = following g.residue := by
  show (g.state * multiplier + increment).toBitVec.toNat % 2 ^ 31 = _
  rw [Int64.toBitVec_add, Int64.toBitVec_mul, BitVec.toNat_add, BitVec.toNat_mul]
  show (g.state.toBitVec.toNat * 1103515245 % 2 ^ 64 + 12345) % 2 ^ 64 % 2 ^ 31 = _
  unfold residue following
  omega

theorem toInt_next (g : Generator) : g.next.1.toInt = following g.residue := by
  have hbits : g.next.1.toBitVec.toNat = following g.residue := by
    show (g.next.2.state &&& (modulus - 1)).toBitVec.toNat = _
    rw [Int64.toBitVec_and, BitVec.toNat_and, ← residue_next]
    exact Nat.and_two_pow_sub_one_eq_mod _ 31
  have hlt := following_lt g.residue
  rw [← Int64.toInt_toBitVec, BitVec.toInt_eq_toNat_of_lt (by omega), hbits]

/-- The absolute value of a seed as a word.  That of the least seed does not fit and wraps. -/
theorem toInt_abs (seed : Int64) :
    seed.abs.toInt = if seed.toInt = -2 ^ 63 then -2 ^ 63 else (seed.toInt.natAbs : ℤ) := by
  have hleast : seed.toBitVec = BitVec.intMin 64 ↔ seed.toInt = -2 ^ 63 := by
    rw [← BitVec.toInt_inj, Int64.toInt_toBitVec]
    rfl
  rw [← Int64.toInt_toBitVec, Int64.toBitVec_abs, BitVec.toInt_abs_eq_natAbs,
    Int64.toInt_toBitVec]
  simp only [hleast]
  rfl

theorem residue_ofSeed (seed : Int64) : (ofSeed seed).residue = seed.toInt.natAbs % 2 ^ 31 := by
  have hstate : (ofSeed seed).state.toInt = seed.toInt.natAbs % 2 ^ 31 := by
    show (seed.abs % modulus).toInt = _
    rw [Int64.toInt_mod, toInt_abs]
    show Int.tmod _ (2 ^ 31) = _
    by_cases hleast : seed.toInt = -2 ^ 63
    · rw [if_pos hleast, hleast]
      rfl
    · rw [if_neg hleast]
      exact Int.tmod_eq_emod_of_nonneg (Int.natCast_nonneg _)
  have hword := BitVec.toInt_eq_toNat_cond (ofSeed seed).state.toBitVec
  have hlt := (ofSeed seed).state.toBitVec.isLt
  rw [Int64.toInt_toBitVec, hstate] at hword
  unfold residue
  omega

/-! ## Draws -/

theorem draw_succ (n : ℕ) (g : Generator) : draw next (n + 1) g
    = (g.next.1 :: (draw next n g.next.2).1, (draw next n g.next.2).2) := rfl

theorem map_toInt_draw (n : ℕ) (g : Generator) : (draw next n g).1.map Int64.toInt
    = (List.iterate following (following g.residue) n).map Nat.cast := by
  induction n generalizing g with
  | zero => rfl
  | succ n ih =>
    rw [draw_succ, List.map_cons, ih, toInt_next, residue_next, List.iterate, List.map_cons]

theorem toInt_of_mem_draw {n : ℕ} {v : Int64} (h : v ∈ (draw next n g).1) :
    ∃ x < 2 ^ 31, v.toInt = (x : ℕ) := by
  have hmem := List.mem_map_of_mem (f := Int64.toInt) h
  rw [map_toInt_draw] at hmem
  obtain ⟨x, hx, heq⟩ := List.mem_map.1 hmem
  obtain ⟨i, -, rfl⟩ := List.mem_iterate.1 hx
  exact ⟨_, iterate_following_lt (following_lt _) i, heq.symm⟩

/-- What is drawn tells the residue from the first value on, in whichever place it stands. -/
theorem forall₂_draw_ne {g g' : Generator} (h : g.residue ≠ g'.residue) (n : ℕ) :
    List.Forall₂ (· ≠ ·) (draw next n g).1 (draw next n g').1 := by
  induction n generalizing g g' with
  | zero => exact .nil
  | succ n ih =>
    have hnext : g.next.2.residue ≠ g'.next.2.residue := by
      rw [residue_next, residue_next]
      exact fun heq => h (iterate_following_inj (n := 1) g.residue_lt g'.residue_lt heq)
    rw [draw_succ, draw_succ]
    refine .cons (fun heq => hnext ?_) (ih hnext)
    have hvalue := congrArg Int64.toInt heq
    rw [toInt_next, toInt_next] at hvalue
    rw [residue_next, residue_next]
    exact_mod_cast hvalue

theorem draw_eq_iff {g g' : Generator} :
    (∀ n, (draw next n g).1 = (draw next n g').1) ↔ g.residue = g'.residue := by
  constructor
  · intro h
    by_contra hne
    have hdiffer := forall₂_draw_ne hne 1
    rw [h 1, draw_succ] at hdiffer
    cases hdiffer with
    | cons hfirst _ => exact hfirst rfl
  · intro h n
    apply List.map_injective_iff.2 fun _ _ => Int64.toInt_inj.1
    rw [map_toInt_draw, map_toInt_draw, h]

/-- Wherever the generator is, as many draws as there are values bring each of them once. -/
theorem count_draw {v : Int64} (hlow : 0 ≤ v.toInt) (hhigh : v.toInt < 2 ^ 31) (g : Generator) :
    (draw next (2 ^ 31) g).1.count v = 1 := by
  obtain ⟨x, hx⟩ := Int.eq_ofNat_of_zero_le hlow
  have hcount := List.count_map_of_injective (draw next (2 ^ 31) g).1 Int64.toInt
    (fun _ _ => Int64.toInt_inj.1) v
  rw [← hcount, map_toInt_draw, hx, List.count_map_of_injective _ _ Nat.cast_injective]
  exact count_cycle (following_lt _) (by omega)

/-- Number `n` of the sequence modulo `2 ^ 31` that starts with the given number. -/
def sequence (start : ℕ) : ℕ → ℕ
  | 0 => start % 2 ^ 31
  | n + 1 => (1103515245 * sequence start n + 12345) % 2 ^ 31

theorem sequence_eq_iterate (start n : ℕ) :
    sequence start n = following^[n] (start % 2 ^ 31) := by
  induction n with
  | zero => rfl
  | succ n ih =>
    rw [iterate_succ_apply', ← ih]
    rfl

/-- The values that are drawn from a seed are those of the sequence that starts with its absolute
value, each of them below the modulus.  Two seeds whose absolute values agree modulo `2 ^ 31` draw
the same values, and any others differ in every place.  Wherever the generator is, as many draws as
there are values bring each of them once. -/
theorem draws_follow_sequence (seed : Int64) :
    (∀ n, (draw next n (ofSeed seed)).1.map Int64.toInt
      = (List.range n).map fun i => (sequence seed.toInt.natAbs (i + 1) : ℤ)) ∧
    (∀ n, ∀ v ∈ (draw next n (ofSeed seed)).1, 0 ≤ v.toInt ∧ v.toInt < 2 ^ 31) ∧
    (∀ other : Int64,
      ((∀ n, (draw next n (ofSeed seed)).1 = (draw next n (ofSeed other)).1) ↔
        seed.toInt.natAbs ≡ other.toInt.natAbs [MOD 2 ^ 31]) ∧
      (¬ seed.toInt.natAbs ≡ other.toInt.natAbs [MOD 2 ^ 31] →
        ∀ n, List.Forall₂ (· ≠ ·) (draw next n (ofSeed seed)).1
          (draw next n (ofSeed other)).1)) ∧
    ∀ n, ∀ v : Int64, 0 ≤ v.toInt → v.toInt < 2 ^ 31 →
      (draw next (2 ^ 31) (draw next n (ofSeed seed)).2).1.count v = 1 := by
  have hresidue (other : Int64) : (ofSeed seed).residue = (ofSeed other).residue ↔
      seed.toInt.natAbs ≡ other.toInt.natAbs [MOD 2 ^ 31] := by
    rw [residue_ofSeed, residue_ofSeed]
    rfl
  refine ⟨fun n => ?_, fun n v hv => ?_, fun other => ⟨?_, fun hne n => ?_⟩, ?_⟩
  · rw [map_toInt_draw, residue_ofSeed, ← List.range_map_iterate, List.map_map]
    refine List.map_congr_left fun i _ => ?_
    rw [sequence_eq_iterate, iterate_succ_apply]
    rfl
  · obtain ⟨x, hx, heq⟩ := toInt_of_mem_draw hv
    omega
  · rw [draw_eq_iff, hresidue]
  · exact forall₂_draw_ne (fun h => hne ((hresidue other).1 h)) n
  · exact fun n v hlow hhigh => count_draw hlow hhigh _

/-- The least seed, whose absolute value is a multiple of the modulus, draws what zero draws. -/
theorem least_seed_draws_like_zero :
    (draw next 3 (ofSeed Int64.minValue)).1 = (draw next 3 (ofSeed 0)).1 ∧
      (draw next (2 ^ 31) (draw next 3 (ofSeed Int64.minValue)).2).1.count 12345 = 1 := by
  obtain ⟨-, -, hsame, hcycle⟩ := draws_follow_sequence Int64.minValue
  exact ⟨(hsame 0).1.2 (by decide) 3, hcycle 3 12345 (by decide) (by decide)⟩

end Generator
end Exemplar
