/-
Numbers are read back from their texts.

The text of a finite number holds its shortest decimal, with the point or the
exponent where the style has it, so the decimal that is read is another spelling
of the same rational, and that rounds to the number.
-/
import Exemplar.Proofs.Digits
import Exemplar.Proofs.Shortest
import Exemplar.Proofs.Words

namespace Exemplar

open Binary64

namespace Decimal

/-! ## Decimals in a style -/

/-- What a style may put around digits so that they can be read. -/
structure Style.IsReadable (style : Style) : Prop where
  ending : style.wholeEnding = [] ∨ style.wholeEnding = ['.', '0']
  plus : style.exponentPlus = [] ∨ style.exponentPlus = ['+']

/-- A text is read as a decimal of the same value. -/
def Spells (text : List Char) (d : Decimal) : Prop :=
  ∃ read : Decimal, readUnsigned? text = some (read.digits, read.exponent) ∧ read.value = d.value

theorem Spells.of_read {text : List Char} {n : Nat} {e : Int} {d : Decimal}
    (hread : readUnsigned? text = some (n, e)) (hvalue : value ⟨n, e⟩ = d.value) : Spells text d :=
  ⟨⟨n, e⟩, hread, hvalue⟩

theorem value_shift (n : Nat) (e : Int) (k : Nat) :
    value ⟨n * 10 ^ k, e⟩ = value ⟨n, e + k⟩ := by
  unfold value
  rw [zpow_add₀ (by norm_num), zpow_natCast]
  push_cast
  ring

theorem spells_positional {ending : List Char} (hending : ending = [] ∨ ending = ['.', '0'])
    (d : Decimal) :
    Spells (positional ending (natDigits d.digits)
      (d.exponent + (natDigits d.digits).length)) d := by
  have hdigits (c : Char) (h : c ∈ natDigits d.digits) : c.isDigit = true :=
    isDigit_of_mem_natDigits h
  have hzeros (n : Nat) (c : Char) (h : c ∈ List.replicate n '0') : c.isDigit = true := by
    rw [(List.mem_replicate.1 h).2]
    rfl
  have hne := natDigits_ne_nil d.digits
  have hvalue := natOfDigits_natDigits d.digits
  generalize hds : natDigits d.digits = ds at *
  have hlength : 0 < ds.length := List.length_pos_iff.2 hne
  unfold positional
  split
  · rename_i hpoint
    have hread := readUnsigned?_point ['0'] (List.replicate
      (-(d.exponent + ds.length)).toNat '0' ++ ds) (by simp) (by simp) (by
        intro c hc
        exact (List.mem_append.1 hc).elim (hzeros _ c) (hdigits c)) Scale.none
    refine ⟨d, ?_, rfl⟩
    rw [List.append_nil] at hread
    refine hread.trans ?_
    rw [natOfDigits_append, natOfDigits_append, natOfDigits_zeros, hvalue]
    simp only [List.length_append, List.length_replicate]
    congr 2
    · simp [natOfDigits]
    · omega
  split
  · rename_i hpoint hle
    have hwhole : ∀ c ∈ ds ++ List.replicate ((d.exponent + ds.length).toNat - ds.length) '0',
        c.isDigit = true := by
      intro c hc
      exact (List.mem_append.1 hc).elim (hdigits c) (hzeros _ c)
    have hshift : value ⟨d.digits * 10 ^ ((d.exponent + ds.length).toNat - ds.length), 0⟩
        = d.value := by
      rw [value_shift]
      congr 2
      omega
    rcases hending with rfl | rfl
    · refine .of_read (readUnsigned?_whole (by simp [hne]) hwhole .none) ?_
      rw [natOfDigits_append, natOfDigits_zeros, hvalue, List.length_replicate, Nat.add_zero]
      exact hshift
    · refine .of_read
        (readUnsigned?_point _ ['0'] (by simp [hne]) hwhole (List.all_eq_true.1 rfl) .none) ?_
      rw [natOfDigits_append, natOfDigits_append, natOfDigits_zeros, hvalue, List.length_replicate,
        Nat.add_zero]
      rw [← hshift]
      exact value_shift _ _ 1
  · rename_i hpoint hlt
    have hread := readUnsigned?_point (ds.take (d.exponent + ds.length).toNat)
      (ds.drop (d.exponent + ds.length).toNat) (by
        rw [Ne, List.take_eq_nil_iff]
        exact fun h => h.elim (by omega) hne) (fun c hc => hdigits c (List.mem_of_mem_take hc))
        (fun c hc => hdigits c (List.mem_of_mem_drop hc)) Scale.none
    refine ⟨d, ?_, rfl⟩
    rw [List.append_nil] at hread
    refine hread.trans ?_
    rw [List.take_append_drop, hvalue, List.length_drop]
    congr 2
    omega

theorem spells_scientific {plus : List Char} (hplus : plus = [] ∨ plus = ['+']) (d : Decimal) :
    Spells (scientific plus (natDigits d.digits)
      (d.exponent + (natDigits d.digits).length - 1)) d := by
  have hdigits (c : Char) (h : c ∈ natDigits d.digits) : c.isDigit = true :=
    isDigit_of_mem_natDigits h
  have hvalue := natOfDigits_natDigits d.digits
  obtain ⟨first, rest, hds⟩ := List.exists_cons_of_ne_nil (natDigits_ne_nil d.digits)
  rw [hds] at hdigits hvalue ⊢
  generalize horder : d.exponent + ((first :: rest).length : Nat) - 1 = order
  rw [List.length_cons] at horder
  have hpower : readInt? ((if order < 0 then [] else plus) ++ intDigits order) = some order := by
    split
    · exact readInt?_intDigits order
    · rcases hplus with rfl | rfl
      · exact readInt?_intDigits order
      · exact readInt?_plus (not_lt.1 ‹_›)
  have hfirst : ∀ c ∈ [first], c.isDigit = true := by simpa using hdigits first List.mem_cons_self
  have hrest (c : Char) (h : c ∈ rest) : c.isDigit = true := hdigits c (List.mem_cons_of_mem _ h)
  cases rest with
  | nil =>
    have hform : scientific plus [first] order
        = [first] ++ 'e' :: ((if order < 0 then [] else plus) ++ intDigits order) := rfl
    rw [hform]
    refine .of_read (readUnsigned?_whole (by simp) hfirst (.power hpower)) ?_
    rw [hvalue]
    congr 2
    simp only [List.length_nil] at horder
    omega
  | cons second more =>
    have hform : scientific plus (first :: second :: more) order = [first] ++ '.' ::
        ((second :: more) ++ 'e' :: ((if order < 0 then [] else plus) ++ intDigits order)) := by
      simp [scientific]
    rw [hform]
    refine .of_read (readUnsigned?_point [first] (second :: more) (by simp) hfirst hrest
      (.power hpower)) ?_
    rw [List.singleton_append, hvalue]
    congr 2
    omega

theorem spells_magnitude {style : Style} (h : style.IsReadable) (d : Decimal) :
    Spells (style.magnitude d) d := by
  unfold Style.magnitude
  dsimp only
  split
  · rw [sub_add_cancel]
    exact spells_positional h.ending d
  · exact spells_scientific h.plus d

/-! ## The word that is read -/

variable {m : Nat} {q : Int}

theorem order_bounds {digits : Nat} (h : digits ≠ 0) (exponent : Int) :
    (10 : ℚ) ^ (exponent + (Nat.toDigits 10 digits).length - 1) ≤ value ⟨digits, exponent⟩ ∧
      value ⟨digits, exponent⟩ < 10 ^ (exponent + (Nat.toDigits 10 digits).length) := by
  have hlength := Nat.length_toDigits_pos (b := 10) (n := digits)
  have hhigh : digits < 10 ^ (Nat.toDigits 10 digits).length :=
    (Nat.length_toDigits_le_iff (by decide) hlength).1 le_rfl
  have hlow : 10 ^ ((Nat.toDigits 10 digits).length - 1) ≤ digits := by
    by_cases hone : (Nat.toDigits 10 digits).length = 1
    · rw [hone]
      exact Nat.one_le_iff_ne_zero.2 h
    · refine not_lt.1 fun hlt => ?_
      have := (Nat.length_toDigits_le_iff (by decide) (by omega)).2 hlt
      omega
  generalize (Nat.toDigits 10 digits).length = length at *
  obtain ⟨less, rfl⟩ : ∃ less, length = less + 1 := ⟨length - 1, by omega⟩
  have hpower : (0 : ℚ) < 10 ^ exponent := zpow_pos (by norm_num) _
  unfold value
  constructor
  · rw [show exponent + ((less + 1 : Nat) : Int) - 1 = (less : Int) + exponent by omega,
      zpow_add₀ (by norm_num), zpow_natCast]
    gcongr
    exact_mod_cast hlow
  · rw [add_comm exponent, zpow_add₀ (by norm_num), zpow_natCast]
    gcongr
    exact_mod_cast hhigh

theorem two_pow_le : 2 ^ 1024 ≤ 10 ^ 309 ∧ 2 * 2 ^ 1075 ≤ 10 ^ 330 := by decide +kernel

/-- Whatever decimal rounds to a number, its word is read. -/
theorem decimalWord_eq {digits : Nat} {exponent : Int} (h : IsNumber m q)
    (hrounds : Rounds m q (value ⟨digits, exponent⟩)) :
    decimalWord digits exponent = wordOf m q := by
  have hpos := hrounds.pos h
  have hne : digits ≠ 0 := by
    rintro rfl
    simp [value] at hpos
  obtain ⟨hlow, hhigh⟩ := order_bounds hne exponent
  have hsmall : (10 : ℚ) ^ (-330 : Int) ≤ value ⟨digits, exponent⟩ := by
    obtain ⟨hleast, -⟩ := IsNumber.range h
    have hunit : (0 : ℚ) < 2 ^ q := zpow_pos (by norm_num) q
    have hhalf := h.quartersBelow_le
    have hbelow : (m : ℚ) * 2 ^ q / 2 ≤ value ⟨digits, exponent⟩ := by
      refine le_trans ?_ hrounds.low
      rw [mul_div_right_comm]
      gcongr
      linarith
    refine le_trans ?_ hbelow
    refine le_trans ?_ (div_le_div_of_nonneg_right hleast (by norm_num))
    rw [zpow_neg, zpow_neg, le_div_iff₀ (by norm_num), inv_mul_le_iff₀ (by positivity),
      ← div_eq_mul_inv, le_div_iff₀ (by positivity)]
    exact_mod_cast two_pow_le.2
  have hlarge : value ⟨digits, exponent⟩ < 10 ^ (309 : Int) := by
    refine (hrounds.lt h).trans_le ?_
    calc (2 : ℚ) ^ (q + 53) ≤ 2 ^ (1024 : Int) := by
          have := h.most
          exact zpow_le_zpow_right₀ (by norm_num) (by omega)
      _ ≤ 10 ^ (309 : Int) := by exact_mod_cast two_pow_le.1
  have horder := (zpow_lt_zpow_iff_right₀ (by norm_num)).1 (hlow.trans_lt hlarge)
  have horder' := (zpow_lt_zpow_iff_right₀ (by norm_num)).1 (hsmall.trans_lt hhigh)
  unfold decimalWord
  rw [if_neg hne]
  dsimp only
  rw [if_neg (by omega), if_neg (by omega)]
  refine roundRatio_eq (tenTo_pos _) h ?_
  rw [grid_eq]
  exact hrounds

/-! ## Numbers and their texts -/

theorem text_of_finite {style : Style} {x : Float} {negative : Bool}
    (h : Parts.ofFloat x = .finite negative m q) :
    (style.text x).toList
      = (if negative then ['-'] else []) ++ style.magnitude (shortest style.tie m q) := by
  unfold Style.text
  rw [h]
  exact String.toList_ofList

theorem wordOf_lt_infinityWord {x : Float} {negative : Bool}
    (h : Parts.ofFloat x = .finite negative m q) : wordOf m q < infinityWord := by
  obtain ⟨-, ⟨hword, -⟩ | hnumber⟩ := parts_of_finite h
  · rw [hword]
    decide
  · exact hnumber.wordOf_lt

/-- The decimal that stands for a number is read as its word. -/
theorem read_magnitude {style : Style} (hstyle : style.IsReadable) {x : Float} {negative : Bool}
    (h : Parts.ofFloat x = .finite negative m q) :
    ∃ digits exponent, readUnsigned? (style.magnitude (shortest style.tie m q))
        = some (digits, exponent) ∧ decimalWord digits exponent = wordOf m q := by
  obtain ⟨⟨digits, exponent⟩, hread, hvalue⟩ :=
    spells_magnitude hstyle (shortest style.tie m q)
  refine ⟨digits, exponent, hread, ?_⟩
  obtain ⟨-, ⟨hword, rfl⟩ | hnumber⟩ := parts_of_finite h
  · have hzero : value ⟨digits, exponent⟩ = 0 := by
      rw [hvalue]
      simp [shortest, value]
    have hdigits : digits = 0 := by
      have hpower : (10 : ℚ) ^ exponent ≠ 0 := zpow_ne_zero _ (by norm_num)
      exact Nat.cast_eq_zero.1 ((mul_eq_zero.1 hzero).resolve_right hpower)
    rw [hword, hdigits]
    rfl
  · apply decimalWord_eq hnumber
    rw [hvalue]
    exact shortest_rounds style.tie hnumber

theorem magnitude_head (style : Style) (d : Decimal) :
    ∃ first rest, style.magnitude d = first :: rest ∧ first.isDigit = true := by
  obtain ⟨first, more, hds⟩ := List.exists_cons_of_ne_nil (natDigits_ne_nil d.digits)
  have hfirst : first.isDigit = true :=
    isDigit_of_mem_natDigits (n := d.digits) (by rw [hds]; exact List.mem_cons_self)
  unfold Style.magnitude
  dsimp only
  rw [hds]
  split
  · unfold positional
    split
    · exact ⟨_, _, rfl, rfl⟩
    split
    · exact ⟨_, _, rfl, hfirst⟩
    · obtain ⟨k, hk⟩ : ∃ k, (d.exponent + ((first :: more).length : Nat) - 1 + 1).toNat = k + 1 :=
        ⟨_, (Nat.succ_pred_eq_of_pos (by omega)).symm⟩
      rw [hk]
      exact ⟨_, _, rfl, hfirst⟩
  · exact ⟨_, _, rfl, hfirst⟩

/-- The text of a finite number is read as the number. -/
theorem readFloat?_text {style : Style} (hstyle : style.IsReadable) {x : Float}
    (h : x.isFinite = true) : readFloat? (style.text x).toList = some x := by
  obtain ⟨negative, m, q, hparts⟩ := parts_of_isFinite h
  obtain ⟨digits, exponent, hread, hword⟩ := read_magnitude hstyle hparts
  obtain ⟨first, rest, hhead, hfirst⟩ := magnitude_head style (shortest style.tie m q)
  have hsplit : splitSign ((if negative then ['-'] else []) ++ style.magnitude
      (shortest style.tie m q)) = (negative, style.magnitude (shortest style.tie m q)) := by
    cases negative with
    | true => rfl
    | false =>
      rw [hhead]
      exact splitSign_cons hfirst
  rw [text_of_finite hparts]
  unfold readFloat?
  rw [hsplit]
  dsimp only
  rw [hread]
  dsimp only
  rw [hword, Option.map_some, (parts_of_finite hparts).1]

end Decimal
end Exemplar
