/-
How a number is spelled as a category.

In a style whose words for what is not finite are read as that, every text of a number is read back
as the number, so no two numbers have one text.  The spelling of a category has a point, an exponent
or a letter besides, so it is never read as an integer.
-/
import Exemplar.Proofs.Cells
import Exemplar.Proofs.Numerals

namespace Exemplar

open Binary64

namespace Decimal

/-! ## Every number is read back -/

/-- A style whose words for what is not finite are read as that. -/
structure Style.ReadsBack (style : Style) : Prop extends style.IsReadable where
  nan : readFloat? style.nanText.toList = some nan
  infinity : readFloat? style.infinityText.toList = some (withSign false infinityWord)
  minusInfinity : readFloat? style.minusInfinityText.toList = some (withSign true infinityWord)

theorem category_readsBack : category.ReadsBack where
  ending := .inr rfl
  plus := .inl rfl
  nan := by decide +kernel
  infinity := by decide +kernel
  minusInfinity := by decide +kernel

theorem plain_readsBack : plain.ReadsBack where
  ending := .inl rfl
  plus := .inl rfl
  nan := by decide +kernel
  infinity := by decide +kernel
  minusInfinity := by decide +kernel

variable {style : Style} {x y : Float}

/-- The text of a number, finite or not, is read as the number. -/
theorem Style.ReadsBack.readFloat?_text (h : style.ReadsBack) (x : Float) :
    readFloat? (style.text x).toList = some x := by
  cases hparts : Parts.ofFloat x with
  | nan =>
    rw [Style.text, hparts, eq_nan (parts_eq_nan_iff.1 hparts)]
    exact h.nan
  | infinite negative =>
    have hx := parts_of_infinite hparts
    rw [Style.text, hparts]
    cases negative with
    | true => exact h.minusInfinity.trans (congrArg some hx)
    | false => exact h.infinity.trans (congrArg some hx)
  | finite negative m q => exact Decimal.readFloat?_text h.toIsReadable (isFinite_of_parts hparts)

theorem Style.ReadsBack.text_injective (h : style.ReadsBack) : Function.Injective style.text := by
  intro x y htext
  have hx := h.readFloat?_text x
  rw [htext, h.readFloat?_text y] at hx
  exact (Option.some.inj hx).symm

theorem Style.ReadsBack.text_eq_nanText_iff (h : style.ReadsBack) :
    style.text x = style.nanText ↔ x.isNaN = true := by
  have hnan : style.text Binary64.nan = style.nanText := by
    have hparts : Parts.ofFloat Binary64.nan = .nan := parts_eq_nan_iff.2 (by decide +kernel)
    rw [Style.text, hparts]
  constructor
  · intro htext
    rw [h.text_injective (htext.trans hnan.symm)]
    decide +kernel
  · intro hx
    rw [eq_nan hx, hnan]

/-! ## No category is read as an integer -/

theorem readInt?_eq_none {text : List Char} {c : Char} (hc : c ∈ text)
    (hdigit : c.isDigit = false) (hminus : c ≠ '-') (hplus : c ≠ '+') : readInt? text = none := by
  have hrest : c ∈ (splitSign text).2 := by
    unfold splitSign
    split
    · exact (List.mem_cons.1 hc).resolve_left hminus
    · exact (List.mem_cons.1 hc).resolve_left hplus
    · exact hc
  have hall : (splitSign text).2.all Char.isDigit = false :=
    List.all_eq_false.2 ⟨c, hrest, by rw [hdigit]; exact Bool.false_ne_true⟩
  unfold readInt?
  dsimp only
  rw [readNat?, hall, Bool.not_false, Bool.or_true, if_pos rfl]
  rfl

theorem point_mem_positional (digits : List Char) (point : Int) :
    '.' ∈ positional ['.', '0'] digits point := by
  unfold positional
  split
  · simp
  split
  · simp
  · simp

theorem exponent_mem_scientific (plus digits : List Char) (order : Int) :
    'e' ∈ scientific plus digits order := by
  simp [scientific]

/-- A magnitude shows a point or an exponent if the style ends whole numbers with a fraction. -/
theorem mem_magnitude (hending : style.wholeEnding = ['.', '0']) (d : Decimal) :
    '.' ∈ style.magnitude d ∨ 'e' ∈ style.magnitude d := by
  unfold Style.magnitude
  dsimp only
  rw [hending]
  split
  · exact .inl (point_mem_positional _ _)
  · exact .inr (exponent_mem_scientific _ _ _)

/-- A number as a category is never read as an integer. -/
theorem readInt?_category (x : Float) : readInt? (category.text x).toList = none := by
  cases hparts : Parts.ofFloat x with
  | nan =>
    rw [Style.text, hparts]
    decide +kernel
  | infinite negative =>
    rw [Style.text, hparts]
    cases negative with
    | true => decide +kernel
    | false => decide +kernel
  | finite negative m q =>
    rw [text_of_finite hparts]
    have hending : category.wholeEnding = ['.', '0'] := rfl
    rcases mem_magnitude hending (shortest category.tie m q) with hmem | hmem
    · exact readInt?_eq_none (List.mem_append_right _ hmem) rfl (by decide) (by decide)
    · exact readInt?_eq_none (List.mem_append_right _ hmem) rfl (by decide) (by decide)

theorem category_ne_intText (x : Float) (i : Int) : category.text x ≠ intText i := by
  intro h
  have hread := readInt?_category x
  rw [h, intText, String.toList_ofList, readInt?_intDigits] at hread
  cases hread

end Decimal

namespace Column

variable {column other : Column} {row place : Nat} {x : Float}

theorem getElem?_spellings (column : Column) (row : Nat) :
    column.spellings[row]? = (column.cell? row).map Cell.spelling := by
  rw [← map_spelling_cells, List.getElem?_map, getElem?_cells]

/-- A number is spelled as a category so that its spelling is read as the number.  Only what is no
number is spelled as that, another column spells a number alike exactly if it is the same to the
bit, and no column spells an integer alike. -/
theorem number_spelled_faithfully (h : column.cell? row = some (.float x)) :
    ∃ spelling, column.spellings[row]? = some spelling ∧
      Decimal.readFloat? spelling.toList = some x ∧
      (spelling = "nan" ↔ x.isNaN = true) ∧
      (∀ (other : Column) (place : Nat) (y : Float), other.cell? place = some (.float y) →
        (other.spellings[place]? = some spelling ↔ y.toBits = x.toBits)) ∧
      ∀ (other : Column) (place : Nat) (i : Int64), other.cell? place = some (.int i) →
        other.spellings[place]? ≠ some spelling := by
  have hback := Decimal.category_readsBack
  refine ⟨Decimal.category.text x, ?_, hback.readFloat?_text x, hback.text_eq_nanText_iff, ?_, ?_⟩
  · rw [getElem?_spellings, h]
    rfl
  · intro other place y hy
    rw [getElem?_spellings, hy]
    show some (Decimal.category.text y) = some _ ↔ _
    rw [Option.some.injEq, hback.text_injective.eq_iff]
    constructor
    · exact congrArg Float.toBits
    · intro hbits
      rw [← ofBits_toBits y, hbits, ofBits_toBits]
  · intro other place i hi
    rw [getElem?_spellings, hi]
    show some (Decimal.intText i.toInt) ≠ some _
    exact fun heq => Decimal.category_ne_intText x i.toInt (Option.some.inj heq).symm

/-- The two zeros, which compare as equal, are two categories. -/
theorem zeros_spelled_apart : (floats [0, -0]).cell? 0 = some (.float 0) ∧
    (floats [0, -0]).spellings[1]? ≠ (floats [0, -0]).spellings[0]? := by
  have hzero : (floats [0, -0]).cell? 0 = some (.float 0) := rfl
  refine ⟨hzero, ?_⟩
  obtain ⟨spelling, hspelling, -, -, hfloats, -⟩ := number_spelled_faithfully hzero
  rw [hspelling]
  intro halike
  have hbits := (hfloats (floats [0, -0]) 1 (-0) rfl).1 halike
  exact absurd hbits (by decide +kernel)

end Column
end Exemplar
