/-
What an encoded row gives back.

An entry stands for a cell: a number for itself, and one at a slot of a
vocabulary for the key there.  Where all columns say the type of the cells that
they read, a row of a batch decodes to the cells of its features.
-/
import Exemplar.Proofs.Kinds

namespace Exemplar

namespace Layout

variable {features : SortedMap Column} {l : Layout} {placed : List (InputColumn × Nat)}
variable {p : InputColumn × Nat} {r n : Nat} {row : SparseRow} {cells : List Cell}

/-- The cell that an entry of a placed column stands for. -/
def cellOf? (p : InputColumn × Nat) (e : Nat × Float) : Option Cell :=
  match p.1 with
  | .realValued _ => if e.1 = p.2 then some (.float e.2) else none
  | .keyed c | .oneHot c =>
    if p.2 ≤ e.1 ∧ e.2 = 1.0 then c.vocabulary[e.1 - p.2]?.map .text else none

/-- The cells that the entries of a row stand for, one for each column. -/
def decode? : List (InputColumn × Nat) → SparseRow → Option (List Cell)
  | [], [] => some []
  | p :: placed, e :: row => do return (← cellOf? p e) :: (← decode? placed row)
  | _, _ => none

theorem length_of_decode? (h : decode? placed row = some cells) : row.length = placed.length := by
  induction placed generalizing row cells with
  | nil =>
    cases row with
    | nil => rfl
    | cons e row => cases h
  | cons p placed ih =>
    cases row with
    | nil => cases h
    | cons e row =>
      obtain ⟨cell, -, hrest⟩ := Option.bind_eq_some_iff.1 h
      obtain ⟨others, hothers, -⟩ := Option.bind_eq_some_iff.1 hrest
      exact congrArg (· + 1) (ih hothers)

/-- The cell of a feature in a row of a batch. -/
def featureCell? (features : SortedMap Column) (r : Nat) (name : String) : Option Cell :=
  (features.get? name).bind (·.cell? r)

/-- What a column that says what it reads puts into a row stands for the cell of its feature. -/
theorem exists_cellOf? (h : Encodes features n p.1) (hhonest : p.1.IsHonest) (hr : r < n) :
    ∃ e cell, placedSlot? features r p = some e ∧ cellOf? p e = some cell ∧
      featureCell? features r p.1.column = some cell := by
  obtain ⟨tensor, hget, htype, hlength, hknows⟩ := h
  obtain ⟨column, offset⟩ := p
  have hrow : r < tensor.length := hlength ▸ hr
  have hkind : tensor.elementType = column.cellType := htype.trans hhonest
  unfold placedSlot? featureCell?
  rw [hget]
  -- Both kinds of columns with a vocabulary read and write the same.
  have hkeyed {c : KeyedColumn} (hkind : tensor.elementType = .string)
      (hknows : ∀ key ∈ tensor.texts?.getD [], ∃ i, c.keyIndex key = .ok i) :
      ∃ e cell, ((tensor.texts?.getD [])[r]?.bind fun key =>
          (c.keyIndex key).toOption.map (offset + ·, (1.0 : Float))) = some e ∧
        (if offset ≤ e.1 ∧ e.2 = 1.0 then c.vocabulary[e.1 - offset]?.map Cell.text else none)
          = some cell ∧ tensor.cell? r = some cell := by
    cases tensor with
    | ints cells => cases hkind
    | floats cells => cases hkind
    | texts cells =>
      have hcell : cells[r]? = some cells[r] := List.getElem?_eq_getElem hrow
      obtain ⟨i, hi⟩ := hknows cells[r] (List.getElem_mem hrow)
      refine ⟨(offset + i, 1.0), .text cells[r], ?_, ?_, ?_⟩
      · simp [Column.texts?, hcell, hi, Except.toOption]
      · rw [if_pos ⟨Nat.le_add_right offset i, rfl⟩, Nat.add_sub_cancel_left,
          KeyedColumn.getElem?_of_keyIndex hi]
        rfl
      · simp [Column.cell?, hcell]
  cases column with
  | keyed c => exact hkeyed hkind hknows
  | oneHot c => exact hkeyed hkind hknows
  | realValued c =>
    cases tensor with
    | ints cells => cases hkind
    | texts cells => cases hkind
    | floats cells =>
      have hcell : cells[r]? = some cells[r] := List.getElem?_eq_getElem hrow
      refine ⟨(offset, cells[r]), .float cells[r], ?_, if_pos rfl, ?_⟩
      · simp [cellSlot?, Column.floats?, hcell]
      · simp [Column.cell?, hcell]

theorem decode?_filterMap (h : ∀ p ∈ placed, ∃ e cell, placedSlot? features r p = some e ∧
      cellOf? p e = some cell ∧ featureCell? features r p.1.column = some cell) :
    ∃ cells, List.Forall₂ (fun p cell => featureCell? features r p.1.column = some cell)
        placed cells ∧
      decode? placed (placed.filterMap (placedSlot? features r)) = some cells := by
  induction placed with
  | nil => exact ⟨[], .nil, rfl⟩
  | cons p placed ih =>
    obtain ⟨hfirst, hrest⟩ := List.forall_mem_cons.1 h
    obtain ⟨e, cell, hentry, hcell, hfeature⟩ := hfirst
    obtain ⟨cells, hcells, hdecode⟩ := ih hrest
    refine ⟨cell :: cells, .cons hfeature hcells, ?_⟩
    rw [List.filterMap_cons_some hentry, decode?, hcell, hdecode]
    rfl

/-- Where all columns say what they read, a row decodes to the cells of the features. -/
theorem decode?_rowAt (hencodes : ∀ column ∈ l.columns, Encodes features n column)
    (hhonest : ∀ column ∈ l.columns, column.IsHonest) (hr : r < n) :
    ∃ cells, List.Forall₂ (fun name cell => featureCell? features r name = some cell)
        (l.columns.map (·.column)) cells ∧
      decode? l.placed (l.rowAt features r) = some cells := by
  have hplaced : ∀ p ∈ l.placed, ∃ e cell, placedSlot? features r p = some e ∧
      cellOf? p e = some cell ∧ featureCell? features r p.1.column = some cell := by
    intro p hp
    have hcolumn := mem_columns_of_placed hp
    exact exists_cellOf? (hencodes p.1 hcolumn) (hhonest p.1 hcolumn) hr
  obtain ⟨cells, hcells, hdecode⟩ := decode?_filterMap hplaced
  refine ⟨cells, ?_, hdecode⟩
  rw [← map_place 0 l.columns, List.map_map, List.forall₂_map_left_iff]
  exact hcells

end Layout

/-- A batch that is encoded by columns that say what they read gives back the rows of its table. -/
theorem TrainingInputs.decode?_of_sparseRows {inputs : TrainingInputs} {batch : Batch} {l : Layout}
    {rows : List SparseRow} (hbatch : inputs.batch = .ok batch) (hformed : inputs.table.IsFormed)
    (hfeatures : inputs.roles.features ≠ []) (hhonest : ∀ column ∈ l.columns, column.IsHonest)
    (hrows : l.sparseRows batch.features = .ok rows) :
    rows.length = inputs.rowCount ∧
      ∀ (r : Nat) row, rows[r]? = some row → row.length = l.columns.length ∧
        ∃ cells, Layout.decode? l.placed row = some cells ∧
          List.Forall₂ (fun name cell => inputs.table.cell? name r = some cell)
            (l.columns.map (·.column)) cells := by
  obtain ⟨htyped, hisBatch⟩ := batch_eq_ok hbatch
  obtain ⟨hencodes, rfl⟩ := Layout.sparseRows_eq_ok_iff.1 hrows
  have hcount : Layout.batchRows batch.features = inputs.rowCount := by
    rw [hisBatch.batchRows_eq htyped hformed, if_neg hfeatures]
  refine ⟨by rw [List.length_map, List.length_range, hcount], ?_⟩
  intro r row hrow
  obtain ⟨hr, rfl⟩ := List.getElem?_eq_some_iff.1 hrow
  rw [List.length_map, List.length_range] at hr
  rw [List.getElem_map, List.getElem_range]
  obtain ⟨cells, hcells, hdecode⟩ := Layout.decode?_rowAt hencodes hhonest hr
  have hlength : l.placed.length = l.columns.length := by
    rw [← Layout.map_place 0 l.columns, List.length_map]
    rfl
  refine ⟨(Layout.length_of_decode? hdecode).trans hlength, cells, hdecode, ?_⟩
  refine hcells.imp fun name cell hcell => ?_
  obtain ⟨column, hget, hat⟩ := Option.bind_eq_some_iff.1 hcell
  rw [Table.cell?, ((hisBatch.features name column).1 hget).2]
  exact hat

end Exemplar
