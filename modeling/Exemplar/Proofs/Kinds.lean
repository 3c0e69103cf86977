/-
Kinds of columns and the types that they say.

A column reads numbers or keys, as its kind is, and apart from that it says a type.  When a batch is
encoded, only the type that is said is held against the tensor.  A column whose kind and type go
together puts one entry into every row.  One that says the type of other cells than it reads takes a
tensor of these, finds nothing to read in it, and puts no entry into any row, without an error.
-/
import Exemplar.Proofs.Slots

namespace Exemplar

namespace InputColumn

/-- The type of the cells that a column reads. -/
def cellType : InputColumn → ElementType
  | realValued _ => .float64
  | keyed _ | oneHot _ => .string

/-- A column that says the type of the cells that it reads. -/
def IsHonest (column : InputColumn) : Prop := column.type = column.cellType

instance (column : InputColumn) : Decidable column.IsHonest :=
  inferInstanceAs (Decidable (column.type = column.cellType))

end InputColumn

namespace Layout

variable {features : SortedMap Column} {l : Layout} {p : InputColumn × Nat}
variable {r n : Nat} {rows : List SparseRow}

/-- Exactly one entry for every column, in its slice. -/
def HasEntries (l : Layout) (row : SparseRow) : Prop :=
  List.Forall₂ (fun p e => Owns p e.1) l.placed row

theorem isSome_floats_iff {tensor : Column} (hr : r < tensor.length) :
    (tensor.floats?.getD [])[r]?.isSome = true ↔ tensor.elementType = .float64 := by
  cases tensor with
  | floats cells =>
    have hcell : cells[r]? = some cells[r] := List.getElem?_eq_getElem hr
    simp [Column.floats?, Column.elementType, hcell]
  | ints cells => simp [Column.floats?, Column.elementType]
  | texts cells => simp [Column.floats?, Column.elementType]

theorem isSome_texts_iff {tensor : Column} (hr : r < tensor.length) :
    (tensor.texts?.getD [])[r]?.isSome = true ↔ tensor.elementType = .string := by
  cases tensor with
  | texts cells =>
    have hcell : cells[r]? = some cells[r] := List.getElem?_eq_getElem hr
    simp [Column.texts?, Column.elementType, hcell]
  | ints cells => simp [Column.texts?, Column.elementType]
  | floats cells => simp [Column.texts?, Column.elementType]

/-- A column that finds its tensor puts an entry into a row exactly if it says what it reads. -/
theorem isSome_placedSlot?_iff (h : Encodes features n p.1) (hr : r < n) :
    (placedSlot? features r p).isSome = true ↔ p.1.IsHonest := by
  obtain ⟨tensor, hget, htype, hlength, hknows⟩ := h
  obtain ⟨column, offset⟩ := p
  have hrow : r < tensor.length := hlength ▸ hr
  have hkeyed {c : KeyedColumn}
      (hknows : ∀ key ∈ tensor.texts?.getD [], ∃ i, c.keyIndex key = .ok i) :
      (((tensor.texts?.getD [])[r]?.bind fun key =>
        (c.keyIndex key).toOption.map (offset + ·, (1.0 : Float))).isSome = true ↔
        tensor.elementType = .string) := by
    rw [← isSome_texts_iff hrow]
    cases hkey : (tensor.texts?.getD [])[r]? with
    | none => simp
    | some key =>
      obtain ⟨i, hi⟩ := hknows key (List.mem_of_getElem? hkey)
      simp [hi, Except.toOption]
  rw [placedSlot?, hget, Option.bind_some]
  show _ ↔ column.type = column.cellType
  rw [← htype]
  cases column with
  | realValued c =>
    show ((tensor.floats?.getD [])[r]?.map (offset, ·)).isSome = true ↔ _
    rw [Option.isSome_map]
    exact isSome_floats_iff hrow
  | keyed c => exact hkeyed hknows
  | oneHot c => exact hkeyed hknows

/-- A batch that is encoded has in each row one entry for every column that says what it reads, in
the column's slice, and none for the others.  So no column is missing exactly if there are no rows
or all columns say what they read. -/
theorem entry_for_every_column_iff (h : l.sparseRows features = .ok rows) :
    (∀ row ∈ rows, List.Forall₂ (fun p e => Owns p e.1)
      (l.placed.filter fun p => p.1.IsHonest) row) ∧
    ((∀ row ∈ rows, l.HasEntries row) ↔ rows = [] ∨ ∀ column ∈ l.columns, column.IsHonest) := by
  obtain ⟨hencodes, hrows⟩ := sparseRows_eq_ok_iff.1 h
  have hplaced : ∀ p ∈ l.placed, Encodes features (batchRows features) p.1 := by
    intro p hp
    exact hencodes p.1 (mem_columns_of_placed hp)
  have hentries : ∀ row ∈ rows, List.Forall₂ (fun p e => Owns p e.1)
      (l.placed.filter fun p => p.1.IsHonest) row := by
    intro row hrow
    rw [hrows] at hrow
    obtain ⟨r, hr, rfl⟩ := List.mem_map.1 hrow
    have hputs : l.placed.filter (fun p => (placedSlot? features r p).isSome)
        = l.placed.filter fun p => p.1.IsHonest := by
      refine List.filter_congr fun p hp => ?_
      rw [Bool.eq_iff_iff, isSome_placedSlot?_iff (hplaced p hp) (List.mem_range.1 hr),
        decide_eq_true_iff]
    rw [← hputs]
    exact (forall₂_rowAt hencodes r).imp fun p e hentry => hentry.2
  refine ⟨hentries, ?_⟩
  have hcolumns : (∀ column ∈ l.columns, column.IsHonest) ↔ ∀ p ∈ l.placed, p.1.IsHonest := by
    rw [← map_place 0 l.columns, List.forall_mem_map]
    rfl
  rw [hcolumns]
  constructor
  · intro hall
    by_cases hnone : rows = []
    · exact .inl hnone
    · obtain ⟨row, hrow⟩ := List.exists_mem_of_ne_nil rows hnone
      -- The row is as long as both lists of columns, so none is filtered out.
      have hlength : (l.placed.filter fun p => p.1.IsHonest).length = l.placed.length :=
        (hentries row hrow).length_eq.trans (hall row hrow).length_eq.symm
      have hhonest := List.length_filter_eq_length_iff.1 hlength
      exact .inr fun p hp => of_decide_eq_true (hhonest p hp)
  · intro hhonest row hrow
    rcases hhonest with hnone | hhonest
    · rw [hnone] at hrow
      cases hrow
    · have hfilter : (l.placed.filter fun p => p.1.IsHonest) = l.placed :=
        List.filter_eq_self.2 fun p hp => decide_eq_true (hhonest p hp)
      have hrowEntries := hentries row hrow
      rwa [hfilter] at hrowEntries

/-- Honest columns, one of them twice. -/
theorem entry_for_every_column_once :
    let l : Layout := ⟨[.keyed ⟨"c", .string, ["a", "b"]⟩, .realValued ⟨"x", .float64⟩,
      .realValued ⟨"x", .float64⟩]⟩
    let rows : List SparseRow := [[(1, 1.0), (2, 1.5), (3, 1.5)]]
    l.sparseRows [("c", .texts ["b"]), ("x", .floats [1.5])] = .ok rows ∧
      ∀ row ∈ rows, l.HasEntries row := by
  intro l rows
  have hrows : l.sparseRows [("c", .texts ["b"]), ("x", .floats [1.5])] = .ok rows := by
    decide +kernel
  exact ⟨hrows, (entry_for_every_column_iff hrows).2.2 (.inr (by decide))⟩

/-- A column of numbers that says texts fits serving inputs with texts, and gets no entry in any row
of theirs. -/
theorem text_column_is_dropped :
    let l : Layout := ⟨[.realValued ⟨"c", .string⟩]⟩
    let inputs : TrainingInputs :=
      ⟨⟨[("c", .texts ["a", "b"]), ("y", .floats [1.0, 2.0])]⟩, [], ["c"], "y", .regression⟩
    Description.checkColumns l.columns ⟨inputs.roles⟩ = .ok () ∧
      ∃ batch, inputs.batch = .ok batch ∧ l.sparseRows batch.features = .ok [[], []] ∧
        ¬ ∀ row ∈ ([[], []] : List SparseRow), l.HasEntries row := by
  intro l inputs
  have hbatch : inputs.batch
      = .ok ⟨SortedMap.ofList [("c", .texts ["a", "b"])], .floats [1.0, 2.0]⟩ := rfl
  refine ⟨by decide +kernel, _, hbatch, rfl, ?_⟩
  intro hall
  have hlength := (hall [] List.mem_cons_self).length_eq
  cases hlength

end Layout
end Exemplar
