/-
Rows of the input space, each by itself.

A batch is encoded column by column, with the entries of a column appended to the rows.  What comes
out is what every row of the batch is encoded to by itself: the entries of its cells, in the order
of the columns.  The encoding succeeds exactly if every column finds a tensor of its type and of the
length of the batch, in which it knows every key.
-/
import Exemplar.Inputs.Layout
import Exemplar.Proofs.Fallible

namespace Exemplar

/-- A key that is found stands where it was found. -/
theorem KeyedColumn.getElem?_of_keyIndex {c : KeyedColumn} {key : String} {i : Nat}
    (h : c.keyIndex key = .ok i) : c.vocabulary[i]? = some key := by
  unfold keyIndex at h
  dsimp only at h
  split at h
  · rename_i hfound
    cases h
    exact hfound
  · cases h

/-- A column knows the keys of a tensor. -/
def InputColumn.Knows (column : InputColumn) (tensor : Column) : Prop :=
  match column with
  | .realValued _ => True
  | .keyed c | .oneHot c => ∀ key ∈ tensor.texts?.getD [], ∃ i, c.keyIndex key = .ok i

namespace Layout

variable {features : SortedMap Column} {column : InputColumn} {tensor : Column}
variable {offset n : Nat} {l : Layout} {es : List (Nat × Float)} {rows : List SparseRow}

/-- What a column puts into one row: a number at its slot, or one at the slot of a key. -/
def cellSlot? (column : InputColumn) (offset : Nat) (tensor : Column) (row : Nat) :
    Option (Nat × Float) :=
  match column with
  | .realValued _ => (tensor.floats?.getD [])[row]?.map (offset, ·)
  | .keyed c | .oneHot c =>
    (tensor.texts?.getD [])[row]?.bind fun key => (c.keyIndex key).toOption.map (offset + ·, 1.0)

/-- What a placed column puts into one row of a batch. -/
def placedSlot? (features : SortedMap Column) (row : Nat) (placed : InputColumn × Nat) :
    Option (Nat × Float) :=
  (features.get? placed.1.column).bind (cellSlot? placed.1 placed.2 · row)

/-- One row of a batch by itself. -/
def rowAt (l : Layout) (features : SortedMap Column) (row : Nat) : SparseRow :=
  l.placed.filterMap (placedSlot? features row)

/-! ## One column -/

theorem exists_entries (offset : Nat) (h : column.Knows tensor) :
    ∃ es, entries column offset tensor = .ok es := by
  have hkeys {c : KeyedColumn} (h : ∀ key ∈ tensor.texts?.getD [], ∃ i, c.keyIndex key = .ok i) :
      ∃ es, (tensor.texts?.getD []).mapM
        (fun key => (c.keyIndex key).map fun i => (offset + i, 1.0)) = Except.ok es := by
    refine mapM_ok_of_forall fun key hkey => ?_
    obtain ⟨i, hi⟩ := h key hkey
    exact ⟨(offset + i, 1.0), by rw [hi]; rfl⟩
  cases column with
  | realValued c => exact ⟨_, rfl⟩
  | keyed c => exact hkeys h
  | oneHot c => exact hkeys h

theorem entries_eq_ok (h : entries column offset tensor = .ok es) :
    column.Knows tensor ∧ ∀ row, es[row]? = cellSlot? column offset tensor row := by
  have hkeys {c : KeyedColumn} (h : (tensor.texts?.getD []).mapM
      (fun key => (c.keyIndex key).map fun i => (offset + i, 1.0)) = Except.ok es) :
      (∀ key ∈ tensor.texts?.getD [], ∃ i, c.keyIndex key = .ok i) ∧
        ∀ row : Nat, es[row]? = (tensor.texts?.getD [])[row]?.bind fun key =>
          (c.keyIndex key).toOption.map (offset + ·, 1.0) := by
    refine ⟨fun key hkey => ?_, fun row => ?_⟩
    · obtain ⟨i, hi, rfl⟩ := List.getElem_of_mem hkey
      have hentry := getElem?_of_mapM h i
      rw [List.getElem?_eq_getElem hi] at hentry
      cases hindex : c.keyIndex (tensor.texts?.getD [])[i] with
      | ok index => exact ⟨index, rfl⟩
      | error error =>
        rw [List.getElem?_eq_getElem (length_of_mapM h ▸ hi)] at hentry
        simp [hindex, Except.map, Except.toOption] at hentry
    · rw [getElem?_of_mapM h]
      congr 1
      funext key
      cases c.keyIndex key <;> rfl
  cases column with
  | realValued c =>
    cases h
    exact ⟨trivial, fun row => List.getElem?_map ..⟩
  | keyed c => exact hkeys h
  | oneHot c => exact hkeys h

theorem columnTensor_eq_ok_iff : columnTensor features n column = .ok tensor ↔
    features.get? column.column = some tensor ∧ tensor.elementType = column.type ∧
      tensor.length = n := by
  unfold columnTensor
  cases features.get? column.column with
  | none => simp
  | some found =>
    dsimp only
    constructor
    · intro h
      split at h
      · cases h
      split at h
      · cases h
      · rename_i htype hlength
        cases h
        exact ⟨rfl, not_not.1 htype, not_not.1 hlength⟩
    · rintro ⟨heq, htype, hlength⟩
      cases heq
      rw [if_neg (not_not.2 htype), if_neg (not_not.2 hlength)]

/-- A column finds its tensor in a batch, and knows its keys. -/
def Encodes (features : SortedMap Column) (n : Nat) (column : InputColumn) : Prop :=
  ∃ tensor, features.get? column.column = some tensor ∧ tensor.elementType = column.type ∧
    tensor.length = n ∧ column.Knows tensor

theorem length_appendEntries (rows : List SparseRow) (es : List (Nat × Float)) :
    (appendEntries rows es).length = rows.length := by
  induction rows generalizing es with
  | nil => rfl
  | cons row rows ih =>
    cases es with
    | nil => rfl
    | cons e es => exact congrArg (· + 1) (ih es)

theorem getElem?_appendEntries (rows : List SparseRow) (es : List (Nat × Float)) (r : Nat) :
    (appendEntries rows es)[r]? = rows[r]?.map (· ++ es[r]?.toList) := by
  induction rows generalizing es r with
  | nil => rfl
  | cons row rows ih =>
    cases es with
    | nil => simp [appendEntries]
    | cons e es =>
      cases r with
      | zero => rfl
      | succ r => exact ih es r

theorem addColumn_eq_ok_iff {rows' : List SparseRow} :
    addColumn features n rows (column, offset) = .ok rows' ↔
      Encodes features n column ∧ rows'.length = rows.length ∧
        ∀ r : Nat, rows'[r]?
          = rows[r]?.map (· ++ (placedSlot? features r (column, offset)).toList) := by
  unfold addColumn
  simp only [bind_eq_ok_iff, columnTensor_eq_ok_iff]
  constructor
  · rintro ⟨tensor, ⟨hget, htype, hlength⟩, es, hes, h⟩
    cases h
    obtain ⟨hknows, hentry⟩ := entries_eq_ok hes
    refine ⟨⟨tensor, hget, htype, hlength, hknows⟩, length_appendEntries _ _, fun r => ?_⟩
    rw [getElem?_appendEntries, hentry, placedSlot?, hget]
    rfl
  · rintro ⟨⟨tensor, hget, htype, hlength, hknows⟩, hrows, hentry⟩
    obtain ⟨es, hes⟩ := exists_entries offset hknows
    refine ⟨tensor, ⟨hget, htype, hlength⟩, es, hes, ?_⟩
    refine congrArg Except.ok (List.ext_getElem? fun r => ?_)
    rw [getElem?_appendEntries, hentry, (entries_eq_ok hes).2, placedSlot?, hget]
    rfl

/-! ## All columns -/

theorem addColumns_eq_ok_iff {placed : List (InputColumn × Nat)} {rows' : List SparseRow} :
    placed.foldlM (addColumn features n) rows = .ok rows' ↔
      (∀ p ∈ placed, Encodes features n p.1) ∧ rows'.length = rows.length ∧
        ∀ r : Nat, rows'[r]? = rows[r]?.map (· ++ placed.filterMap (placedSlot? features r)) := by
  induction placed generalizing rows with
  | nil =>
    constructor
    · intro h
      cases h
      simp
    · rintro ⟨-, -, h⟩
      refine congrArg Except.ok (List.ext_getElem? fun r => ?_)
      simpa using (h r).symm
  | cons p placed ih =>
    obtain ⟨column, offset⟩ := p
    have hentries (r : Nat) : ((column, offset) :: placed).filterMap (placedSlot? features r)
        = (placedSlot? features r (column, offset)).toList
          ++ placed.filterMap (placedSlot? features r) := by
      rw [List.filterMap_cons]
      cases placedSlot? features r (column, offset) <;> rfl
    simp only [List.foldlM_cons, bind_eq_ok_iff, addColumn_eq_ok_iff, ih, List.forall_mem_cons,
      hentries]
    constructor
    · rintro ⟨middle, ⟨hcolumn, hlength, hmiddle⟩, hplaced, hlength', hrest⟩
      refine ⟨⟨hcolumn, hplaced⟩, hlength'.trans hlength, fun r => ?_⟩
      rw [hrest, hmiddle, Option.map_map]
      congr 1
      funext row
      simp
    · rintro ⟨⟨hcolumn, hplaced⟩, hlength, hrest⟩
      obtain ⟨middle, hmiddle⟩ :
          ∃ middle, addColumn features n rows (column, offset) = .ok middle := by
        obtain ⟨tensor, hget, htype, hn, hknows⟩ := hcolumn
        obtain ⟨es, hes⟩ := exists_entries offset hknows
        simp only [addColumn, bind_eq_ok_iff, columnTensor_eq_ok_iff]
        exact ⟨appendEntries rows es, tensor, ⟨hget, htype, hn⟩, es, hes, rfl⟩
      obtain ⟨hcolumn, hlength', hmiddle⟩ := addColumn_eq_ok_iff.1 hmiddle
      refine ⟨middle, ⟨hcolumn, hlength', hmiddle⟩, hplaced, hlength.trans hlength'.symm, ?_⟩
      intro r
      rw [hrest, hmiddle, Option.map_map]
      congr 1
      funext row
      simp

theorem map_place (offset : Nat) (columns : List InputColumn) :
    (place offset columns).map (·.1) = columns := by
  induction columns generalizing offset with
  | nil => rfl
  | cons column rest ih => exact congrArg (column :: ·) (ih _)

theorem mem_columns_of_placed {p : InputColumn × Nat} (h : p ∈ l.placed) : p.1 ∈ l.columns := by
  rw [← map_place 0 l.columns]
  exact List.mem_map_of_mem h

/-- A batch is encoded exactly if every column finds its tensor and knows its keys, and then row by
row. -/
theorem sparseRows_eq_ok_iff : l.sparseRows features = .ok rows ↔
    (∀ column ∈ l.columns, Encodes features (batchRows features) column) ∧
      rows = (List.range (batchRows features)).map (l.rowAt features) := by
  have hcolumns : (∀ p ∈ l.placed, Encodes features (batchRows features) p.1) ↔
      ∀ column ∈ l.columns, Encodes features (batchRows features) column := by
    rw [← map_place 0 l.columns, List.forall_mem_map]
    rfl
  unfold sparseRows
  rw [addColumns_eq_ok_iff, hcolumns]
  refine and_congr_right fun _ => ?_
  constructor
  · rintro ⟨-, h⟩
    refine List.ext_getElem? fun r => ?_
    rw [h]
    by_cases hr : r < batchRows features
    · simp [hr, rowAt]
    · simp [hr]
  · rintro rfl
    refine ⟨by simp, fun r => ?_⟩
    by_cases hr : r < batchRows features
    · simp [hr, rowAt]
    · simp [hr]

end Layout
end Exemplar
