/-
Rows that are picked from a table.

Rows are picked by their numbers, in any order and any number of times.  Cells are coerced each by
itself, so it is all the same whether rows are picked before a table is classified or after.
-/
import Exemplar.Proofs.Coercing

namespace Exemplar

section

variable {α β : Type} {rows : List Nat} {items : List α}

/-- The items that stand in the given rows.  There is none in a row beyond the last. -/
def picked (rows : List Nat) (items : List α) : List α := rows.filterMap (items[·]?)

theorem picked_map (f : α → β) : picked rows (items.map f) = (picked rows items).map f :=
  (List.filterMap_congr fun _ _ => List.getElem?_map).trans List.map_filterMap.symm

theorem length_picked : (picked rows items).length = rows.countP (· < items.length) := by
  unfold picked
  rw [List.length_filterMap_eq_countP]
  exact List.countP_congr fun row _ => by simp

theorem forall₂_picked {R : α → β → Prop} {others : List β} (h : List.Forall₂ R items others) :
    List.Forall₂ R (picked rows items) (picked rows others) := by
  induction rows with
  | nil => exact .nil
  | cons row rest ih =>
    unfold picked
    rw [List.filterMap_cons, List.filterMap_cons]
    by_cases hrow : row < items.length
    · have hrow' : row < others.length := h.length_eq ▸ hrow
      rw [List.getElem?_eq_getElem hrow, List.getElem?_eq_getElem hrow']
      exact .cons ((List.forall₂_iff_get.1 h).2 row hrow hrow') ih
    · have hrow' : ¬ row < others.length := h.length_eq ▸ hrow
      rw [List.getElem?_eq_none (not_lt.1 hrow), List.getElem?_eq_none (not_lt.1 hrow')]
      exact ih

/-- No item is lost if every row is picked at least once. -/
theorem mem_picked (hrows : ∀ row, row ∈ rows ↔ row < items.length) {item : α} :
    item ∈ picked rows items ↔ item ∈ items := by
  unfold picked
  rw [List.mem_filterMap, List.mem_iff_getElem?]
  constructor
  · rintro ⟨row, -, hrow⟩
    exact ⟨row, hrow⟩
  · rintro ⟨row, hrow⟩
    exact ⟨row, (hrows row).2 (List.getElem?_eq_some_iff.1 hrow).1, hrow⟩

end

/-! ## Columns -/

namespace Column

variable {rows : List Nat} {column new : Column} {name : String}

def pick (rows : List Nat) : Column → Column
  | ints cells => ints (picked rows cells)
  | floats cells => floats (picked rows cells)
  | texts cells => texts (picked rows cells)

theorem cells_pick (column : Column) : (column.pick rows).cells = picked rows column.cells := by
  cases column <;> exact (picked_map _).symm

theorem spellings_pick (column : Column) :
    (column.pick rows).spellings = picked rows column.spellings := by
  rw [← map_spelling_cells, cells_pick, ← picked_map, map_spelling_cells]

theorem length_pick (column : Column) :
    (column.pick rows).length = rows.countP (· < column.length) := by
  rw [← length_cells, cells_pick, length_picked, length_cells]

/-- Cells that can be read can be picked before. -/
theorem readCells_picked {α β : Type} {read : α → Option β} {fault : Nat → α → DataError}
    {cells : List α} {values : List β} (h : readCells read fault 0 cells = .ok values) :
    readCells read fault 0 (picked rows cells) = .ok (picked rows values) :=
  readCells_eq_ok_iff.2 (forall₂_picked (readCells_eq_ok_iff.1 h))

theorem toFloats_pick (h : column.toFloats name = .ok new) :
    (column.pick rows).toFloats name = .ok (new.pick rows) := by
  rw [toFloats_eq, map_eq_ok_iff] at h ⊢
  obtain ⟨numbers, hnumbers, rfl⟩ := h
  exact ⟨_, column.cells_pick ▸ readCells_picked hnumbers, rfl⟩

theorem toClasses_pick {vocabulary : List String}
    (h : column.toClasses name vocabulary = .ok new) :
    (column.pick rows).toClasses name vocabulary = .ok (new.pick rows) := by
  rw [toClasses_eq, map_eq_ok_iff] at h ⊢
  obtain ⟨classes, hclasses, rfl⟩ := h
  exact ⟨_, column.cells_pick ▸ readCells_picked hclasses, rfl⟩

/-- Picked cells are coerced as they are with all others. -/
theorem coercion_pick {a : Assignment} (h : a.coercion name column = .ok new) :
    a.coercion name (column.pick rows) = .ok (new.pick rows) := by
  unfold Assignment.coercion at h ⊢
  split_ifs at h ⊢
  · exact toFloats_pick h
  · obtain rfl := Except.ok.inj h
    exact congrArg (Except.ok ∘ texts) column.spellings_pick
  · unfold Table.coerceLabel at h ⊢
    cases hkind : a.labelKind with
    | numeric =>
      rw [hkind] at h
      exact toFloats_pick h
    | classes vocabulary =>
      rw [hkind] at h
      exact toClasses_pick h

end Column

/-! ## Tables -/

namespace Table

variable {rows : List Nat} {t t' : Table} {a : Assignment} {roles : Roles} {names : List String}
variable {name : String}

/-- The table of the given rows. -/
def pick (rows : List Nat) (t : Table) : Table :=
  ⟨t.columns.map fun (name, column) => (name, column.pick rows)⟩

theorem names_pick (t : Table) : (t.pick rows).names = t.names := by
  unfold names pick
  rw [List.map_map]
  rfl

theorem column?_pick (t : Table) (name : String) :
    (t.pick rows).column? name = (t.column? name).map (Column.pick rows) := by
  obtain ⟨columns⟩ := t
  show (List.map _ columns).lookup name = (columns.lookup name).map _
  induction columns with
  | nil => rfl
  | cons entry rest ih =>
    obtain ⟨n, column⟩ := entry
    rw [List.map_cons, List.lookup_cons, List.lookup_cons, ih]
    split <;> rfl

theorem rowCount_pick (t : Table) :
    (t.pick rows).rowCount = rows.countP (· < t.rowCount) := by
  obtain ⟨columns⟩ := t
  cases columns with
  | nil => simp [pick, rowCount]
  | cons entry rest => exact entry.2.length_pick

theorem IsFormed.pick (h : t.IsFormed) : (t.pick rows).IsFormed := by
  refine ⟨t.names_pick ▸ h.names, ?_⟩
  rw [rowCount_pick]
  refine List.forall_mem_map.2 fun entry hentry => ?_
  rw [← h.lengths entry hentry]
  exact entry.2.length_pick

theorem Coerces.pick (h : Coerces a.coercion names t t') (hformed : t'.IsFormed) :
    Coerces a.coercion names (t.pick rows) (t'.pick rows) where
  names_eq := by rw [names_pick, names_pick, h.names_eq]
  rowCount_eq := by rw [rowCount_pick, rowCount_pick, h.rowCount_eq]
  formed _ := hformed.pick
  coerced name hname := by
    obtain ⟨old, new, hold, hcoerce, hnew⟩ := h.coerced name hname
    refine ⟨old.pick rows, new.pick rows, ?_, Column.coercion_pick hcoerce, ?_⟩
    · rw [column?_pick, hold]
      rfl
    · rw [column?_pick, hnew]
      rfl
  kept name hname := by rw [column?_pick, column?_pick, h.kept name hname]

theorem isPartition_pick (h : a.IsPartition t) : a.IsPartition (t.pick rows) :=
  { h with present := t.names_pick ▸ h.present }

/-- Picking rows before classification and after it comes to the same. -/
theorem classify_pick (hformed : t.IsFormed) (h : t.classify a = (t', .ok roles)) :
    (t.pick rows).classify a = (t'.pick rows, .ok roles) := by
  obtain ⟨rfl, hpartition, hcoerces⟩ := classify_eq_ok h
  exact classify_of_reorders hformed.pick (isPartition_pick hpartition)
    (hcoerces.pick (hcoerces.formed hformed)) ⟨.refl _, .refl _, rfl, rfl⟩

end Table
end Exemplar
