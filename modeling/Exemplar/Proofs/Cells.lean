/-
Columns as cells, each of which is coerced by itself.

A column is coerced to numbers or to classes exactly if each of its cells can be, whatever type the
column has, and then cell by cell.  Otherwise the error names the first cell that cannot be, with
its row and its spelling.
-/
import Exemplar.Proofs.Fallible
import Exemplar.Roles

namespace Exemplar

/-- What stands in one place of a table. -/
inductive Cell where
  | int (i : Int64)
  | float (x : Float)
  | text (s : String)
  deriving DecidableEq

def Column.cell? (column : Column) (row : Nat) : Option Cell :=
  match column with
  | .ints cells => cells[row]?.map .int
  | .floats cells => cells[row]?.map .float
  | .texts cells => cells[row]?.map .text

def Table.cell? (t : Table) (name : String) (row : Nat) : Option Cell :=
  (t.column? name).bind (·.cell? row)

namespace Cell

/-- The cell as a category is spelled. -/
def spelling : Cell → String
  | int i => Decimal.intText i.toInt
  | float x => Decimal.category.text x
  | text s => s

/-- The number that the cell is or spells. -/
def number? : Cell → Option Float
  | int i => some (Binary64.ofInt i.toInt)
  | float x => some x
  | text s => Column.readFloat? s

/-- The class that the cell spells, as the position of its spelling among the classes. -/
def class? (vocabulary : List String) (cell : Cell) : Option Int64 :=
  (vocabulary.idxOf? cell.spelling).map Int64.ofNat

theorem isSome_class?_iff {vocabulary : List String} {cell : Cell} :
    (cell.class? vocabulary).isSome ↔ cell.spelling ∈ vocabulary := by
  rw [class?, Option.isSome_map, ← Option.ne_none_iff_isSome, ne_eq, List.idxOf?_eq_none_iff,
    not_not]

/-- A class is the position of what is spelled. -/
theorem exists_of_class? {vocabulary : List String} {cell : Cell} {i : Int64}
    (h : cell.class? vocabulary = some i) :
    ∃ p, vocabulary[p]? = some cell.spelling ∧ i = Int64.ofNat p := by
  obtain ⟨p, hp, rfl⟩ := Option.map_eq_some_iff.1 h
  obtain ⟨hlt, hspelling, -⟩ := List.idxOf?_eq_some_iff.1 hp
  exact ⟨p, List.getElem?_eq_some_iff.2 ⟨hlt, by simpa using hspelling⟩, rfl⟩

end Cell

/-- Whether a cell can be turned into something. -/
def CellTarget.Takes (target : CellTarget) (cell : Cell) : Prop :=
  match target with
  | .number => cell.number?.isSome
  | .classOf vocabulary => cell.spelling ∈ vocabulary

/-- What the cells of a label are turned into. -/
def LabelKind.target : LabelKind → CellTarget
  | .classes vocabulary => .classOf vocabulary
  | .numeric => .number

namespace Column

variable {α β : Type} {read : α → Option β} {fault : Nat → α → DataError} {row : Nat}
variable {name : String} {column new : Column} {error : DataError} {vocabulary : List String}

def cells : Column → List Cell
  | ints cells => cells.map .int
  | floats cells => cells.map .float
  | texts cells => cells.map .text

theorem getElem?_cells (column : Column) (row : Nat) : column.cells[row]? = column.cell? row := by
  cases column <;> exact List.getElem?_map

theorem map_spelling_cells (column : Column) :
    column.cells.map Cell.spelling = column.spellings := by
  cases column with
  | ints cells => exact List.map_map
  | floats cells => exact List.map_map
  | texts cells => exact List.map_map.trans (List.map_id cells)

theorem length_cells (column : Column) : column.cells.length = column.length := by
  cases column <;> exact List.length_map _

/-- What a column becomes that is turned into something, cell by cell. -/
def TurnsInto (target : CellTarget) (old new : Column) : Prop :=
  match target with
  | .number => ∃ numbers, new = floats numbers ∧
      List.Forall₂ (fun cell x => cell.number? = some x) old.cells numbers
  | .classOf vocabulary => ∃ classes, new = ints classes ∧
      List.Forall₂ (fun cell i => ∃ p, vocabulary[p]? = some cell.spelling ∧ i = Int64.ofNat p)
        old.cells classes

/-- The first cell of a column that cannot be turned into something, by its row and its spelling. -/
def StopsAt (target : CellTarget) (column : Column) (row : Nat) (value : String) : Prop :=
  (∃ cell, column.cell? row = some cell ∧ ¬ target.Takes cell ∧ value = cell.spelling) ∧
    ∀ earlier < row, ∀ cell, column.cell? earlier = some cell → target.Takes cell

/-! ## Reading -/

theorem readCells_eq_ok_iff {cells : List α} {values : List β} :
    readCells read fault row cells = .ok values ↔
      List.Forall₂ (fun cell value => read cell = some value) cells values := by
  induction cells generalizing row values with
  | nil => cases values <;> simp [readCells]
  | cons cell rest ih =>
    rw [readCells, List.forall₂_cons_left_iff]
    cases hread : read cell with
    | none => simp
    | some value =>
      simp only [map_eq_ok_iff, ih, Option.some.injEq]
      constructor
      · rintro ⟨others, hothers, rfl⟩
        exact ⟨value, others, rfl, hothers, rfl⟩
      · rintro ⟨_, others, rfl, hothers, rfl⟩
        exact ⟨others, hothers, rfl⟩

/-- Reading ends at the first cell that cannot be read. -/
theorem readCells_eq_error_iff {cells : List α} : readCells read fault row cells = .error error ↔
    ∃ before cell after, cells = before ++ cell :: after ∧ (∀ c ∈ before, (read c).isSome) ∧
      read cell = none ∧ error = fault (row + before.length) cell := by
  induction cells generalizing row with
  | nil => simp [readCells]
  | cons cell rest ih =>
    rw [readCells]
    cases hread : read cell with
    | none =>
      constructor
      · intro h
        cases h
        exact ⟨[], cell, rest, rfl, by simp, hread, rfl⟩
      · rintro ⟨before, other, after, hcells, hbefore, -, rfl⟩
        cases before with
        | nil =>
          cases hcells
          rfl
        | cons first before =>
          cases hcells
          simp [hread] at hbefore
    | some value =>
      simp only [map_eq_error_iff, ih]
      constructor
      · rintro ⟨before, other, after, rfl, hbefore, hother, rfl⟩
        refine ⟨cell :: before, other, after, rfl, ?_, hother, ?_⟩
        · exact List.forall_mem_cons.2 ⟨by simp [hread], hbefore⟩
        · rw [List.length_cons, Nat.add_right_comm, Nat.add_assoc]
      · rintro ⟨before, other, after, hcells, hbefore, hother, rfl⟩
        cases before with
        | nil =>
          cases hcells
          cases hread.symm.trans hother
        | cons first before =>
          cases hcells
          refine ⟨before, other, after, rfl, (List.forall_mem_cons.1 hbefore).2, hother, ?_⟩
          rw [List.length_cons, Nat.add_right_comm, Nat.add_assoc]

theorem readCells_map {γ : Type} (f : γ → α) (cells : List γ) :
    readCells read fault row (cells.map f)
      = readCells (fun c => read (f c)) (fun row c => fault row (f c)) row cells := by
  induction cells generalizing row with
  | nil => rfl
  | cons cell rest ih => rw [List.map_cons, readCells, readCells, ih]

theorem readCells_some (f : α → β) (cells : List α) :
    readCells (fun cell => some (f cell)) fault row cells = .ok (cells.map f) := by
  rw [readCells_eq_ok_iff, List.forall₂_map_right_iff, List.forall₂_same]
  exact fun _ _ => rfl

/-! ## Turning columns into something -/

/-- A column of any type is read as numbers cell by cell. -/
theorem toFloats_eq (name : String) (column : Column) : column.toFloats name
    = (readCells Cell.number? (fun row cell => .coercion name row cell.spelling .number) 0
        column.cells).map floats := by
  cases column with
  | ints cells =>
    rw [Column.cells, readCells_map]
    exact congrArg (Except.map floats) (readCells_some _ cells).symm
  | floats cells =>
    rw [Column.cells, readCells_map]
    show _ = Except.map floats (readCells (fun x => some x) _ 0 cells)
    rw [readCells_some (fun x => x), List.map_id']
    rfl
  | texts cells =>
    rw [Column.cells, readCells_map]
    rfl

/-- A column of any type is read as classes cell by cell. -/
theorem toClasses_eq (name : String) (vocabulary : List String) (column : Column) :
    column.toClasses name vocabulary = (readCells (Cell.class? vocabulary)
      (fun row cell => .coercion name row cell.spelling (.classOf vocabulary)) 0
      column.cells).map ints := by
  unfold toClasses
  rw [← map_spelling_cells, readCells_map]
  rfl

theorem turnsInto_of_toFloats (h : column.toFloats name = .ok new) :
    column.TurnsInto .number new := by
  rw [toFloats_eq, map_eq_ok_iff] at h
  obtain ⟨numbers, hnumbers, rfl⟩ := h
  exact ⟨numbers, rfl, readCells_eq_ok_iff.1 hnumbers⟩

theorem turnsInto_of_toClasses (h : column.toClasses name vocabulary = .ok new) :
    column.TurnsInto (.classOf vocabulary) new := by
  rw [toClasses_eq, map_eq_ok_iff] at h
  obtain ⟨classes, hclasses, rfl⟩ := h
  exact ⟨classes, rfl, (readCells_eq_ok_iff.1 hclasses).imp fun _ _ => Cell.exists_of_class?⟩

/-- Cells that are read by themselves stop a column at the first that is not taken. -/
theorem readCells_eq_error {read : Cell → Option β} {target : CellTarget}
    (hread : ∀ cell, (read cell).isSome ↔ target.Takes cell)
    (h : readCells read (fun row cell => .coercion name row cell.spelling target) 0 column.cells
      = .error error) :
    ∃ row value, column.StopsAt target row value ∧ error = .coercion name row value target := by
  obtain ⟨before, cell, after, hcells, hbefore, hcell, rfl⟩ := readCells_eq_error_iff.1 h
  have hplace (row : Nat) : column.cell? row = (before ++ cell :: after)[row]? := by
    rw [← hcells, getElem?_cells]
  refine ⟨before.length, cell.spelling, ⟨⟨cell, ?_, ?_, rfl⟩, ?_⟩, by rw [Nat.zero_add]⟩
  · rw [hplace]
    simp
  · rw [← hread, hcell]
    simp
  · intro earlier hearlier other hother
    rw [hplace, List.getElem?_append_left hearlier] at hother
    exact (hread other).1 (hbefore other (List.mem_of_getElem? hother))

theorem stopsAt_of_toFloats (h : column.toFloats name = .error error) :
    ∃ row value, column.StopsAt .number row value ∧ error = .coercion name row value .number := by
  rw [toFloats_eq, map_eq_error_iff] at h
  exact readCells_eq_error (fun _ => Iff.rfl) h

theorem stopsAt_of_toClasses (h : column.toClasses name vocabulary = .error error) :
    ∃ row value, column.StopsAt (.classOf vocabulary) row value ∧
      error = .coercion name row value (.classOf vocabulary) := by
  rw [toClasses_eq, map_eq_error_iff] at h
  exact readCells_eq_error (fun _ => Cell.isSome_class?_iff) h

theorem turnsInto_of_coerceLabel {kind : LabelKind}
    (h : Table.coerceLabel name kind column = .ok new) : column.TurnsInto kind.target new := by
  cases kind with
  | classes vocabulary => exact turnsInto_of_toClasses h
  | numeric => exact turnsInto_of_toFloats h

theorem stopsAt_of_coerceLabel {kind : LabelKind}
    (h : Table.coerceLabel name kind column = .error error) :
    ∃ row value, column.StopsAt kind.target row value ∧
      error = .coercion name row value kind.target := by
  cases kind with
  | classes vocabulary => exact stopsAt_of_toClasses h
  | numeric => exact stopsAt_of_toFloats h

/-! ## What a column has become -/

theorem toFloats_eq_ok (h : column.toFloats name = .ok new) : ∃ cells, new = .floats cells := by
  obtain ⟨numbers, rfl, -⟩ := turnsInto_of_toFloats h
  exact ⟨numbers, rfl⟩

/-- Classes are positions in the vocabulary. -/
theorem toClasses_eq_ok (h : column.toClasses name vocabulary = .ok new) :
    ∃ positions : List Nat, (∀ p ∈ positions, p < vocabulary.length) ∧
      new = .ints (positions.map Int64.ofNat) := by
  obtain ⟨classes, rfl, hclasses⟩ := turnsInto_of_toClasses h
  clear h
  generalize column.cells = cells at hclasses
  induction hclasses with
  | nil => exact ⟨[], by simp, rfl⟩
  | cons hcell _ ih =>
    obtain ⟨positions, hlt, heq⟩ := ih
    obtain ⟨p, hp, rfl⟩ := hcell
    refine ⟨p :: positions, List.forall_mem_cons.2 ⟨?_, hlt⟩, ?_⟩
    · exact (List.getElem?_eq_some_iff.1 hp).1
    · rw [List.map_cons, Column.ints.inj heq]

/-- A column keeps its length, whatever it turns into. -/
theorem TurnsInto.length_eq {target : CellTarget} (h : column.TurnsInto target new) :
    new.length = column.length := by
  rw [← length_cells column]
  cases target with
  | number =>
    obtain ⟨numbers, rfl, hcells⟩ := h
    exact hcells.length_eq.symm
  | classOf vocabulary =>
    obtain ⟨classes, rfl, hcells⟩ := h
    exact hcells.length_eq.symm

end Column
end Exemplar
