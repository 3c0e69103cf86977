/-
The flat input space of a model.

Every column owns a slice of it: one slot for a number, one per key otherwise.
A row is encoded as a sparse list of slots with values, or spread out over the
whole width.
-/
import Exemplar.Inputs.Training

namespace Exemplar

/-- Slots with their values; all other slots are zero. -/
abbrev SparseRow := List (Nat × Float)

/-- The columns of a model, side by side in the input space. -/
structure Layout where
  columns : List InputColumn
  deriving DecidableEq, Repr

namespace Layout

/-- The columns with the first slot of each, from `offset` on. -/
def place (offset : Nat) : List InputColumn → List (InputColumn × Nat)
  | [] => []
  | column :: rest => (column, offset) :: place (offset + column.width) rest

def placed (l : Layout) : List (InputColumn × Nat) := place 0 l.columns

def width (l : Layout) : Nat := (l.columns.map InputColumn.width).foldr (· + ·) 0

/-- Whether every keyed column is spread over indicators. -/
def isDense (l : Layout) : Bool :=
  l.columns.all fun
    | .keyed _ => false
    | _ => true

/-- What a column adds to each row: its cells, or its keys' slots with value one.  Cells of the
other kind add nothing. -/
def entries (column : InputColumn) (offset : Nat) (tensor : Column) :
    Except DataError (List (Nat × Float)) :=
  match column with
  | .realValued _ => .ok ((tensor.floats?.getD []).map (offset, ·))
  | .keyed c | .oneHot c =>
    (tensor.texts?.getD []).mapM fun key => (c.keyIndex key).map fun i => (offset + i, 1.0)

/-- The tensor of a column, if it is there with the right type and length. -/
def columnTensor (features : SortedMap Column) (rows : Nat) (column : InputColumn) :
    Except DataError Column :=
  match features.get? column.column with
  | none => .error (.unknownColumn column.column)
  | some tensor =>
    if tensor.elementType ≠ column.type then
      .error (.typeMismatch column.column column.type tensor.elementType)
    else if tensor.length ≠ rows then
      .error (.rowCount (.feature column.column) rows tensor.length)
    else .ok tensor

/-- Appends an entry to each row as long as there are entries. -/
def appendEntries : List SparseRow → List (Nat × Float) → List SparseRow
  | row :: rows, entry :: entries => (row ++ [entry]) :: appendEntries rows entries
  | rows, _ => rows

def addColumn (features : SortedMap Column) (rowCount : Nat) (rows : List SparseRow) :
    InputColumn × Nat → Except DataError (List SparseRow)
  | (column, offset) => do
    let tensor ← columnTensor features rowCount column
    return appendEntries rows (← entries column offset tensor)

/-- The number of rows of a batch: that of its first feature. -/
def batchRows (features : SortedMap Column) : Nat :=
  match features with
  | [] => 0
  | (_, tensor) :: _ => tensor.length

/-- Every row of a batch as slots with values, one column after the other. -/
def sparseRows (l : Layout) (features : SortedMap Column) : Except DataError (List SparseRow) :=
  let rows := batchRows features
  l.placed.foldlM (addColumn features rows) (List.replicate rows [])

/-- A row spread out over the given width. -/
def spread (width : Nat) (row : SparseRow) : List Float :=
  row.foldl (fun dense (slot, value) => dense.set slot value) (List.replicate width 0.0)

def denseRows (l : Layout) (features : SortedMap Column) : Except DataError (List (List Float)) :=
  (l.sparseRows features).map (·.map (spread l.width))

end Layout
end Exemplar
