/-
Tables: named columns of one length, in the order of their source.
-/
import Exemplar.Table.Column
import Exemplar.Table.DataError

namespace Exemplar

structure Table where
  columns : List (String × Column) := []

namespace Table

def names (t : Table) : List String := t.columns.map (·.1)

/-- The length of the first column, which is that of all. -/
def rowCount (t : Table) : Nat :=
  match t.columns with
  | [] => 0
  | (_, column) :: _ => column.length

def hasColumn (t : Table) (name : String) : Bool := t.names.contains name

def column? (t : Table) (name : String) : Option Column := t.columns.lookup name

def column (t : Table) (name : String) : Except DataError Column :=
  match t.column? name with
  | some column => .ok column
  | none => .error (.unknownColumn name)

/-- The table with one more column at the end. -/
def addColumn (t : Table) (name : String) (column : Column) : Except DataError Table :=
  if t.hasColumn name then .error (.duplicateColumn name)
  else if !t.columns.isEmpty && t.rowCount != column.length then
    .error (.rowCount (.column name) t.rowCount column.length)
  else .ok ⟨t.columns ++ [(name, column)]⟩

/-- A table of the given columns, if their names differ and their lengths agree. -/
def ofColumns (columns : List (String × Column)) : Except DataError Table :=
  columns.foldlM (fun t (name, column) => t.addColumn name column) {}

/-- Puts another column of the same length in the place of one. -/
def replaceColumn (t : Table) (name : String) (column : Column) : Except DataError Table :=
  if !t.hasColumn name then .error (.unknownColumn name)
  else if column.length ≠ t.rowCount then
    .error (.rowCount (.coercedColumn name) t.rowCount column.length)
  else .ok ⟨t.columns.map fun (n, c) => if n = name then (n, column) else (n, c)⟩

end Table
end Exemplar
