/-
Tables from comma separated text.

The first record names the columns, blanks around a name aside.  Each column gets
the narrowest type that holds all of its cells.
-/
import Exemplar.Table.Basic
import Exemplar.Work

namespace Exemplar
namespace Table

/-- What was being read when record number `record` turned out to be faulty. -/
def readingRecord (record : Nat) : Activity :=
  if record = 0 then .readingHeader else .parsingRow record

/-- The cells of column number `index`. -/
def cellsAt (rows : List (List String)) (index : Nat) : List String :=
  rows.map (·.getD index "")

def ofSheet (sheet : Csv.Sheet) : Except DataError Table :=
  ofColumns (sheet.header.zipIdx.map fun (name, index) =>
    (Text.trimmed name, Column.infer (cellsAt sheet.rows index)))

/-- The table that a text holds. -/
def ofBytes (bytes : List UInt8) : Attempt Table :=
  match Csv.read bytes with
  | .error fault => .error ((Failure.csv fault.error).within (readingRecord fault.record))
  | .ok sheet => .ofData (ofSheet sheet)

/-- The table in a file. -/
def load (path : Path) : Work Table :=
  ExceptT.mk (do
    match ← Action.request (.read path) with
    | .error (.opening error) => return .error ((Failure.file error).within (.openingDataset path))
    | .error (.reading error) =>
      return .error (((Failure.csv (.file error)).within .readingHeader).within
        (.loadingDataset path))
    | .ok bytes => return Attempt.within (.loadingDataset path) (ofBytes bytes.toList))

/-- The tables in the files of a directory, by name. -/
def inDirectory (directory : Path) (file : String) : Work Table := load (directory.entry file)

end Table
end Exemplar
