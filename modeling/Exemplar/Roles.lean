/-
The roles of a table's columns.

An assignment names the columns that are continuous features, those that are
categorical features, and the label.  It is checked against the table before
anything is changed; then the columns are coerced one after the other, and a
column that cannot be coerced ends the work with those before it coerced already.
-/
import Exemplar.Table.Basic

namespace Exemplar

/-- How the label is read. -/
inductive LabelKind where
  /-- A class of a finite vocabulary, counted by its position. -/
  | classes (vocabulary : List String)
  | numeric
  deriving DecidableEq, Repr

/-- What is learned. -/
inductive Task where
  | classification (classCount : Nat)
  | regression
  deriving DecidableEq, Repr

namespace Task

def classCount? : Task → Option Nat
  | classification n => some n
  | regression => none

def title : Task → String
  | classification _ => "Classification"
  | regression => "Regression"

/-- The element type of a label that the task can learn from. -/
def labelType : Task → ElementType
  | classification _ => .int64
  | regression => .float64

end Task

def LabelKind.task : LabelKind → Task
  | .classes vocabulary => .classification vocabulary.length
  | .numeric => .regression

/-- The roles that somebody wants the columns to have. -/
structure Assignment where
  continuous : List String
  categorical : List String
  label : String
  labelKind : LabelKind
  deriving DecidableEq, Repr

/-- Roles that were checked against a table. -/
structure Roles where
  continuous : List String
  categorical : List String
  label : String
  task : Task
  deriving DecidableEq, Repr

/-- The continuous features and then the categorical ones. -/
def Roles.features (roles : Roles) : List String := roles.continuous ++ roles.categorical

namespace Assignment

def roles (a : Assignment) : Roles := ⟨a.continuous, a.categorical, a.label, a.labelKind.task⟩

/-- The first item that stands in the list a second time. -/
def firstRepeat? (seen : List String) : List String → Option String
  | [] => none
  | name :: rest => if seen.contains name then some name else firstRepeat? (name :: seen) rest

/-- The first categorical name that is continuous as well or stands there a second time. -/
def categoricalFault? (continuous seen : List String) : List String → Option DataError
  | [] => none
  | name :: rest =>
    if continuous.contains name then some (.roleOverlap name)
    else if seen.contains name then some (.duplicateColumn name)
    else categoricalFault? continuous (name :: seen) rest

/-- What is wrong with the label's vocabulary. -/
def vocabularyFault? (label : String) : LabelKind → Option DataError
  | .numeric => none
  | .classes [] => some (.emptyLabelVocabulary label)
  | .classes vocabulary => (firstRepeat? [] vocabulary).map (.duplicateLabel label)

/-- What is wrong with an assignment for a table, the first fault in a fixed order. -/
def fault? (a : Assignment) (table : Table) : Option DataError :=
  ((firstRepeat? [] a.continuous).map .duplicateColumn).or <|
  (categoricalFault? a.continuous [] a.categorical).or <|
  (if a.continuous.contains a.label || a.categorical.contains a.label then
    some (.labelInFeatures a.label) else none).or <|
  (((a.continuous ++ a.categorical ++ [a.label]).find? (!table.hasColumn ·)).map
    .unknownColumn).or <|
  vocabularyFault? a.label a.labelKind

/-- Checks an assignment against a table without changing anything. -/
def validate (a : Assignment) (table : Table) : Except DataError Unit :=
  match a.fault? table with
  | some error => .error error
  | none => .ok ()

end Assignment

namespace Column

/-- The cells read one by one; the first that cannot be read is reported with its row. -/
def readCells {α β : Type} (read : α → Option β) (fault : Nat → α → DataError) (row : Nat) :
    List α → Except DataError (List β)
  | [] => .ok []
  | cell :: rest =>
    match read cell with
    | none => .error (fault row cell)
    | some value => (readCells read fault (row + 1) rest).map (value :: ·)

/-- The column as numbers. -/
def toFloats (name : String) : Column → Except DataError Column
  | floats cells => .ok (floats cells)
  | ints cells => .ok (floats (cells.map fun i => Binary64.ofInt i.toInt))
  | texts cells =>
    (readCells readFloat? (fun row cell => .coercion name row cell .number) 0 cells).map floats

/-- The column as positions in a vocabulary. -/
def toClasses (name : String) (vocabulary : List String) (column : Column) :
    Except DataError Column :=
  (readCells (fun cell => (vocabulary.idxOf? cell).map fun i => Int64.ofNat i)
    (fun row cell => .coercion name row cell (.classOf vocabulary)) 0 column.spellings).map ints

/-- The column as texts. -/
def toTexts (column : Column) : Column := texts column.spellings

end Column

namespace Table

/-- A table and, if its coercion did not come to the end, why. -/
abbrev Coerced := Table × Option DataError

/-- Coerces one column, unless something went wrong before. -/
def coerceColumn (coerce : Column → Except DataError Column) (state : Coerced) (name : String) :
    Coerced :=
  match state with
  | (t, some error) => (t, some error)
  | (t, none) =>
    match (do t.replaceColumn name (← coerce (← t.column name)) : Except DataError Table) with
    | .ok next => (next, none)
    | .error error => (t, some error)

/-- The label as its kind wants it. -/
def coerceLabel (name : String) : LabelKind → Column → Except DataError Column
  | .classes vocabulary => Column.toClasses name vocabulary
  | .numeric => Column.toFloats name

/-- Coerces continuous columns, then categorical ones, then the label. -/
def coerce (t : Table) (a : Assignment) : Coerced :=
  let afterContinuous := a.continuous.foldl (fun state name =>
    coerceColumn (Column.toFloats name) state name) (t, none)
  let afterFeatures := a.categorical.foldl (coerceColumn fun column => .ok column.toTexts)
    afterContinuous
  coerceColumn (coerceLabel a.label a.labelKind) afterFeatures a.label

/-- Checks an assignment and coerces the table.  The table is what is left after the attempt: one
that was refused is unchanged, and a failed coercion keeps the columns before the failing one. -/
def classify (t : Table) (a : Assignment) : Table × Except DataError Roles :=
  match a.validate t with
  | .error error => (t, .error error)
  | .ok () =>
    match t.coerce a with
    | (after, some error) => (after, .error error)
    | (after, none) => (after, .ok a.roles)

end Table
end Exemplar
