/-
How features are described to a model.

An encoding says of each feature whether it is a number or a key of a vocabulary
that was fixed when the encodings were built.  Whether a keyed column is handed
to a model as it is or spread over indicator slots is decided when the model is
made, by what density of input it wants.
-/
import Exemplar.Roles
import Exemplar.SortedMap

namespace Exemplar

structure RealColumn where
  column : String
  type : ElementType
  deriving DecidableEq, Repr

structure KeyedColumn where
  column : String
  type : ElementType
  vocabulary : List String
  deriving DecidableEq, Repr

namespace KeyedColumn

/-- Where halving leads: the last entry that is not above the key, in an ordered vocabulary. -/
def bisect (vocabulary : List String) (key : String) (base size : Nat) : Nat :=
  if size ≤ 1 then base
  else
    let middle := base + size / 2
    bisect vocabulary key (if key < vocabulary.getD middle "" then base else middle)
      (size - size / 2)
  termination_by size

/-- The position of a key in the vocabulary. -/
def keyIndex (c : KeyedColumn) (key : String) : Except DataError Nat :=
  let position := bisect c.vocabulary key 0 c.vocabulary.length
  if c.vocabulary[position]? = some key then .ok position
  else .error (.unknownCategory c.column key)

end KeyedColumn

inductive Encoding where
  | realValued (c : RealColumn)
  | keyed (c : KeyedColumn)
  deriving DecidableEq, Repr

/-- Whether keyed columns are fed as single slots of a sparse row or as blocks of indicators. -/
inductive Density where
  | sparse
  | dense
  deriving DecidableEq, Repr

/-- A column as a model takes it. -/
inductive InputColumn where
  | realValued (c : RealColumn)
  | keyed (c : KeyedColumn)
  /-- A block of indicators, one per key. -/
  | oneHot (c : KeyedColumn)
  deriving DecidableEq, Repr

namespace InputColumn

def column : InputColumn → String
  | realValued c => c.column
  | keyed c | oneHot c => c.column

def type : InputColumn → ElementType
  | realValued c => c.type
  | keyed c | oneHot c => c.type

/-- The number of slots of the flat input space that belong to the column. -/
def width : InputColumn → Nat
  | realValued _ => 1
  | keyed c | oneHot c => c.vocabulary.length

end InputColumn

namespace Encoding

def column : Encoding → String
  | realValued c => c.column
  | keyed c => c.column

/-- The distinct keys of a text column in order. -/
def vocabulary (name : String) : Column → Except DataError (List String)
  | .texts [] => .error (.emptyVocabulary name)
  | .texts cells => .ok (SortedMap.distinct cells)
  | other => .error (.typeMismatch name .string other.elementType)

def ofCategorical (table : Table) (name : String) : Except DataError Encoding := do
  let keys ← vocabulary name (← table.column name)
  return .keyed ⟨name, .string, keys⟩

/-- One encoding per feature: the continuous ones, then the categorical ones. -/
def ofTable (table : Table) (roles : Roles) : Except DataError (List Encoding) := do
  let categorical ← roles.categorical.mapM (ofCategorical table)
  return roles.continuous.map (fun name => .realValued ⟨name, .float64⟩) ++ categorical

/-- The column that a model of the given density is made with. -/
def resolve (density : Density) : Encoding → InputColumn
  | realValued c => .realValued c
  | keyed c =>
    match density with
    | .sparse => .keyed c
    | .dense => .oneHot c

/-- However dense it is, the column has the name of the encoding. -/
@[simp] theorem column_resolve (density : Density) (e : Encoding) :
    (e.resolve density).column = e.column := by
  cases e with
  | realValued c => rfl
  | keyed c => cases density <;> rfl

end Encoding
end Exemplar
