/-
Prediction sheets: one row per prediction, with the probabilities of the classes
where they are recorded.
-/
import Exemplar.Csv.Writer
import Exemplar.Learning.Value
import Exemplar.Table.DataError

namespace Exemplar

structure PredictionSheet where
  /-- Each prediction with the probabilities of the classes. -/
  rows : List (Value × List Float)
  classCount : Nat
  width_eq : ∀ row ∈ rows, row.2.length = classCount

namespace PredictionSheet

/-- Predictions without probabilities. -/
def pointOnly (targets : List Value) : PredictionSheet where
  rows := targets.map (·, [])
  classCount := 0
  width_eq := by simp

/-- Predictions with as many probability rows, each with one probability for every class. -/
def withProbabilities (targets : List Value) (probabilities : List (List Float))
    (classCount : Nat) : Except DataError PredictionSheet :=
  if probabilities.length ≠ targets.length then
    .error (.rowCount .probabilityRows targets.length probabilities.length)
  else
    match h : probabilities.zipIdx.find? (·.1.length ≠ classCount) with
    | some (row, index) => .error (.probabilityWidth index classCount row.length)
    | none => .ok {
        rows := targets.zip probabilities
        classCount
        width_eq := by
          intro row hrow
          obtain ⟨index, hindex⟩ := List.mem_iff_getElem?.1 (List.of_mem_zip hrow).2
          have := List.find?_eq_none.1 h (row.2, index) (List.mem_zipIdx_iff_getElem?.2 hindex)
          simpa using this }

def rowCount (s : PredictionSheet) : Nat := s.rows.length

def targetHeader : String := "_target"

def probabilityHeader (index : Nat) : String := "probability(" ++ Decimal.natText index ++ ")"

def header (s : PredictionSheet) : List String :=
  targetHeader :: (List.range s.classCount).map probabilityHeader

/-- One row as cells. -/
def cells (row : Value × List Float) : List String :=
  row.1.text :: row.2.map Decimal.plain.text

def record? (s : PredictionSheet) (index : Nat) : Option (List String) :=
  s.rows[index]?.map cells

def records (s : PredictionSheet) : List (List String) := s.rows.map cells

/-- The sheet as it is written. -/
def written (s : PredictionSheet) : Csv.Sheet := ⟨s.header, s.records⟩

end PredictionSheet
end Exemplar
