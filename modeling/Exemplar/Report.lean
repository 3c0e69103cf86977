/-
What is printed about plans and batches.

Columns are as wide as the longest name is in bytes, but are filled up by
characters.  A column has a width of 16 bits; nothing is printed with a wider one.
-/
import Exemplar.Catalog.Batch

namespace Exemplar
namespace Report

/-- A text filled up with blanks at its end. -/
def padEnd (width : Nat) (text : String) : String :=
  text ++ String.ofList (List.replicate (width - text.length) ' ')

/-- A text with blanks before it. -/
def padStart (width : Nat) (text : String) : String :=
  String.ofList (List.replicate (width - text.length) ' ') ++ text

/-- The width of a column that holds the given names. -/
def columnWidth (least : Nat) (names : List String) : Nat :=
  names.foldl (fun width name => max width name.utf8ByteSize) least

def widestColumn : Nat := 65535

/-- A text with columns of the given width, if there can be such columns. -/
def ofWidth (width : Nat) (text : String) : Attempt String :=
  if width ≤ widestColumn then .ok text else .error .crash

def nameTitle : String := "fixture"

/-- One line of a summary. -/
def line (width : Nat) (name status rows detail : String) : String :=
  padEnd width name ++ "  " ++ padEnd 7 status ++ "  " ++ padStart 5 rows ++ "  " ++ detail

def outcomeLine (width : Nat) : Catalog.Outcome → String
  | .succeeded report =>
    line width report.name "ok" (Decimal.natText report.rows) report.artifact.text
  | .failed name failure => line width name "failed" "-" failure.message

/-- The number of outcomes that are failures. -/
def failureCount (outcomes : List Catalog.Outcome) : Nat :=
  (outcomes.filter Catalog.Outcome.isFailure).length

/-- A table of outcomes with their numbers below; `done` says what happened to those that
succeeded. -/
def summary (outcomes : List Catalog.Outcome) (done : String) : Attempt String :=
  let width := columnWidth nameTitle.utf8ByteSize (outcomes.map Catalog.Outcome.name)
  let failed := failureCount outcomes
  let last := Decimal.natText (outcomes.length - failed) ++ " " ++ done ++ ", "
    ++ Decimal.natText failed ++ " failed"
  ofWidth width (String.intercalate "\n" (line width nameTitle "status" "rows" "detail"
    :: outcomes.map (outcomeLine width) ++ [last]))

def planLine (width : Nat) (p : Catalog.Planned) : String :=
  padEnd width p.name ++ "  dataset=" ++ p.dataset.name ++ " architecture="
    ++ p.choice.architecture.title ++ " steps=" ++ Decimal.natText p.dataset.steps.toNat

/-- One line for each planned fixture. -/
def plan (planned : List Catalog.Planned) : Attempt String :=
  let width := columnWidth 0 (planned.map (·.name))
  ofWidth width (String.intercalate "\n" (planned.map (planLine width)))

end Report
end Exemplar
