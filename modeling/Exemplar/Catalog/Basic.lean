/-
The catalog: which fixtures there are, and what each is made of.
-/
import Exemplar.Learning.Architecture
import Exemplar.Text.CamelCase
import Exemplar.Work

namespace Exemplar

/-- One model to be made from a dataset. -/
structure Choice where
  architecture : Architecture
  hiddenUnits : List Nat
  /-- Where the generator of first weights starts. -/
  seed : Int64
  deriving DecidableEq, Repr

structure Dataset where
  name : String
  /-- The file's name among the sheets. -/
  file : String
  assignment : Assignment
  steps : UInt64
  choices : List Choice
  deriving DecidableEq, Repr

namespace Dataset

def task (d : Dataset) : Task := d.assignment.labelKind.task

/-- The name of the fixture that a choice stands for. -/
def fixtureName (d : Dataset) (choice : Choice) : String :=
  choice.architecture.title ++ d.task.title ++ Text.camelCase d.name

end Dataset

structure Catalog where
  /-- Where the datasets are, and where predictions go. -/
  sheetDirectory : Path
  artifactDirectory : Path
  datasets : List Dataset
  deriving DecidableEq, Repr

namespace Catalog

/-! ## The catalog that is used without any other -/

def linearChoice : Choice := ⟨.linear, [], 0⟩

def networkChoice (hiddenUnits : List Nat) : Choice := ⟨.network, hiddenUnits, 42⟩

def audit : Dataset where
  name := "Audit"
  file := "Audit.csv"
  assignment := {
    continuous := ["Age", "Income", "Deductions", "Hours"]
    categorical := ["Employment", "Education", "Marital", "Occupation", "Gender"]
    label := "Adjusted"
    labelKind := .classes ["0", "1"] }
  steps := 2000
  choices := [networkChoice [71, 11], linearChoice]

def iris : Dataset where
  name := "Iris"
  file := "Iris.csv"
  assignment := {
    continuous := ["Sepal.Length", "Sepal.Width", "Petal.Length", "Petal.Width"]
    categorical := []
    label := "Species"
    labelKind := .classes ["setosa", "versicolor", "virginica"] }
  steps := 500
  choices := [networkChoice [11], linearChoice]

def auto : Dataset where
  name := "Auto"
  file := "Auto.csv"
  assignment := {
    continuous :=
      ["cylinders", "displacement", "horsepower", "weight", "acceleration", "model_year"]
    categorical := ["origin"]
    label := "mpg"
    labelKind := .numeric }
  steps := 2000
  choices := [networkChoice [7, 5, 3], linearChoice]

def standard : Catalog := ⟨⟨"csv"⟩, ⟨"savedmodel"⟩, [audit, iris, auto]⟩

/-! ## Validity -/

/-- The names taken after the choices of a dataset, if none of them was taken before. -/
def takeNames (taken : List String) (d : Dataset) : List Choice → Except Refusal (List String)
  | [] => .ok taken
  | choice :: rest =>
    let name := d.fixtureName choice
    if taken.contains name then .error (.repeatedFixture name)
    else takeNames (name :: taken) d rest

/-- Checks datasets, given the names of datasets and fixtures before them. -/
def checkDatasets (datasets fixtures : List String) : List Dataset → Except Refusal Unit
  | [] => .ok ()
  | d :: rest =>
    if datasets.contains d.name then .error (.repeatedDataset d.name)
    else if d.choices.isEmpty then .error (.noEstimators d.name)
    else
      match takeNames fixtures d d.choices with
      | .error refusal => .error refusal
      | .ok fixtures => checkDatasets (d.name :: datasets) fixtures rest

/-- Names must be distinct, and every dataset must have a choice. -/
def validate (c : Catalog) : Except Refusal Unit := checkDatasets [] [] c.datasets

/-- The same catalog with one number of steps for all datasets. -/
def withSteps (c : Catalog) (steps : UInt64) : Catalog :=
  { c with datasets := c.datasets.map fun d => { d with steps } }

/-! ## Plans -/

/-- A fixture to be made, with the dataset and its position in the catalog. -/
structure Planned where
  name : String
  position : Nat
  dataset : Dataset
  choice : Choice
  deriving DecidableEq, Repr

def planDataset (d : Dataset) (position : Nat) : List Planned :=
  d.choices.map fun choice => ⟨d.fixtureName choice, position, d, choice⟩

/-- All fixtures in the order of the catalog. -/
def plan (c : Catalog) : List Planned :=
  c.datasets.zipIdx.flatMap fun (d, position) => planDataset d position

/-- The planned fixtures that are selected by name, in their order; an empty selection selects
all. -/
def select (planned : List Planned) (selection : List String) : Except Refusal (List Planned) :=
  let known := planned.map (·.name)
  let unknown := selection.filter (!known.contains ·)
  if selection.isEmpty then .ok planned
  else if !unknown.isEmpty then .error (.unknownFixtures unknown (SortedMap.distinct known))
  else .ok (planned.filter fun p => selection.contains p.name)

end Catalog
end Exemplar
