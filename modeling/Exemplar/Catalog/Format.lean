/-
Catalogs as documents.

The members of a dataset's assignment stand among its own.  Fields that are left
out have defaults: the standard catalog at the top, empty lists and seed zero
below.
-/
import Exemplar.Artifact.Format
import Exemplar.Catalog.Basic
import Exemplar.Json.Parser

namespace Exemplar

open Json

namespace LabelKind

def json : LabelKind → Json
  | .classes vocabulary => taggedObject "classes" [("vocabulary", .strings vocabulary)]
  | .numeric => taggedObject "numeric" []

def tags : List String := ["classes", "numeric"]

def ofJson? (document : Json) : Option LabelKind := do
  let (tag, contents) ← tagged? .setAside tags document
  if tag = "classes" then
    let [vocabulary] ← fields? ["vocabulary"] contents | none
    return .classes (← required? (list? string?) vocabulary)
  else if isBareContents contents then return .numeric
  else none

end LabelKind

namespace Assignment

def members (a : Assignment) : List (String × Json) :=
  [("continuous", .strings a.continuous), ("categorical", .strings a.categorical),
    ("label", .string a.label), ("label_kind", a.labelKind.json)]

/-- The assignment among the members of an object, which may hold others as well. -/
def ofMembers? (members : List (String × Json)) : Option Assignment := do
  let [continuous, categorical, label, labelKind] ←
    members? ["continuous", "categorical", "label", "label_kind"] members | none
  return {
    continuous := ← defaulted? [] (list? string?) continuous
    categorical := ← defaulted? [] (list? string?) categorical
    label := ← required? string? label
    labelKind := ← required? LabelKind.ofJson? labelKind }

end Assignment

namespace Choice

def json (c : Choice) : Json :=
  .object [("architecture", c.architecture.json), ("hidden_units", .nats c.hiddenUnits),
    ("seed", .integer c.seed.toInt)]

def ofJson? (document : Json) : Option Choice := do
  let [architecture, hiddenUnits, seed] ←
    fields? ["architecture", "hidden_units", "seed"] document | none
  return ⟨← required? Architecture.ofJson? architecture,
    ← defaulted? [] (list? (nat? 64)) hiddenUnits, ← defaulted? 0 int64? seed⟩

end Choice

namespace Dataset

def json (d : Dataset) : Json :=
  .object ([("name", .string d.name), ("file", .string d.file)] ++ d.assignment.members
    ++ [("steps", .nat d.steps.toNat), ("estimators", .array (d.choices.map Choice.json))])

/-- The fields that are not part of the assignment. -/
def fieldNames : List String := ["name", "file", "steps", "estimators"]

/-- Whatever is no field of the dataset itself is set aside for the assignment. -/
def ofJson? : Json → Option Dataset
  | .object members => do
    let [name, file, steps, choices] ← members? fieldNames members | none
    let others := members.filter fun member => !fieldNames.contains member.1
    if !membersReadable others then none
    else return {
      name := ← required? string? name
      file := ← required? string? file
      assignment := ← Assignment.ofMembers? others
      steps := UInt64.ofNat (← required? (nat? 64) steps)
      choices := ← required? (list? Choice.ofJson?) choices }
  | _ => none

end Dataset

namespace Catalog

def json (c : Catalog) : Json :=
  .object [("csv_dir", .string c.sheetDirectory.text),
    ("savedmodel_dir", .string c.artifactDirectory.text),
    ("datasets", .array (c.datasets.map Dataset.json))]

def path? (document : Json) : Option Path := (string? document).map Path.mk

def ofJson? (document : Json) : Option Catalog := do
  let [sheetDirectory, artifactDirectory, datasets] ←
    fields? ["csv_dir", "savedmodel_dir", "datasets"] document | none
  return ⟨← defaulted? standard.sheetDirectory path? sheetDirectory,
    ← defaulted? standard.artifactDirectory path? artifactDirectory,
    ← defaulted? standard.datasets (list? Dataset.ofJson?) datasets⟩

/-- What a text says about a catalog, if it is one. -/
def parse? (text : String) : Option Catalog := (Json.parse? text).bind ofJson?

/-- Reads a catalog from a file and checks it. -/
def load (path : Path) : Work Catalog := do
  let text ← Work.within (.readingConfiguration path) (.ofFile (Files.readText path))
  match parse? text with
  | none => throw ((Failure.json .form).within (.parsingConfiguration path))
  | some catalog =>
    match catalog.validate with
    | .ok () => return catalog
    | .error refusal => throw (.refusal refusal)

end Catalog
end Exemplar
