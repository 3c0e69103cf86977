/-
Artifacts on disk: a directory named for the second it was written in, with one
text for the description and one for the variables.
-/
import Exemplar.Artifact.Format
import Exemplar.Json.Parser
import Exemplar.Json.Pretty
import Exemplar.Work

namespace Exemplar
namespace Artifact

def descriptionFile : String := "saved_model.json"
def variablesFolder : String := "variables"
def variablesFile : String := "variables.json"

def descriptionPath (directory : Path) : Path := directory.entry descriptionFile

def variablesPath (directory : Path) : Path :=
  (directory.entry variablesFolder).entry variablesFile

/-- Writes an artifact to a new directory below `base` and answers that directory. -/
def write (base : Path) (description : Description) (recorded : Variables) : Work Path := do
  let seconds ← Work.ofAction (.request .clock)
  let directory := base.entry (Decimal.natText seconds)
  if ← Work.ofAction (Files.pathExists directory) then
    throw (.refusal (.exportExists directory))
  let folder := directory.entry variablesFolder
  Work.within (.creating folder) (.ofFile (Files.ensureDirectory folder))
  Work.within (.writing descriptionFile)
    (.ofFile (Files.writeText (descriptionPath directory) description.json.pretty))
  Work.within (.writing variablesFile)
    (.ofFile (Files.writeText (variablesPath directory) recorded.json.pretty))
  return directory

/-- Reads a text and what it stands for.  If it stands for nothing, `misfit` says why. -/
def readDocument {α : Type} (path : Path) (ofJson? : Json → Option α)
    (misfit : String → Json.Misfit) : Work α := do
  let text ← Work.within (.reading path) (.ofFile (Files.readText path))
  match (Json.parse? text).bind ofJson? with
  | some value => return value
  | none => throw ((Failure.json (misfit text)).within (.parsing path))

def readDescription (directory : Path) : Work Description :=
  readDocument (descriptionPath directory) Description.ofJson? fun _ => .form

def readVariables (directory : Path) : Work Variables :=
  readDocument (variablesPath directory) Variables.ofJson? Variables.misfit

end Artifact
end Exemplar
