/-
The program as a whole: from arguments to what is printed and how it ends.
-/
import Exemplar.Catalog.Format
import Exemplar.CommandLine.Arguments
import Exemplar.Report

namespace Exemplar
namespace CommandLine

/-- What the program prints, and how it ends. -/
structure Ending where
  code : Nat
  output : String
  /-- Lines for the error stream. -/
  errorText : Option String
  deriving DecidableEq, Repr

/-! ## Wording -/

def versionText : String := "model-fixtures 0.1.0"

def helpText : String :=
  "Train reference models and export them with their predictions\n\n"
    ++ "Usage: model-fixtures [OPTIONS] <COMMAND>\n\n"
    ++ "Commands:\n"
    ++ "  build   Build fixtures (all of them unless --fixture is given)\n"
    ++ "  verify  Reload built fixtures and check they reproduce their prediction CSVs\n"
    ++ "  list    List configured fixtures"

/-- A text whose lines after the first are indented as well. -/
def indented (first rest text : String) : String :=
  first ++ String.intercalate ("\n" ++ rest) ((text.toList.splitOn '\n').map String.ofList)

/-- The causes of a failure from the outside in, numbered if there are several. -/
def causeLines (causes : List String) : List String :=
  match causes with
  | [cause] => [indented "    " "    " cause]
  | _ => causes.zipIdx.map fun (cause, n) =>
    indented (Report.padStart 5 (Decimal.natText n) ++ ": ") "       " cause

/-- What the program says about a failure in the end. -/
def failureText (failure : Failure) : String :=
  match failure.chain with
  | [] => "Error: "
  | outermost :: causes =>
    "Error: " ++ outermost ++
      (if causes.isEmpty then ""
        else "\n\nCaused by:\n" ++ String.intercalate "\n" (causeLines causes))

/-- The ending after a failure; a crash has no explanation. -/
def failing (output : String) : Failure → Ending
  | .crash => ⟨101, output, none⟩
  | failure => ⟨1, output, some (failureText failure)⟩

/-! ## Commands -/

def fixtures (settings : List Setting) : List String :=
  settings.filterMap fun
    | .fixture name => some name
    | _ => none

def configuration? (settings : List Setting) : Option Path :=
  settings.findSome? fun
    | .configuration path => some path
    | _ => none

def policy (settings : List Setting) : Catalog.Policy :=
  if settings.contains .keepGoing then .keepGoing else .stop

/-- What one setting changes in the catalog. -/
def override (c : Catalog) : Setting → Catalog
  | .sheetDirectory path => { c with sheetDirectory := path }
  | .artifactDirectory path => { c with artifactDirectory := path }
  | .steps count => c.withSteps count
  | .fixture _ | .configuration _ | .keepGoing => c

/-- The catalog that the settings ask for. -/
def catalog (settings : List Setting) : Work Catalog := do
  let c ← match configuration? settings with
    | some path => Catalog.load path
    | none => pure .standard
  return settings.foldl override c

/-- Runs a batch over the selected fixtures. -/
def batch (run : (String → Work Table) → Store → Catalog.Policy → List Catalog.Planned →
      Work (List Catalog.Outcome)) (settings : List Setting) : Work (List Catalog.Outcome) := do
  let c ← catalog settings
  match Catalog.select c.plan (fixtures settings) with
  | .error refusal => throw (.refusal refusal)
  | .ok planned => run c.source c.store (policy settings) planned

/-- The ending after a text is printed, with a failure if any fixture failed. -/
def printed (failed : Nat) : Attempt String → Ending
  | .error failure => failing "" failure
  | .ok text =>
    let output := text ++ "\n"
    if 0 < failed then failing output (.refusal (.failedFixtures failed))
    else ⟨0, output, none⟩

/-- The ending of a batch. -/
def concluding (done : String) : Attempt (List Catalog.Outcome) → Ending
  | .error failure => failing "" failure
  | .ok outcomes => printed (Report.failureCount outcomes) (Report.summary outcomes done)

def perform (invocation : Invocation) : Action Ending :=
  match invocation.command with
  | .build => return concluding "built" (← (batch Catalog.buildAll invocation.settings).run)
  | .verify => return concluding "verified" (← (batch Catalog.verifyAll invocation.settings).run)
  | .list => do
    let c ← (catalog invocation.settings).run
    return printed 0 (c.bind fun c => Report.plan c.plan)

def stopped : Stop → Ending
  | .wrongUsage => ⟨2, "", none⟩
  | .help => ⟨0, helpText ++ "\n", none⟩
  | .version => ⟨0, versionText ++ "\n", none⟩

/-- Runs the program with the given arguments. -/
def run (arguments : List String) : Action Ending :=
  match parse arguments with
  | .ok invocation => perform invocation
  | .error stop => return stopped stop

end CommandLine
end Exemplar
