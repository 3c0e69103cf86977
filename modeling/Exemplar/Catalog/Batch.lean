/-
Many fixtures in a row.

A dataset is prepared once for all of its fixtures that follow each other.  Where
tables come from and what is done with a fixture is left open: a batch needs only
that both may fail.
-/
import Exemplar.Catalog.Basic
import Exemplar.Fixture
import Exemplar.Table.Reading

namespace Exemplar
namespace Catalog

/-- A dataset that is ready for training. -/
structure Prepared where
  encodings : List Encoding
  inputs : InputPair

/-- Turns a table into encodings and inputs as a dataset says. -/
def prepareTable (d : Dataset) (table : Table) : Attempt Prepared := do
  let (table, roles) := table.classify d.assignment
  let roles ← Attempt.within (.assigningRoles d.name) (.ofData roles)
  let encodings ← Attempt.within (.encoding d.name) (.ofData (Encoding.ofTable table roles))
  let inputs ← Attempt.within (.pairingInputs d.name) (.ofData (InputPair.of table roles))
  return ⟨encodings, inputs⟩

variable {m : Type → Type} [Monad m]

/-- Gets a dataset from a source of tables and makes it ready. -/
def prepare (source : String → ExceptT Failure m Table) (d : Dataset) :
    ExceptT Failure m Prepared := do
  let table ← source d.file
  Work.ofAttempt (prepareTable d table)

namespace Planned

def spec (p : Planned) : Fixture.Spec :=
  ⟨p.name, p.dataset.steps, .ofTask p.dataset.task⟩

/-- Builds a fixture from its prepared dataset. -/
def build (store : Store) (p : Planned) (prepared : Prepared) : Work Fixture.Report := do
  let model ← Work.ofAttempt (Model.build p.choice.architecture p.dataset.task prepared.encodings
    p.choice.hiddenUnits p.choice.seed)
  Fixture.build model prepared.inputs p.spec store

/-- Verifies a fixture, whose artifact must hold the model that is planned. -/
def verify (store : Store) (p : Planned) (prepared : Prepared) : Work Fixture.Report := do
  let report ← Fixture.verify prepared.inputs p.spec store
  let expected ← Work.ofAttempt (p.choice.architecture.taskModelName p.dataset.task)
  if report.estimator ≠ expected then
    throw (.refusal (.otherEstimator p.name report.estimator expected))
  return report

end Planned

/-- How a fixture of a batch ended. -/
inductive Outcome where
  | succeeded (report : Fixture.Report)
  | failed (name : String) (failure : Failure)
  deriving DecidableEq, Repr

namespace Outcome

def name : Outcome → String
  | succeeded report => report.name
  | failed name _ => name

def isFailure : Outcome → Bool
  | succeeded _ => false
  | failed .. => true

end Outcome

/-- What happens when a fixture fails. -/
inductive Policy where
  | stop
  | keepGoing
  deriving DecidableEq, Repr

/-- The outcome of one fixture; unless the batch keeps going, a failure ends it. -/
def settle (policy : Policy) (p : Planned) : Attempt Fixture.Report → Attempt Outcome
  | .ok report => .ok (.succeeded report)
  | .error .crash => .error .crash
  | .error failure =>
    match policy with
    | .keepGoing => .ok (.failed p.name failure)
    | .stop => .error (failure.within (.fixture p.name))

/-- The outcome of a fixture whose dataset could not be prepared.  All fixtures of the dataset share
the failure, of which a batch that keeps going only records the wording. -/
def settleUnprepared (policy : Policy) (p : Planned) : Failure → Attempt Outcome
  | .crash => .error .crash
  | failure =>
    match policy with
    | .keepGoing => .ok (.failed p.name (.refusal (.worded failure.message)))
    | .stop => .error failure

/-- The dataset of a fixture, taken from before if it is the one that was prepared last. -/
def prepared (source : String → ExceptT Failure m Table) (last : Option (Nat × Attempt Prepared))
    (p : Planned) : ExceptT Failure m (Attempt Prepared) :=
  match last with
  | some (position, result) =>
    if position = p.position then return result else Work.outcome (prepare source p.dataset)
  | none => Work.outcome (prepare source p.dataset)

/-- Does something with one fixture, given its prepared dataset or why it could not be prepared. -/
def runOne (policy : Policy) (act : Planned → Prepared → ExceptT Failure m Fixture.Report)
    (p : Planned) : Attempt Prepared → ExceptT Failure m Outcome
  | .ok ready => do Work.ofAttempt (settle policy p (← Work.outcome (act p ready)))
  | .error failure => Work.ofAttempt (settleUnprepared policy p failure)

/-- Does something with each fixture in order. -/
def runAll (source : String → ExceptT Failure m Table) (policy : Policy)
    (act : Planned → Prepared → ExceptT Failure m Fixture.Report)
    (last : Option (Nat × Attempt Prepared)) : List Planned → ExceptT Failure m (List Outcome)
  | [] => return []
  | p :: rest => do
    let result ← prepared source last p
    let outcome ← runOne policy act p result
    let outcomes ← runAll source policy act (some (p.position, result)) rest
    return outcome :: outcomes

/-- Builds fixtures from the tables of a source. -/
def buildAll (source : String → Work Table) (store : Store) (policy : Policy)
    (planned : List Planned) : Work (List Outcome) :=
  runAll source policy (Planned.build store) none planned

/-- Verifies fixtures against the tables of a source. -/
def verifyAll (source : String → Work Table) (store : Store) (policy : Policy)
    (planned : List Planned) : Work (List Outcome) :=
  runAll source policy (Planned.verify store) none planned

/-- The tables of a catalog. -/
def source (c : Catalog) : String → Work Table := Table.inDirectory c.sheetDirectory

/-- The store of a catalog. -/
def store (c : Catalog) : Store := ⟨c.sheetDirectory, c.artifactDirectory⟩

end Catalog
end Exemplar
