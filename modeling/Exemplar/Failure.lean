/-
Why something failed, and what was being done.

A failure is a cause inside the activities that ran into it, outermost first.
Apart from failures there is the crash: an index out of range, a column too wide to be
padded, or a demand for more memory than there can be.  No activity reports it, and it
ends the whole run.  All wording is in this file and in the messages of the causes it
collects.
-/
import Exemplar.Csv.Reader
import Exemplar.Json.Misfit
import Exemplar.Table.DataError

namespace Exemplar

/-- Reasons to refuse that are neither about data nor about files. -/
inductive Refusal where
  | tooFewClasses (count : Nat)
  | regressionLabel (actual : ElementType)
  | classificationLabel (actual : ElementType)
  | classOutside (index count : Int)
  | emptyDataset (estimator : String)
  | noProbabilities (estimator : String)
  | sparseInput
  | emptyHiddenLayer (hiddenUnits : List Nat)
  | notLinear (estimator : String)
  | notNetwork (estimator : String)
  | missingVariable (name : String)
  | variableShape (name : String) (actual expected : List Nat)
  | variableCount (name : String) (actual expected : Nat)
  | linearVariables (count : Nat)
  | networkVariables (count expected : Nat) (hiddenUnits : List Nat)
  | formatVersion (directory : Path) (version supported : Nat)
  | otherName (directory : Path) (recorded restored : String)
  | exportExists (directory : Path)
  | strayExport (fixture : String) (directory : Path)
  | noArtifact (fixture : String) (directory : Path)
  | otherEstimator (fixture actual expected : String)
  | unknownFixtures (unknown known : List String)
  | repeatedDataset (name : String)
  | noEstimators (dataset : String)
  | repeatedFixture (name : String)
  | failedFixtures (count : Nat)
  /-- A reason that is known only by its wording. -/
  | worded (text : String)
  deriving DecidableEq, Repr

open Text Decimal in
def Refusal.message : Refusal → String
  | .tooFewClasses count => "classification needs at least 2 classes, got " ++ natText count
  | .regressionLabel actual => "regression label must be float64, got " ++ actual.name
  | .classificationLabel actual => "classification label must be int64, got " ++ actual.name
  | .classOutside index count =>
    "class index " ++ intText index ++ " outside 0.." ++ intText count
  | .emptyDataset estimator => "cannot fit " ++ estimator ++ " on an empty dataset"
  | .noProbabilities estimator => estimator ++ " does not produce class probabilities"
  | .sparseInput => "DNN estimators require dense input; wrap sparse columns in one-hot"
  | .emptyHiddenLayer hiddenUnits =>
    "hidden layer sizes must be positive, got " ++ bracketedNats hiddenUnits
  | .notLinear estimator => named estimator ++ " is not a linear export"
  | .notNetwork estimator => named estimator ++ " is not a DNN export"
  | .missingVariable name => "variable " ++ named name ++ " is missing"
  | .variableShape name actual expected =>
    "variable " ++ named name ++ " has shape " ++ bracketedNats actual ++ ", expected "
      ++ bracketedNats expected
  | .variableCount name actual expected =>
    "variable " ++ named name ++ " holds " ++ natText actual ++ " values, expected "
      ++ natText expected
  | .linearVariables count =>
    "linear export holds " ++ natText count ++ " variables, expected weights and bias"
  | .networkVariables count expected hiddenUnits =>
    "DNN export holds " ++ natText count ++ " variables, expected " ++ natText expected
      ++ " for hidden units " ++ bracketedNats hiddenUnits
  | .formatVersion directory version supported =>
    directory.text ++ ": unsupported format version " ++ natText version ++ " (expected "
      ++ natText supported ++ ")"
  | .otherName directory recorded restored =>
    directory.text ++ ": recorded as " ++ recorded ++ " but restores as " ++ restored
  | .exportExists directory => "export directory " ++ directory.text ++ " already exists"
  | .strayExport fixture directory =>
    fixture ++ ": export returned " ++ directory.text ++ " outside its scratch directory"
  | .noArtifact fixture directory => fixture ++ ": no artifact at " ++ directory.text
  | .otherEstimator fixture actual expected =>
    fixture ++ ": artifact holds a " ++ actual ++ " but the catalog configures a " ++ expected
  | .unknownFixtures unknown known =>
    "unknown fixture(s): " ++ String.intercalate ", " unknown ++ " (known: "
      ++ String.intercalate ", " known ++ ")"
  | .repeatedDataset name => "dataset " ++ named name ++ " is configured twice"
  | .noEstimators dataset => "dataset " ++ named dataset ++ " has no estimators"
  | .repeatedFixture name => "fixture " ++ named name ++ " is configured twice"
  | .failedFixtures count => natText count ++ " fixture(s) failed"
  | .worded text => text

inductive Cause where
  | data (error : DataError)
  | csv (error : Csv.Error)
  | json (misfit : Json.Misfit)
  | file (error : FileError)
  | refusal (refusal : Refusal)
  deriving DecidableEq, Repr

def Cause.message : Cause → String
  | .data error => error.message
  | .csv error => error.message
  | .json misfit => misfit.message
  | .file error => error.message
  | .refusal reason => reason.message

/-- What was being done when a cause turned up. -/
inductive Activity where
  | readingHeader
  | parsingRow (number : Nat)
  | openingDataset (path : Path)
  | loadingDataset (path : Path)
  | creating (path : Path)
  | writing (file : String)
  | reading (path : Path)
  | parsing (path : Path)
  | readingConfiguration (path : Path)
  | parsingConfiguration (path : Path)
  | creatingArtifactRoot (path : Path)
  | creatingScratch
  | creatingSheetDirectory (path : Path)
  | creatingStagedSheet
  | serializing (fixture : String)
  | persisting (path : Path)
  | removing (path : Path)
  | opening (path : Path)
  | readingHeaderOf (path : Path)
  | clearing (path : Path)
  | moving (target : Path)
  | copying (source target : Path)
  | training (fixture : String)
  | predicting (fixture : String)
  | predictingProbabilities (fixture : String)
  | exporting (fixture : String)
  | matchingDataset (fixture : String)
  | reloading (fixture : String)
  | comparing (fixture : String)
  | assigningRoles (dataset : String)
  | encoding (dataset : String)
  | pairingInputs (dataset : String)
  | fixture (name : String)
  /-- An activity that is known only by its wording. -/
  | worded (text : String)
  deriving DecidableEq, Repr

open Text Decimal in
def Activity.message : Activity → String
  | .readingHeader => "failed to read CSV header row"
  | .parsingRow number => "failed to parse CSV row " ++ natText number
  | .openingDataset path => "failed to open dataset " ++ path.text
  | .loadingDataset path => "failed to load dataset " ++ path.text
  | .creating path => "failed to create " ++ path.text
  | .writing file => "failed to write " ++ file
  | .reading path => "failed to read " ++ path.text
  | .parsing path => "failed to parse " ++ path.text
  | .readingConfiguration path => "failed to read config " ++ path.text
  | .parsingConfiguration path => "failed to parse config " ++ path.text
  | .creatingArtifactRoot path => "failed to create artifact root " ++ path.text
  | .creatingScratch => "failed to create scratch export directory"
  | .creatingSheetDirectory path => "failed to create CSV dir " ++ path.text
  | .creatingStagedSheet => "failed to create staging file for predictions"
  | .serializing name => "failed to serialize predictions for " ++ name
  | .persisting path => "failed to persist predictions to " ++ path.text
  | .removing path => "failed to remove " ++ path.text
  | .opening path => "failed to open " ++ path.text
  | .readingHeaderOf path => "failed to read header of " ++ path.text
  | .clearing path => "failed to clear " ++ path.text
  | .moving target => "failed to move artifact to " ++ target.text
  | .copying source target => "failed to copy " ++ source.text ++ " to " ++ target.text
  | .training name => name ++ ": training failed"
  | .predicting name => name ++ ": prediction failed"
  | .predictingProbabilities name => name ++ ": probability prediction failed"
  | .exporting name => name ++ ": export failed"
  | .matchingDataset name => name ++ ": artifact no longer matches its dataset"
  | .reloading name => name ++ ": reload failed"
  | .comparing name => name ++ ": reloaded model disagrees with its predictions"
  | .assigningRoles dataset => "dataset " ++ named dataset ++ ": invalid column roles"
  | .encoding dataset => "dataset " ++ named dataset ++ ": failed to build encodings"
  | .pairingInputs dataset => "dataset " ++ named dataset ++ ": input functions disagree"
  | .fixture name => "fixture " ++ named name ++ " failed"
  | .worded text => text

inductive Failure where
  | during (activities : List Activity) (cause : Cause)
  | crash
  deriving DecidableEq, Repr

namespace Failure

def data (error : DataError) : Failure := .during [] (.data error)
def csv (error : Csv.Error) : Failure := .during [] (.csv error)
def json (misfit : Json.Misfit) : Failure := .during [] (.json misfit)
def file (error : FileError) : Failure := .during [] (.file error)
def refusal (refusal : Refusal) : Failure := .during [] (.refusal refusal)

/-- The failure as seen from the activity around it. -/
def within (activity : Activity) : Failure → Failure
  | .during activities cause => .during (activity :: activities) cause
  | .crash => .crash

/-- The texts from the outermost activity to the cause. -/
def chain : Failure → List String
  | .during activities cause => activities.map Activity.message ++ [cause.message]
  | .crash => []

/-- The chain in one line. -/
def message (failure : Failure) : String := String.intercalate ": " failure.chain

end Failure

/-- A value, or the failure that stood in its way. -/
abbrev Attempt := Except Failure


namespace Attempt

def within {α : Type} (activity : Activity) : Attempt α → Attempt α
  | .ok value => .ok value
  | .error failure => .error (failure.within activity)

def ofData {α : Type} : Except DataError α → Attempt α
  | .ok value => .ok value
  | .error error => .error (.data error)

def ofFile {α : Type} : Except FileError α → Attempt α
  | .ok value => .ok value
  | .error error => .error (.file error)

def refuse {α : Type} (refusal : Refusal) : Attempt α := .error (.refusal refusal)

end Attempt

end Exemplar
