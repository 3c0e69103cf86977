/-
The families of models.
-/
import Exemplar.Inputs.Encoding
import Exemplar.Learning.Head

namespace Exemplar

inductive Architecture where
  | linear
  /-- A feed-forward network. -/
  | network
  deriving DecidableEq, Repr

namespace Architecture

/-- The names in files. -/
def names : List (String × Architecture) := [("linear", linear), ("dnn", network)]

def name : Architecture → String
  | linear => "linear"
  | network => "dnn"

/-- The name that fixtures and estimators start with. -/
def title : Architecture → String
  | linear => "Linear"
  | network => "DNN"

/-- Networks need every keyed column spread over indicators. -/
def density : Architecture → Density
  | linear => .sparse
  | network => .dense

/-- What a model with a head is called. -/
def modelName (a : Architecture) (head : Head) : String := a.title ++ head.ending

/-- What the model for a task is called. -/
def taskModelName (a : Architecture) (task : Task) : Attempt String :=
  (Head.ofTask task).map a.modelName

end Architecture
end Exemplar
