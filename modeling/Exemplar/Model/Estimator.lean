/-
What a model has to offer so that a fixture can be made of it.
-/
import Exemplar.Inputs.Serving
import Exemplar.Inputs.Training
import Exemplar.Learning.Value
import Exemplar.Work

namespace Exemplar

class Estimator (M : Type) where
  /-- What the kind of model is called. -/
  name : M → String
  /-- The model after exactly the given number of steps of training. -/
  fit : M → TrainingInputs → UInt64 → Work M
  /-- One prediction for each row, in order. -/
  predict : M → TrainingInputs → Attempt (List Value)
  /-- The probabilities of the classes for each row, in order. -/
  probabilities : M → TrainingInputs → Attempt (List (List Float))
  /-- Writes the model to a new directory below the given one and answers that directory. -/
  exportTo : M → Path → ServingInputs → Work Path

end Exemplar
