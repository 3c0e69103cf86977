/-
Heads: how the numbers at the end of a model become losses, predictions and
probabilities.
-/
import Exemplar.Failure
import Exemplar.Learning.Scalar
import Exemplar.Learning.Value
import Exemplar.Roles

namespace Exemplar

inductive Head where
  /-- One logit, squashed to the probability of the second of two classes. -/
  | binary
  /-- One logit per class, normalised to probabilities. -/
  | multiClass (classCount : Nat)
  /-- One number, with squared error. -/
  | regression
  deriving DecidableEq, Repr

def sigmoid (x : Float) : Float :=
  if 0.0 ≤ x then 1.0 / (1.0 + (-x).exp)
  else
    let e := x.exp
    e / (1.0 + e)

/-- Shares of the exponentials.  The largest logit is taken off first, so that none overflows. -/
def softmax (logits : List Float) : List Float :=
  let largest := logits.foldl (fun top x => if top < x then x else top) (-1.0 / 0.0)
  let powers := logits.map fun x => (x - largest).exp
  let total := Scalar.sum powers
  powers.map (· / total)

/-- The position of the first of the largest numbers. -/
def argmax (best : Nat) (top : Float) (position : Nat) : List Float → Nat
  | [] => best
  | x :: rest =>
    if top < x then argmax position x (position + 1) rest
    else argmax best top (position + 1) rest

/-- Half the squared error. -/
def squaredError {α : Type} [Sub α] [Mul α] [OfScientific α] (logits : List α) (target : α) : α :=
  let difference := logits.headD 0.0 - target
  0.5 * difference * difference

/-- The gradient of half the squared error. -/
def squaredErrorGradient {α : Type} [Sub α] (logits : List α) (target : α) : List α :=
  (logits.take 1).map (· - target)

namespace Head

def ofTask : Task → Attempt Head
  | .regression => .ok .regression
  | .classification n =>
    if n < 2 then .refuse (.tooFewClasses n)
    else if n = 2 then .ok .binary
    else .ok (.multiClass n)

/-- How many logits the head works on. -/
def logitCount : Head → Nat
  | binary | regression => 1
  | multiClass n => n

def classCount? : Head → Option Nat
  | binary => some 2
  | multiClass n => some n
  | regression => none

/-- What an estimator with the head is called after its architecture. -/
def ending : Head → String
  | binary | multiClass _ => "Classifier"
  | regression => "Regressor"

/-- A class index as a target. -/
def classTarget (count index : Int64) : Attempt Float :=
  if 0 ≤ index ∧ index < count then .ok (Binary64.ofInt index.toInt)
  else .refuse (.classOutside index.toInt count.toInt)

/-- The number of classes that class indices are held against, as a word with a sign. -/
def targetCount (head : Head) : Int64 := Int64.ofNat (max head.logitCount 2)

/-- The targets that a label column holds. -/
def targets (head : Head) (label : Column) : Attempt (List Float) :=
  match head, label with
  | regression, .floats cells => .ok cells
  | regression, other => .refuse (.regressionLabel other.elementType)
  | head, .ints cells => cells.mapM (classTarget head.targetCount)
  | _, other => .refuse (.classificationLabel other.elementType)

/-- The position that a target stands for. -/
def classOf (target : Float) : Nat := target.toUInt64.toNat

/-- Whether the loss can be worked out: there is a logit for the target. -/
def reaches (head : Head) (logitCount : Nat) (target : Float) : Bool :=
  match head with
  | multiClass _ => classOf target < logitCount
  | binary | regression => 0 < logitCount

/-- The gradient of the loss of one row with respect to its logits. -/
def gradient (head : Head) (logits : List Float) (target : Float) : List Float :=
  match head with
  | binary => (logits.take 1).map fun z => sigmoid z - target
  | multiClass _ =>
    (softmax logits).zipIdx.map fun (p, k) => if k = classOf target then p - 1.0 else p
  | regression => squaredErrorGradient logits target

/-- Added to probabilities before their logarithm is taken, so that none is taken of zero. -/
def logGuard : Float := 1e-12

/-- The loss of one row. -/
def loss (head : Head) (logits : List Float) (target : Float) : Float :=
  match head with
  | binary =>
    let p := sigmoid (logits.headD 0.0)
    (target * (p + logGuard).log + (1.0 - target) * (1.0 - p + logGuard).log).neg
  | multiClass _ => ((softmax logits).getD (classOf target) 0.0 + logGuard).log.neg
  | regression => squaredError logits target

/-- Loss and gradient of one row, where there is a logit for the target. -/
def lossAndGradient (head : Head) (logits : List Float) (target : Float) :
    Attempt (Float × List Float) :=
  if head.reaches logits.length target then
    .ok (head.loss logits target, head.gradient logits target)
  else .error .crash

/-- The probabilities of the classes in order; none for numbers. -/
def probabilities (head : Head) (logits : List Float) : Attempt (Option (List Float)) :=
  match head, logits with
  | regression, _ => .ok none
  | multiClass _, logits => .ok (some (softmax logits))
  | binary, [] => .error .crash
  | binary, z :: _ =>
    let p := sigmoid z
    .ok (some [1.0 - p, p])

/-- The most probable class, the first of equals; for numbers the logit. -/
def predict (head : Head) (logits : List Float) : Attempt Value := do
  match ← head.probabilities logits with
  | some ps => return .int (Int64.ofNat (argmax 0 (ps.headD 0.0) 0 ps))
  | none =>
    match logits with
    | [] => .error .crash
    | z :: _ => return .float z

end Head
end Exemplar
