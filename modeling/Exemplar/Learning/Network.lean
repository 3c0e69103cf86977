/-
Feed-forward networks: layers of weights, with negative values cut off between
them.
-/
import Exemplar.Learning.Layer

namespace Exemplar

/-- The layers from the input to the logits. -/
abbrev Network (α : Type) := List (Layer α)

namespace Network

variable {α : Type} [Scalar α]

/-- The outputs of a layer.  An input that is zero adds nothing, whatever its weights are. -/
def forward (layer : Layer α) (x : List α) : List α :=
  (x.zip layer.kernel).foldl (fun out (xi, row) =>
    if Scalar.isZero xi then out else Layer.addRow out xi row) layer.bias

/-- The logits for an input. -/
def logits : Network α → List α → List α
  | [], x => x
  | [last], x => forward last x
  | layer :: next :: rest, x => logits (next :: rest) ((forward layer x).map Scalar.rectify)

/-- The gradient with respect to a layer's inputs, which are outputs of the cut-off before it: an
input that is not positive was cut off and passes nothing back. -/
def propagate (layer : Layer α) (x delta : List α) : List α :=
  List.zipWith (fun xi row => if Scalar.isPositive xi then Scalar.dot row delta else Scalar.zero)
    x layer.kernel

/-- For each layer its input and the gradient with respect to its output. -/
def backpropagate (lossGradient : List α → List α) : Network α → List α → List (List α × List α)
  | [], _ => []
  | [last], x => [(x, lossGradient (forward last x))]
  | layer :: next :: rest, x =>
    let activation := (forward layer x).map Scalar.rectify
    let behind := backpropagate lossGradient (next :: rest) activation
    let delta := propagate next activation ((behind.head?.map (·.2)).getD [])
    (x, delta) :: behind

/-- Adds what one row contributes to the gradient of the mean loss over `count` rows. -/
def accumulate (count : α) (gradient : Layer α) (x delta : List α) : Layer α :=
  { kernel := List.zipWith (fun xi row =>
      if Scalar.isZero xi then row
      else List.zipWith (fun g d => g + xi * d / count) row delta) x gradient.kernel
    bias := List.zipWith (fun g d => g + d / count) gradient.bias delta }

/-- The gradient of the mean loss over a batch. -/
def gradient (lossGradient : List α → α → List α) (count : α) (network : Network α)
    (rows : List (List α × α)) : List (Layer α) :=
  rows.foldl (fun total (x, target) =>
    List.zipWith (fun g (input, delta) => accumulate count g input delta) total
      (backpropagate (lossGradient · target) network x)) (network.map (·.fill Scalar.zero))

/-- Layers with drawn weights, from `inputs` values to each of the sizes in turn. -/
def random (inputs : Nat) (sizes : List Nat) (g : Generator) : Network Float :=
  match sizes with
  | [] => []
  | outputs :: rest =>
    let (layer, g) := Layer.random inputs outputs g
    layer :: random outputs rest g

/-- A network and its accumulators after a step against a gradient. -/
def descend (rate : Float) :
    Network Float → List (Layer Float) → List (Layer Float) → Network Float × List (Layer Float)
  | layer :: layers, gradient :: gradients, sums :: accumulated =>
    let (layer, sums) := layer.descend rate gradient sums
    let (layers, accumulated) := descend rate layers gradients accumulated
    (layer :: layers, sums :: accumulated)
  | layers, _, accumulated => (layers, accumulated)

end Network
end Exemplar
