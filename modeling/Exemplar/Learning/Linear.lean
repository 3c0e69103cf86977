/-
Linear models on sparse rows: a slot's value multiplies the slot's row of weights.
-/
import Exemplar.Learning.Layer

namespace Exemplar
namespace Linear

variable {α : Type} [Scalar α]

def logits (layer : Layer α) (row : List (Nat × α)) : List α :=
  row.foldl (fun out (slot, value) =>
    List.zipWith (fun o w => o + w * value) out (layer.kernel.getD slot [])) layer.bias

/-- Adds what one row contributes to the gradient of the mean loss over `count` rows; `delta` is the
gradient with respect to the row's logits. -/
def accumulate (count : α) (gradient : Layer α) (row : List (Nat × α)) (delta : List α) : Layer α :=
  { kernel := row.foldl (fun kernel (slot, value) =>
      kernel.modify slot (List.zipWith (fun d g => g + d * value / count) delta)) gradient.kernel
    bias := List.zipWith (fun g d => g + d / count) gradient.bias delta }

/-- The gradient of the mean loss over a batch. -/
def gradient (lossGradient : List α → α → List α) (count : α) (layer : Layer α)
    (rows : List (List (Nat × α) × α)) : Layer α :=
  rows.foldl (fun total (row, target) =>
    accumulate count total row (lossGradient (logits layer row) target)) (layer.fill Scalar.zero)

end Linear
end Exemplar
