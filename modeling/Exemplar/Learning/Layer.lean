/-
One layer of weights with a bias, shared by linear models and networks.
-/
import Exemplar.Learning.Adagrad
import Exemplar.Learning.Generator
import Exemplar.Learning.Scalar

namespace Exemplar

/-- A row of weights for each input, and a bias for each output. -/
structure Layer (α : Type) where
  kernel : List (List α)
  bias : List α
  deriving Repr

namespace Layer

variable {α : Type} [Scalar α]

def inputs (l : Layer α) : Nat := l.kernel.length
def outputs (l : Layer α) : Nat := l.bias.length

/-- Half of a 64-bit address space holds fewer numbers, and no more can be asked for at once. -/
def tooManyNumbers : Nat := twoTo 60

/-- Whether a layer can be held: neither its weights nor its biases are too many.  A layer without
weights has no more inputs than can be held either, since each is a slot or an output of the layer
before. -/
def canBeHeld (inputs outputs : Nat) : Bool :=
  inputs < tooManyNumbers && outputs < tooManyNumbers && inputs * outputs < tooManyNumbers

/-- The same value everywhere. -/
def constant (inputs outputs : Nat) (value : α) : Layer α :=
  ⟨List.replicate inputs (List.replicate outputs value), List.replicate outputs value⟩

/-- The same value everywhere, in the shape of another layer. -/
def fill (l : Layer α) (value : α) : Layer α :=
  ⟨l.kernel.map (·.map fun _ => value), l.bias.map fun _ => value⟩

/-- All weights row by row. -/
def weights (l : Layer α) : List α := l.kernel.flatten

/-- Adds a multiple of a row to the outputs. -/
def addRow (out : List α) (x : α) (row : List α) : List α :=
  List.zipWith (fun o w => o + x * w) out row

/-- Rows of the given length from a flat list. -/
def rowsOf {β : Type} (rows columns : Nat) (values : List β) : List (List β) :=
  match rows with
  | 0 => []
  | n + 1 => values.take columns :: rowsOf n columns (values.drop columns)

/-- A layer from its shape and flat lists of weights and biases. -/
def ofFlat {β : Type} (inputs outputs : Nat) (weights bias : List β) : Layer β :=
  ⟨rowsOf inputs outputs weights, bias⟩

/-- A layer with drawn weights and no bias. -/
def random (inputs outputs : Nat) (g : Generator) : Layer Float × Generator :=
  let (weights, g) := Generator.draw (Generator.nextWeight inputs outputs) (inputs * outputs) g
  (ofFlat inputs outputs weights (List.replicate outputs 0.0), g)

/-- A layer and its accumulators after a step against a gradient. -/
def descend (rate : Float) (layer gradient accumulated : Layer Float) : Layer Float × Layer Float :=
  let (kernel, kernelSums) :=
    Adagrad.stepRows rate layer.kernel gradient.kernel accumulated.kernel
  let (bias, biasSums) := Adagrad.step rate layer.bias gradient.bias accumulated.bias
  (⟨kernel, bias⟩, ⟨kernelSums, biasSums⟩)

end Layer
end Exemplar
