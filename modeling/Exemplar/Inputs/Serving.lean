/-
Serving inputs: what a model is fed when it is queried, without data.
-/
import Exemplar.Inputs.Encoding

namespace Exemplar

/-- A dimension of a tensor, open until it is fed if it is unbound. -/
inductive Dim where
  | fixed (size : Nat)
  | unbound
  deriving DecidableEq, Repr

def Dim.text : Dim → String
  | .fixed size => Decimal.natText size
  | .unbound => "?"

/-- A named place for a tensor. -/
structure Placeholder where
  name : String
  type : ElementType
  shape : List Dim
  deriving DecidableEq, Repr

structure ServingSignature where
  features : SortedMap Placeholder
  /-- Serving sees no label. -/
  label : Option Placeholder
  defaultInputs : SortedMap Placeholder
  deriving DecidableEq, Repr

structure ServingInputs where
  roles : Roles
  deriving DecidableEq, Repr

namespace ServingInputs

/-- The place for one feature: a column of any length. -/
def placeholder (type : ElementType) (name : String) : String × Placeholder :=
  (name, ⟨name, type, [.unbound, .fixed 1]⟩)

def placeholders (inputs : ServingInputs) : SortedMap Placeholder :=
  SortedMap.ofList (inputs.roles.continuous.map (placeholder .float64)
    ++ inputs.roles.categorical.map (placeholder .string))

def signature (inputs : ServingInputs) : ServingSignature :=
  ⟨inputs.placeholders, none, inputs.placeholders⟩

/-- The types of the placeholders by name. -/
def types (inputs : ServingInputs) : Signature := inputs.placeholders.mapValues (·.type)

end ServingInputs
end Exemplar
