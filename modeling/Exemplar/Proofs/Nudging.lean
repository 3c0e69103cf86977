/-
One entry of a layer moved a little.

A weight that moves pushes the output that it leads to, as many times as its input says, and a bias
pushes its output once.  So the logits move along a line, and the gradient of the loss in that
direction is the number that one row adds to the entry's gradient: the input of the entry times the
gradient that came back to its output.  A sparse row is the dense row that holds its values added up
in their slots, so the same is true of linear models.
-/
import Exemplar.Proofs.Lines

namespace Exemplar

/-! ## Directions of one coordinate -/

section

variable {x out dir row delta : List ℚ} {rows : List (List ℚ)} {a b h : ℚ} {n o i : Nat}

end

/-! ## Entries of layers -/

namespace Layer

/-- The place of a weight or a bias in a layer. -/
inductive Parameter where
  | weight (input output : Nat)
  | bias (output : Nat)
  deriving DecidableEq, Repr

namespace Parameter

/-- The output that an entry pushes. -/
def output : Parameter → Nat
  | weight _ o | bias o => o

/-- How much an entry pushes its output, for the values of the inputs. -/
def factor (value : Nat → ℚ) : Parameter → ℚ
  | weight i _ => value i
  | bias _ => 1

/-- How fast the loss changes with an entry, for the gradient that came back to the outputs. -/
def slope (e : Parameter) (value : Nat → ℚ) (delta : List ℚ) : ℚ :=
  e.factor value * delta.getD e.output 0

/-- An entry of a layer of a shape. -/
def Within (shape : Nat × Nat) : Parameter → Prop
  | weight i o => i < shape.1 ∧ o < shape.2
  | bias o => o < shape.2

end Parameter

variable {α : Type} {e : Parameter} {shape : Nat × Nat}

/-- The layer with a number added to one of its entries. -/
def nudge (l : Layer ℚ) (e : Parameter) (h : ℚ) : Layer ℚ :=
  match e with
  | .weight i o => { l with kernel := l.kernel.modify i (·.modify o (· + h)) }
  | .bias o => { l with bias := l.bias.modify o (· + h) }

theorem HasShape.nudge {l : Layer ℚ} (hl : l.HasShape shape) (e : Parameter) (h : ℚ) :
    (l.nudge e h).HasShape shape := by
  cases e with
  | weight i o =>
    refine ⟨?_, hl.bias⟩
    rw [← hl.kernel]
    refine List.ext_getElem (by simp [Layer.nudge]) fun j hj hj' => ?_
    simp only [Layer.nudge, List.getElem_map, List.getElem_modify]
    split_ifs
    · exact List.length_modify ..
    · rfl
  | bias o => exact ⟨hl.kernel, (List.length_modify ..).trans hl.bias⟩

end Layer

namespace Network

open Layer (Parameter)

variable {layer : Layer ℚ} {shape : Nat × Nat} {x delta : List ℚ} {e : Parameter}

/-- The network with a number added to one entry of one of its layers. -/
def nudge (network : Network ℚ) (k : Nat) (e : Parameter) (h : ℚ) : Network ℚ :=
  network.modify k (·.nudge e h)

end Network

/-! ## Sparse rows -/

namespace Linear

open Layer (Parameter)

variable {layer : Layer ℚ} {shape : Nat × Nat} {row : List (Nat × ℚ)} {e : Parameter}

/-- The value of a slot in a sparse row, in which a slot may stand more than once. -/
def value : List (Nat × ℚ) → Nat → ℚ
  | [], _ => 0
  | entry :: row, i => (if entry.1 = i then entry.2 else 0) + value row i

end Linear
end Exemplar
