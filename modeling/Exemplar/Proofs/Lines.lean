/-
Networks along a line.

Here training's arithmetic is read over exact numbers.  When what goes into a layer moves along a
line, so does what comes out, in the direction that the layer's weights alone make of the direction
that went in.  The cut-off bends lines only where a number is zero: close to a point without zeros a
line stays a line, whose direction loses the numbers that are cut off.  So close enough to a point
at which no cut-off meets a zero, the logits move along a line.  And how far they move against the
gradient of the loss is how far the point moved against the gradient that was propagated back to it.
-/
import Exemplar.Proofs.Logits
import Mathlib.Data.Rat.Defs
import Mathlib.Tactic.Linarith
import Mathlib.Tactic.Ring

namespace Exemplar

instance : Scalar ℚ where
  zero := 0
  neutral := 0
  isZero x := x == 0
  isPositive x := 0 < x

/-- What holds of all numbers that are close enough to zero. -/
def Nearby (p : ℚ → Prop) : Prop := ∃ d, 0 < d ∧ ∀ h, |h| < d → p h

theorem Nearby.of_forall {p : ℚ → Prop} (h : ∀ x, p x) : Nearby p :=
  ⟨1, one_pos, fun x _ => h x⟩

theorem Nearby.and {p q : ℚ → Prop} (hp : Nearby p) (hq : Nearby q) :
    Nearby fun x => p x ∧ q x := by
  obtain ⟨d, hd, hp⟩ := hp
  obtain ⟨e, he, hq⟩ := hq
  refine ⟨min d e, lt_min hd he, fun x hx => ?_⟩
  exact ⟨hp x (hx.trans_le (min_le_left d e)), hq x (hx.trans_le (min_le_right d e))⟩

theorem Nearby.mono {p q : ℚ → Prop} (hp : Nearby p) (h : ∀ x, p x → q x) : Nearby q := by
  obtain ⟨d, hd, hp⟩ := hp
  exact ⟨d, hd, fun x hx => h x (hp x hx)⟩

/-- The point that is reached from `x` after a step of length `h` in the direction `v`. -/
def along (x v : List ℚ) (h : ℚ) : List ℚ := List.zipWith (fun a b => a + h * b) x v

variable {x v out dir row delta z u : List ℚ} {rows : List (List ℚ)} {a b h : ℚ} {n : Nat}

@[simp] theorem length_along : (along x v h).length = min x.length v.length := List.length_zipWith

namespace Network

variable {layer : Layer ℚ} {shape : Nat × Nat}

/-- The part of a direction that is not cut off. -/
def kept (z u : List ℚ) : List ℚ := List.zipWith (fun a b => if 0 < a then b else 0) z u

section

variable {α : Type} [Scalar α]

/-- What each layer puts out, before the cut-off. -/
def outputs : Network α → List α → List (List α)
  | [], _ => []
  | layer :: rest, x => forward layer x :: outputs rest ((forward layer x).map Scalar.rectify)

/-- The logits, from what a layer puts out and the layers after it. -/
def finish : Network α → List α → List α
  | [], z => z
  | layer :: rest, z => finish rest (forward layer (z.map Scalar.rectify))

end

end Network
end Exemplar
