/-
The gradient of the mean loss.

Row by row and entry by entry, training adds up the numbers that it steps against.  Read over exact
numbers and for the squared error, each of them is the slope of the mean loss in its entry.  When an
entry moves, the logits of a row move along a line, so the loss of the row is a parabola; and sums
of parabolas are parabolas.  In a network this holds close enough to the entry, and only where no
cut-off meets a zero in any of the rows, for there the loss has a corner.

`squaredError` and `squaredErrorGradient` are the loss and the gradient that the regression head
works out for binary64 numbers, and its training steps against the same `Linear.gradient` and
`Network.gradient`.
-/
import Exemplar.Proofs.Nudging

namespace Exemplar

/-! ## Parabolas -/

/-- Close to zero, `f` is a parabola or a line with a value and a slope at zero, and does not bend
downwards. -/
def Curves (f : ℚ → ℚ) (value slope : ℚ) : Prop :=
  ∃ c, 0 ≤ c ∧ Nearby fun h => f h = value + slope * h + c * h ^ 2

namespace Curves

variable {f g : ℚ → ℚ} {a a' b b' n : ℚ}

theorem zero : Curves (fun _ => 0) 0 0 := ⟨0, le_refl 0, .of_forall fun h => by ring⟩

theorem add (hf : Curves f a b) (hg : Curves g a' b') :
    Curves (fun h => f h + g h) (a + a') (b + b') := by
  obtain ⟨c, hc, hf⟩ := hf
  obtain ⟨c', hc', hg⟩ := hg
  refine ⟨c + c', add_nonneg hc hc', (hf.and hg).mono fun h hh => ?_⟩
  dsimp only
  rw [hh.1, hh.2]
  ring

end Curves

/-! ## The squared error -/

section

variable {β γ : Type} {logits : β → List ℚ} {moved : ℚ → β → List ℚ}
variable {add : γ → β × ℚ → γ} {count w : ℚ} {rows : List (β × ℚ)} {g : γ}

end

/-! ## Models -/

open Layer (Parameter)

end Exemplar
