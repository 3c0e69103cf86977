/-
Adagrad: every parameter moves against its gradient, the less the more its
gradients have added up to so far.
-/
namespace Exemplar
namespace Adagrad

/-- What every accumulator starts from. -/
def initial : Float := 0.1

/-- One parameter and its accumulator after a step. -/
def stepOne (rate parameter gradient accumulated : Float) : Float × Float :=
  let accumulated := accumulated + gradient * gradient
  (parameter - rate * gradient / accumulated.sqrt, accumulated)

/-- Parameters and their accumulators after a step; without a gradient they stay. -/
def step (rate : Float) : List Float → List Float → List Float → List Float × List Float
  | p :: ps, g :: gs, a :: as =>
    let (p, a) := stepOne rate p g a
    let (ps, as) := step rate ps gs as
    (p :: ps, a :: as)
  | ps, _, as => (ps, as)

/-- A step for each row of a matrix. -/
def stepRows (rate : Float) :
    List (List Float) → List (List Float) → List (List Float) →
      List (List Float) × List (List Float)
  | p :: ps, g :: gs, a :: as =>
    let (p, a) := step rate p g a
    let (ps, as) := stepRows rate ps gs as
    (p :: ps, a :: as)
  | ps, _, as => (ps, as)

end Adagrad
end Exemplar
