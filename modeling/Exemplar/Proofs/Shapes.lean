/-
Training keeps the shapes of layers.

Whatever the gradients are, a step changes numbers in place: the rows of a kernel
keep their lengths, a network keeps its layers.  So a model has the shape that its
columns, its hidden layers and its head ask for as long as it lives.
-/
import Exemplar.Model.Basic
import Mathlib.Data.List.Forall2
import Mathlib.Logic.Relation

namespace Exemplar

variable {α : Type}

/-! ## Layers -/

namespace Layer

/-- A row of `shape.2` weights for each of `shape.1` inputs, and a bias for each output. -/
structure HasShape (shape : Nat × Nat) (l : Layer α) : Prop where
  kernel : l.kernel.map List.length = List.replicate shape.1 shape.2
  bias : l.bias.length = shape.2

variable {l : Layer α} {shape : Nat × Nat}

theorem HasShape.inputs (h : HasShape shape l) : l.inputs = shape.1 := by
  have := congrArg List.length h.kernel
  rwa [List.length_map, List.length_replicate] at this

theorem HasShape.outputs (h : HasShape shape l) : l.outputs = shape.2 := h.bias

theorem hasShape_constant (inputs outputs : Nat) (value : α) :
    HasShape (inputs, outputs) (constant inputs outputs value) := by
  refine ⟨?_, List.length_replicate⟩
  show (List.replicate inputs (List.replicate outputs value)).map List.length = _
  rw [List.map_replicate, List.length_replicate]

/-- The number of weights is that of the pairs of inputs and outputs. -/
theorem HasShape.length_weights (h : HasShape shape l) :
    l.weights.length = shape.1 * shape.2 := by
  show l.kernel.flatten.length = _
  rw [List.length_flatten, h.kernel, List.sum_replicate_nat]

theorem map_length_rowsOf {values : List α} {rows columns : Nat}
    (h : values.length = rows * columns) :
    (rowsOf rows columns values).map List.length = List.replicate rows columns := by
  induction rows generalizing values with
  | zero => rfl
  | succ rows ih =>
    rw [Nat.succ_mul] at h
    have htake : (values.take columns).length = columns := by
      rw [List.length_take]
      omega
    have hdrop : (values.drop columns).length = rows * columns := by
      rw [List.length_drop]
      omega
    rw [rowsOf, List.map_cons, htake, ih hdrop, List.replicate_succ]

theorem hasShape_ofFlat {inputs outputs : Nat} {weights bias : List α}
    (hweights : weights.length = inputs * outputs) (hbias : bias.length = outputs) :
    HasShape (inputs, outputs) (ofFlat inputs outputs weights bias) :=
  ⟨map_length_rowsOf hweights, hbias⟩

theorem rowsOf_flatten {kernel : List (List α)} {rows columns : Nat}
    (h : kernel.map List.length = List.replicate rows columns) :
    rowsOf rows columns kernel.flatten = kernel := by
  induction kernel generalizing rows with
  | nil =>
    cases rows with
    | zero => rfl
    | succ rows => cases h
  | cons row kernel ih =>
    cases rows with
    | zero => cases h
    | succ rows =>
      rw [List.map_cons, List.replicate_succ] at h
      obtain ⟨hrow, hkernel⟩ := List.cons.inj h
      rw [List.flatten_cons, rowsOf, List.take_left' hrow, List.drop_left' hrow, ih hkernel]

/-- A layer is that of its flat lists. -/
theorem HasShape.ofFlat_eq (h : HasShape shape l) :
    ofFlat shape.1 shape.2 l.weights l.bias = l := by
  unfold ofFlat weights
  rw [rowsOf_flatten h.kernel]

end Layer

theorem Generator.length_draw (one : Generator → α × Generator) (n : Nat) (g : Generator) :
    (draw one n g).1.length = n := by
  induction n generalizing g with
  | zero => rfl
  | succ n ih =>
    show (draw one n (one g).2).1.length + 1 = _
    rw [ih]

theorem Layer.hasShape_random (inputs outputs : Nat) (g : Generator) :
    HasShape (inputs, outputs) (random inputs outputs g).1 :=
  hasShape_ofFlat (Generator.length_draw _ _ g) List.length_replicate

/-! ## Steps -/

theorem Adagrad.length_step (rate : Float) (ps gs as : List Float) :
    (step rate ps gs as).1.length = ps.length := by
  induction ps generalizing gs as with
  | nil => rfl
  | cons p ps ih =>
    unfold step
    split
    · rename_i heq
      cases heq
      exact congrArg (· + 1) (ih _ _)
    · rfl

theorem Adagrad.length_stepRows (rate : Float) (ps gs as : List (List Float)) :
    (stepRows rate ps gs as).1.map List.length = ps.map List.length := by
  induction ps generalizing gs as with
  | nil => rfl
  | cons p ps ih =>
    unfold stepRows
    split
    · rename_i heq
      cases heq
      show _ :: _ = _ :: _
      rw [length_step, ih]
    · rfl

theorem Layer.HasShape.descend {shape : Nat × Nat} {layer : Layer Float} (h : HasShape shape layer)
    (rate : Float) (gradient sums : Layer Float) :
    HasShape shape (layer.descend rate gradient sums).1 :=
  ⟨(Adagrad.length_stepRows ..).trans h.kernel, (Adagrad.length_step ..).trans h.bias⟩

namespace Network

/-- The layers of a network, each of its shape. -/
abbrev HasShapes (shapes : List (Nat × Nat)) (network : Network α) : Prop :=
  List.Forall₂ Layer.HasShape shapes network

theorem HasShapes.descend {shapes : List (Nat × Nat)} {layers : Network Float}
    (h : HasShapes shapes layers) (rate : Float) (gradients sums : List (Layer Float)) :
    HasShapes shapes (Network.descend rate layers gradients sums).1 := by
  induction h generalizing gradients sums with
  | nil => exact .nil
  | cons hlayer hlayers ih =>
    unfold Network.descend
    split
    · rename_i heq
      cases heq
      exact .cons (hlayer.descend rate _ _) (ih _ _)
    · exact .cons hlayer hlayers

theorem hasShapes_random (inputs : Nat) (sizes : List Nat) (g : Generator) :
    HasShapes (NetworkModel.shapes inputs sizes) (random inputs sizes g) := by
  induction sizes generalizing inputs g with
  | nil => exact .nil
  | cons outputs rest ih => exact .cons (Layer.hasShape_random inputs outputs g) (ih outputs _)

end Network

/-- What a step keeps is kept by any number of them. -/
theorem repeat_preserves {σ : Type} {p : σ → Prop} {step : σ → σ} (hstep : ∀ s, p s → p (step s))
    (n : Nat) {s : σ} (h : p s) : p (Nat.repeat step n s) := by
  induction n with
  | zero => exact h
  | succ n ih => exact hstep _ ih

/-! ## Models -/

theorem Attempt.bind_eq_ok {β : Type} {attempt : Attempt α} {next : α → Attempt β} {b : β}
    (h : attempt >>= next = .ok b) : ∃ a, attempt = .ok a ∧ next a = .ok b := by
  cases attempt with
  | error failure => cases h
  | ok a => exact ⟨a, rfl, h⟩

theorem Attempt.map_eq_ok {β : Type} {attempt : Attempt α} {f : α → β} {b : β}
    (h : attempt.map f = .ok b) : ∃ a, attempt = .ok a ∧ f a = b := by
  cases attempt with
  | error failure => cases h
  | ok a => exact ⟨a, rfl, Except.ok.inj h⟩

theorem Attempt.within_eq_ok {activity : Activity} {result : Attempt α} {a : α}
    (h : Attempt.within activity result = .ok a) : result = .ok a := by
  cases result with
  | error failure => cases h
  | ok value => exact h

theorem Attempt.ofData_eq_ok {result : Except DataError α} {a : α}
    (h : Attempt.ofData result = .ok a) : result = .ok a := by
  cases result with
  | error error => cases h
  | ok value => exact congrArg _ (Except.ok.inj h)

/-- A model of which the layer has the shape that its columns and its head ask for. -/
structure LinearModel.IsShaped (m : LinearModel) : Prop where
  held : Layer.canBeHeld m.layout.width m.head.logitCount = true
  layer : m.layer.HasShape (m.layout.width, m.head.logitCount)

namespace LinearModel

theorem isShaped_new {head : Head} {columns : List InputColumn} {m : LinearModel}
    (h : new head columns = .ok m) : m.IsShaped := by
  unfold new at h
  dsimp only at h
  split at h
  · rename_i hheld
    cases h
    exact ⟨hheld, Layer.hasShape_constant ..⟩
  · cases h

theorem HasShape.train {m : LinearModel} (h : m.IsShaped) (examples : List (SparseRow × Float))
    (steps : Nat) : (m.train examples steps).HasShape (m.layout.width, m.head.logitCount) := by
  have hstep (state : Layer Float × Layer Float)
      (hstate : state.1.HasShape (m.layout.width, m.head.logitCount)) :
      (m.step examples state).1.HasShape (m.layout.width, m.head.logitCount) :=
    hstate.descend _ _ _
  exact repeat_preserves hstep steps h.layer

theorem IsShaped.fit {m m' : LinearModel} {inputs : TrainingInputs} {steps : UInt64}
    (h : m.IsShaped) (hfit : m.fit inputs steps = .ok m') : m'.IsShaped := by
  unfold LinearModel.fit at hfit
  obtain ⟨examples, -, hfit⟩ := Attempt.bind_eq_ok hfit
  dsimp only at hfit
  split at hfit
  · cases hfit
  · cases hfit
    exact ⟨h.held, HasShape.train h examples _⟩

end LinearModel

/-- A model of which every layer has the shape that its columns, its hidden layers and its head ask
for. -/
structure NetworkModel.IsShaped (m : NetworkModel) : Prop where
  check : check m.layout.columns m.hiddenUnits = .ok ()
  held : canBeHeld (shapes m.layout.width (sizes m.head m.hiddenUnits)) = true
  layers : Network.HasShapes (shapes m.layout.width (sizes m.head m.hiddenUnits)) m.layers

namespace NetworkModel

theorem isShaped_new {head : Head} {columns : List InputColumn} {hiddenUnits : List Nat}
    {seed : Int64} {m : NetworkModel} (h : new head columns hiddenUnits seed = .ok m) :
    m.IsShaped := by
  unfold new at h
  obtain ⟨⟨⟩, hcheck, h⟩ := Attempt.bind_eq_ok h
  dsimp only at h
  split at h
  · cases h
  · rename_i hheld
    cases h
    exact ⟨hcheck, by simpa using hheld, Network.hasShapes_random ..⟩

theorem IsShaped.fit {m m' : NetworkModel} {inputs : TrainingInputs} {steps : UInt64}
    (h : m.IsShaped) (hfit : m.fit inputs steps = .ok m') : m'.IsShaped := by
  unfold NetworkModel.fit at hfit
  obtain ⟨examples, -, hfit⟩ := Attempt.bind_eq_ok hfit
  dsimp only at hfit
  split at hfit
  · cases hfit
  · cases hfit
    have hstep (state : Network Float × List (Layer Float))
        (hstate : Network.HasShapes (shapes m.layout.width (sizes m.head m.hiddenUnits)) state.1) :
        Network.HasShapes (shapes m.layout.width (sizes m.head m.hiddenUnits))
          (m.step examples state).1 := hstate.descend _ _ _
    exact ⟨h.check, h.held, repeat_preserves hstep _ h.layers⟩

end NetworkModel

namespace Model

/-- A model of the shape that its description asks for. -/
def IsShaped : Model → Prop
  | linear m => m.IsShaped
  | network m => m.IsShaped

/-- A model that some training, any number of times over, made of another. -/
abbrev Trained : Model → Model → Prop :=
  Relation.ReflTransGen fun m m' => ∃ inputs steps, m.fit inputs steps = .ok m'

theorem isShaped_build {architecture : Architecture} {task : Task} {encodings : List Encoding}
    {hiddenUnits : List Nat} {seed : Int64} {model : Model}
    (h : build architecture task encodings hiddenUnits seed = .ok model) : model.IsShaped := by
  unfold build at h
  obtain ⟨head, -, h⟩ := Attempt.bind_eq_ok h
  cases architecture with
  | linear =>
    obtain ⟨m, hnew, h⟩ := Attempt.bind_eq_ok h
    cases h
    exact LinearModel.isShaped_new hnew
  | network =>
    obtain ⟨m, hnew, h⟩ := Attempt.bind_eq_ok h
    cases h
    exact NetworkModel.isShaped_new hnew

theorem IsShaped.fit {model model' : Model} {inputs : TrainingInputs} {steps : UInt64}
    (h : model.IsShaped) (hfit : model.fit inputs steps = .ok model') : model'.IsShaped := by
  cases model with
  | linear m =>
    obtain ⟨m', hm, rfl⟩ := Attempt.map_eq_ok hfit
    exact LinearModel.IsShaped.fit h hm
  | network m =>
    obtain ⟨m', hm, rfl⟩ := Attempt.map_eq_ok hfit
    exact NetworkModel.IsShaped.fit h hm

/-- Training keeps the shape of a model. -/
theorem IsShaped.trained {model model' : Model} (h : model.IsShaped)
    (htrained : Trained model model') : model'.IsShaped := by
  induction htrained with
  | refl => exact h
  | tail _ hfit ih =>
    obtain ⟨inputs, steps, hfit⟩ := hfit
    exact ih.fit hfit

end Model
end Exemplar
