/-
Estimating and training with every position checked.

A model looks up the slots of a row, the weights of a slot, the layers by their number, the logit of
a target and the best class so far.  Here it is done again, with no answer where one of these is out
of range.  A model of its shape always gets the same answer.
-/
import Exemplar.Proofs.FlatNetworks
import Exemplar.Proofs.Learning

namespace Exemplar

/-! ## Rows -/

/-- A row spread out, each slot of which has to lie within the width. -/
def Layout.spread? (width : Nat) (row : SparseRow) : Option (List Float) :=
  row.foldlM (fun dense e => if e.1 < dense.length then some (dense.set e.1 e.2) else none)
    (List.replicate width 0.0)

theorem Layout.spread?_eq {width : Nat} {row : SparseRow} (h : ∀ e ∈ row, e.1 < width) :
    spread? width row = some (spread width row) := by
  refine (foldlM_eq_some (f := id) (P := fun dense => dense.length = width)
    List.length_replicate ?_).1
  intro dense hdense e he
  constructor
  · exact if_pos (hdense.symm ▸ h e he)
  · exact (List.length_set ..).trans hdense

/-! ## Heads -/

/-- The position of the first of the largest numbers, the largest so far being looked up. -/
def argmax? (xs : List Float) : Option Nat :=
  xs.zipIdx.foldlM (fun best e => do
    let top ← xs[best]?
    return if top < e.1 then e.2 else best) 0

theorem argmax?_eq (xs : List Float) : argmax? xs = some (argmax 0 (xs.headD 0.0) 0 xs) := by
  have hfold (before rest : List Float) (h : before ++ rest = xs) (best : Nat) (top : Float)
      (htop : rest ≠ [] → xs[best]? = some top) :
      (rest.zipIdx before.length).foldlM (fun best e => do
        let top ← xs[best]?
        return if top < e.1 then e.2 else best) best
        = some (argmax best top before.length rest) := by
    induction rest generalizing before best top with
    | nil => rfl
    | cons x rest ih =>
      have hx : xs[before.length]? = some x := by
        rw [← h]
        simp
      have hnext := ih (before ++ [x]) (by rw [← h]; simp)
      rw [List.length_append, List.length_singleton] at hnext
      rw [List.zipIdx_cons, List.foldlM_cons, htop (List.cons_ne_nil x rest), argmax]
      show List.foldlM _ (if top < x then before.length else best) _ = _
      split
      · exact hnext before.length x fun _ => hx
      · exact hnext best top fun _ => htop (List.cons_ne_nil x rest)
  cases xs with
  | nil => rfl
  | cons x xs => exact hfold [] (x :: xs) rfl 0 x fun _ => rfl

namespace Head

variable {head : Head} {logits : List Float} {target : Float}

/-- The prediction, the logits and probabilities of which are looked up. -/
def predict? (head : Head) (logits : List Float) : Option Value := do
  match ← (head.probabilities logits).toOption with
  | some ps => return .int (Int64.ofNat (← argmax? ps))
  | none => return .float (← logits[0]?)

theorem predict?_eq (head : Head) (logits : List Float) :
    head.predict? logits = (head.predict logits).toOption := by
  unfold predict? predict
  cases head.probabilities logits with
  | error failure => rfl
  | ok ps =>
    cases ps with
    | some ps =>
      show (do return Value.int (Int64.ofNat (← argmax? ps))) = _
      rw [argmax?_eq]
      rfl
    | none =>
      cases logits with
      | nil => rfl
      | cons z rest => rfl

/-- The gradient of the loss, if there is a logit for the target. -/
def gradient? (head : Head) (logits : List Float) (target : Float) : Option (List Float) :=
  (head.lossAndGradient logits target).toOption.map (·.2)

theorem gradient?_eq (hlogits : logits.length = head.logitCount)
    (h : head.reaches head.logitCount target = true) :
    head.gradient? logits target = some (head.gradient logits target) := by
  unfold gradient? lossAndGradient
  rw [hlogits, if_pos h]
  rfl

theorem length_gradient (h : logits.length = head.logitCount) (target : Float) :
    (head.gradient logits target).length = head.logitCount := by
  cases head with
  | binary =>
    show ((logits.take 1).map _).length = 1
    rw [List.length_map, List.length_take, h]
    rfl
  | multiClass n =>
    show ((softmax logits).zipIdx.map _).length = n
    rw [List.length_map, List.length_zipIdx, length_softmax, h]
    rfl
  | regression =>
    show ((logits.take 1).map _).length = 1
    rw [List.length_map, List.length_take, h]
    rfl

/-- At least two classes, if there are classes, and no more than can be counted exactly. -/
def IsTrainable (head : Head) : Prop :=
  ∀ n, head = .multiClass n → 2 ≤ n ∧ n ≤ twoTo 53

/-- Every target that a head makes of a label has its logit. -/
theorem IsTrainable.reaches (hhead : head.IsTrainable) {label : Column} {targets : List Float}
    (h : head.targets label = .ok targets) :
    ∀ target ∈ targets, head.reaches head.logitCount target = true := by
  cases head with
  | binary => exact fun _ _ => rfl
  | regression => exact fun _ _ => rfl
  | multiClass n =>
    obtain ⟨hleast, hmost⟩ := hhead n rfl
    cases label with
    | floats cells => cases h
    | texts cells => cases h
    | ints cells =>
      refine forall_of_mapM h fun index _ target htarget => ?_
      unfold classTarget at htarget
      split at htarget
      swap
      · cases htarget
      rename_i hrange
      cases htarget
      have htop : (targetCount (.multiClass n)).toInt = n := by
        rw [Binary64.twoTo_53] at hmost
        rw [targetCount, show (multiClass n).logitCount = n from rfl, max_eq_left hleast,
          Int64.toInt_ofNat_of_lt (by omega)]
      rw [Int64.le_iff_toInt_le, Int64.lt_iff_toInt_lt, Int64.toInt_zero, htop] at hrange
      obtain ⟨p, hp⟩ := Int.eq_ofNat_of_zero_le hrange.1
      rw [hp] at hrange ⊢
      have hlt : p < n := by omega
      show decide (classOf (Binary64.ofInt p) < n) = true
      rw [classOf, Binary64.toUInt64_ofInt (hlt.trans_le hmost), decide_eq_true hlt]

end Head

/-! ## Training -/

namespace LinearModel

variable {m : LinearModel} {examples : List (SparseRow × Float)}

/-- One step of training, every position in which is looked up. -/
def step? (m : LinearModel) (examples : List (SparseRow × Float))
    (state : FlatLayer Float × FlatLayer Float) : Option (FlatLayer Float × FlatLayer Float) := do
  let count := Binary64.ofInt examples.length
  let gradient ← Linear.gradient? m.head.gradient? count state.1 examples
  state.1.descend? learningRate gradient state.2

/-- The layer after some steps of training with fresh accumulators. -/
def train? (m : LinearModel) (examples : List (SparseRow × Float)) (steps : Nat) :
    Option (FlatLayer Float) :=
  (repeat? (m.step? examples) steps (m.layer.flat, m.layer.flat.fill Adagrad.initial)).map (·.1)

theorem step?_eq (hslots : ∀ e ∈ examples, ∀ slot ∈ e.1, slot.1 < m.layout.width)
    (hreached : ∀ e ∈ examples, m.head.reaches m.head.logitCount e.2 = true)
    (state : Layer Float × Layer Float)
    (hstate : state.1.HasShape (m.layout.width, m.head.logitCount) ∧
      state.2.HasShape (m.layout.width, m.head.logitCount)) :
    m.step? examples (state.1.flat, state.2.flat)
        = some ((m.step examples state).1.flat, (m.step examples state).2.flat) ∧
      (m.step examples state).1.HasShape (m.layout.width, m.head.logitCount) ∧
      (m.step examples state).2.HasShape (m.layout.width, m.head.logitCount) := by
  obtain ⟨hlayer, hsums⟩ := hstate
  obtain ⟨hgradient, hshape⟩ := Linear.gradient?_eq hlayer (Binary64.ofInt examples.length)
    hslots fun logits hlogits e he =>
      ⟨Head.gradient?_eq hlogits (hreached e he), Head.length_gradient hlogits e.2⟩
  refine ⟨?_, hlayer.descend .., hsums.descend_sums ..⟩
  unfold LinearModel.step?
  dsimp only
  rw [hgradient]
  exact hlayer.descend?_eq hshape hsums learningRate

theorem IsShaped.train?_eq (h : m.IsShaped)
    (hslots : ∀ e ∈ examples, ∀ slot ∈ e.1, slot.1 < m.layout.width)
    (hreached : ∀ e ∈ examples, m.head.reaches m.head.logitCount e.2 = true) (steps : Nat) :
    m.train? examples steps = some (m.train examples steps).flat := by
  have hsums := h.layer.fill Adagrad.initial
  have hsteps := (repeat?_eq_some (t := (m.layer, m.layer.fill Adagrad.initial))
    (step?_eq hslots hreached) ⟨h.layer, hsums⟩ steps).1
  unfold LinearModel.train?
  rw [← Layer.flat_fill]
  exact congrArg (Option.map (·.1)) hsteps

end LinearModel

namespace NetworkModel

variable {m : NetworkModel} {examples : List (List Float × Float)}

/-- One step of training, every position in which is looked up. -/
def step? (m : NetworkModel) (examples : List (List Float × Float))
    (state : List (FlatLayer Float) × List (FlatLayer Float)) :
    Option (List (FlatLayer Float) × List (FlatLayer Float)) := do
  let count := Binary64.ofInt examples.length
  let gradients ← Network.gradient? m.head.gradient? count state.1 examples
  Network.descend? learningRate state.1 gradients state.2

/-- The layers after some steps of training with fresh accumulators. -/
def train? (m : NetworkModel) (examples : List (List Float × Float)) (steps : Nat) :
    Option (List (FlatLayer Float)) :=
  let layers := m.layers.map Layer.flat
  (repeat? (m.step? examples) steps (layers, layers.map (·.fill Adagrad.initial))).map (·.1)

theorem step?_eq (hwidths : ∀ e ∈ examples, e.1.length = m.layout.width)
    (hreached : ∀ e ∈ examples, m.head.reaches m.head.logitCount e.2 = true)
    (state : Network Float × List (Layer Float))
    (hstate : Network.HasShapes (shapes m.layout.width (sizes m.head m.hiddenUnits)) state.1 ∧
      Network.HasShapes (shapes m.layout.width (sizes m.head m.hiddenUnits)) state.2) :
    m.step? examples (state.1.map Layer.flat, state.2.map Layer.flat)
        = some ((m.step examples state).1.map Layer.flat,
          (m.step examples state).2.map Layer.flat) ∧
      Network.HasShapes (shapes m.layout.width (sizes m.head m.hiddenUnits))
        (m.step examples state).1 ∧
      Network.HasShapes (shapes m.layout.width (sizes m.head m.hiddenUnits))
        (m.step examples state).2 := by
  obtain ⟨hlayers, hsums⟩ := hstate
  obtain ⟨hgradients, hshapes⟩ := Network.gradient?_eq hlayers
    (Binary64.ofInt examples.length) hwidths fun logits hlogits e he =>
      ⟨Head.gradient?_eq hlogits (hreached e he), Head.length_gradient hlogits e.2⟩
  refine ⟨?_, hlayers.descend .., hsums.descend_sums learningRate hlayers hshapes⟩
  unfold NetworkModel.step?
  dsimp only
  rw [hgradients]
  exact Network.descend?_eq learningRate hlayers hshapes hsums

theorem IsShaped.train?_eq (h : m.IsShaped)
    (hwidths : ∀ e ∈ examples, e.1.length = m.layout.width)
    (hreached : ∀ e ∈ examples, m.head.reaches m.head.logitCount e.2 = true) (steps : Nat) :
    m.train? examples steps = some ((m.train examples steps).map Layer.flat) := by
  have hsums := h.layers.fill Adagrad.initial
  have hsteps := (repeat?_eq_some (t := (m.layers, m.layers.map (·.fill Adagrad.initial)))
    (step?_eq hwidths hreached) ⟨h.layers, hsums⟩ steps).1
  unfold NetworkModel.train?
  dsimp only
  rw [Network.map_flat_fill]
  exact congrArg (Option.map (·.1)) hsteps

end NetworkModel

/-! ## Models -/

namespace Model

/-- The layers, each with its weights in one list. -/
def flat : Model → List (FlatLayer Float)
  | linear m => [m.layer.flat]
  | network m => m.layers.map Layer.flat

/-- The logits of one row. -/
def logits? (model : Model) (row : SparseRow) : Option (List Float) :=
  match model with
  | linear m => Linear.logits? m.layer.flat row
  | network m => do
    let x ← Layout.spread? m.layout.width row
    let found ← Network.activations? (m.layers.map Layer.flat) x
    found.getLast?

/-- The prediction for one row. -/
def estimate? (model : Model) (row : SparseRow) : Option Value := do
  model.head.predict? (← model.logits? row)

/-- The probabilities of the classes for one row. -/
def distribution? (model : Model) (row : SparseRow) : Option (List Float) := do
  return (← (model.head.probabilities (← model.logits? row)).toOption).getD []

/-- The layers after some steps of training on rows with their targets. -/
def train? (model : Model) (examples : List (SparseRow × Float)) (steps : Nat) :
    Option (List (FlatLayer Float)) :=
  match model with
  | linear m => return [← m.train? examples steps]
  | network m => do
    let examples ← examples.mapM fun e => return (← Layout.spread? m.layout.width e.1, e.2)
    m.train? examples steps

variable {model : Model} {inputs : TrainingInputs} {row : SparseRow}

theorem IsShaped.logits?_eq (h : model.IsShaped) (hrow : ∀ e ∈ row, e.1 < model.layout.width) :
    model.logits? row = some (model.logits row) := by
  cases model with
  | linear m => exact Linear.logits?_eq (LinearModel.IsShaped.layer h) hrow
  | network m =>
    have hspread : Layout.spread? m.layout.width row = some (Layout.spread m.layout.width row) :=
      Layout.spread?_eq hrow
    dsimp only [Model.logits?]
    rw [hspread]
    dsimp only [Option.bind_eq_bind, Option.bind_some]
    rw [Network.activations?_eq (NetworkModel.IsShaped.layers h) (Layout.length_spread _ row)]
    exact Network.getLast?_activations m.layers _

theorem IsShaped.estimate?_eq (h : model.IsShaped)
    (hrow : ∀ e ∈ row, e.1 < model.layout.width) :
    model.estimate? row = (model.estimate row).toOption := by
  unfold estimate?
  rw [h.logits?_eq hrow]
  exact Head.predict?_eq model.head (model.logits row)

theorem IsShaped.distribution?_eq (h : model.IsShaped)
    (hrow : ∀ e ∈ row, e.1 < model.layout.width) :
    model.distribution? row = (model.distribution row).toOption := by
  unfold distribution? distribution
  rw [h.logits?_eq hrow]
  dsimp only [Option.bind_eq_bind, Option.bind_some]
  cases model.head.probabilities (model.logits row) <;> rfl

theorem slot_lt {rows : List SparseRow} (h : model.rows inputs = .ok rows) (hrow : row ∈ rows) :
    ∀ e ∈ row, e.1 < model.layout.width := by
  obtain ⟨batch, -, -, rfl⟩ := rows_eq_ok_iff.1 h
  obtain ⟨i, -, rfl⟩ := List.mem_map.1 hrow
  exact fun e => Layout.slot_lt

theorem linearFit_eq_ok {m m' : LinearModel} {steps : UInt64} (h : m.fit inputs steps = .ok m') :
    ∃ examples, (linear m).examples inputs = .ok examples ∧
      m' = { m with layer := m.train examples steps.toNat, steps := m.steps + steps } := by
  unfold LinearModel.fit at h
  obtain ⟨examples, hexamples, h⟩ := Attempt.bind_eq_ok h
  dsimp only at h
  split at h
  · cases h
  · cases h
    exact ⟨examples, hexamples, rfl⟩

theorem networkFit_eq_ok {m m' : NetworkModel} {steps : UInt64} (h : m.fit inputs steps = .ok m') :
    ∃ examples, (network m).examples inputs = .ok examples ∧
      m' = { m with
        layers :=
          m.train (examples.map fun e => (Layout.spread m.layout.width e.1, e.2)) steps.toNat
        steps := m.steps + steps } := by
  unfold NetworkModel.fit at h
  obtain ⟨spread, hspread, h⟩ := Attempt.bind_eq_ok h
  dsimp only at h
  split at h
  · cases h
  · cases h
    rw [networkExamples_eq] at hspread
    obtain ⟨examples, hexamples, rfl⟩ := Attempt.map_eq_ok hspread
    exact ⟨examples, hexamples, rfl⟩

/-- The slots of the rows lie within the layout, and the targets have their logits. -/
theorem mem_examples {examples : List (SparseRow × Float)}
    (h : model.examples inputs = .ok examples) {e : SparseRow × Float} (he : e ∈ examples) :
    (∀ slot ∈ e.1, slot.1 < model.layout.width) ∧
      (model.head.IsTrainable → model.head.reaches model.head.logitCount e.2 = true) := by
  obtain ⟨batch, rows, targets, hbatch, hsparse, htargets, -, rfl⟩ := examples_eq_ok_iff.1 h
  obtain ⟨hrow, htarget⟩ := List.of_mem_zip he
  have hrows : model.rows inputs = .ok rows :=
    bind_eq_ok_iff.2 ⟨batch, Attempt.ofData_eq_ok_iff.2 hbatch, Attempt.ofData_eq_ok_iff.2 hsparse⟩
  exact ⟨slot_lt hrows hrow, fun hhead => hhead.reaches htargets e.2 htarget⟩

/-- Training a model of its shape finds every number that it looks up. -/
theorem IsShaped.train?_eq {fitted : Model} {steps : UInt64} (h : model.IsShaped)
    (hhead : model.head.IsTrainable) (hfit : model.fit inputs steps = .ok fitted) :
    ∃ examples, model.examples inputs = .ok examples ∧
      model.train? examples steps.toNat = some fitted.flat := by
  cases model with
  | linear m =>
    obtain ⟨m', hm, rfl⟩ := Attempt.map_eq_ok hfit
    obtain ⟨examples, hexamples, rfl⟩ := linearFit_eq_ok hm
    have htrain := LinearModel.IsShaped.train?_eq h (fun e he => (mem_examples hexamples he).1)
      (fun e he => (mem_examples hexamples he).2 hhead) steps.toNat
    exact ⟨examples, hexamples, congrArg (· >>= fun layer => some [layer]) htrain⟩
  | network m =>
    obtain ⟨m', hm, rfl⟩ := Attempt.map_eq_ok hfit
    obtain ⟨examples, hexamples, rfl⟩ := networkFit_eq_ok hm
    have hspread : (examples.mapM fun e => do
        return (← Layout.spread? m.layout.width e.1, e.2))
          = some (examples.map fun e => (Layout.spread m.layout.width e.1, e.2)) := by
      refine mapM_eq_some fun e he => ?_
      have hrow : Layout.spread? m.layout.width e.1 = some (Layout.spread m.layout.width e.1) :=
        Layout.spread?_eq (mem_examples hexamples he).1
      rw [hrow]
      rfl
    have hwidths : ∀ e ∈ examples.map fun e => (Layout.spread m.layout.width e.1, e.2),
        e.1.length = m.layout.width :=
      List.forall_mem_map.2 fun e _ => Layout.length_spread m.layout.width e.1
    have hreached : ∀ e ∈ examples.map fun e => (Layout.spread m.layout.width e.1, e.2),
        m.head.reaches m.head.logitCount e.2 = true :=
      List.forall_mem_map.2 fun e he => (mem_examples hexamples he).2 hhead
    refine ⟨examples, hexamples, ?_⟩
    dsimp only [Model.train?]
    rw [hspread]
    exact NetworkModel.IsShaped.train?_eq h hwidths hreached steps.toNat

end Model
end Exemplar
