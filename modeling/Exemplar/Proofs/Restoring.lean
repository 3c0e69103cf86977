/-
A model is restored from its description and its variables.

The variables have different names, so each is found under its own, with the shape
that the description asks for.  What is restored from a kernel's rows, laid out one
after the other, is the kernel.  Whatever it is restored from, a model has the shape
that its description asks for: variables of another shape are refused.
-/
import Exemplar.Proofs.Digits
import Exemplar.Proofs.Maps
import Exemplar.Proofs.Shapes

namespace Exemplar

/-! ## Variables of layers -/

theorem Layer.canBeHeld_iff {inputs outputs : Nat} : Layer.canBeHeld inputs outputs = true ↔
    inputs < twoTo 60 ∧ outputs < twoTo 60 ∧ inputs * outputs < twoTo 60 := by
  unfold canBeHeld tooManyNumbers
  simp only [Bool.and_eq_true, decide_eq_true_eq, and_assoc]

theorem Variables.valuesOf_eq {recorded : Variables} {name : String} {v : Variable}
    (h : recorded.get? name = some v) (hlength : v.values.length = sizeOf v.shape) :
    recorded.valuesOf name v.shape = .ok v.values := by
  unfold valuesOf
  rw [h]
  dsimp only
  rw [if_neg (not_not.2 rfl), if_neg (not_not.2 hlength)]

theorem Variables.length_of_valuesOf {recorded : Variables} {name : String} {shape : List Nat}
    {values : List Float} (h : recorded.valuesOf name shape = .ok values) :
    values.length = sizeOf shape := by
  unfold valuesOf at h
  split at h
  · cases h
  split at h
  · cases h
  split at h
  · cases h
  · rename_i hlength
    cases h
    exact not_not.1 hlength

theorem Variables.sizeOf_weights {shape : Nat × Nat}
    (h : Layer.canBeHeld shape.1 shape.2 = true) :
    sizeOf [shape.1, shape.2] = shape.1 * shape.2 := by
  obtain ⟨-, -, hproduct⟩ := Layer.canBeHeld_iff.1 h
  show 1 * shape.1 * shape.2 % twoTo 64 = _
  rw [Nat.one_mul, Nat.mod_eq_of_lt (lt_trans hproduct (by decide))]

theorem Variables.sizeOf_bias {shape : Nat × Nat} (h : Layer.canBeHeld shape.1 shape.2 = true) :
    sizeOf [shape.2] = shape.2 := by
  obtain ⟨-, hlt, -⟩ := Layer.canBeHeld_iff.1 h
  show 1 * shape.2 % twoTo 64 = _
  rw [Nat.one_mul, Nat.mod_eq_of_lt (lt_trans hlt (by decide))]

/-- A layer that is made of recorded values has the shape that was asked for. -/
theorem Layer.hasShape_of_valuesOf {recorded : Variables} {kernel bias : String}
    {shape : Nat × Nat} {weights biases : List Float} (h : canBeHeld shape.1 shape.2 = true)
    (hweights : recorded.valuesOf kernel [shape.1, shape.2] = .ok weights)
    (hbiases : recorded.valuesOf bias [shape.2] = .ok biases) :
    (ofFlat shape.1 shape.2 weights biases).HasShape shape :=
  hasShape_ofFlat ((Variables.length_of_valuesOf hweights).trans (Variables.sizeOf_weights h))
    ((Variables.length_of_valuesOf hbiases).trans (Variables.sizeOf_bias h))

/-- The weights and the biases of a layer, as variables. -/
def Layer.weightsVariable (shape : Nat × Nat) (l : Layer Float) : Variable :=
  ⟨[shape.1, shape.2], l.weights⟩

def Layer.biasVariable (shape : Nat × Nat) (l : Layer Float) : Variable := ⟨[shape.2], l.bias⟩

section

variable {recorded : Variables} {name : String} {shape : Nat × Nat} {l : Layer Float}

theorem Layer.HasShape.valuesOf_weights (h : l.HasShape shape)
    (hheld : Layer.canBeHeld shape.1 shape.2 = true)
    (hname : recorded.get? name = some (l.weightsVariable shape)) :
    recorded.valuesOf name [shape.1, shape.2] = .ok l.weights := by
  refine Variables.valuesOf_eq hname ?_
  exact h.length_weights.trans (Variables.sizeOf_weights hheld).symm

theorem Layer.HasShape.valuesOf_bias (h : l.HasShape shape)
    (hheld : Layer.canBeHeld shape.1 shape.2 = true)
    (hname : recorded.get? name = some (l.biasVariable shape)) :
    recorded.valuesOf name [shape.2] = .ok l.bias := by
  refine Variables.valuesOf_eq hname ?_
  exact h.bias.trans (Variables.sizeOf_bias hheld).symm

end

/-! ## Descriptions of models -/

theorem Attempt.ok_bind {α β : Type} (a : α) (next : α → Attempt β) :
    (Except.ok a : Attempt α) >>= next = next a := rfl

/-- What a description holds, if there is one. -/
theorem Description.of_eq_ok {estimator : String} {architecture : Architecture} {head : Head}
    {columns : List InputColumn} {hiddenUnits : List Nat} {steps : UInt64}
    {serving : ServingInputs} {d : Description}
    (h : Description.of estimator architecture head columns hiddenUnits steps serving = .ok d) :
    d = ⟨currentVersion, estimator, architecture, head, columns, hiddenUnits, steps,
      [(servingKey, callSignature head serving)]⟩ := by
  unfold Description.of at h
  cases hcheck : checkColumns columns serving with
  | error error =>
    rw [hcheck] at h
    cases h
  | ok _ =>
    rw [hcheck] at h
    exact (Except.ok.inj h).symm

/-! ## Linear models -/

namespace LinearModel

/-- The variables of a linear model, before they are put in order. -/
def entries (m : LinearModel) : List (String × Variable) :=
  [(weightsName, m.layer.weightsVariable (m.layout.width, m.head.logitCount)),
    (biasName, m.layer.biasVariable (m.layout.width, m.head.logitCount))]

theorem toVariables_eq (m : LinearModel) : m.toVariables = SortedMap.ofList m.entries := rfl

theorem nodup_names (m : LinearModel) : (m.entries.map (·.1)).Nodup := by
  show [weightsName, biasName].Nodup
  decide

theorem IsShaped.restore {m : LinearModel} {serving : ServingInputs} {d : Description}
    (h : m.IsShaped) (hd : m.describe serving = .ok d) : restore d m.toVariables = .ok m := by
  obtain rfl := Description.of_eq_ok hd
  have hweights : (m.toVariables).get? weightsName
      = some (m.layer.weightsVariable (m.layout.width, m.head.logitCount)) :=
    SortedMap.get?_ofList m.nodup_names List.mem_cons_self
  have hbias : (m.toVariables).get? biasName
      = some (m.layer.biasVariable (m.layout.width, m.head.logitCount)) :=
    SortedMap.get?_ofList m.nodup_names (List.mem_cons_of_mem _ List.mem_cons_self)
  have hlength : List.length m.toVariables = 2 :=
    (SortedMap.ofList_perm m.nodup_names).length_eq
  unfold LinearModel.restore
  dsimp only
  rw [if_neg (by simp), h.held, if_neg (by decide), h.layer.valuesOf_weights h.held hweights,
    h.layer.valuesOf_bias h.held hbias, Attempt.ok_bind, Attempt.ok_bind,
    if_neg (not_not.2 hlength), h.layer.ofFlat_eq]
  rfl

theorem isShaped_restore {d : Description} {recorded : Variables} {m : LinearModel}
    (h : LinearModel.restore d recorded = .ok m) : m.IsShaped := by
  unfold LinearModel.restore at h
  dsimp only at h
  split at h
  · cases h
  split at h
  · cases h
  · rename_i hheld
    rw [Bool.not_eq_true', Bool.not_eq_false] at hheld
    obtain ⟨weights, hweights, h⟩ := Attempt.bind_eq_ok h
    obtain ⟨bias, hbias, h⟩ := Attempt.bind_eq_ok h
    split at h
    · cases h
    · cases h
      exact ⟨hheld, Layer.hasShape_of_valuesOf hheld hweights hbias⟩

end LinearModel

/-! ## Networks -/

namespace NetworkModel

/-- The variables of a network, before they are put in order. -/
def entries (m : NetworkModel) : List (String × Variable) :=
  m.layers.zipIdx.flatMap fun (layer, index) => layerVariables m.layers.length layer index

theorem toVariables_eq (m : NetworkModel) : m.toVariables = SortedMap.ofList m.entries := rfl

theorem natText_injective : Function.Injective Decimal.natText := by
  intro i j h
  have hdigits : Decimal.natDigits i = Decimal.natDigits j := String.ofList_injective h
  rw [← Decimal.natOfDigits_natDigits i, hdigits, Decimal.natOfDigits_natDigits]

theorem hiddenlayer_ne_logits (index : Nat) :
    "dnn/hiddenlayer_" ++ Decimal.natText index ≠ "dnn/logits" := by
  intro h
  have hchars := congrArg String.toList h
  rw [String.toList_append] at hchars
  simp at hchars

theorem layerName_inj {count i j : Nat} (h : layerName count i = layerName count j) : i = j := by
  unfold layerName at h
  split at h <;> split at h
  · omega
  · exact absurd h.symm (hiddenlayer_ne_logits j)
  · exact absurd h (hiddenlayer_ne_logits i)
  · exact natText_injective (String.append_right_inj _ |>.1 h)

theorem kernelName_ne_biasName (count i j : Nat) : kernelName count i ≠ biasName count j := by
  intro h
  have hlast := congrArg (fun name : String => name.toList.getLast?) h
  simp [kernelName, biasName] at hlast

/-- The variables of different layers have different names. -/
theorem nodup_layerNames (count n : Nat) : ((List.range' 0 n).flatMap
    fun index => [kernelName count index, biasName count index]).Nodup := by
  rw [List.nodup_flatMap]
  constructor
  · intro index _
    simp [kernelName_ne_biasName]
  · have hindices : (List.range' 0 n).Nodup := List.nodup_range'
    refine hindices.imp fun {i j} hij name hi hj => hij ?_
    rcases List.mem_pair.1 hi with rfl | rfl <;> rcases List.mem_pair.1 hj with hj | hj
    · exact layerName_inj (String.append_left_inj _ |>.1 hj)
    · exact absurd hj (kernelName_ne_biasName _ i j)
    · exact absurd hj.symm (kernelName_ne_biasName _ j i)
    · exact layerName_inj (String.append_left_inj _ |>.1 hj)

theorem nodup_names (m : NetworkModel) : (m.entries.map (·.1)).Nodup := by
  have hnames : m.entries.map (·.1) = (List.range' 0 m.layers.length).flatMap
      fun index => [kernelName m.layers.length index, biasName m.layers.length index] := by
    rw [← List.zipIdx_map_snd, List.flatMap_map, entries, List.map_flatMap]
    rfl
  rw [hnames]
  exact nodup_layerNames _ _

theorem length_entries (m : NetworkModel) : m.entries.length = 2 * m.layers.length := by
  have hlengths : (fun p : Layer Float × Nat => (layerVariables m.layers.length p.1 p.2).length)
      = fun _ => 2 := rfl
  rw [entries, List.length_flatMap, hlengths, List.map_const', List.sum_replicate_nat,
    List.length_zipIdx, Nat.mul_comm]

theorem restoreLayer_eq {recorded : Variables} {count index : Nat} {shape : Nat × Nat}
    {l : Layer Float} (h : l.HasShape shape) (hheld : Layer.canBeHeld shape.1 shape.2 = true)
    (hnames : ∀ entry ∈ layerVariables count l index, recorded.get? entry.1 = some entry.2) :
    restoreLayer recorded count index shape = .ok l := by
  have hkernel : recorded.get? (kernelName count index) = some (l.weightsVariable shape) := by
    rw [Layer.weightsVariable, ← h.inputs, ← h.outputs]
    exact hnames _ List.mem_cons_self
  have hbias : recorded.get? (biasName count index) = some (l.biasVariable shape) := by
    rw [Layer.biasVariable, ← h.outputs]
    exact hnames _ (List.mem_cons_of_mem _ List.mem_cons_self)
  unfold restoreLayer
  rw [h.valuesOf_weights hheld hkernel, h.valuesOf_bias hheld hbias, Attempt.ok_bind,
    Attempt.ok_bind, h.ofFlat_eq]
  rfl

/-- Layers are restored one by one, each from the variables of its own number. -/
theorem mapM_restoreLayer (recorded : Variables) (count : Nat) {shapes : List (Nat × Nat)}
    {layers : Network Float} (h : Network.HasShapes shapes layers)
    (hheld : canBeHeld shapes = true) (first : Nat)
    (hnames : ∀ p ∈ layers.zipIdx first, ∀ entry ∈ layerVariables count p.1 p.2,
      recorded.get? entry.1 = some entry.2) :
    (shapes.zipIdx first).mapM (fun (shape, index) => restoreLayer recorded count index shape)
      = .ok layers := by
  induction h generalizing first with
  | nil => rfl
  | cons hlayer hlayers ih =>
    rw [canBeHeld, List.all_cons, Bool.and_eq_true] at hheld
    rw [List.zipIdx_cons] at hnames ⊢
    have hfirst := restoreLayer_eq hlayer hheld.1 (hnames _ List.mem_cons_self)
    have hothers := ih hheld.2 (first + 1) fun p hp => hnames p (List.mem_cons_of_mem _ hp)
    dsimp only at hfirst
    rw [List.mapM_cons]
    dsimp only
    rw [hfirst, Attempt.ok_bind, hothers]
    rfl

theorem IsShaped.restore {m : NetworkModel} {serving : ServingInputs} {d : Description}
    (h : m.IsShaped) (hd : m.describe serving = .ok d) : restore d m.toVariables = .ok m := by
  obtain rfl := Description.of_eq_ok hd
  have hcount : (shapes m.layout.width (sizes m.head m.hiddenUnits)).length = m.layers.length :=
    h.layers.length_eq
  have hlength : List.length m.toVariables = 2 * m.layers.length :=
    (SortedMap.ofList_perm m.nodup_names).length_eq.trans m.length_entries
  have hlayers := mapM_restoreLayer m.toVariables m.layers.length
    h.layers h.held 0 fun p hp entry hentry =>
      SortedMap.get?_ofList m.nodup_names (List.mem_flatMap.2 ⟨p, hp, hentry⟩)
  unfold NetworkModel.restore
  dsimp only
  rw [if_neg (by simp), h.check, Attempt.ok_bind, h.held, if_neg (by decide), hcount, hlayers,
    Attempt.ok_bind, if_neg (not_not.2 hlength)]
  rfl

theorem hasShapes_of_restoreLayer {recorded : Variables} {count : Nat} {shapes : List (Nat × Nat)}
    {layers : Network Float} {first : Nat} (hheld : canBeHeld shapes = true)
    (h : (shapes.zipIdx first).mapM (fun (shape, index) =>
      restoreLayer recorded count index shape) = .ok layers) :
    Network.HasShapes shapes layers := by
  induction shapes generalizing first layers with
  | nil =>
    cases h
    exact .nil
  | cons shape rest ih =>
    rw [canBeHeld, List.all_cons, Bool.and_eq_true] at hheld
    rw [List.zipIdx_cons, List.mapM_cons] at h
    obtain ⟨l, hlayer, h⟩ := Attempt.bind_eq_ok h
    obtain ⟨others, hothers, h⟩ := Attempt.bind_eq_ok h
    cases h
    obtain ⟨weights, hweights, hlayer⟩ := Attempt.bind_eq_ok hlayer
    obtain ⟨bias, hbias, hlayer⟩ := Attempt.bind_eq_ok hlayer
    cases hlayer
    exact .cons (Layer.hasShape_of_valuesOf hheld.1 hweights hbias) (ih hheld.2 hothers)

theorem isShaped_restore {d : Description} {recorded : Variables} {m : NetworkModel}
    (h : NetworkModel.restore d recorded = .ok m) : m.IsShaped := by
  unfold NetworkModel.restore at h
  dsimp only at h
  split at h
  · cases h
  obtain ⟨⟨⟩, hcheck, h⟩ := Attempt.bind_eq_ok h
  split at h
  · cases h
  · rename_i hheld
    rw [Bool.not_eq_true', Bool.not_eq_false] at hheld
    obtain ⟨layers, hlayers, h⟩ := Attempt.bind_eq_ok h
    split at h
    · cases h
    · cases h
      exact ⟨hcheck, hheld, hasShapes_of_restoreLayer hheld hlayers⟩

end NetworkModel

/-! ## Either family -/

namespace Model

theorem IsShaped.restore {model : Model} {serving : ServingInputs} {d : Description}
    (h : model.IsShaped) (hd : model.describe serving = .ok d) :
    restore d model.toVariables = .ok model := by
  cases model with
  | linear m =>
    have hrestore := LinearModel.IsShaped.restore h hd
    obtain rfl := Description.of_eq_ok hd
    exact congrArg (Except.map linear) hrestore
  | network m =>
    have hrestore := NetworkModel.IsShaped.restore h hd
    obtain rfl := Description.of_eq_ok hd
    exact congrArg (Except.map network) hrestore

theorem isShaped_restore {d : Description} {recorded : Variables} {model : Model}
    (h : restore d recorded = .ok model) : model.IsShaped := by
  unfold restore at h
  split at h
  · obtain ⟨m, hm, rfl⟩ := Attempt.map_eq_ok h
    exact LinearModel.isShaped_restore hm
  · obtain ⟨m, hm, rfl⟩ := Attempt.map_eq_ok h
    exact NetworkModel.isShaped_restore hm

end Model
end Exemplar
