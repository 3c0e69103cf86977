/-
What a load accepts.

A model is restored by looking up, one by one, the tensors that its description asks for,
and by counting what there is.  All that are asked for have different names, so if none is
missing and there are no more of them, they are exactly those that are asked for, and the
model has their values and no others.
-/
import Exemplar.Proofs.Texts

namespace Exemplar

/-! ## Counting what is found -/

namespace SortedMap

variable {α : Type} {m : SortedMap α} {entries : List (String × α)}

/-- Entries with different names that are all found are all there are if there are no more. -/
theorem Sorted.perm_of_found (h : m.Sorted) (hnames : (entries.map (·.1)).Nodup)
    (hfound : ∀ entry ∈ entries, m.get? entry.1 = some entry.2)
    (hlength : m.length = entries.length) :
    m.Perm entries := by
  have hsub : entries ⊆ m := fun entry hentry => h.get?_eq_some_iff.1 (hfound entry hentry)
  exact ((hnames.of_map _).subperm hsub).perm_of_length_le hlength.le |>.symm

theorem Sorted.ofList_eq_of_found (h : m.Sorted) (hnames : (entries.map (·.1)).Nodup)
    (hfound : ∀ entry ∈ entries, m.get? entry.1 = some entry.2)
    (hlength : m.length = entries.length) :
    ofList entries = m := by
  have hperm := (ofList_perm hnames).trans (h.perm_of_found hnames hfound hlength).symm
  refine hperm.eq_of_pairwise (fun a b _ _ hab hba => ?_) (sorted_ofList entries) h
  exact absurd (hab.trans hba) (lt_irrefl _)

end SortedMap

namespace Variables

variable {recorded : Variables} {name : String} {shape : List Nat} {values : List Float}
variable {expected : List (String × List Nat)}

theorem valuesOf_eq_ok_iff : recorded.valuesOf name shape = .ok values ↔
    recorded.get? name = some ⟨shape, values⟩ ∧ values.length = sizeOf shape := by
  constructor
  · intro h
    refine ⟨?_, length_of_valuesOf h⟩
    unfold valuesOf at h
    split at h
    · cases h
    rename_i found hfound
    split at h
    · cases h
    rename_i hshape
    split at h
    · cases h
    cases h
    rw [hfound, ← not_not.1 hshape]
  · rintro ⟨hfound, hlength⟩
    exact valuesOf_eq hfound hlength

/-- The names and the shapes of all variables. -/
def shapes (recorded : Variables) : List (String × List Nat) :=
  recorded.map fun entry => (entry.1, entry.2.shape)

theorem length_shapes (recorded : Variables) : recorded.shapes.length = recorded.length :=
  List.length_map _

/-- The variables are just those with the given names and shapes if each is found, and no more are
there. -/
theorem shapes_perm_iff (hsorted : recorded.Sorted) (hnames : (expected.map (·.1)).Nodup) :
    recorded.shapes.Perm expected ↔
      (∀ tensor ∈ expected, ∃ values, recorded.get? tensor.1 = some ⟨tensor.2, values⟩) ∧
        recorded.length = expected.length := by
  constructor
  · intro h
    refine ⟨fun tensor htensor => ?_, by rw [← h.length_eq, length_shapes]⟩
    obtain ⟨entry, hentry, rfl⟩ := List.mem_map.1 (h.mem_iff.2 htensor)
    exact ⟨entry.2.values, hsorted.get?_eq_some_iff.2 hentry⟩
  · rintro ⟨hfound, hlength⟩
    have hsub : expected ⊆ recorded.shapes := by
      intro tensor htensor
      obtain ⟨values, hvalues⟩ := hfound tensor htensor
      exact List.mem_map.2 ⟨_, hsorted.get?_eq_some_iff.1 hvalues, rfl⟩
    refine ((hnames.of_map _).subperm hsub).perm_of_length_le ?_ |>.symm
    rw [length_shapes, hlength]

/-- A tensor that can be held has as many values as its shape says. -/
theorem sizeOf_eq_prod (h : shape.prod < twoTo 60) : sizeOf shape = shape.prod := by
  rw [sizeOf, ← List.prod_eq_foldl, Nat.mod_eq_of_lt (lt_trans h (by decide))]

/-- Exactly the expected variables are there, with as many values as their shapes say, if the values
of each are found and no more are there. -/
theorem holds_iff (hsorted : recorded.Sorted) (hnames : (expected.map (·.1)).Nodup)
    (hsize : ∀ tensor ∈ expected, tensor.2.prod < twoTo 60) :
    (recorded.shapes.Perm expected ∧
        ∀ entry ∈ recorded, entry.2.values.length = entry.2.shape.prod) ↔
      (∀ tensor ∈ expected, ∃ values, recorded.valuesOf tensor.1 tensor.2 = .ok values) ∧
        recorded.length = expected.length := by
  rw [shapes_perm_iff hsorted hnames]
  constructor
  · rintro ⟨⟨hfound, hlength⟩, hcounts⟩
    refine ⟨fun tensor htensor => ?_, hlength⟩
    obtain ⟨values, hvalues⟩ := hfound tensor htensor
    refine ⟨values, valuesOf_eq_ok_iff.2 ⟨hvalues, ?_⟩⟩
    rw [sizeOf_eq_prod (hsize tensor htensor)]
    exact hcounts _ (SortedMap.mem_of_get? hvalues)
  · rintro ⟨hfound, hlength⟩
    have hget : ∀ tensor ∈ expected, ∃ values,
        recorded.get? tensor.1 = some ⟨tensor.2, values⟩ ∧ values.length = tensor.2.prod := by
      intro tensor htensor
      obtain ⟨values, hvalues⟩ := hfound tensor htensor
      obtain ⟨hvalues, hcount⟩ := valuesOf_eq_ok_iff.1 hvalues
      exact ⟨values, hvalues, hcount.trans (sizeOf_eq_prod (hsize tensor htensor))⟩
    have hperm := (shapes_perm_iff hsorted hnames).2
      ⟨fun tensor htensor => (hget tensor htensor).imp fun _ h => h.1, hlength⟩
    refine ⟨(shapes_perm_iff hsorted hnames).1 hperm, fun entry hentry => ?_⟩
    -- Every entry is one of the expected, and what is found under its name is the entry.
    obtain ⟨values, hvalues, hcount⟩ :=
      hget _ (hperm.mem_iff.1 (List.mem_map.2 ⟨entry, hentry, rfl⟩))
    rw [hsorted.get?_eq_some_iff.2 hentry, Option.some.injEq] at hvalues
    rw [hvalues]
    exact hcount

/-- Variables are read as a map. -/
theorem sorted_of_ofJson? {document : Json} (h : ofJson? document = some recorded) :
    recorded.Sorted := by
  obtain ⟨fields, -, h⟩ := Option.bind_eq_some_iff.1 h
  split at h
  · obtain ⟨tensors, -, h⟩ := Option.bind_eq_some_iff.1 h
    unfold Json.map? at h
    split at h
    · obtain ⟨entries, -, rfl⟩ := Option.map_eq_some_iff.1 h
      exact SortedMap.sorted_ofList entries
    · cases h
  · cases h

end Variables

/-! ## What a description asks for -/

namespace Description

/-- The sizes of the rows from the width of the layout to the number of logits. -/
def widths (m : Description) : List Nat :=
  Layout.width ⟨m.columns⟩ :: m.hiddenUnits ++ [m.head.logitCount]

/-- The names of the layers of a network. -/
def layerNames (m : Description) : List String :=
  (List.range m.hiddenUnits.length).map (fun index => "dnn/hiddenlayer_" ++ Decimal.natText index)
    ++ ["dnn/logits"]

/-- The names and the shapes of the tensors of a model. -/
def tensors (m : Description) : List (String × List Nat) :=
  match m.architecture with
  | .linear =>
    [("linear/weights", [Layout.width ⟨m.columns⟩, m.head.logitCount]),
      ("linear/bias", [m.head.logitCount])]
  | .network =>
    (m.layerNames.zip (m.widths.zip m.widths.tail)).flatMap fun (name, inputs, outputs) =>
      [(name ++ "/kernel", [inputs, outputs]), (name ++ "/bias", [outputs])]

/-- Neither a tensor nor one of its dimensions is too large for memory. -/
def FitsMemory (m : Description) : Prop :=
  ∀ tensor ∈ m.tensors, tensor.2.prod < twoTo 60 ∧ ∀ n ∈ tensor.2, n < twoTo 60

end Description

/-- What an architecture asks of columns and hidden layers. -/
def Architecture.Allows : Architecture → List InputColumn → List Nat → Prop
  | .linear, _, hiddenUnits => hiddenUnits = []
  | .network, columns, hiddenUnits =>
    (∀ column ∈ columns, ∀ keyed, column ≠ .keyed keyed) ∧ 0 ∉ hiddenUnits

/-- A description and the variables of one model. -/
structure Description.Matches (m : Description) (recorded : Variables) : Prop where
  version : m.formatVersion = 1
  estimator : m.estimator = m.architecture.title ++ m.head.ending
  layers : m.architecture.Allows m.columns m.hiddenUnits
  tensors : recorded.shapes.Perm m.tensors
  values : ∀ entry ∈ recorded, entry.2.values.length = entry.2.shape.prod

theorem Layer.canBeHeld_of_shape {inputs outputs : Nat}
    (hproduct : [inputs, outputs].prod < twoTo 60)
    (hsizes : ∀ n ∈ [inputs, outputs], n < twoTo 60) :
    canBeHeld inputs outputs = true := by
  rw [canBeHeld_iff]
  refine ⟨hsizes _ List.mem_cons_self, hsizes _ (List.mem_cons_of_mem _ List.mem_cons_self), ?_⟩
  simpa using hproduct

theorem Layer.weights_fit {inputs outputs : Nat} (h : canBeHeld inputs outputs = true) :
    [inputs, outputs].prod < twoTo 60 ∧ ∀ n ∈ [inputs, outputs], n < twoTo 60 := by
  obtain ⟨hinputs, houtputs, hproduct⟩ := canBeHeld_iff.1 h
  refine ⟨by simpa using hproduct, List.forall_mem_cons.2 ⟨hinputs, ?_⟩⟩
  exact List.forall_mem_singleton.2 houtputs

theorem Layer.bias_fits {inputs outputs : Nat} (h : canBeHeld inputs outputs = true) :
    [outputs].prod < twoTo 60 ∧ ∀ n ∈ [outputs], n < twoTo 60 := by
  obtain ⟨-, houtputs, -⟩ := canBeHeld_iff.1 h
  exact ⟨by simpa using houtputs, List.forall_mem_singleton.2 houtputs⟩

/-- The weights that a layer is made of, row by row. -/
theorem Layer.weights_ofFlat {α : Type} {inputs outputs : Nat} {weights bias : List α}
    (h : weights.length = inputs * outputs) :
    (ofFlat inputs outputs weights bias).weights = weights := by
  show (rowsOf inputs outputs weights).flatten = weights
  induction inputs generalizing weights with
  | zero =>
    rw [Nat.zero_mul, List.length_eq_zero_iff] at h
    rw [h]
    rfl
  | succ inputs ih =>
    rw [rowsOf, List.flatten_cons, ih, List.take_append_drop]
    rw [List.length_drop, h, Nat.succ_mul, Nat.add_sub_cancel]

/-! ## Linear models -/

namespace LinearModel

variable {m : Description} {recorded : Variables} {model : LinearModel}

theorem canBeHeld_of_fitsMemory (harchitecture : m.architecture = .linear) (h : m.FitsMemory) :
    Layer.canBeHeld (Layout.width ⟨m.columns⟩) m.head.logitCount = true := by
  rw [Description.FitsMemory, Description.tensors, harchitecture] at h
  obtain ⟨hproduct, hsizes⟩ := h _ List.mem_cons_self
  exact Layer.canBeHeld_of_shape hproduct hsizes

theorem fitsMemory_of_canBeHeld (harchitecture : m.architecture = .linear)
    (h : Layer.canBeHeld (Layout.width ⟨m.columns⟩) m.head.logitCount = true) : m.FitsMemory := by
  rw [Description.FitsMemory, Description.tensors, harchitecture]
  exact List.forall_mem_cons.2
    ⟨Layer.weights_fit h, List.forall_mem_singleton.2 (Layer.bias_fits h)⟩

/-- A linear model is restored exactly if there are no hidden layers, and its two variables are all
there are. -/
theorem restore_eq_ok_iff (harchitecture : m.architecture = .linear)
    (hheld : Layer.canBeHeld (Layout.width ⟨m.columns⟩) m.head.logitCount = true) :
    restore m recorded = .ok model ↔ m.hiddenUnits = [] ∧ recorded.length = 2 ∧
      ∃ weights bias,
        recorded.valuesOf weightsName [Layout.width ⟨m.columns⟩, m.head.logitCount] = .ok weights ∧
        recorded.valuesOf biasName [m.head.logitCount] = .ok bias ∧
        model = {
          head := m.head
          layout := ⟨m.columns⟩
          layer := .ofFlat (Layout.width ⟨m.columns⟩) m.head.logitCount weights bias
          steps := m.steps } := by
  constructor
  · intro h
    unfold LinearModel.restore at h
    dsimp only at h
    split at h
    · cases h
    rename_i hlinear
    rw [hheld, Bool.not_true, if_neg Bool.false_ne_true] at h
    obtain ⟨weights, hweights, h⟩ := Attempt.bind_eq_ok h
    obtain ⟨bias, hbias, h⟩ := Attempt.bind_eq_ok h
    split at h
    · cases h
    rename_i hlength
    cases h
    refine ⟨?_, not_not.1 hlength, weights, bias, hweights, hbias, rfl⟩
    simpa [harchitecture] using hlinear
  · rintro ⟨hhidden, hlength, weights, bias, hweights, hbias, rfl⟩
    unfold LinearModel.restore
    dsimp only
    rw [if_neg (by simp [harchitecture, hhidden]), hheld, if_neg (by decide), hweights, hbias,
      Attempt.ok_bind, Attempt.ok_bind, if_neg (not_not.2 hlength)]
    rfl

theorem nodup_tensors (harchitecture : m.architecture = .linear) :
    (m.tensors.map (·.1)).Nodup := by
  rw [Description.tensors, harchitecture]
  show ["linear/weights", "linear/bias"].Nodup
  decide

/-- A linear model that is restored has the recorded variables and no others. -/
theorem toVariables_of_restore (hsorted : recorded.Sorted)
    (harchitecture : m.architecture = .linear)
    (hheld : Layer.canBeHeld (Layout.width ⟨m.columns⟩) m.head.logitCount = true)
    (h : restore m recorded = .ok model) : model.toVariables = recorded := by
  obtain ⟨-, hlength, weights, bias, hweights, hbias, rfl⟩ :=
    (restore_eq_ok_iff harchitecture hheld).1 h
  obtain ⟨hkernel, hcount⟩ := Variables.valuesOf_eq_ok_iff.1 hweights
  rw [toVariables_eq]
  refine hsorted.ofList_eq_of_found (nodup_names _) ?_ hlength
  refine List.forall_mem_cons.2 ⟨?_, List.forall_mem_singleton.2 ?_⟩
  · rw [Layer.weightsVariable, Layer.weights_ofFlat (hcount.trans
      (@Variables.sizeOf_weights (Layout.width ⟨m.columns⟩, m.head.logitCount) hheld))]
    exact hkernel
  · exact (Variables.valuesOf_eq_ok_iff.1 hbias).1

end LinearModel

/-! ## Networks -/

namespace NetworkModel

variable {m : Description} {recorded : Variables} {model : NetworkModel}

/-- The shapes of the layers of the network that is described. -/
def described (m : Description) : List (Nat × Nat) :=
  shapes (Layout.width ⟨m.columns⟩) (sizes m.head m.hiddenUnits)

theorem shapes_eq_zip (inputs : Nat) (sizes : List Nat) :
    shapes inputs sizes = (inputs :: sizes).zip sizes := by
  induction sizes generalizing inputs with
  | nil => rfl
  | cons outputs rest ih => rw [shapes, ih, List.zip_cons_cons]

theorem length_described (m : Description) : (described m).length = m.hiddenUnits.length + 1 := by
  rw [described, shapes_eq_zip, List.length_zip, sizes]
  simp

theorem layerNames_eq (m : Description) :
    m.layerNames = (List.range (m.hiddenUnits.length + 1)).map
      (layerName (m.hiddenUnits.length + 1)) := by
  rw [List.range_succ, List.map_append, Description.layerNames]
  congr 1
  · refine List.map_congr_left fun index hindex => ?_
    have hlt := List.mem_range.1 hindex
    rw [layerName, if_neg (by omega)]
  · rw [List.map_singleton, layerName, if_pos rfl]

theorem zip_range {α β : Type} (f : Nat → α) (xs : List β) :
    ((List.range xs.length).map f).zip xs = xs.zipIdx.map fun (x, index) => (f index, x) := by
  refine List.ext_getElem (by simp) fun index h h' => ?_
  simp

/-- The tensors of a network layer by layer, each under the names by which a restoration looks them
up. -/
theorem tensors_eq (harchitecture : m.architecture = .network) :
    m.tensors = (described m).zipIdx.flatMap fun (shape, index) =>
      [(kernelName (described m).length index, [shape.1, shape.2]),
        (biasName (described m).length index, [shape.2])] := by
  have hzip : m.widths.zip m.widths.tail = described m := (shapes_eq_zip _ _).symm
  rw [Description.tensors, harchitecture]
  dsimp only
  rw [hzip, layerNames_eq, ← length_described, zip_range, List.flatMap_map]
  rfl

theorem nodup_tensors (harchitecture : m.architecture = .network) :
    (m.tensors.map (·.1)).Nodup := by
  have hnames : m.tensors.map (·.1) = (List.range' 0 (described m).length).flatMap fun index =>
      [kernelName (described m).length index, biasName (described m).length index] := by
    rw [tensors_eq harchitecture, ← List.zipIdx_map_snd, List.flatMap_map, List.map_flatMap]
    rfl
  rw [hnames]
  exact nodup_layerNames _ _

theorem length_tensors (harchitecture : m.architecture = .network) :
    m.tensors.length = 2 * (described m).length := by
  rw [tensors_eq harchitecture, List.length_flatMap]
  simp [Nat.mul_comm]

theorem canBeHeld_of_fitsMemory (harchitecture : m.architecture = .network) (h : m.FitsMemory) :
    canBeHeld (described m) = true := by
  refine List.all_eq_true.2 fun shape hshape => ?_
  obtain ⟨index, hindex⟩ := List.mem_iff_getElem?.1 hshape
  obtain ⟨hproduct, hsizes⟩ := h (kernelName (described m).length index, [shape.1, shape.2]) (by
    rw [tensors_eq harchitecture, List.mem_flatMap]
    exact ⟨(shape, index), List.mem_zipIdx_iff_getElem?.2 hindex, List.mem_cons_self⟩)
  exact Layer.canBeHeld_of_shape hproduct hsizes

theorem fitsMemory_of_canBeHeld (harchitecture : m.architecture = .network)
    (h : canBeHeld (described m) = true) : m.FitsMemory := by
  rw [Description.FitsMemory, tensors_eq harchitecture, List.forall_mem_flatMap]
  intro p hp
  have hheld := canBeHeld_of_mem h (List.fst_mem_of_mem_zipIdx hp)
  exact List.forall_mem_cons.2 ⟨Layer.weights_fit hheld,
    List.forall_mem_singleton.2 (Layer.bias_fits hheld)⟩

theorem check_eq_ok_iff {columns : List InputColumn} {hiddenUnits : List Nat} :
    check columns hiddenUnits = .ok () ↔ Architecture.network.Allows columns hiddenUnits := by
  have hdense : Layout.isDense ⟨columns⟩ = true ↔
      ∀ column ∈ columns, ∀ keyed, column ≠ .keyed keyed := by
    rw [Layout.isDense, List.all_eq_true]
    refine forall₂_congr fun column _ => ?_
    cases column <;> simp
  rw [Architecture.Allows, ← hdense, check, fault?, List.contains_eq_mem]
  by_cases hcolumns : Layout.isDense ⟨columns⟩ = true <;> by_cases hzero : 0 ∈ hiddenUnits <;>
    simp [hcolumns, hzero, Attempt.refuse]

/-- A network is restored exactly if a network can be over its columns with its hidden layers, each
layer is restored, and there are no other variables. -/
theorem restore_eq_ok_iff (harchitecture : m.architecture = .network)
    (hheld : canBeHeld (described m) = true) :
    restore m recorded = .ok model ↔
      Architecture.network.Allows m.columns m.hiddenUnits ∧
      recorded.length = 2 * (described m).length ∧
      ∃ layers, (described m).zipIdx.mapM (fun (shape, index) =>
          restoreLayer recorded (described m).length index shape) = .ok layers ∧
        model = {
          head := m.head
          layout := ⟨m.columns⟩
          hiddenUnits := m.hiddenUnits
          layers
          steps := m.steps } := by
  constructor
  · intro h
    unfold NetworkModel.restore at h
    dsimp only at h
    split at h
    · cases h
    obtain ⟨⟨⟩, hcheck, h⟩ := Attempt.bind_eq_ok h
    split at h
    · cases h
    obtain ⟨layers, hlayers, h⟩ := Attempt.bind_eq_ok h
    split at h
    · cases h
    rename_i hlength
    cases h
    exact ⟨check_eq_ok_iff.1 hcheck, not_not.1 hlength, layers, hlayers, rfl⟩
  · rintro ⟨hallowed, hlength, layers, hlayers, rfl⟩
    rw [described] at hlength hlayers hheld
    unfold NetworkModel.restore
    dsimp only
    rw [if_neg (by simp [harchitecture]), check_eq_ok_iff.2 hallowed, Attempt.ok_bind, hheld,
      if_neg (by decide), hlayers, Attempt.ok_bind, if_neg (not_not.2 hlength)]
    rfl

theorem restoreLayer_eq_ok_iff {count index : Nat} {shape : Nat × Nat} {layer : Layer Float} :
    restoreLayer recorded count index shape = .ok layer ↔ ∃ weights bias,
      recorded.valuesOf (kernelName count index) [shape.1, shape.2] = .ok weights ∧
      recorded.valuesOf (biasName count index) [shape.2] = .ok bias ∧
      layer = .ofFlat shape.1 shape.2 weights bias := by
  constructor
  · intro h
    obtain ⟨weights, hweights, h⟩ := Attempt.bind_eq_ok h
    obtain ⟨bias, hbias, h⟩ := Attempt.bind_eq_ok h
    exact ⟨weights, bias, hweights, hbias, (Except.ok.inj h).symm⟩
  · rintro ⟨weights, bias, hweights, hbias, rfl⟩
    rw [restoreLayer, hweights, hbias]
    rfl

/-- All layers are restored exactly if the values of all tensors are found. -/
theorem exists_layers_iff (harchitecture : m.architecture = .network) :
    (∃ layers, (described m).zipIdx.mapM (fun (shape, index) =>
        restoreLayer recorded (described m).length index shape) = .ok layers) ↔
      ∀ tensor ∈ m.tensors, ∃ values, recorded.valuesOf tensor.1 tensor.2 = .ok values := by
  rw [exists_mapM_iff, tensors_eq harchitecture, List.forall_mem_flatMap]
  refine forall₂_congr fun p _ => ?_
  simp only [restoreLayer_eq_ok_iff]
  constructor
  · rintro ⟨layer, weights, bias, hweights, hbias, -⟩
    exact List.forall_mem_cons.2 ⟨⟨weights, hweights⟩, List.forall_mem_singleton.2 ⟨bias, hbias⟩⟩
  · intro h
    obtain ⟨⟨weights, hweights⟩, hbias⟩ := List.forall_mem_cons.1 h
    obtain ⟨bias, hbias⟩ := List.forall_mem_singleton.1 hbias
    exact ⟨_, weights, bias, hweights, hbias, rfl⟩

/-- What is restored of a layer is recorded under the layer's names. -/
theorem found_of_restoreLayer {count index : Nat} {shape : Nat × Nat} {layer : Layer Float}
    (hheld : Layer.canBeHeld shape.1 shape.2 = true)
    (h : restoreLayer recorded count index shape = .ok layer) :
    ∀ entry ∈ layerVariables count layer index, recorded.get? entry.1 = some entry.2 := by
  obtain ⟨weights, bias, hweights, hbias, rfl⟩ := restoreLayer_eq_ok_iff.1 h
  have hshape := Layer.hasShape_of_valuesOf hheld hweights hbias
  obtain ⟨hkernel, hcount⟩ := Variables.valuesOf_eq_ok_iff.1 hweights
  rw [layerVariables, hshape.inputs, hshape.outputs, Layer.weights_ofFlat
    (hcount.trans (Variables.sizeOf_weights hheld))]
  exact List.forall_mem_cons.2 ⟨hkernel,
    List.forall_mem_singleton.2 (Variables.valuesOf_eq_ok_iff.1 hbias).1⟩

/-- A network that is restored has the recorded variables and no others. -/
theorem toVariables_of_restore (hsorted : recorded.Sorted)
    (harchitecture : m.architecture = .network)
    (hheld : canBeHeld (described m) = true) (h : restore m recorded = .ok model) :
    model.toVariables = recorded := by
  obtain ⟨-, hlength, layers, hlayers, rfl⟩ := (restore_eq_ok_iff harchitecture hheld).1 h
  have hcount : layers.length = (described m).length :=
    (length_of_mapM hlayers).trans List.length_zipIdx
  rw [toVariables_eq]
  refine hsorted.ofList_eq_of_found (nodup_names _) (fun entry hentry => ?_)
    (by rw [length_entries, hlength]; exact congrArg (2 * ·) hcount.symm)
  obtain ⟨⟨layer, index⟩, hmem, hentry⟩ := List.mem_flatMap.1 hentry
  -- The layer comes from the shape that is described under the same number.
  have hlayer := List.mem_zipIdx_iff_getElem?.1 hmem
  dsimp only at hlayer hentry
  rw [getElem?_of_mapM hlayers] at hlayer
  obtain ⟨⟨shape, number⟩, hshape, hrestored⟩ := Option.bind_eq_some_iff.1 hlayer
  rw [List.getElem?_zipIdx, Option.map_eq_some_iff] at hshape
  obtain ⟨found, hfound, heq⟩ := hshape
  cases heq
  have hrestore : restoreLayer recorded (described m).length index shape = .ok layer := by
    cases hresult : restoreLayer recorded (described m).length index shape <;>
      simp_all [Except.toOption]
  refine found_of_restoreLayer (List.all_eq_true.1 hheld _ (List.mem_of_getElem? hfound)) hrestore
    entry ?_
  rw [← hcount]
  exact hentry

end NetworkModel

/-! ## Either family -/

namespace Model

variable {m : Description} {recorded : Variables} {model : Model}

theorem nodup_tensors (m : Description) : (m.tensors.map (·.1)).Nodup := by
  cases harchitecture : m.architecture with
  | linear => exact LinearModel.nodup_tensors harchitecture
  | network => exact NetworkModel.nodup_tensors harchitecture

/-- A model is restored exactly if its architecture allows what is described, and its tensors are
found and are all there are. -/
theorem exists_restore_iff (hmemory : m.FitsMemory) :
    (∃ model, restore m recorded = .ok model) ↔ m.architecture.Allows m.columns m.hiddenUnits ∧
      (∀ tensor ∈ m.tensors, ∃ values, recorded.valuesOf tensor.1 tensor.2 = .ok values) ∧
        recorded.length = m.tensors.length := by
  cases harchitecture : m.architecture with
  | linear =>
    have hheld := LinearModel.canBeHeld_of_fitsMemory harchitecture hmemory
    have hrestore : restore m recorded = (LinearModel.restore m recorded).map linear := by
      rw [restore, harchitecture]
    have htensors : m.tensors = [("linear/weights", [Layout.width ⟨m.columns⟩, m.head.logitCount]),
        ("linear/bias", [m.head.logitCount])] := by rw [Description.tensors, harchitecture]
    rw [hrestore, htensors]
    constructor
    · rintro ⟨model, h⟩
      obtain ⟨restored, hrestored, rfl⟩ := Attempt.map_eq_ok h
      obtain ⟨hhidden, hlength, weights, bias, hweights, hbias, -⟩ :=
        (LinearModel.restore_eq_ok_iff harchitecture hheld).1 hrestored
      exact ⟨hhidden, List.forall_mem_cons.2 ⟨⟨weights, hweights⟩,
        List.forall_mem_singleton.2 ⟨bias, hbias⟩⟩, hlength⟩
    · rintro ⟨hhidden, hfound, hlength⟩
      obtain ⟨⟨weights, hweights⟩, hfound⟩ := List.forall_mem_cons.1 hfound
      obtain ⟨bias, hbias⟩ := List.forall_mem_singleton.1 hfound
      refine ⟨linear _, congrArg (Except.map linear)
        ((LinearModel.restore_eq_ok_iff harchitecture hheld).2
          ⟨hhidden, hlength, weights, bias, hweights, hbias, rfl⟩)⟩
  | network =>
    have hheld := NetworkModel.canBeHeld_of_fitsMemory harchitecture hmemory
    have hrestore : restore m recorded = (NetworkModel.restore m recorded).map network := by
      rw [restore, harchitecture]
    rw [hrestore, NetworkModel.length_tensors harchitecture,
      ← NetworkModel.exists_layers_iff harchitecture]
    constructor
    · rintro ⟨model, h⟩
      obtain ⟨restored, hrestored, rfl⟩ := Attempt.map_eq_ok h
      obtain ⟨hallowed, hlength, layers, hlayers, -⟩ :=
        (NetworkModel.restore_eq_ok_iff harchitecture hheld).1 hrestored
      exact ⟨hallowed, ⟨layers, hlayers⟩, hlength⟩
    · rintro ⟨hallowed, ⟨layers, hlayers⟩, hlength⟩
      exact ⟨network _, congrArg (Except.map network)
        ((NetworkModel.restore_eq_ok_iff harchitecture hheld).2
          ⟨hallowed, hlength, layers, hlayers, rfl⟩)⟩

/-- The description of a model is no larger than the model. -/
theorem IsShaped.fitsMemory {serving : ServingInputs} (h : model.IsShaped)
    (hd : model.describe serving = .ok m) : m.FitsMemory := by
  cases model with
  | linear model =>
    obtain rfl := Description.of_eq_ok hd
    exact LinearModel.fitsMemory_of_canBeHeld rfl (LinearModel.IsShaped.held h)
  | network model =>
    obtain rfl := Description.of_eq_ok hd
    exact NetworkModel.fitsMemory_of_canBeHeld rfl (NetworkModel.IsShaped.held h)

/-- What is restored is what is described, with the values that are recorded. -/
structure Restores (m : Description) (recorded : Variables) (model : Model) : Prop where
  name : model.name = m.architecture.title ++ m.head.ending
  head : model.head = m.head
  columns : model.layout.columns = m.columns
  hiddenUnits : model.hiddenUnits = m.hiddenUnits
  steps : model.steps = m.steps
  values : model.toVariables = recorded

theorem restores_of_restore (hsorted : recorded.Sorted) (hmemory : m.FitsMemory)
    (h : restore m recorded = .ok model) : Restores m recorded model := by
  cases harchitecture : m.architecture with
  | linear =>
    have hheld := LinearModel.canBeHeld_of_fitsMemory harchitecture hmemory
    rw [restore, harchitecture] at h
    obtain ⟨restored, hrestored, rfl⟩ := Attempt.map_eq_ok h
    have hvariables := LinearModel.toVariables_of_restore hsorted harchitecture hheld hrestored
    obtain ⟨hhidden, -, weights, bias, -, -, rfl⟩ :=
      (LinearModel.restore_eq_ok_iff harchitecture hheld).1 hrestored
    exact ⟨by rw [harchitecture]; rfl, rfl, rfl, hhidden.symm, rfl, hvariables⟩
  | network =>
    have hheld := NetworkModel.canBeHeld_of_fitsMemory harchitecture hmemory
    rw [restore, harchitecture] at h
    obtain ⟨restored, hrestored, rfl⟩ := Attempt.map_eq_ok h
    have hvariables := NetworkModel.toVariables_of_restore hsorted harchitecture hheld hrestored
    obtain ⟨-, -, layers, -, rfl⟩ :=
      (NetworkModel.restore_eq_ok_iff harchitecture hheld).1 hrestored
    exact ⟨by rw [harchitecture]; rfl, rfl, rfl, rfl, rfl, hvariables⟩

/-- A description and variables that fit into memory are loaded exactly if they match, and then the
model has what is described and the values that are recorded. -/
theorem load_accepts_iff {d : Disk} {directory : Path}
    (hdescription : d.Documents (Artifact.descriptionPath directory) Description.ofJson? m)
    (hrecorded : d.Documents (Artifact.variablesPath directory) Variables.ofJson? recorded)
    (hmemory : m.FitsMemory) :
    ((∃ model, Work.told d (load directory) = .ok model) ↔ m.Matches recorded) ∧
      ∀ model, Work.told d (load directory) = .ok model → Restores m recorded model := by
  have hsorted : recorded.Sorted := by
    obtain ⟨-, -, document, -, -, -, h⟩ := hrecorded
    exact Variables.sorted_of_ofJson? h
  have hload (model : Model) : Work.told d (load directory) = .ok model ↔
      m.formatVersion = Description.currentVersion ∧ restore m recorded = .ok model ∧
        model.name = m.estimator := by
    rw [told_load_eq_ok_iff]
    constructor
    · rintro ⟨m', recorded', hdescription', hrecorded', h⟩
      obtain rfl := hdescription.unique hdescription'
      obtain rfl := hrecorded.unique hrecorded'
      exact h
    · exact fun h => ⟨m, recorded, hdescription, hrecorded, h⟩
  have hholds := Variables.holds_iff hsorted (nodup_tensors m) fun tensor htensor =>
    (hmemory tensor htensor).1
  refine ⟨?_, fun model h => restores_of_restore hsorted hmemory ((hload model).1 h).2.1⟩
  constructor
  · rintro ⟨model, h⟩
    obtain ⟨hversion, hrestore, hname⟩ := (hload model).1 h
    obtain ⟨hallowed, hfound⟩ := (exists_restore_iff hmemory).1 ⟨model, hrestore⟩
    obtain ⟨htensors, hvalues⟩ := hholds.2 hfound
    exact ⟨hversion, hname.symm.trans (restores_of_restore hsorted hmemory hrestore).name, hallowed,
      htensors, hvalues⟩
  · rintro ⟨hversion, hestimator, hallowed, htensors, hvalues⟩
    obtain ⟨model, hrestore⟩ := (exists_restore_iff hmemory).2
      ⟨hallowed, hholds.1 ⟨htensors, hvalues⟩⟩
    have hname := (restores_of_restore hsorted hmemory hrestore).name
    exact ⟨model, (hload model).2 ⟨hversion, hrestore, hname.trans hestimator.symm⟩⟩

/-- The artifact of the smallest fixture matches, and is loaded. -/
theorem load_accepts_once : ∃ d m recorded model,
    d.Documents (Artifact.descriptionPath (Store.plainStore.artifactPath "A"))
      Description.ofJson? m ∧
    d.Documents (Artifact.variablesPath (Store.plainStore.artifactPath "A"))
      Variables.ofJson? recorded ∧
    m.FitsMemory ∧ m.Matches recorded ∧
    Work.told d (load (Store.plainStore.artifactPath "A")) = .ok model ∧
      Restores m recorded model := by
  have hshaped := Fixture.smallest_isShaped
  have hfinite := Fixture.smallest_isFinite
  obtain ⟨d, hhome, hcomplete⟩ := Fixture.smallest_complete
  rw [← hhome] at hcomplete
  obtain ⟨m, hdescribe, -, hrecords⟩ := hcomplete.records (by decide)
  have hdescription := hrecords.description_documents (hshaped.isWord_description hdescribe)
  have hrecorded := hrecords.variables_documents hshaped.isWord_variables hfinite.toVariables
  have hload := congrArg Prod.fst (hshaped.load_of_isFinite hdescribe hrecords hfinite)
  have hmemory : m.FitsMemory := by
    obtain rfl := Description.of_eq_ok hdescribe
    show ∀ tensor ∈ [("linear/weights", [1, 1]), ("linear/bias", [1])], _
    decide
  obtain ⟨hmatches, hrestores⟩ := load_accepts_iff hdescription hrecorded hmemory
  exact ⟨d, m, _, _, hdescription, hrecorded, hmemory, hmatches.1 ⟨_, hload⟩, hload,
    hrestores _ hload⟩

end Model

end Exemplar
