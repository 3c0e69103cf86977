/-
What is true of a model however it came to be and however it was trained.

Its layers have the sizes that its columns, its hidden layers and its head ask
for.  So nothing that it looks up is out of range, and none of its operations
crashes.  Its exports count the steps that it started from and all that it was
trained for.
-/
import Exemplar.Proofs.Indexing
import Exemplar.Proofs.Reloading

namespace Exemplar

open Exemplar.Action Disk

/-! ## Without a crash -/

namespace Attempt

variable {α β : Type} {attempt : Attempt α} {next : α → Attempt β}

theorem ofData_ne_crash (result : Except DataError α) : ofData result ≠ .error .crash := by
  cases result with
  | error error => exact fun h => by cases h
  | ok value => exact fun h => by cases h

theorem bind_ne_crash (h : attempt ≠ .error .crash)
    (hnext : ∀ a, attempt = .ok a → next a ≠ .error .crash) :
    attempt >>= next ≠ .error .crash := by
  cases attempt with
  | error failure => exact fun hcrash => h (congrArg _ (Except.error.inj hcrash))
  | ok a => exact hnext a rfl

theorem map_ne_crash {f : α → β} (h : attempt ≠ .error .crash) :
    attempt.map f ≠ .error .crash := by
  cases attempt with
  | error failure => exact fun hcrash => h (congrArg _ (Except.error.inj hcrash))
  | ok a => exact fun hcrash => by cases hcrash

theorem mapM_ne_crash {f : α → Attempt β} {xs : List α} (h : ∀ x ∈ xs, f x ≠ .error .crash) :
    xs.mapM f ≠ .error .crash := by
  induction xs with
  | nil => exact fun hcrash => by cases hcrash
  | cons x xs ih =>
    rw [List.mapM_cons]
    refine bind_ne_crash (h x List.mem_cons_self) fun y _ => ?_
    refine bind_ne_crash (ih fun x' hx' => h x' (List.mem_cons_of_mem _ hx')) fun ys _ => ?_
    exact fun hcrash => by cases hcrash

end Attempt

theorem Head.targets_ne_crash (head : Head) (label : Column) :
    head.targets label ≠ .error .crash := by
  have hclasses (count : Int64) (cells : List Int64) :
      cells.mapM (classTarget count) ≠ .error .crash := by
    refine Attempt.mapM_ne_crash fun cell _ => ?_
    unfold classTarget
    split
    · exact fun h => by cases h
    · exact fun h => by cases h
  cases head with
  | regression => cases label <;> exact fun h => by cases h
  | binary =>
    cases label with
    | ints cells => exact hclasses _ cells
    | floats cells => exact fun h => by cases h
    | texts cells => exact fun h => by cases h
  | multiClass n =>
    cases label with
    | ints cells => exact hclasses _ cells
    | floats cells => exact fun h => by cases h
    | texts cells => exact fun h => by cases h

namespace Model

variable {model : Model} {inputs : TrainingInputs}

theorem rows_ne_crash (model : Model) (inputs : TrainingInputs) :
    model.rows inputs ≠ .error .crash :=
  Attempt.bind_ne_crash (Attempt.ofData_ne_crash _) fun _ _ => Attempt.ofData_ne_crash _

theorem examples_ne_crash (model : Model) (inputs : TrainingInputs) :
    model.examples inputs ≠ .error .crash := by
  unfold Model.examples
  refine Attempt.bind_ne_crash (Attempt.ofData_ne_crash _) fun batch _ => ?_
  refine Attempt.bind_ne_crash (Attempt.ofData_ne_crash _) fun rows _ => ?_
  refine Attempt.bind_ne_crash (model.head.targets_ne_crash _) fun targets _ => ?_
  split
  · exact fun h => by cases h
  · exact fun h => by cases h

theorem IsShaped.predict_ne_crash (h : model.IsShaped) (inputs : TrainingInputs) :
    model.predict inputs ≠ .error .crash := by
  rw [predict_eq]
  refine Attempt.bind_ne_crash (rows_ne_crash model inputs) fun rows hrows => ?_
  refine Attempt.mapM_ne_crash fun row hrow => ?_
  obtain ⟨value, hvalue, -⟩ := Head.predict_eq_ok (h.length_logits hrows row hrow)
  exact fun hcrash => by cases hvalue.symm.trans hcrash

theorem IsShaped.probabilities_ne_crash (h : model.IsShaped) (inputs : TrainingInputs) :
    model.probabilities inputs ≠ .error .crash := by
  rw [probabilities_eq]
  split
  swap
  · exact fun hcrash => by cases hcrash
  refine Attempt.bind_ne_crash (rows_ne_crash model inputs) fun rows hrows => ?_
  refine Attempt.mapM_ne_crash fun row hrow => ?_
  obtain ⟨ps, hps, -⟩ := Head.probabilities_eq_ok (h.length_logits hrows row hrow)
  have hdistribution : model.distribution row = .ok (ps.getD []) := by
    unfold distribution
    rw [hps]
    rfl
  exact fun hcrash => by cases hdistribution.symm.trans hcrash

/-- What training is refused for is refused before it starts. -/
theorem fit_eq_error (steps : UInt64) {failure : Failure}
    (h : model.examples inputs = .error failure) : model.fit inputs steps = .error failure := by
  cases model with
  | linear m =>
    have h : m.examples inputs = .error failure := h
    dsimp only [Model.fit]
    unfold LinearModel.fit
    rw [h]
    rfl
  | network m =>
    dsimp only [Model.fit]
    unfold NetworkModel.fit
    rw [networkExamples_eq, h]
    rfl

theorem IsShaped.fit_ne_crash (h : model.IsShaped) (hhead : model.head.IsTrainable)
    (inputs : TrainingInputs) (steps : UInt64) : model.fit inputs steps ≠ .error .crash := by
  cases hexamples : model.examples inputs with
  | error failure =>
    rw [fit_eq_error steps hexamples]
    intro hcrash
    cases hcrash
    exact examples_ne_crash model inputs hexamples
  | ok examples =>
    obtain ⟨fitted, hfit⟩ :=
      h.exists_fit hexamples (fun e he => (mem_examples hexamples he).2 hhead) steps
    rw [hfit]
    exact fun hcrash => by cases hcrash

end Model

/-- Whatever the system replies, an artifact is written without a crash. -/
theorem Artifact.holds_write_ne_crash (R : System) (base : Path) (description : Description)
    (recorded : Variables) (d : Disk) :
    Holds R (fun _ => True) (Artifact.write base description recorded).run d fun result _ =>
      result ≠ .error .crash := by
  have hfile (activity : Activity) (program : Action (Except FileError Unit)) (d : Disk) :
      Holds R (fun _ => True) (Work.within activity (Work.ofFile program)).run d
        fun result _ => result ≠ .error .crash := by
    refine Work.holds_within (Work.holds_ofFile ((holds_true program d).mono (fun _ h => h) ?_))
    rintro (error | value) d' -
    · exact fun h => by cases h
    · exact fun h => by cases h
  unfold Artifact.write
  refine Work.holds_bind (Work.holds_ofAction
    ((holds_true (.request .clock) d).mono (fun _ h => h) fun seconds d₁ _ => ?_))
  dsimp only
  generalize base.entry (Decimal.natText seconds) = directory
  refine Work.holds_bind (Work.holds_ofAction
    ((holds_true (Files.pathExists directory) d₁).mono (fun _ h => h) fun found d₂ _ => ?_))
  dsimp only
  split
  · exact Work.holds_throw fun h => by cases h
  refine Work.holds_bind ((hfile (.creating (directory.entry variablesFolder)) _ d₂).mono
    (fun _ h => h) ?_)
  rintro (failure | value) d₃ h
  · exact fun hcrash => h (congrArg _ (Except.error.inj hcrash))
  refine Work.holds_bind ((hfile (.writing descriptionFile) _ d₃).mono (fun _ h => h) ?_)
  rintro (failure | value) d₄ h
  · exact fun hcrash => h (congrArg _ (Except.error.inj hcrash))
  refine Work.holds_bind ((hfile (.writing variablesFile) _ d₄).mono (fun _ h => h) ?_)
  rintro (failure | value) d₅ h
  · exact fun hcrash => h (congrArg _ (Except.error.inj hcrash))
  exact Work.holds_pure fun h => by cases h

theorem Model.holds_exportTo_ne_crash (R : System) (model : Model) (base : Path)
    (serving : ServingInputs) (d : Disk) :
    Holds R (fun _ => True) (model.exportTo base serving).run d fun result _ =>
      result ≠ .error .crash := by
  rw [exportTo_eq]
  refine Work.holds_bind (Work.holds_ofAttempt ?_)
  cases model.describe serving with
  | error error => exact fun h => by cases h
  | ok description => exact Artifact.holds_write_ne_crash ..

/-! ## Sizes -/

theorem Network.sizes_of_shapes {network : Network Float} {inputs last : Nat}
    {hiddenUnits : List Nat}
    (h : HasShapes (NetworkModel.shapes inputs (hiddenUnits ++ [last])) network) :
    network.length = hiddenUnits.length + 1 ∧
      ∀ (i : Nat) (layer : Layer Float), network[i]? = some layer →
        ∃ shape : Nat × Nat, (inputs :: hiddenUnits)[i]? = some shape.1 ∧
          (hiddenUnits ++ [last])[i]? = some shape.2 ∧ layer.HasShape shape := by
  induction hiddenUnits generalizing inputs network with
  | nil =>
    cases h with
    | @cons _ first _ rest hfirst hrest =>
      cases hrest
      refine ⟨rfl, fun i layer hlayer => ?_⟩
      cases i with
      | zero =>
        cases hlayer
        exact ⟨_, rfl, rfl, hfirst⟩
      | succ i => cases hlayer
  | cons size hiddenUnits ih =>
    cases h with
    | @cons _ first _ rest hfirst hrest =>
      obtain ⟨hlength, hlayers⟩ := ih hrest
      refine ⟨congrArg (· + 1) hlength, fun i layer hlayer => ?_⟩
      cases i with
      | zero =>
        cases hlayer
        exact ⟨_, rfl, rfl, hfirst⟩
      | succ i => exact hlayers i layer hlayer

namespace Model

variable {model start : Model} {initial total : Nat}

def hiddenUnits : Model → List Nat
  | linear _ => []
  | network m => m.hiddenUnits

/-- Every layer takes what the one before gives, the first one the width of the layout, and the last
one gives the logits; it has a weight for each input and output, and a bias for each output. -/
def IsSized (model : Model) : Prop :=
  model.flat.length = model.hiddenUnits.length + 1 ∧
    ∀ (i : Nat) (layer : FlatLayer Float), model.flat[i]? = some layer →
      (model.layout.width :: model.hiddenUnits)[i]? = some layer.inputs ∧
        (model.hiddenUnits ++ [model.head.logitCount])[i]? = some layer.outputs ∧
        layer.weights.length = layer.inputs * layer.outputs ∧ layer.bias.length = layer.outputs

theorem IsShaped.isSized (h : model.IsShaped) : model.IsSized := by
  cases model with
  | linear m =>
    have hlayer := LinearModel.IsShaped.layer h
    refine ⟨rfl, fun i layer hfound => ?_⟩
    cases i with
    | zero =>
      cases hfound
      rw [hlayer.flat_eq]
      exact ⟨rfl, rfl, hlayer.length_weights, hlayer.bias⟩
    | succ i => cases hfound
  | network m =>
    obtain ⟨hlength, hlayers⟩ := Network.sizes_of_shapes (NetworkModel.IsShaped.layers h)
    refine ⟨(List.length_map _).trans hlength, fun i flat hflat => ?_⟩
    have hfound : (m.layers.map Layer.flat)[i]? = some flat := hflat
    rw [List.getElem?_map, Option.map_eq_some_iff] at hfound
    obtain ⟨layer, hfound, rfl⟩ := hfound
    obtain ⟨shape, hinputs, houtputs, hshape⟩ := hlayers i layer hfound
    rw [hshape.flat_eq]
    exact ⟨hinputs, houtputs, hshape.length_weights, hshape.bias⟩

/-- An export holds as many values of each variable as its shape says. -/
theorem IsShaped.length_values (h : model.IsShaped) : ∀ entry ∈ model.toVariables,
    entry.2.values.length = Variables.sizeOf entry.2.shape := by
  have hlayer {shape : Nat × Nat} {layer : Layer Float} (hheld : Layer.canBeHeld shape.1 shape.2)
      (hshape : layer.HasShape shape) :
      layer.weights.length = Variables.sizeOf [shape.1, shape.2] ∧
        layer.bias.length = Variables.sizeOf [shape.2] :=
    ⟨hshape.length_weights.trans (Variables.sizeOf_weights hheld).symm,
      hshape.bias.trans (Variables.sizeOf_bias hheld).symm⟩
  intro entry hentry
  cases model with
  | linear m =>
    have hentry : entry ∈ m.entries := SortedMap.mem_of_mem_ofList hentry
    have hboth := hlayer (LinearModel.IsShaped.held h) (LinearModel.IsShaped.layer h)
    rcases List.mem_pair.1 hentry with rfl | rfl
    · exact hboth.1
    · exact hboth.2
  | network m =>
    have hentry : entry ∈ m.entries := SortedMap.mem_of_mem_ofList hentry
    obtain ⟨⟨layer, index⟩, hmem, hentry⟩ := List.mem_flatMap.1 hentry
    obtain ⟨shape, hshape, hl⟩ :=
      (NetworkModel.IsShaped.layers h).of_mem (List.fst_mem_of_mem_zipIdx hmem)
    have hboth :=
      hlayer (NetworkModel.canBeHeld_of_mem (NetworkModel.IsShaped.held h) hshape) hl
    rw [← hl.inputs, ← hl.outputs] at hboth
    rcases List.mem_pair.1 hentry with rfl | rfl
    · exact hboth.1
    · exact hboth.2

/-! ## Steps -/

def steps : Model → UInt64
  | linear m => m.steps
  | network m => m.steps

/-- The number of steps that the artifact in a directory records. -/
def recordedSteps (d : Disk) (directory : Path) : Nat :=
  match (d.run (Artifact.readDescription directory).run).1 with
  | .ok description => description.steps.toNat
  | .error _ => 0

/-- The ways in which models come to be, each with the number of steps that it starts from. -/
inductive Starts : Model → Nat → Prop
  | linear {head : Head} {columns : List InputColumn} {m : LinearModel} :
      LinearModel.new head columns = .ok m → Starts (.linear m) 0
  | network {head : Head} {columns : List InputColumn} {hiddenUnits : List Nat} {seed : Int64}
      {m : NetworkModel} :
      NetworkModel.new head columns hiddenUnits seed = .ok m → Starts (.network m) 0
  | built {architecture : Architecture} {task : Task} {encodings : List Encoding}
      {hiddenUnits : List Nat} {seed : Int64} {model : Model} :
      build architecture task encodings hiddenUnits seed = .ok model → Starts model 0
  | loaded {d : Disk} {directory : Path} {model : Model} :
      (d.run (load directory).run).1 = .ok model → Starts model (recordedSteps d directory)

/-- What training makes of a model, with the sum of the numbers of steps. -/
inductive TrainedFor (start : Model) : Nat → Model → Prop
  | refl : TrainedFor start 0 start
  | fit {total : Nat} {model fitted : Model} {inputs : TrainingInputs} {steps : UInt64} :
      TrainedFor start total model → model.fit inputs steps = .ok fitted →
        TrainedFor start (total + steps.toNat) fitted

theorem Starts.reached (h : Starts model initial) : model.Reached := by
  cases h with
  | linear h => exact .linear h
  | network h => exact .network h
  | built h => exact .built h
  | loaded h => exact .loaded h

theorem TrainedFor.isShaped (h : TrainedFor start total model) (hstart : start.IsShaped) :
    model.IsShaped := by
  induction h with
  | refl => exact hstart
  | fit _ hfit ih => exact ih.fit hfit

theorem steps_of_restore {d : Description} {recorded : Variables}
    (h : restore d recorded = .ok model) : model.steps = d.steps := by
  unfold restore at h
  split at h
  · obtain ⟨m, hm, rfl⟩ := Attempt.map_eq_ok h
    unfold LinearModel.restore at hm
    dsimp only at hm
    split at hm
    · cases hm
    split at hm
    · cases hm
    obtain ⟨weights, -, hm⟩ := Attempt.bind_eq_ok hm
    obtain ⟨bias, -, hm⟩ := Attempt.bind_eq_ok hm
    split at hm
    · cases hm
    · cases hm
      rfl
  · obtain ⟨m, hm, rfl⟩ := Attempt.map_eq_ok h
    unfold NetworkModel.restore at hm
    dsimp only at hm
    split at hm
    · cases hm
    obtain ⟨⟨⟩, -, hm⟩ := Attempt.bind_eq_ok hm
    split at hm
    · cases hm
    obtain ⟨layers, -, hm⟩ := Attempt.bind_eq_ok hm
    split at hm
    · cases hm
    · cases hm
      rfl

/-- A model is loaded with the steps that were recorded. -/
theorem steps_of_load {d : Disk} {directory : Path}
    (h : (d.run (load directory).run).1 = .ok model) :
    model.steps.toNat = recordedSteps d directory := by
  have hload : Holds Answered (fun _ => True) (load directory).run d fun result _ =>
      ∀ model, result = .ok model → model.steps.toNat = recordedSteps d directory := by
    refine Work.holds_bind ((holds_ends _ d).mono (fun _ h => h) ?_)
    intro result d₁ hread
    have hrun := run_of_ends hread
    cases result with
    | error failure => exact fun _ hok => by cases hok
    | ok description =>
      have hrecorded : recordedSteps d directory = description.steps.toNat := by
        unfold recordedSteps
        rw [hrun]
      dsimp only
      split
      · exact fun _ hok => by cases hok
      refine Work.holds_bind ((holds_true (Artifact.readVariables directory).run d₁).mono
        (fun _ h => h) ?_)
      rintro (failure | recorded) d₂ -
      · exact fun _ hok => by cases hok
      refine Work.holds_bind (Work.holds_ofAttempt ?_)
      cases hrestore : restore description recorded with
      | error failure => exact fun _ hok => by cases hok
      | ok model =>
        dsimp only
        split
        · exact fun _ hok => by cases hok
        · refine Work.holds_pure fun model' hok => ?_
          cases hok
          rw [hrecorded, steps_of_restore hrestore]
  exact answered_holds hload model h

theorem steps_of_fit {inputs : TrainingInputs} {fitted : Model} {steps : UInt64}
    (h : model.fit inputs steps = .ok fitted) : fitted.steps = model.steps + steps := by
  cases model with
  | linear m =>
    obtain ⟨m', hm, rfl⟩ := Attempt.map_eq_ok h
    obtain ⟨examples, -, rfl⟩ := linearFit_eq_ok hm
    rfl
  | network m =>
    obtain ⟨m', hm, rfl⟩ := Attempt.map_eq_ok h
    obtain ⟨examples, -, rfl⟩ := networkFit_eq_ok hm
    rfl

/-- The steps that are counted, as far as a word can count. -/
theorem TrainedFor.steps (h : TrainedFor start total model) :
    model.steps.toNat = (start.steps.toNat + total) % twoTo 64 := by
  induction h with
  | refl => exact (Nat.mod_eq_of_lt start.steps.toNat_lt).symm
  | fit _ hfit ih =>
    rw [steps_of_fit hfit, UInt64.toNat_add, ih, ← Nat.add_assoc]
    exact Nat.mod_add_mod ..

theorem linearSteps_of_new {head : Head} {columns : List InputColumn} {m : LinearModel}
    (h : LinearModel.new head columns = .ok m) : m.steps = 0 := by
  unfold LinearModel.new at h
  dsimp only at h
  split at h
  · cases h
    rfl
  · cases h

theorem networkSteps_of_new {head : Head} {columns : List InputColumn} {hiddenUnits : List Nat}
    {seed : Int64} {m : NetworkModel} (h : NetworkModel.new head columns hiddenUnits seed = .ok m) :
    m.steps = 0 := by
  unfold NetworkModel.new at h
  obtain ⟨⟨⟩, -, h⟩ := Attempt.bind_eq_ok h
  dsimp only at h
  split at h
  · cases h
  · cases h
    rfl

theorem Starts.steps (h : Starts model initial) : model.steps.toNat = initial := by
  cases h with
  | linear h => exact congrArg UInt64.toNat (linearSteps_of_new h)
  | network h => exact congrArg UInt64.toNat (networkSteps_of_new h)
  | @built architecture _ _ _ _ _ h =>
    unfold build at h
    obtain ⟨head, -, h⟩ := Attempt.bind_eq_ok h
    cases architecture with
    | linear =>
      obtain ⟨m, hnew, h⟩ := Attempt.bind_eq_ok h
      cases h
      exact congrArg UInt64.toNat (linearSteps_of_new hnew)
    | network =>
      obtain ⟨m, hnew, h⟩ := Attempt.bind_eq_ok h
      cases h
      exact congrArg UInt64.toNat (networkSteps_of_new hnew)
  | loaded h => exact steps_of_load h

theorem steps_of_describe {serving : ServingInputs} {description : Description}
    (h : model.describe serving = .ok description) : description.steps = model.steps := by
  cases model with
  | linear m =>
    obtain rfl := Description.of_eq_ok h
    rfl
  | network m =>
    obtain rfl := Description.of_eq_ok h
    rfl

/-! ## All of it -/

/-- What a model looks up is there, on any inputs.  Training needs a head with classes to tell
apart. -/
structure IsInRange (model : Model) : Prop where
  predict : ∀ inputs, model.predict inputs ≠ .error .crash ∧
    ∀ rows, model.rows inputs = .ok rows →
      ∃ values, model.predict inputs = .ok values ∧ rows.mapM model.estimate? = some values
  probabilities : ∀ inputs, model.probabilities inputs ≠ .error .crash ∧
    ∀ n rows, model.head.classCount? = some n → model.rows inputs = .ok rows →
      ∃ ps, model.probabilities inputs = .ok ps ∧ rows.mapM model.distribution? = some ps ∧
        ∀ p ∈ ps, p.length = n
  fit : model.head.IsTrainable → ∀ inputs steps, model.fit inputs steps ≠ .error .crash ∧
    ∀ examples, model.examples inputs = .ok examples →
      ∃ fitted, model.fit inputs steps = .ok fitted ∧
        model.train? examples steps.toNat = some fitted.flat
  exportTo : ∀ (R : System) base serving d result d',
    Ends R (model.exportTo base serving).run d result d' → result ≠ .error .crash
  values : ∀ entry ∈ model.toVariables,
    entry.2.values.length = Variables.sizeOf entry.2.shape

theorem mapM_toOption {α β : Type} {f : α → Attempt β} {g : α → Option β} {xs : List α}
    {ys : List β} (h : xs.mapM f = .ok ys) (hg : ∀ x ∈ xs, g x = (f x).toOption) :
    xs.mapM g = some ys := by
  induction xs generalizing ys with
  | nil =>
    cases h
    rfl
  | cons x xs ih =>
    rw [List.mapM_cons] at h
    obtain ⟨y, hy, h⟩ := Attempt.bind_eq_ok h
    obtain ⟨rest, hrest, h⟩ := Attempt.bind_eq_ok h
    cases h
    rw [List.mapM_cons, hg x List.mem_cons_self, hy,
      ih hrest fun x' hx' => hg x' (List.mem_cons_of_mem _ hx')]
    rfl

theorem IsShaped.isInRange (h : model.IsShaped) : model.IsInRange where
  predict inputs := by
    refine ⟨h.predict_ne_crash inputs, fun rows hrows => ?_⟩
    obtain ⟨values, hvalues, -⟩ := h.predict_eq_ok hrows
    obtain ⟨rows', hrows', hall⟩ := predict_eq_ok_iff.1 hvalues
    obtain rfl : rows = rows' := Except.ok.inj (hrows.symm.trans hrows')
    exact ⟨values, hvalues, mapM_toOption hall fun row hrow => h.estimate?_eq (slot_lt hrows hrow)⟩
  probabilities inputs := by
    refine ⟨h.probabilities_ne_crash inputs, fun n rows hclasses hrows => ?_⟩
    obtain ⟨ps, hps, -, hlengths⟩ := h.probabilities_eq_ok hrows hclasses
    obtain ⟨-, rows', hrows', hall⟩ := probabilities_eq_ok_iff.1 hps
    obtain rfl : rows = rows' := Except.ok.inj (hrows.symm.trans hrows')
    exact ⟨ps, hps,
      mapM_toOption hall fun row hrow => h.distribution?_eq (slot_lt hrows hrow), hlengths⟩
  fit hhead inputs steps := by
    refine ⟨h.fit_ne_crash hhead inputs steps, fun examples hexamples => ?_⟩
    obtain ⟨fitted, hfit⟩ :=
      h.exists_fit hexamples (fun e he => (mem_examples hexamples he).2 hhead) steps
    obtain ⟨examples', hexamples', htrain⟩ := h.train?_eq hhead hfit
    obtain rfl : examples = examples' := Except.ok.inj (hexamples.symm.trans hexamples')
    exact ⟨fitted, hfit, htrain⟩
  exportTo R base serving d _ _ hends :=
    (holds_exportTo_ne_crash R model base serving d).ends hends
  values := h.length_values

/-- Whatever a model started from and however it was trained, it has the sizes that it was asked for
and all that it looks up is in range.  What it exports counts the steps that it started from and
those that it was trained for, as long as a word can count them. -/
theorem shape_is_kept (hstart : Starts start initial) (htrained : TrainedFor start total model) :
    model.IsSized ∧ model.IsInRange ∧
      ∀ base serving d directory d',
        Ends Happens (model.exportTo base serving).run d (.ok directory) d' →
        ∃ description, Artifact.Records d' directory description model.toVariables ∧
          (initial + total < twoTo 64 → description.steps.toNat = initial + total) := by
  have hshaped := htrained.isShaped hstart.reached.isShaped
  refine ⟨hshaped.isSized, hshaped.isInRange, ?_⟩
  intro base serving d directory d' hends
  obtain ⟨description, hdescription, hrecords⟩ :=
    (model.holds_exportTo_records base serving d).ends hends directory rfl
  refine ⟨description, hrecords, fun hlt => ?_⟩
  rw [steps_of_describe hdescription, htrained.steps, hstart.steps, Nat.mod_eq_of_lt hlt]

/-- Two rows to learn from. -/
def plain : TrainingInputs :=
  ⟨⟨[("x", .floats [1.5, -2.0]), ("y", .floats [1.0, 0.5])]⟩, plainRoles⟩

theorem shape_is_kept_resumed : ∃ (start model : Model) (directory : Path) (d : Disk)
    (description : Description), Starts start 1 ∧ TrainedFor start 2 model ∧
      model.IsSized ∧ model.IsInRange ∧
      Ends Happens (model.exportTo ⟨"models"⟩ ⟨plainRoles⟩).run {} (.ok directory) d ∧
      Artifact.Records d directory description model.toVariables ∧
      description.steps.toNat = 3 := by
  -- A model that was trained once is exported, loaded and trained twice more.
  have hruns : small.map (fun start => (start.parameters.all Float.isFinite, start.steps,
      (({} : Disk).run (start.exportTo ⟨"models"⟩ ⟨plainRoles⟩).run).1,
      (start.fit plain 2).map fun model =>
        (({} : Disk).run (model.exportTo ⟨"models"⟩ ⟨plainRoles⟩).run).1))
      = .ok (true, 1, .ok ⟨"models/0"⟩, .ok (.ok ⟨"models/0"⟩)) := by decide +kernel
  obtain ⟨start, hsmall, hruns⟩ := Attempt.map_eq_ok hruns
  obtain ⟨hfinite, hruns⟩ := Prod.mk.inj hruns
  obtain ⟨hsteps, hruns⟩ := Prod.mk.inj hruns
  obtain ⟨hfirst, hruns⟩ := Prod.mk.inj hruns
  obtain ⟨model, hfit, hexport⟩ := Attempt.map_eq_ok hruns
  have hends {model : Model} (h : (({} : Disk).run
      (model.exportTo ⟨"models"⟩ ⟨plainRoles⟩).run).1 = .ok ⟨"models/0"⟩) :
      Ends Happens (model.exportTo ⟨"models"⟩ ⟨plainRoles⟩).run {} (.ok ⟨"models/0"⟩)
        (({} : Disk).run (model.exportTo ⟨"models"⟩ ⟨plainRoles⟩).run).2 :=
    h ▸ ends_run (fun r d => .inl ⟨rfl, rfl⟩) _ {}
  obtain ⟨built, hbuilt, hfitted⟩ := Attempt.bind_eq_ok hsmall
  have hshaped := (isShaped_build hbuilt).fit hfitted
  obtain ⟨description, hdescription, hrecords⟩ :=
    (start.holds_exportTo_records _ _ _).ends (hends hfirst) _ rfl
  have hload := hshaped.load_of_isFinite hdescription hrecords (List.all_eq_true.1 hfinite)
  have hloaded := congrArg Prod.fst hload
  have hstart : Starts start 1 := by
    have hrecorded := steps_of_load hloaded
    rw [hsteps] at hrecorded
    have hstarts := Starts.loaded hloaded
    rwa [← hrecorded] at hstarts
  have htrained : TrainedFor start 2 model := .fit .refl hfit
  obtain ⟨hsized, hinRange, hexports⟩ := shape_is_kept hstart htrained
  obtain ⟨description, hrecords, hcount⟩ := hexports _ _ _ _ _ (hends hexport)
  exact ⟨start, model, _, _, description, hstart, htrained, hsized, hinRange, hends hexport,
    hrecords, hcount (by decide)⟩

end Model
end Exemplar
