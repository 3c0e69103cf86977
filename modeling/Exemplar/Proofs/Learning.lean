/-
Whatever is classified can be learned.

Classification leaves every column with the type that its role asks for, and every label at a
position of its vocabulary.  That is all that encodings, inputs, heads and models ask for later, so
none of them fails: a model of any kind is built, trained for any number of steps, asked for its
estimates and described, as long as its layers can be held.
-/
import Exemplar.Proofs.Logits
import Exemplar.Proofs.Restoring
import Exemplar.Proofs.Vocabularies

namespace Exemplar

/-! ## Classified tables -/

/-- Classes that a head can tell apart, if there are any. -/
def LabelKind.IsLearnable (kind : LabelKind) : Prop :=
  ∀ vocabulary, kind = .classes vocabulary →
    2 ≤ vocabulary.length ∧ vocabulary.length ≤ twoTo 53

namespace Table

variable {t t' : Table} {a : Assignment} {roles : Roles}

/-- The label of a classified table, coerced as its kind asks for. -/
theorem label_of_classify (h : t.classify a = (t', .ok roles)) :
    ∃ old new, coerceLabel a.label a.labelKind old = .ok new ∧
      t'.column? a.label = some new := by
  obtain ⟨-, hpartition, hcoerces⟩ := classify_eq_ok h
  obtain ⟨old, new, -, hnew, hcolumn⟩ := hcoerces.coerced a.label (by simp)
  rw [hpartition.coercion_label] at hnew
  exact ⟨old, new, hnew, hcolumn⟩

theorem isTyped_of_classify (h : t.classify a = (t', .ok roles)) :
    TrainingInputs.IsTyped ⟨t', roles⟩ := by
  obtain ⟨old, new, hlabel, hcolumn⟩ := label_of_classify h
  obtain ⟨rfl, hpartition, hcoerces⟩ := classify_eq_ok h
  constructor
  · intro name (hname : name ∈ a.continuous)
    obtain ⟨old, new, -, hnew, hcolumn⟩ := hcoerces.coerced name (by simp [hname])
    rw [Assignment.coercion_continuous hname] at hnew
    obtain ⟨cells, rfl⟩ := Column.toFloats_eq_ok hnew
    exact ⟨_, hcolumn, rfl⟩
  · intro name (hname : name ∈ a.categorical)
    obtain ⟨old, new, -, hnew, hcolumn⟩ := hcoerces.coerced name (by simp [hname])
    rw [hpartition.coercion_categorical hname] at hnew
    cases hnew
    exact ⟨_, hcolumn, rfl⟩
  · refine ⟨new, hcolumn, ?_⟩
    show new.elementType = a.labelKind.task.labelType
    unfold coerceLabel at hlabel
    cases hkind : a.labelKind with
    | numeric =>
      rw [hkind] at hlabel
      obtain ⟨cells, rfl⟩ := Column.toFloats_eq_ok hlabel
      rfl
    | classes vocabulary =>
      rw [hkind] at hlabel
      obtain ⟨positions, -, rfl⟩ := Column.toClasses_eq_ok hlabel
      rfl

/-- There is a head for the task, which can learn the labels. -/
theorem exists_head (h : t.classify a = (t', .ok roles)) (hkind : a.labelKind.IsLearnable) :
    ∃ head label, Head.ofTask roles.task = .ok head ∧
      head.classCount? = roles.task.classCount? ∧
      t'.column? roles.label = some label ∧ head.Learns label := by
  obtain ⟨old, new, hlabel, hcolumn⟩ := label_of_classify h
  obtain ⟨rfl, -, -⟩ := classify_eq_ok h
  show ∃ head label, Head.ofTask a.labelKind.task = .ok head ∧
    head.classCount? = a.labelKind.task.classCount? ∧ _
  unfold coerceLabel at hlabel
  cases hkind' : a.labelKind with
  | numeric =>
    rw [hkind'] at hlabel
    obtain ⟨cells, rfl⟩ := Column.toFloats_eq_ok hlabel
    exact ⟨.regression, _, rfl, rfl, hcolumn, Head.learns_floats cells⟩
  | classes vocabulary =>
    rw [hkind'] at hlabel
    obtain ⟨positions, hpositions, rfl⟩ := Column.toClasses_eq_ok hlabel
    obtain ⟨hleast, hmost⟩ := hkind vocabulary hkind'
    obtain ⟨head, hhead, hclasses, -⟩ := Head.ofTask_classification hleast
    exact ⟨head, _, hhead, hclasses, hcolumn, Head.learns_ints hhead hleast hmost hpositions⟩

end Table

/-! ## Building -/

theorem LinearModel.new_eq_ok {head : Head} {columns : List InputColumn}
    (h : Layer.canBeHeld (Layout.width ⟨columns⟩) head.logitCount = true) :
    ∃ m, LinearModel.new head columns = .ok m ∧ m.head = head ∧ m.layout = ⟨columns⟩ := by
  unfold LinearModel.new
  dsimp only
  rw [if_pos h]
  exact ⟨_, rfl, rfl, rfl⟩

theorem NetworkModel.new_eq_ok {head : Head} {columns : List InputColumn}
    {hiddenUnits : List Nat} (seed : Int64) (hdense : Layout.isDense ⟨columns⟩ = true)
    (hunits : ∀ n ∈ hiddenUnits, 0 < n)
    (h : canBeHeld (shapes (Layout.width ⟨columns⟩) (sizes head hiddenUnits)) = true) :
    ∃ m, NetworkModel.new head columns hiddenUnits seed = .ok m ∧ m.head = head ∧
      m.layout = ⟨columns⟩ := by
  have hzero : ¬ hiddenUnits.contains 0 = true := fun hmem =>
    Nat.lt_irrefl 0 (hunits 0 (List.contains_iff_mem.1 hmem))
  have hfault : fault? columns hiddenUnits = none := by
    unfold fault?
    rw [hdense, if_neg (by decide), if_neg hzero]
  unfold NetworkModel.new check
  rw [hfault]
  dsimp only
  rw [if_neg (by simp [h])]
  exact ⟨_, rfl, rfl, rfl⟩

theorem Layout.isDense_resolve (encodings : List Encoding) :
    isDense ⟨encodings.map (Encoding.resolve .dense)⟩ = true := by
  refine List.all_eq_true.2 fun column hcolumn => ?_
  obtain ⟨encoding, -, rfl⟩ := List.mem_map.1 hcolumn
  cases encoding <;> rfl

namespace Model

variable {model model' : Model} {inputs : TrainingInputs}

/-- Whether the layers of a model can be held. -/
def CanBeHeld (architecture : Architecture) (head : Head) (columns : List InputColumn)
    (hiddenUnits : List Nat) : Prop :=
  match architecture with
  | .linear => Layer.canBeHeld (Layout.width ⟨columns⟩) head.logitCount = true
  | .network => NetworkModel.canBeHeld
      (NetworkModel.shapes (Layout.width ⟨columns⟩) (NetworkModel.sizes head hiddenUnits)) = true

/-- A model is built if its layers can be held. -/
theorem build_eq_ok {architecture : Architecture} {task : Task} {head : Head}
    {encodings : List Encoding} {hiddenUnits : List Nat} (seed : Int64)
    (hhead : Head.ofTask task = .ok head) (hunits : ∀ n ∈ hiddenUnits, 0 < n)
    (hheld : CanBeHeld architecture head (encodings.map (Encoding.resolve architecture.density))
      hiddenUnits) :
    ∃ model, build architecture task encodings hiddenUnits seed = .ok model ∧
      model.head = head ∧
      model.layout = ⟨encodings.map (Encoding.resolve architecture.density)⟩ := by
  unfold build
  rw [hhead]
  cases architecture with
  | linear =>
    obtain ⟨m, hnew, hkeeps⟩ := LinearModel.new_eq_ok hheld
    refine ⟨.linear m, ?_, hkeeps⟩
    show (LinearModel.new head _ >>= _ : Attempt Model) = _
    rw [hnew]
    rfl
  | network =>
    obtain ⟨m, hnew, hkeeps⟩ :=
      NetworkModel.new_eq_ok seed (Layout.isDense_resolve encodings) hunits hheld
    refine ⟨.network m, ?_, hkeeps⟩
    show (NetworkModel.new head (encodings.map (Encoding.resolve .dense)) _ _ >>= _
      : Attempt Model) = _
    rw [hnew]
    rfl

/-! ## Training -/

/-- Training changes neither the head nor the columns. -/
theorem fit_eq_ok_keeps {steps : UInt64} (h : model.fit inputs steps = .ok model') :
    model'.head = model.head ∧ model'.layout = model.layout := by
  cases model with
  | linear m =>
    obtain ⟨m', hm, rfl⟩ := Attempt.map_eq_ok h
    unfold LinearModel.fit at hm
    obtain ⟨examples, -, hm⟩ := Attempt.bind_eq_ok hm
    dsimp only at hm
    split at hm
    · cases hm
    · cases hm
      exact ⟨rfl, rfl⟩
  | network m =>
    obtain ⟨m', hm, rfl⟩ := Attempt.map_eq_ok h
    unfold NetworkModel.fit at hm
    obtain ⟨examples, -, hm⟩ := Attempt.bind_eq_ok hm
    dsimp only at hm
    split at hm
    · cases hm
    · cases hm
      exact ⟨rfl, rfl⟩

theorem Trained.keeps (h : Trained model model') :
    model'.head = model.head ∧ model'.layout = model.layout := by
  induction h with
  | refl => exact ⟨rfl, rfl⟩
  | tail _ hfit ih =>
    obtain ⟨inputs, steps, hfit⟩ := hfit
    obtain ⟨hhead, hlayout⟩ := fit_eq_ok_keeps hfit
    exact ⟨hhead.trans ih.1, hlayout.trans ih.2⟩

end Model

theorem Network.logitCount_of_shapes {network : Network Float} {inputs last : Nat}
    {sizes : List Nat}
    (h : HasShapes (NetworkModel.shapes inputs (sizes ++ [last])) network) :
    (network.getLast?.map Layer.outputs).getD 0 = last := by
  induction sizes generalizing inputs network with
  | nil =>
    cases h with
    | cons hlayer hrest =>
      cases hrest with
      | nil => exact hlayer.outputs
  | cons size sizes ih =>
    cases h with
    | @cons _ layer _ rest hlayer hrest =>
      have hlast := ih hrest
      cases rest with
      | nil => cases sizes <;> cases hrest
      | cons second more => rwa [List.getLast?_cons_cons]

namespace Model

/-- The rows of some inputs with their targets. -/
def examples (model : Model) (inputs : TrainingInputs) : Attempt (List (SparseRow × Float)) := do
  let batch ← Attempt.ofData inputs.batch
  let rows ← Attempt.ofData (model.layout.sparseRows batch.features)
  let targets ← model.head.targets batch.label
  if rows.isEmpty then Attempt.refuse (.emptyDataset model.name)
  return rows.zip targets

variable {model : Model} {inputs : TrainingInputs} {examples : List (SparseRow × Float)}

theorem examples_eq_ok_iff : model.examples inputs = .ok examples ↔
    ∃ batch rows targets, inputs.batch = .ok batch ∧
      model.layout.sparseRows batch.features = .ok rows ∧
      model.head.targets batch.label = .ok targets ∧ rows ≠ [] ∧
      examples = rows.zip targets := by
  unfold Model.examples
  simp only [bind_eq_ok_iff, Attempt.ofData_eq_ok_iff]
  constructor
  · rintro ⟨batch, hbatch, rows, hrows, targets, htargets, h⟩
    split at h
    · cases h
    · rename_i hne
      cases h
      exact ⟨batch, rows, targets, hbatch, hrows, htargets, by simpa using hne, rfl⟩
  · rintro ⟨batch, rows, targets, hbatch, hrows, htargets, hne, rfl⟩
    refine ⟨batch, hbatch, rows, hrows, targets, htargets, ?_⟩
    rw [if_neg (by simpa using hne)]
    rfl

/-- The rows of a network's inputs with their targets, spread out. -/
theorem networkExamples_eq (m : NetworkModel) (inputs : TrainingInputs) :
    m.examples inputs = ((network m).examples inputs).map
      (·.map fun e => (Layout.spread m.layout.width e.1, e.2)) := by
  unfold NetworkModel.examples Model.examples Layout.denseRows
  cases inputs.batch with
  | error error => rfl
  | ok batch =>
    show (Attempt.ofData (Except.map _ (m.layout.sparseRows batch.features)) >>= _ : Attempt _)
      = Except.map _ (Attempt.ofData (m.layout.sparseRows batch.features) >>= _)
    cases m.layout.sparseRows batch.features with
    | error error => rfl
    | ok rows =>
      show (m.head.targets batch.label >>= _ : Attempt _)
        = Except.map _ (m.head.targets batch.label >>= _)
      cases m.head.targets batch.label with
      | error failure => rfl
      | ok targets =>
        have hempty : (rows.map (Layout.spread m.layout.width)).isEmpty = rows.isEmpty :=
          List.isEmpty_map
        have hzip : (rows.map (Layout.spread m.layout.width)).zip targets
            = (rows.zip targets).map fun e => (Layout.spread m.layout.width e.1, e.2) := by
          rw [List.zip_map_left]
          rfl
        show (do
          if (rows.map (Layout.spread m.layout.width)).isEmpty then
            Attempt.refuse (.emptyDataset m.name)
          return (rows.map (Layout.spread m.layout.width)).zip targets : Attempt _) = _
        rw [hempty, hzip]
        cases rows.isEmpty <;> rfl

/-- A model of its shape is trained on examples all of whose targets have their logits. -/
theorem IsShaped.exists_fit (h : model.IsShaped) (hexamples : model.examples inputs = .ok examples)
    (hreached : ∀ e ∈ examples, model.head.reaches model.head.logitCount e.2 = true)
    (steps : UInt64) : ∃ fitted, model.fit inputs steps = .ok fitted := by
  cases model with
  | linear m =>
    have hall : (examples.all fun e => m.head.reaches m.layer.outputs e.2) = true := by
      rw [(LinearModel.IsShaped.layer h).outputs]
      exact List.all_eq_true.2 hreached
    have hlinear : m.examples inputs = .ok examples := hexamples
    dsimp only [Model.fit]
    unfold LinearModel.fit
    rw [hlinear, Attempt.ok_bind]
    dsimp only
    rw [hall, if_neg (by simp)]
    exact ⟨_, rfl⟩
  | network m =>
    have hall : ((examples.map fun e => (Layout.spread m.layout.width e.1, e.2)).all
        fun e => m.head.reaches m.logitCount e.2) = true := by
      have hcount : m.logitCount = m.head.logitCount :=
        Network.logitCount_of_shapes (NetworkModel.IsShaped.layers h)
      rw [hcount, List.all_map]
      exact List.all_eq_true.2 hreached
    have hspread : m.examples inputs
        = .ok (examples.map fun e => (Layout.spread m.layout.width e.1, e.2)) := by
      rw [networkExamples_eq, hexamples]
      rfl
    dsimp only [Model.fit]
    unfold NetworkModel.fit
    rw [hspread, Attempt.ok_bind]
    dsimp only
    rw [hall, if_neg (by simp)]
    exact ⟨_, rfl⟩

end Model

/-! ## The whole way -/

namespace Model

theorem exists_description {model : Model} {serving : ServingInputs}
    (h : Description.columnTypes model.layout.columns = serving.types) :
    ∃ description, model.describe serving = .ok description := by
  have hof (name : String) (architecture : Architecture) (head : Head) (hiddenUnits : List Nat)
      (steps : UInt64) : ∃ description, Description.of name architecture head
        model.layout.columns hiddenUnits steps serving = .ok description := by
    unfold Description.of Description.checkColumns
    rw [if_pos h]
    exact ⟨_, rfl⟩
  cases model with
  | linear m => exact hof ..
  | network m => exact hof ..

/-- What a model does on the inputs that it was made for. -/
structure Masters (model : Model) (pair : InputPair) (rowCount : Nat) : Prop where
  fit : ∀ steps, ∃ fitted, model.fit pair.training steps = .ok fitted
  predict : ∃ values, model.predict pair.training = .ok values ∧ values.length = rowCount ∧
    ∀ value ∈ values, Head.Answers pair.training.roles.task.classCount? value
  probabilities : ∀ n, pair.training.roles.task = .classification n →
    ∃ ps, model.probabilities pair.training = .ok ps ∧ ps.length = rowCount ∧
      ∀ p ∈ ps, p.length = n
  describe : ∃ description, model.describe pair.serving = .ok description

/-- A model of its shape over the encodings of a table masters its rows. -/
theorem IsShaped.masters {model : Model} {inputs : TrainingInputs} {batch : Batch}
    {encodings : List Encoding} {density : Density} (h : model.IsShaped)
    (hformed : inputs.table.IsFormed) (hrows : 0 < inputs.rowCount)
    (hfeatures : inputs.roles.features ≠ []) (hbatch : inputs.batch = .ok batch)
    (hencodings : Encoding.ofTable inputs.table inputs.roles = .ok encodings)
    (hencoded : ∀ encoding ∈ encodings, inputs.IsEncodedBy encoding)
    (hlayout : model.layout = ⟨encodings.map (Encoding.resolve density)⟩)
    (hclasses : model.head.classCount? = inputs.roles.task.classCount?)
    (hpositive : model.head.classCount? ≠ some 0) (hlearns : model.head.Learns batch.label) :
    model.Masters ⟨inputs, ⟨inputs.roles⟩⟩ inputs.rowCount := by
  obtain ⟨htyped, hisBatch⟩ := TrainingInputs.batch_eq_ok hbatch
  have hcount : Layout.batchRows batch.features = inputs.rowCount := by
    rw [hisBatch.batchRows_eq htyped hformed, if_neg hfeatures]
  have hencodes : ∀ column ∈ model.layout.columns,
      Layout.Encodes batch.features (Layout.batchRows batch.features) column := by
    rw [hlayout, hcount]
    refine List.forall_mem_map.2 fun encoding hencoding => ?_
    exact (hencoded encoding hencoding).encodes hformed hisBatch density
  have hsparse := Layout.sparseRows_eq_ok_iff.2 ⟨hencodes, rfl⟩
  have hmodelRows := rows_eq_ok_iff.2 ⟨batch, hbatch, hencodes, rfl⟩
  generalize hrowsEq : (List.range (Layout.batchRows batch.features)).map
    (model.layout.rowAt batch.features) = rows at hsparse hmodelRows
  have hlength : rows.length = inputs.rowCount := by
    rw [← hrowsEq, List.length_map, List.length_range, hcount]
  have hne : rows ≠ [] := by
    rintro rfl
    exact absurd hrows (hlength ▸ Nat.lt_irrefl 0)
  constructor
  · intro steps
    obtain ⟨targets, htargets, -, hreached⟩ := hlearns
    have hexamples :=
      examples_eq_ok_iff.2 ⟨batch, rows, targets, hbatch, hsparse, htargets, hne, rfl⟩
    exact h.exists_fit hexamples (fun e he => hreached e.2 (List.of_mem_zip he).2) steps
  · obtain ⟨values, hvalues, hcount, hanswers⟩ := h.predict_eq_ok hmodelRows
    exact ⟨values, hvalues, hcount.trans hlength, hclasses ▸ hanswers hpositive⟩
  · intro n (htask : inputs.roles.task = .classification n)
    have hn : model.head.classCount? = some n := by
      rw [hclasses, htask]
      rfl
    obtain ⟨ps, hps, hcount, hall⟩ := h.probabilities_eq_ok hmodelRows hn
    exact ⟨ps, hps, hcount.trans hlength, hall⟩
  · apply exists_description
    rw [hlayout, ServingInputs.types_eq]
    exact congrArg SortedMap.ofList (Encoding.types_ofTable hencodings density)

/-- Whatever is classified can be learned. -/
theorem classified_can_be_learned {t coerced : Table} {a : Assignment} {roles : Roles}
    (hformed : t.IsFormed) (hrows : 0 < t.rowCount) (hfeatures : roles.features ≠ [])
    (hkind : a.labelKind.IsLearnable) (h : t.classify a = (coerced, .ok roles)) :
    ∃ encodings pair head, Encoding.ofTable coerced roles = .ok encodings ∧
      InputPair.of coerced roles = .ok pair ∧ Head.ofTask roles.task = .ok head ∧
      ∀ architecture hiddenUnits seed, (∀ n ∈ hiddenUnits, 0 < n) →
        CanBeHeld architecture head (encodings.map (Encoding.resolve architecture.density))
          hiddenUnits →
        ∃ model, build architecture roles.task encodings hiddenUnits seed = .ok model ∧
          ∀ trained, Trained model trained → trained.Masters pair coerced.rowCount := by
  have htyped := Table.isTyped_of_classify h
  obtain ⟨head, label, hhead, hclasses, hlabel, hlearns⟩ := Table.exists_head h hkind
  obtain ⟨-, -, hcoerces⟩ := Table.classify_eq_ok h
  have hcoerced : coerced.IsFormed := hcoerces.formed hformed
  have hcount : 0 < coerced.rowCount := by rwa [hcoerces.rowCount_eq]
  obtain ⟨encodings, hencodings, hencoded⟩ :=
    TrainingInputs.exists_encodings htyped hcoerced hcount
  obtain ⟨batch, hbatch⟩ := htyped.exists_batch
  have hpair : InputPair.of coerced roles = .ok ⟨⟨coerced, roles⟩, ⟨roles⟩⟩ := by
    unfold InputPair.of
    dsimp only
    rw [checkParity_eq_ok hbatch hcoerced (ServingInputs.types_eq _).symm]
    rfl
  have hbatchLabel : batch.label = label := by
    have hfound := (TrainingInputs.batch_eq_ok hbatch).2.label
    exact Option.some.inj (hfound.symm.trans hlabel)
  have hpositive := Head.classCount_ne_zero hhead
  refine ⟨encodings, _, head, hencodings, hpair, hhead, ?_⟩
  intro architecture hiddenUnits seed hunits hheld
  obtain ⟨model, hmodel, hmodelHead, hmodelLayout⟩ := build_eq_ok seed hhead hunits hheld
  refine ⟨model, hmodel, fun trained htrained => ?_⟩
  obtain ⟨hsameHead, hsameLayout⟩ := htrained.keeps
  rw [hmodelHead] at hsameHead
  rw [hmodelLayout] at hsameLayout
  refine ((isShaped_build hmodel).trained htrained).masters hcoerced hcount hfeatures hbatch
    hencodings hencoded hsameLayout ?_ ?_ ?_
  · rw [hsameHead, hclasses]
  · rw [hsameHead]
    exact hpositive
  · rw [hsameHead, hbatchLabel]
    exact hlearns

theorem classified_can_be_learned_once : ∃ encodings pair head model,
    sampleTable.IsFormed ∧ sampleAssignment.labelKind.IsLearnable ∧
      sampleTable.classify sampleAssignment = (sample.table, .ok sample.roles) ∧
      Encoding.ofTable sample.table sample.roles = .ok encodings ∧
      InputPair.of sample.table sample.roles = .ok pair ∧
      Head.ofTask sample.roles.task = .ok head ∧
      build .network sample.roles.task encodings [3, 2] 42 = .ok model ∧
      ∀ trained, Trained model trained → trained.Masters pair 3 := by
  have hformed : sampleTable.IsFormed := ⟨by decide, by decide⟩
  have hkind : sampleAssignment.labelKind.IsLearnable := by
    intro vocabulary h
    cases h
    decide
  obtain ⟨encodings, pair, head, hencodings, hpair, hhead, hbuild⟩ :=
    classified_can_be_learned hformed (by decide) (by decide) hkind classify_sample
  have hheld : CanBeHeld .network head (encodings.map (Encoding.resolve .dense)) [3, 2] := by
    have hkeys : Encoding.ofTable sample.table sample.roles
        = .ok [.realValued ⟨"x", .float64⟩, .keyed ⟨"c", .string, ["a", "b"]⟩] := by
      decide +kernel
    obtain rfl := Except.ok.inj (hkeys.symm.trans hencodings)
    obtain rfl : .binary = head := Except.ok.inj hhead
    show NetworkModel.canBeHeld _ = true
    decide
  obtain ⟨model, hmodel, hmasters⟩ := hbuild .network [3, 2] 42 (by decide) hheld
  exact ⟨encodings, pair, head, model, hformed, hkind, classify_sample, hencodings, hpair, hhead,
    hmodel, hmasters⟩

/-- A hidden layer of more outputs than there can be numbers is not built, whatever is learned. -/
theorem too_wide_is_not_built : ∃ encodings,
    sampleTable.classify sampleAssignment = (sample.table, .ok sample.roles) ∧
      Encoding.ofTable sample.table sample.roles = .ok encodings ∧
      build .network sample.roles.task encodings [1152921504606846976] 0 = .error .crash := by
  have hbuilds : (do
      let encodings ← Attempt.ofData (Encoding.ofTable sample.table sample.roles)
      return (build .network sample.roles.task encodings [1152921504606846976] 0).map fun _ => ()
      : Attempt (Attempt Unit)) = .ok (.error .crash) := by decide +kernel
  obtain ⟨encodings, hencodings, hbuild⟩ := Attempt.bind_eq_ok hbuilds
  refine ⟨encodings, classify_sample, Attempt.ofData_eq_ok hencodings, ?_⟩
  cases hmodel : build .network sample.roles.task encodings [1152921504606846976] 0 with
  | ok model =>
    rw [hmodel] at hbuild
    cases hbuild
  | error failure =>
    rw [hmodel] at hbuild
    cases hbuild
    rfl

end Model
end Exemplar
