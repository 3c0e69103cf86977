/-
What a model estimates, row by row.

A model works on each row of a batch by itself, so an estimate follows its row: whichever rows are
asked for, in any order and any number of times, each gets the estimate that its own features got
before.  A table without features, though, has no rows for a model, however many it holds: the rows
of a batch are counted on its first feature.
-/
import Exemplar.Model.Basic
import Exemplar.Proofs.Batches
import Exemplar.Proofs.Classifying
import Exemplar.Proofs.Rows
import Exemplar.Proofs.Shapes
import Mathlib.Data.Fin.VecNotation

namespace Exemplar

theorem Attempt.ofData_eq_ok_iff {α : Type} {result : Except DataError α} {a : α} :
    Attempt.ofData result = .ok a ↔ result = .ok a := by
  constructor
  · exact Attempt.ofData_eq_ok
  · rintro rfl
    rfl

/-! ## Cells -/

namespace Layout

variable {column : InputColumn} {tensor tensor' : Column}

theorem texts_eq_of_cell? {i j : Nat} (htype : tensor'.elementType = tensor.elementType)
    (hcell : tensor'.cell? j = tensor.cell? i) :
    (tensor'.texts?.getD [])[j]? = (tensor.texts?.getD [])[i]? := by
  cases tensor with
  | texts cells =>
    cases tensor' with
    | texts cells' => exact Option.map_injective (fun _ _ h => Cell.text.inj h) hcell
    | ints cells' => cases htype
    | floats cells' => cases htype
  | ints cells => cases tensor' <;> first | rfl | cases htype
  | floats cells => cases tensor' <;> first | rfl | cases htype

theorem floats_eq_of_cell? {i j : Nat} (htype : tensor'.elementType = tensor.elementType)
    (hcell : tensor'.cell? j = tensor.cell? i) :
    (tensor'.floats?.getD [])[j]? = (tensor.floats?.getD [])[i]? := by
  cases tensor with
  | floats cells =>
    cases tensor' with
    | floats cells' => exact Option.map_injective (fun _ _ h => Cell.float.inj h) hcell
    | ints cells' => cases htype
    | texts cells' => cases htype
  | ints cells => cases tensor' <;> first | rfl | cases htype
  | texts cells => cases tensor' <;> first | rfl | cases htype

/-- A column puts the same into rows that agree on its cell. -/
theorem cellSlot?_congr {i j : Nat} (offset : Nat)
    (htype : tensor'.elementType = tensor.elementType)
    (hcell : tensor'.cell? j = tensor.cell? i) :
    cellSlot? column offset tensor' j = cellSlot? column offset tensor i := by
  unfold cellSlot?
  rw [texts_eq_of_cell? htype hcell, floats_eq_of_cell? htype hcell]

/-- A column knows the keys of a tensor of cells that it knows. -/
theorem Knows.select {s : Fin tensor'.length → Nat}
    (h : column.Knows tensor) (htype : tensor'.elementType = tensor.elementType)
    (hcell : ∀ j : Fin tensor'.length, tensor'.cell? j = tensor.cell? (s j)) :
    column.Knows tensor' := by
  have hkeys {p : String → Prop} (hp : ∀ key ∈ tensor.texts?.getD [], p key) :
      ∀ key ∈ tensor'.texts?.getD [], p key := by
    intro key hkey
    obtain ⟨j, hj, rfl⟩ := List.getElem_of_mem hkey
    have hlength : j < tensor'.length := by
      cases tensor' with
      | texts cells => exact hj
      | ints cells => cases hj
      | floats cells => cases hj
    apply hp
    have hsame := texts_eq_of_cell? htype (hcell ⟨j, hlength⟩)
    rw [List.getElem?_eq_getElem hj] at hsame
    exact List.mem_of_getElem? hsame.symm
  cases column with
  | realValued c => trivial
  | keyed c => exact hkeys h
  | oneHot c => exact hkeys h

end Layout

namespace Model

def head : Model → Head
  | linear m => m.head
  | network m => m.head

def layout : Model → Layout
  | linear m => m.layout
  | network m => m.layout

/-- The logits of one row. -/
def logits : Model → SparseRow → List Float
  | linear m, row => m.logits row
  | network m, row => m.logits (Layout.spread m.layout.width row)

/-- The prediction for one row. -/
def estimate (model : Model) (row : SparseRow) : Attempt Value :=
  model.head.predict (model.logits row)

/-- The probabilities of the classes for one row. -/
def distribution (model : Model) (row : SparseRow) : Attempt (List Float) := do
  return (← model.head.probabilities (model.logits row)).getD []

/-- The rows of some inputs. -/
def rows (model : Model) (inputs : TrainingInputs) : Attempt (List SparseRow) := do
  let batch ← Attempt.ofData inputs.batch
  Attempt.ofData (model.layout.sparseRows batch.features)

variable {model : Model} {inputs : TrainingInputs} {rows : List SparseRow}

/-- The rows of some inputs are those of their batch, each by itself. -/
theorem rows_eq_ok_iff : model.rows inputs = .ok rows ↔
    ∃ batch, inputs.batch = .ok batch ∧
      (∀ column ∈ model.layout.columns,
        Layout.Encodes batch.features (Layout.batchRows batch.features) column) ∧
      rows = (List.range (Layout.batchRows batch.features)).map
        (model.layout.rowAt batch.features) := by
  unfold Model.rows
  simp only [bind_eq_ok_iff, Attempt.ofData_eq_ok_iff, Layout.sparseRows_eq_ok_iff]

/-- The rows of a network's inputs, spread out. -/
theorem networkRows_eq (m : NetworkModel) (inputs : TrainingInputs) : m.rows inputs
    = ((network m).rows inputs).map (·.map (Layout.spread m.layout.width)) := by
  unfold NetworkModel.rows Model.rows Layout.denseRows
  cases inputs.batch with
  | error error => rfl
  | ok batch =>
    show Attempt.ofData (Except.map _ (m.layout.sparseRows batch.features))
      = Except.map _ (Attempt.ofData (m.layout.sparseRows batch.features))
    cases m.layout.sparseRows batch.features <;> rfl

theorem predict_eq (model : Model) (inputs : TrainingInputs) :
    model.predict inputs = model.rows inputs >>= fun rows => rows.mapM model.estimate := by
  cases model with
  | linear m => rfl
  | network m =>
    show m.rows inputs >>= _ = _
    rw [networkRows_eq]
    cases (network m).rows inputs with
    | error failure => rfl
    | ok rows =>
      show (rows.map (Layout.spread m.layout.width)).mapM _ = _
      rw [List.mapM_map]
      rfl

theorem predict_eq_ok_iff {values : List Value} : model.predict inputs = .ok values ↔
    ∃ rows, model.rows inputs = .ok rows ∧ rows.mapM model.estimate = .ok values := by
  rw [predict_eq, bind_eq_ok_iff]

theorem probabilities_eq (model : Model) (inputs : TrainingInputs) : model.probabilities inputs
    = if model.head.classCount?.isSome then
        model.rows inputs >>= fun rows => rows.mapM model.distribution
      else Attempt.refuse (.noProbabilities model.name) := by
  cases model with
  | linear m =>
    show LinearModel.probabilities m inputs = if m.head.classCount?.isSome then _ else _
    unfold LinearModel.probabilities
    cases m.head.classCount? <;> rfl
  | network m =>
    show NetworkModel.probabilities m inputs = if m.head.classCount?.isSome then _ else _
    unfold NetworkModel.probabilities
    rw [networkRows_eq]
    cases m.head.classCount? with
    | none => rfl
    | some count =>
      cases (network m).rows inputs with
      | error failure => rfl
      | ok rows =>
        show (rows.map (Layout.spread m.layout.width)).mapM _ = _
        rw [List.mapM_map]
        rfl

theorem probabilities_eq_ok_iff {ps : List (List Float)} : model.probabilities inputs = .ok ps ↔
    model.head.classCount?.isSome = true ∧
      ∃ rows, model.rows inputs = .ok rows ∧ rows.mapM model.distribution = .ok ps := by
  rw [probabilities_eq, ← bind_eq_ok_iff]
  split
  · rename_i hclasses
    exact (and_iff_right hclasses).symm
  · rename_i hclasses
    exact iff_of_false (fun h => by cases h) fun h => hclasses h.1

/-! ## One estimate for each row -/

/-- The rows of a model are those of the table, or none if there are no features. -/
theorem length_of_rows (hformed : inputs.table.IsFormed) (h : model.rows inputs = .ok rows) :
    rows.length = if inputs.roles.features = [] then 0 else inputs.rowCount := by
  obtain ⟨batch, hbatch, -, rfl⟩ := rows_eq_ok_iff.1 h
  obtain ⟨htyped, hbatch⟩ := TrainingInputs.batch_eq_ok hbatch
  rw [List.length_map, List.length_range]
  exact hbatch.batchRows_eq htyped hformed

theorem length_of_predict {values : List Value} (hformed : inputs.table.IsFormed)
    (h : model.predict inputs = .ok values) :
    values.length = if inputs.roles.features = [] then 0 else inputs.rowCount := by
  obtain ⟨rows, hrows, hvalues⟩ := predict_eq_ok_iff.1 h
  rw [length_of_mapM hvalues]
  exact length_of_rows hformed hrows

theorem length_of_probabilities {ps : List (List Float)} (hformed : inputs.table.IsFormed)
    (h : model.probabilities inputs = .ok ps) :
    ps.length = if inputs.roles.features = [] then 0 else inputs.rowCount := by
  obtain ⟨-, rows, hrows, hps⟩ := probabilities_eq_ok_iff.1 h
  rw [length_of_mapM hps]
  exact length_of_rows hformed hrows

/-- A table that was classified gets one estimate for each row exactly if it has features, or has no
rows at all. -/
theorem estimates_match_rows_iff (model : Model) {t coerced : Table} {a : Assignment}
    {roles : Roles} (hformed : t.IsFormed) (hclassify : t.classify a = (coerced, .ok roles)) :
    (∀ values, model.predict ⟨coerced, roles⟩ = .ok values →
      (values.length = coerced.rowCount ↔ roles.features ≠ [] ∨ coerced.rowCount = 0)) ∧
    (∀ ps, model.probabilities ⟨coerced, roles⟩ = .ok ps →
      (ps.length = coerced.rowCount ↔ roles.features ≠ [] ∨ coerced.rowCount = 0)) := by
  have hcoerced : coerced.IsFormed := (Table.classify_eq_ok hclassify).2.2.formed hformed
  have hcount (n : Nat)
      (hn : n = if roles.features = [] then 0 else coerced.rowCount) :
      n = coerced.rowCount ↔ roles.features ≠ [] ∨ coerced.rowCount = 0 := by
    rw [hn]
    by_cases hempty : roles.features = []
    · rw [if_pos hempty]
      simp only [hempty, ne_eq, not_true_eq_false, false_or]
      exact eq_comm
    · rw [if_neg hempty]
      simp [hempty]
  constructor
  · intro values hvalues
    exact hcount _ (length_of_predict hcoerced hvalues)
  · intro ps hps
    exact hcount _ (length_of_probabilities hcoerced hps)

/-- A table of which two classes are learned. -/
def sampleTable : Table :=
  ⟨[("x", .floats [1.5, -2.0, 0.25]), ("c", .texts ["a", "b", "a"]), ("y", .ints [3, 5, 5])]⟩

def sampleAssignment : Assignment := ⟨["x"], ["c"], "y", .classes ["3", "5"]⟩

/-- The table with its classes counted from zero. -/
def sample : TrainingInputs where
  table := ⟨[("x", .floats [1.5, -2.0, 0.25]), ("c", .texts ["a", "b", "a"]),
    ("y", .ints [0, 1, 1])]⟩
  roles := ⟨["x"], ["c"], "y", .classification 2⟩

/-- A linear model after a step of training. -/
def classifier : Attempt Model := do
  let encodings ← Attempt.ofData (Encoding.ofTable sample.table sample.roles)
  let model ← build .linear sample.roles.task encodings [] 0
  model.fit sample 1

theorem classify_sample :
    sampleTable.classify sampleAssignment = (sample.table, .ok sample.roles) := by
  decide +kernel

theorem classifier_spec : ∃ model values ps, classifier = .ok model ∧
    model.predict sample = .ok values ∧ model.probabilities sample = .ok ps := by
  have hruns : classifier.map (fun model =>
      (model.predict sample).isOk && (model.probabilities sample).isOk) = .ok true := by
    decide +kernel
  obtain ⟨model, hmodel, hruns⟩ := Attempt.map_eq_ok hruns
  rw [Bool.and_eq_true] at hruns
  cases hvalues : model.predict sample with
  | error failure =>
    rw [hvalues] at hruns
    cases hruns.1
  | ok values =>
    cases hps : model.probabilities sample with
    | error failure =>
      rw [hps] at hruns
      cases hruns.2
    | ok ps => exact ⟨model, values, ps, hmodel, hvalues, hps⟩

theorem estimates_match_rows_iff_once : ∃ model values ps, classifier = .ok model ∧
    sampleTable.IsFormed ∧
    sampleTable.classify sampleAssignment = (sample.table, .ok sample.roles) ∧
    model.predict sample = .ok values ∧ values.length = sample.rowCount ∧
    model.probabilities sample = .ok ps ∧ ps.length = sample.rowCount := by
  obtain ⟨model, values, ps, hmodel, hvalues, hps⟩ := classifier_spec
  have hformed : sampleTable.IsFormed := ⟨by decide, by decide⟩
  obtain ⟨hpredict, hprobabilities⟩ := estimates_match_rows_iff model hformed classify_sample
  have hfeatures : sample.roles.features ≠ [] ∨ sample.table.rowCount = 0 := .inl (by decide)
  exact ⟨model, values, ps, hmodel, hformed, classify_sample, hvalues,
    (hpredict _ hvalues).2 hfeatures, hps, (hprobabilities _ hps).2 hfeatures⟩

/-- A table without features. -/
def labelsText : String := "y\n1.0\n"

/-- What a linear model predicts for a table, and for how many rows. -/
def predictText (text : String) (a : Assignment) : Attempt (List Value × Nat) := do
  let table ← Table.ofBytes text.toUTF8.toList
  let (coerced, roles) := table.classify a
  let roles ← Attempt.ofData roles
  let encodings ← Attempt.ofData (Encoding.ofTable coerced roles)
  let model ← build .linear roles.task encodings [] 0
  let values ← model.predict ⟨coerced, roles⟩
  return (values, coerced.rowCount)

/-- A table of one row that has no features gets no prediction. -/
theorem predictions_lost_without_features : ∃ table coerced roles encodings model,
    Table.ofBytes labelsText.toUTF8.toList = .ok table ∧
      table.classify ⟨[], [], "y", .numeric⟩ = (coerced, .ok roles) ∧
      Encoding.ofTable coerced roles = .ok encodings ∧
      build .linear roles.task encodings [] 0 = .ok model ∧
      model.predict ⟨coerced, roles⟩ = .ok [] ∧ coerced.rowCount = 1 := by
  have hruns : (predictText labelsText ⟨[], [], "y", .numeric⟩).map
      (fun (values, rows) => (values.length, rows)) = .ok (0, 1) := by decide +kernel
  obtain ⟨⟨values, rows⟩, hpredicts, hruns⟩ := Attempt.map_eq_ok hruns
  obtain ⟨hvalues, hrows⟩ := Prod.mk.inj hruns
  obtain ⟨table, htable, h⟩ := Attempt.bind_eq_ok hpredicts
  obtain ⟨roles, hroles, h⟩ := Attempt.bind_eq_ok h
  obtain ⟨encodings, hencodings, h⟩ := Attempt.bind_eq_ok h
  obtain ⟨model, hmodel, h⟩ := Attempt.bind_eq_ok h
  obtain ⟨predicted, hpredicted, h⟩ := Attempt.bind_eq_ok h
  obtain ⟨rfl, rfl⟩ := Prod.mk.inj (Except.ok.inj h)
  rw [List.length_eq_zero_iff.1 hvalues] at hpredicted
  exact ⟨table, _, roles, encodings, model, htable, Prod.ext rfl (Attempt.ofData_eq_ok hroles),
    Attempt.ofData_eq_ok hencodings, hmodel, hpredicted, hrows⟩

/-! ## An estimate follows its row -/

end Model

/-- Inputs of the same features, whose rows agree on them with chosen rows of the first. -/
structure TrainingInputs.Selects (inputs inputs' : TrainingInputs)
    (s : Fin inputs'.rowCount → Fin inputs.rowCount) : Prop where
  continuous : inputs'.roles.continuous = inputs.roles.continuous
  categorical : inputs'.roles.categorical = inputs.roles.categorical
  cells : ∀ name ∈ inputs.roles.features, ∀ j : Fin inputs'.rowCount,
    inputs'.table.cell? name j = inputs.table.cell? name (s j)

section

variable {inputs inputs' : TrainingInputs} {batch batch' : Batch}
variable {s : Fin inputs'.rowCount → Fin inputs.rowCount}
variable (h : inputs.Selects inputs' s)
variable (hbatch : inputs.batch = .ok batch) (hbatch' : inputs'.batch = .ok batch')

include h in
theorem TrainingInputs.Selects.features : inputs'.roles.features = inputs.roles.features := by
  show inputs'.roles.continuous ++ inputs'.roles.categorical = _
  rw [h.continuous, h.categorical]
  rfl

include h hbatch hbatch'

/-- The tensor of a feature is of the chosen cells. -/
theorem TrainingInputs.Selects.exists_tensor {name : String} {tensor : Column}
    (hget : batch.features.get? name = some tensor) :
    ∃ tensor', batch'.features.get? name = some tensor' ∧
      tensor'.elementType = tensor.elementType ∧
      ∀ j : Fin inputs'.rowCount, tensor'.cell? j = tensor.cell? (s j) := by
  obtain ⟨htyped, hbatch⟩ := TrainingInputs.batch_eq_ok hbatch
  obtain ⟨htyped', hbatch'⟩ := TrainingInputs.batch_eq_ok hbatch'
  obtain ⟨hname, hcolumn⟩ := (hbatch.features name tensor).1 hget
  have hfound : ∃ tensor', inputs'.table.column? name = some tensor' ∧
      tensor'.elementType = tensor.elementType := by
    rcases List.mem_append.1 hname with hmem | hmem
    · obtain ⟨old, hold, htype⟩ := htyped.continuous name hmem
      obtain ⟨new, hnew, htype'⟩ := htyped'.continuous name (h.continuous ▸ hmem)
      rw [hcolumn] at hold
      exact ⟨new, hnew, by rw [htype', Option.some.inj hold, htype]⟩
    · obtain ⟨old, hold, htype⟩ := htyped.categorical name hmem
      obtain ⟨new, hnew, htype'⟩ := htyped'.categorical name (h.categorical ▸ hmem)
      rw [hcolumn] at hold
      exact ⟨new, hnew, by rw [htype', Option.some.inj hold, htype]⟩
  obtain ⟨tensor', hcolumn', htype⟩ := hfound
  refine ⟨tensor', (hbatch'.features name tensor').2 ⟨h.features ▸ hname, hcolumn'⟩, htype, ?_⟩
  intro j
  have hcell := h.cells name hname j
  unfold Table.cell? at hcell
  rwa [hcolumn, hcolumn'] at hcell

/-- A column that encodes the first batch encodes the second, and puts the same into a row as into
the one that was chosen for it. -/
theorem TrainingInputs.Selects.encodes (hformed' : inputs'.table.IsFormed) {n : Nat}
    {column : InputColumn} (hcolumn : Layout.Encodes batch.features n column) :
    Layout.Encodes batch'.features inputs'.rowCount column ∧
      ∀ offset, ∀ j : Fin inputs'.rowCount,
        Layout.placedSlot? batch'.features j (column, offset)
          = Layout.placedSlot? batch.features (s j) (column, offset) := by
  obtain ⟨tensor, hget, htype, -, hknows⟩ := hcolumn
  obtain ⟨tensor', hget', htype', hcells⟩ := h.exists_tensor hbatch hbatch' hget
  have hlength : tensor'.length = inputs'.rowCount :=
    hformed'.length_of_column?
      (((TrainingInputs.batch_eq_ok hbatch').2.features _ tensor').1 hget').2
  refine ⟨⟨tensor', hget', htype'.trans htype, hlength, ?_⟩, ?_⟩
  · apply Layout.Knows.select hknows htype' (s := fun j => s (j.cast hlength))
    intro j
    exact hcells (j.cast hlength)
  · intro offset j
    unfold Layout.placedSlot?
    rw [hget, hget']
    exact Layout.cellSlot?_congr offset htype' (hcells j)

/-- The second rows are the chosen ones of the first. -/
theorem TrainingInputs.Selects.rows (hformed : inputs.table.IsFormed)
    (hformed' : inputs'.table.IsFormed) (hfeatures : inputs.roles.features ≠ []) {model : Model}
    {rows : List SparseRow} (hrows : model.rows inputs = .ok rows) :
    ∃ row row' : Nat → SparseRow, rows = (List.range inputs.rowCount).map row ∧
      model.rows inputs' = .ok ((List.range inputs'.rowCount).map row') ∧
      ∀ j : Fin inputs'.rowCount, row' j = row (s j) := by
  obtain ⟨batch₀, hbatch₀, hencodes, rfl⟩ := Model.rows_eq_ok_iff.1 hrows
  obtain rfl : batch₀ = batch := Except.ok.inj (hbatch₀.symm.trans hbatch)
  obtain ⟨htyped, hisBatch⟩ := TrainingInputs.batch_eq_ok hbatch
  obtain ⟨htyped', hisBatch'⟩ := TrainingInputs.batch_eq_ok hbatch'
  have hcount := hisBatch.batchRows_eq htyped hformed
  rw [if_neg hfeatures] at hcount
  have hcount' := hisBatch'.batchRows_eq htyped' hformed'
  rw [if_neg (h.features ▸ hfeatures)] at hcount'
  refine ⟨model.layout.rowAt batch₀.features, model.layout.rowAt batch'.features, by rw [hcount],
    Model.rows_eq_ok_iff.2 ⟨batch', hbatch', ?_, by rw [hcount']⟩, ?_⟩
  · intro column hcolumn
    rw [hcount']
    exact (h.encodes hbatch hbatch' hformed' (hencodes column hcolumn)).1
  · intro j
    refine List.filterMap_congr fun p hp => ?_
    have hcolumn : p.1 ∈ model.layout.columns := by
      rw [← Layout.map_place 0 model.layout.columns]
      exact List.mem_map_of_mem hp
    exact (h.encodes hbatch hbatch' hformed' (hencodes p.1 hcolumn)).2 p.2 j

end

namespace Model

/-- A prediction depends only on the features of its own row. -/
theorem estimates_follow_rows (model : Model) {inputs inputs' : TrainingInputs}
    {batch batch' : Batch} {s : Fin inputs'.rowCount → Fin inputs.rowCount}
    (hformed : inputs.table.IsFormed) (hformed' : inputs'.table.IsFormed)
    (hbatch : inputs.batch = .ok batch) (hbatch' : inputs'.batch = .ok batch')
    (hfeatures : inputs.roles.features ≠ []) (h : inputs.Selects inputs' s) :
    (∀ values, model.predict inputs = .ok values →
      values.length = inputs.rowCount ∧ ∃ values', model.predict inputs' = .ok values' ∧
        values'.length = inputs'.rowCount ∧
        ∀ j : Fin inputs'.rowCount, values'[(j : Nat)]? = values[(s j : Nat)]?) ∧
    (∀ ps, model.probabilities inputs = .ok ps →
      ps.length = inputs.rowCount ∧ ∃ ps', model.probabilities inputs' = .ok ps' ∧
        ps'.length = inputs'.rowCount ∧
        ∀ j : Fin inputs'.rowCount, ps'[(j : Nat)]? = ps[(s j : Nat)]?) := by
  constructor
  · intro values hvalues
    have hlength := length_of_predict hformed hvalues
    rw [if_neg hfeatures] at hlength
    refine ⟨hlength, ?_⟩
    obtain ⟨rows, hrows, hvalues⟩ := predict_eq_ok_iff.1 hvalues
    obtain ⟨row, row', rfl, hrows', hsame⟩ := h.rows hbatch hbatch' hformed hformed' hfeatures hrows
    obtain ⟨values', hvalues', hselected⟩ := mapM_select hvalues hsame
    exact ⟨values', predict_eq_ok_iff.2 ⟨_, hrows', hvalues'⟩, hselected⟩
  · intro ps hps
    have hlength := length_of_probabilities hformed hps
    rw [if_neg hfeatures] at hlength
    refine ⟨hlength, ?_⟩
    obtain ⟨hclasses, rows, hrows, hps⟩ := probabilities_eq_ok_iff.1 hps
    obtain ⟨row, row', rfl, hrows', hsame⟩ := h.rows hbatch hbatch' hformed hformed' hfeatures hrows
    obtain ⟨ps', hps', hselected⟩ := mapM_select hps hsame
    exact ⟨ps', probabilities_eq_ok_iff.2 ⟨hclasses, _, hrows', hps'⟩, hselected⟩

/-- The rows of the sample in another order, two of them again, and in another table. -/
def resample : TrainingInputs where
  table := ⟨[("c", .texts ["a", "a", "b", "a", "b"]), ("z", .ints [7, 8, 9, 10, 11]),
    ("y", .floats [0.0, 0.5, 1.0, 1.5, 2.0]), ("x", .floats [0.25, 1.5, -2.0, 1.5, -2.0])]⟩
  roles := ⟨["x"], ["c"], "y", .regression⟩

def resampled : Fin resample.rowCount → Fin sample.rowCount :=
  (![2, 0, 1, 0, 1] : Fin 5 → Fin 3)

theorem sample_selects : sample.Selects resample resampled :=
  ⟨rfl, rfl, by decide +kernel⟩

theorem estimates_follow_rows_once : ∃ model values values' ps ps', classifier = .ok model ∧
    sample.Selects resample resampled ∧ model.predict sample = .ok values ∧
    model.predict resample = .ok values' ∧ values'.length = 5 ∧
    (∀ j : Fin 5, values'[(j : Nat)]? = values[(resampled j : Nat)]?) ∧
    model.probabilities sample = .ok ps ∧ model.probabilities resample = .ok ps' ∧
    ps'.length = 5 ∧ ∀ j : Fin 5, ps'[(j : Nat)]? = ps[(resampled j : Nat)]? := by
  obtain ⟨model, values, ps, hmodel, hvalues, hps⟩ := classifier_spec
  obtain ⟨batch, hbatch⟩ : ∃ batch, sample.batch = .ok batch := ⟨_, rfl⟩
  obtain ⟨batch', hbatch'⟩ : ∃ batch, resample.batch = .ok batch := ⟨_, rfl⟩
  obtain ⟨hpredict, hprobabilities⟩ := estimates_follow_rows model
    ⟨by decide, by decide⟩ ⟨by decide, by decide⟩ hbatch hbatch' (by decide) sample_selects
  obtain ⟨-, values', hvalues', hlength, hselected⟩ := hpredict values hvalues
  obtain ⟨-, ps', hps', hlength', hselected'⟩ := hprobabilities ps hps
  exact ⟨model, values, values', ps, ps', hmodel, sample_selects, hvalues, hvalues', hlength,
    hselected, hps, hps', hlength', hselected'⟩

end Model
end Exemplar
