/-
The batch that a table and its roles stand for.

There is one exactly if the columns of the roles have the types that the roles ask for.  Then each
feature stands under its name with its column as it is, and where a table has features every tensor
of the batch has as many rows as the table.
-/
import Exemplar.Inputs.Pair
import Exemplar.Inputs.Layout
import Exemplar.Proofs.Fallible
import Exemplar.Proofs.Tables

namespace Exemplar

/-- The types of the features, the continuous ones first. -/
def Roles.types (roles : Roles) : List (String × ElementType) :=
  roles.continuous.map (·, .float64) ++ roles.categorical.map (·, .string)

theorem Roles.keys_types (roles : Roles) : roles.types.map (·.1) = roles.features := by
  rw [types, List.map_append, List.map_map, List.map_map]
  simp [Function.comp_def, features]

namespace TrainingInputs

variable {inputs : TrainingInputs} {batch : Batch} {name : String} {column : Column}
variable {type : ElementType}

theorem tensor_eq_ok_iff : inputs.tensor type name = .ok column ↔
    inputs.table.column? name = some column ∧ column.elementType = type := by
  unfold tensor
  rw [bind_eq_ok_iff]
  simp only [Table.column_eq_ok_iff]
  constructor
  · rintro ⟨found, hfound, h⟩
    split at h
    · rename_i htype
      cases h
      exact ⟨hfound, htype⟩
    · cases h
  · rintro ⟨hfound, htype⟩
    exact ⟨column, hfound, if_pos htype⟩

/-- The columns of the roles have the types that the roles ask for. -/
structure IsTyped (inputs : TrainingInputs) : Prop where
  continuous : ∀ name ∈ inputs.roles.continuous, ∃ column,
    inputs.table.column? name = some column ∧ column.elementType = .float64
  categorical : ∀ name ∈ inputs.roles.categorical, ∃ column,
    inputs.table.column? name = some column ∧ column.elementType = .string
  label : ∃ column, inputs.table.column? inputs.roles.label = some column ∧
    column.elementType = inputs.roles.task.labelType

theorem IsTyped.exists_floats (h : inputs.IsTyped) (hname : name ∈ inputs.roles.continuous) :
    ∃ cells, inputs.table.column? name = some (.floats cells) := by
  obtain ⟨column, hcolumn, htype⟩ := h.continuous name hname
  cases column with
  | floats cells => exact ⟨cells, hcolumn⟩
  | ints cells => cases htype
  | texts cells => cases htype

theorem IsTyped.exists_texts (h : inputs.IsTyped) (hname : name ∈ inputs.roles.categorical) :
    ∃ cells, inputs.table.column? name = some (.texts cells) := by
  obtain ⟨column, hcolumn, htype⟩ := h.categorical name hname
  cases column with
  | texts cells => exact ⟨cells, hcolumn⟩
  | ints cells => cases htype
  | floats cells => cases htype

/-- A batch holds the columns of the features under their names, and that of the label. -/
structure IsBatch (inputs : TrainingInputs) (batch : Batch) : Prop where
  sorted : SortedMap.Sorted batch.features
  features : ∀ name column, batch.features.get? name = some column ↔
    name ∈ inputs.roles.features ∧ inputs.table.column? name = some column
  label : inputs.table.column? inputs.roles.label = some batch.label

theorem tensors_eq_ok {names : List String} {entries : List (String × Column)}
    (h : inputs.tensors type names = .ok entries) :
    entries.map (·.1) = names ∧ ∀ entry ∈ entries,
      inputs.table.column? entry.1 = some entry.2 ∧ entry.2.elementType = type := by
  have hall := mapM_eq_ok_iff.1 h
  clear h
  induction hall with
  | nil => exact ⟨rfl, fun _ h => by cases h⟩
  | @cons name entry names entries hentry _ ih =>
    cases htensor : inputs.tensor type name with
    | error error =>
      rw [htensor] at hentry
      cases hentry
    | ok column =>
      rw [htensor] at hentry
      cases hentry
      refine ⟨congrArg (name :: ·) ih.1, List.forall_mem_cons.2 ⟨?_, ih.2⟩⟩
      exact tensor_eq_ok_iff.1 htensor

theorem batch_eq_ok (h : inputs.batch = .ok batch) : inputs.IsTyped ∧ inputs.IsBatch batch := by
  unfold TrainingInputs.batch at h
  simp only [bind_eq_ok_iff] at h
  obtain ⟨continuous, hcontinuous, categorical, hcategorical, label, hlabel, h⟩ := h
  cases h
  obtain ⟨hnames₁, hentries₁⟩ := tensors_eq_ok hcontinuous
  obtain ⟨hnames₂, hentries₂⟩ := tensors_eq_ok hcategorical
  have hlabel' := tensor_eq_ok_iff.1 hlabel
  have hcolumn : ∀ entry ∈ continuous ++ categorical,
      inputs.table.column? entry.1 = some entry.2 := by
    intro entry hentry
    rcases List.mem_append.1 hentry with hentry | hentry
    · exact (hentries₁ entry hentry).1
    · exact (hentries₂ entry hentry).1
  have hnames : (continuous ++ categorical).map (·.1) = inputs.roles.features := by
    rw [List.map_append, hnames₁, hnames₂]
    rfl
  refine ⟨⟨?_, ?_, label, hlabel'⟩, SortedMap.sorted_ofList _, fun name column => ?_, hlabel'.1⟩
  · rw [← hnames₁]
    exact List.forall_mem_map.2 fun entry hentry => ⟨entry.2, hentries₁ entry hentry⟩
  · rw [← hnames₂]
    exact List.forall_mem_map.2 fun entry hentry => ⟨entry.2, hentries₂ entry hentry⟩
  rw [(SortedMap.sorted_ofList _).get?_eq_some_iff]
  constructor
  · intro hmem
    have hmem' := SortedMap.mem_of_mem_ofList hmem
    exact ⟨hnames ▸ List.mem_map_of_mem hmem', hcolumn _ hmem'⟩
  · rintro ⟨hname, hfound⟩
    rw [← hnames, ← SortedMap.mem_keys_ofList] at hname
    obtain ⟨⟨n, other⟩, hentry, rfl⟩ := List.mem_map.1 hname
    have hother := hcolumn _ (SortedMap.mem_of_mem_ofList hentry)
    rw [hfound] at hother
    exact Option.some.inj hother ▸ hentry

theorem tensors_of_columns {names : List String} (h : ∀ name ∈ names, ∃ column,
    inputs.table.column? name = some column ∧ column.elementType = type) :
    ∃ entries, inputs.tensors type names = .ok entries := by
  refine mapM_ok_of_forall fun name hname => ?_
  obtain ⟨column, hcolumn⟩ := h name hname
  exact ⟨(name, column), by rw [tensor_eq_ok_iff.2 hcolumn]; rfl⟩

theorem IsTyped.exists_batch (h : inputs.IsTyped) : ∃ batch, inputs.batch = .ok batch := by
  obtain ⟨continuous, hcontinuous⟩ := tensors_of_columns h.continuous
  obtain ⟨categorical, hcategorical⟩ := tensors_of_columns h.categorical
  obtain ⟨label, hlabel⟩ := h.label
  unfold TrainingInputs.batch
  rw [hcontinuous, hcategorical, tensor_eq_ok_iff.2 hlabel]
  exact ⟨_, rfl⟩

/-- The types of the features by name. -/
theorem types_batch (h : inputs.batch = .ok batch) :
    batch.features.mapValues Column.elementType = SortedMap.ofList inputs.roles.types := by
  unfold TrainingInputs.batch at h
  simp only [bind_eq_ok_iff] at h
  obtain ⟨continuous, hcontinuous, categorical, hcategorical, label, hlabel, h⟩ := h
  cases h
  have htypes {type : ElementType} {names : List String} {entries : List (String × Column)}
      (h : inputs.tensors type names = .ok entries) :
      entries.map (fun entry => (entry.1, entry.2.elementType)) = names.map (·, type) := by
    obtain ⟨hnames, hentries⟩ := tensors_eq_ok h
    rw [← hnames, List.map_map]
    exact List.map_congr_left fun entry hentry => by rw [(hentries entry hentry).2]; rfl
  show SortedMap.mapValues Column.elementType (SortedMap.ofList (continuous ++ categorical)) = _
  rw [SortedMap.mapValues_ofList, List.map_append, htypes hcontinuous, htypes hcategorical]
  rfl

/-! ## Rows of a batch -/

theorem IsBatch.features_eq_nil_iff (h : inputs.IsBatch batch) (htyped : inputs.IsTyped) :
    batch.features = [] ↔ inputs.roles.features = [] := by
  constructor
  · intro hempty
    refine List.eq_nil_iff_forall_not_mem.2 fun name hname => ?_
    have hfound : ∃ column, inputs.table.column? name = some column := by
      rcases List.mem_append.1 hname with hmem | hmem
      · exact (htyped.continuous name hmem).imp fun _ h => h.1
      · exact (htyped.categorical name hmem).imp fun _ h => h.1
    obtain ⟨column, hcolumn⟩ := hfound
    have hget := (h.features name column).2 ⟨hname, hcolumn⟩
    rw [hempty] at hget
    cases hget
  · intro hempty
    cases hfeatures : batch.features with
    | nil => rfl
    | cons entry rest =>
      have hget := h.sorted.get?_eq_some_iff.2 (hfeatures ▸ List.mem_cons_self : entry ∈ _)
      have hname := ((h.features entry.1 entry.2).1 hget).1
      rw [hempty] at hname
      cases hname

/-- A batch has the rows of the table, and none if there are no features. -/
theorem IsBatch.batchRows_eq (h : inputs.IsBatch batch) (htyped : inputs.IsTyped)
    (hformed : inputs.table.IsFormed) : Layout.batchRows batch.features
      = if inputs.roles.features = [] then 0 else inputs.rowCount := by
  cases hfeatures : batch.features with
  | nil => rw [if_pos ((h.features_eq_nil_iff htyped).1 hfeatures), Layout.batchRows]
  | cons entry rest =>
    have hne : inputs.roles.features ≠ [] := fun hempty => by
      rw [(h.features_eq_nil_iff htyped).2 hempty] at hfeatures
      cases hfeatures
    have hget := h.sorted.get?_eq_some_iff.2 (hfeatures ▸ List.mem_cons_self : entry ∈ _)
    rw [if_neg hne]
    exact hformed.length_of_column? ((h.features entry.1 entry.2).1 hget).2

/-- The tensor of every feature has the rows of the batch. -/
theorem IsBatch.length_of_get? (h : inputs.IsBatch batch) (htyped : inputs.IsTyped)
    (hformed : inputs.table.IsFormed) (hget : batch.features.get? name = some column) :
    column.length = Layout.batchRows batch.features := by
  obtain ⟨hname, hcolumn⟩ := (h.features name column).1 hget
  rw [h.batchRows_eq htyped hformed, if_neg (List.ne_nil_of_mem hname)]
  exact hformed.length_of_column? hcolumn

end TrainingInputs

/-! ## Training and serving -/

namespace ServingInputs

variable {serving : ServingInputs} {name : String} {place : Placeholder}

theorem types_eq (serving : ServingInputs) :
    serving.types = SortedMap.ofList serving.roles.types := by
  unfold types placeholders
  rw [SortedMap.mapValues_ofList, List.map_append, List.map_map, List.map_map]
  rfl

theorem mem_keys_types {roles : Roles} :
    name ∈ (SortedMap.ofList roles.types).keys ↔ name ∈ roles.features := by
  rw [SortedMap.mem_keys_ofList, roles.keys_types]

/-- Roles that are served with the same names and types have the same features. -/
theorem mem_features_of_types_eq {roles : Roles}
    (h : SortedMap.ofList roles.types = serving.types) (hname : name ∈ roles.features) :
    name ∈ serving.roles.features := by
  rw [types_eq] at h
  rwa [← mem_keys_types, ← h, mem_keys_types]

theorem get?_placeholders (h : name ∈ serving.roles.features) :
    ∃ type, serving.placeholders.get? name = some (placeholder type name).2 := by
  have hkey : name ∈ serving.placeholders.keys := by
    unfold placeholders
    rw [SortedMap.mem_keys_ofList, List.map_append, List.map_map, List.map_map]
    simpa [placeholder, Function.comp_def, Roles.features] using h
  obtain ⟨⟨n, place⟩, hplace, rfl⟩ := List.mem_map.1 hkey
  have hget := (SortedMap.sorted_ofList _).get?_eq_some_iff.2 hplace
  rcases List.mem_append.1 (SortedMap.mem_of_mem_ofList hplace) with hmem | hmem
  · obtain ⟨_, -, heq⟩ := List.mem_map.1 hmem
    cases heq
    exact ⟨.float64, hget⟩
  · obtain ⟨_, -, heq⟩ := List.mem_map.1 hmem
    cases heq
    exact ⟨.string, hget⟩

end ServingInputs

theorem checkShapes_eq_ok {rows : Nat} {placeholders : SortedMap Placeholder} {name : String}
    {tensor : Column} {type : ElementType} (hlength : tensor.length = rows)
    (hplace : placeholders.get? name = some (ServingInputs.placeholder type name).2) :
    checkShapes rows placeholders name tensor = .ok () := by
  have hshape : tensor.shape = [rows, 1] := by rw [Column.shape, hlength]
  unfold checkShapes
  dsimp only
  rw [if_neg (not_not.2 hshape), hplace]
  rfl

theorem forM_eq_ok {ε α : Type} {f : α → Except ε Unit} {xs : List α}
    (h : ∀ x ∈ xs, f x = .ok ()) : xs.forM f = .ok () := by
  induction xs with
  | nil => rfl
  | cons x xs ih =>
    show f x >>= (fun _ => xs.forM f) = .ok ()
    rw [h x List.mem_cons_self]
    exact ih fun x' hx' => h x' (List.mem_cons_of_mem _ hx')

/-- A batch agrees with serving inputs whose features have the same names and types. -/
theorem checkParity_eq_ok {inputs : TrainingInputs} {serving : ServingInputs} {batch : Batch}
    (h : inputs.batch = .ok batch) (hformed : inputs.table.IsFormed)
    (htypes : SortedMap.ofList inputs.roles.types = serving.types) :
    checkParity inputs serving = .ok () := by
  have hbatch := (TrainingInputs.batch_eq_ok h).2
  have hsame : batch.features.mapValues Column.elementType
      = serving.signature.features.mapValues (·.type) :=
    (TrainingInputs.types_batch h).trans htypes
  have hshapes : batch.features.forM (fun entry => checkShapes inputs.rowCount
      serving.signature.features entry.1 entry.2) = .ok () := by
    refine forM_eq_ok fun entry hentry => ?_
    obtain ⟨hname, hcolumn⟩ := (hbatch.features entry.1 entry.2).1
      (hbatch.sorted.get?_eq_some_iff.2 hentry)
    obtain ⟨type, hplace⟩ :=
      ServingInputs.get?_placeholders (ServingInputs.mem_features_of_types_eq htypes hname)
    exact checkShapes_eq_ok (hformed.length_of_column? hcolumn) hplace
  have hlabel : ¬ serving.signature.label.isSome = true := Bool.false_ne_true
  have hdefaults : ¬ serving.signature.defaultInputs ≠ serving.signature.features := not_not.2 rfl
  unfold checkParity
  rw [h]
  dsimp only [bind, Except.bind]
  rw [if_neg (not_not.2 hsame), if_neg hlabel, if_neg hdefaults]
  exact hshapes

end Exemplar
