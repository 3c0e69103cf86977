/-
When training and serving inputs agree.

The roles ask for a column of a type under each of their names.  There is a batch exactly if the
table has them all, and otherwise the error is about the first that it has not.  A batch agrees with
serving inputs exactly if their roles name the same continuous and the same categorical features, in
whatever order and with whatever label; if not, it is told of all names and types on both sides.
Nothing else that is checked can fail: serving has no label, its default inputs are its features,
and on both sides every feature is a single column.
-/
import Exemplar.Proofs.Classifying
import Exemplar.Proofs.ColumnFaults

namespace Exemplar

/-! ## What the roles ask for -/

/-- The columns that the roles ask for and their types, the label last. -/
def Roles.demands (roles : Roles) : List (String × ElementType) :=
  roles.types ++ [(roles.label, roles.task.labelType)]

namespace TrainingInputs

variable {inputs : TrainingInputs} {type : ElementType} {name : String} {error : DataError}

/-- A column that is asked for is not there or has another type. -/
def Misses (inputs : TrainingInputs) (error : DataError) (demand : String × ElementType) : Prop :=
  inputs.table.column? demand.1 = none ∧ error = .unknownColumn demand.1 ∨
    ∃ column, inputs.table.column? demand.1 = some column ∧ column.elementType ≠ demand.2 ∧
      error = .typeMismatch demand.1 demand.2 column.elementType

theorem tensor_eq_error_iff :
    inputs.tensor type name = .error error ↔ inputs.Misses error (name, type) := by
  unfold tensor Misses Table.column
  cases inputs.table.column? name with
  | none => simp [bind, Except.bind, eq_comm]
  | some column =>
    by_cases htype : column.elementType = type
    · simp [bind, Except.bind, htype]
    · simp [bind, Except.bind, htype, @eq_comm _ error]

theorem errorOf?_tensors (type : ElementType) (names : List String) :
    errorOf? (inputs.tensors type names) = (names.map (·, type)).findSome? fun demand =>
      errorOf? (inputs.tensor demand.2 demand.1) := by
  unfold tensors
  rw [errorOf?_mapM, List.findSome?_map]
  simp only [errorOf?_map, Function.comp_def]

theorem errorOf?_batch (inputs : TrainingInputs) : errorOf? inputs.batch
    = inputs.roles.demands.findSome? fun demand => errorOf? (inputs.tensor demand.2 demand.1) := by
  unfold TrainingInputs.batch Roles.demands Roles.types
  rw [List.findSome?_append, List.findSome?_append, Option.or_assoc, ← errorOf?_tensors,
    ← errorOf?_tensors]
  refine errorOf?_bind fun continuous => errorOf?_bind fun categorical => ?_
  have hlast (label : Column) : errorOf? (pure
      ⟨SortedMap.ofList (continuous ++ categorical), label⟩ : Except DataError Batch) = none := rfl
  rw [errorOf?_bind hlast]
  simp

/-- What stands in the way of a batch is the first column that is asked for and is missed. -/
theorem batch_eq_error_iff : inputs.batch = .error error ↔ ∃ before demand after,
    inputs.roles.demands = before ++ demand :: after ∧ inputs.Misses error demand ∧
      ∀ earlier ∈ before, ∀ other, ¬ inputs.Misses other earlier := by
  rw [← errorOf?_eq_some_iff, errorOf?_batch, List.findSome?_eq_some_iff]
  simp only [errorOf?_eq_some_iff, tensor_eq_error_iff, Option.eq_none_iff_forall_ne_some, ne_eq]

theorem not_isTyped_of_batch_error (h : inputs.batch = .error error) : ¬ inputs.IsTyped := by
  intro htyped
  obtain ⟨batch, hbatch⟩ := htyped.exists_batch
  cases h.symm.trans hbatch

end TrainingInputs

/-! ## What the features are called -/

namespace Roles

variable {roles other : Roles} {name : String}

/-- The same continuous and the same categorical features, in whatever order. -/
def SameFeatures (roles other : Roles) : Prop :=
  (∀ name, name ∈ roles.continuous ↔ name ∈ other.continuous) ∧
    ∀ name, name ∈ roles.categorical ↔ name ∈ other.categorical

theorem mem_types_float_iff : (name, ElementType.float64) ∈ roles.types ↔
    name ∈ roles.continuous := by
  simp [types]

theorem mem_types_string_iff : (name, ElementType.string) ∈ roles.types ↔
    name ∈ roles.categorical := by
  simp [types]

theorem sameFeatures_iff :
    roles.SameFeatures other ↔ ∀ entry, entry ∈ roles.types ↔ entry ∈ other.types := by
  constructor
  · rintro ⟨hcontinuous, hcategorical⟩ ⟨name, type⟩
    simp [types, hcontinuous, hcategorical]
  · intro h
    constructor
    · intro name
      rw [← mem_types_float_iff, h, mem_types_float_iff]
    · intro name
      rw [← mem_types_string_iff, h, mem_types_string_iff]

theorem SameFeatures.mem_features (h : roles.SameFeatures other) (hname : name ∈ roles.features) :
    name ∈ other.features := by
  rw [features, List.mem_append] at hname ⊢
  exact hname.imp (h.1 name).1 (h.2 name).1

/-- Roles without a name in two of them have the same features exactly if the features have the same
names and types. -/
theorem ofList_types_eq_iff (h : roles.features.Nodup) (hother : other.features.Nodup) :
    SortedMap.ofList roles.types = SortedMap.ofList other.types ↔ roles.SameFeatures other := by
  have hperm {roles : Roles} (h : roles.features.Nodup) :
      (SortedMap.ofList roles.types).Perm roles.types :=
    SortedMap.ofList_perm (roles.keys_types ▸ h)
  rw [sameFeatures_iff]
  constructor
  · intro heq entry
    rw [← (hperm h).mem_iff, heq, (hperm hother).mem_iff]
  · intro hsame
    have hnodup {roles : Roles} (h : roles.features.Nodup) : roles.types.Nodup :=
      List.Nodup.of_map _ (roles.keys_types ▸ h)
    have htypes := (List.perm_ext_iff_of_nodup (hnodup h) (hnodup hother)).2 hsame
    exact (SortedMap.sorted_ofList _).eq_of_perm (SortedMap.sorted_ofList _)
      (((hperm h).trans htypes).trans (hperm hother).symm)

end Roles

/-! ## Agreement -/

section

variable {inputs : TrainingInputs} {serving : ServingInputs} {batch : Batch} {error : DataError}

theorem checkParity_of_batch_error (h : inputs.batch = .error error) :
    checkParity inputs serving = .error error := by
  unfold checkParity
  rw [h]
  rfl

/-- A batch that has other names or types than serving is told so. -/
theorem checkParity_of_types_ne (hbatch : inputs.batch = .ok batch)
    (htypes : SortedMap.ofList inputs.roles.types ≠ serving.types) :
    checkParity inputs serving = .error (.signatureMismatch
      (.trainingFeatures (SortedMap.ofList inputs.roles.types) serving.types)) := by
  unfold checkParity
  rw [hbatch]
  dsimp only [bind, Except.bind]
  rw [TrainingInputs.types_batch hbatch]
  exact if_pos htypes

/-- Every feature of a batch has its placeholder. -/
theorem isSome_placeholder (hbatch : inputs.batch = .ok batch)
    (hsame : inputs.roles.SameFeatures serving.roles) {name : String}
    (hname : name ∈ batch.features.keys) : (serving.placeholders.get? name).isSome := by
  obtain ⟨⟨n, tensor⟩, hentry, rfl⟩ := List.mem_map.1 hname
  have hisBatch := (TrainingInputs.batch_eq_ok hbatch).2
  have hmem := ((hisBatch.features n tensor).1 (hisBatch.sorted.get?_eq_some_iff.2 hentry)).1
  obtain ⟨type, hplace⟩ := ServingInputs.get?_placeholders (hsame.mem_features hmem)
  exact Option.isSome_of_eq_some hplace

variable (hformed : inputs.table.IsFormed) (htrained : inputs.roles.features.Nodup)
variable (hserved : serving.roles.features.Nodup)
include hformed htrained hserved

/-- There are three ways in which the check ends. -/
theorem checkParity_cases :
    (∃ error, inputs.batch = .error error ∧ checkParity inputs serving = .error error) ∨
    (inputs.IsTyped ∧ inputs.roles.SameFeatures serving.roles ∧
      checkParity inputs serving = .ok ()) ∨
    (inputs.IsTyped ∧ ¬ inputs.roles.SameFeatures serving.roles ∧
      checkParity inputs serving = .error (.signatureMismatch (.trainingFeatures
        (SortedMap.ofList inputs.roles.types) (SortedMap.ofList serving.roles.types)))) := by
  have hsame : SortedMap.ofList inputs.roles.types = serving.types ↔
      inputs.roles.SameFeatures serving.roles := by
    rw [ServingInputs.types_eq]
    exact Roles.ofList_types_eq_iff htrained hserved
  cases hbatch : inputs.batch with
  | error error => exact .inl ⟨error, rfl, checkParity_of_batch_error hbatch⟩
  | ok batch =>
    have htyped := (TrainingInputs.batch_eq_ok hbatch).1
    by_cases hfeatures : inputs.roles.SameFeatures serving.roles
    · exact .inr (.inl ⟨htyped, hfeatures, checkParity_eq_ok hbatch hformed (hsame.2 hfeatures)⟩)
    · rw [← ServingInputs.types_eq]
      exact .inr (.inr ⟨htyped, hfeatures, checkParity_of_types_ne hbatch (mt hsame.1 hfeatures)⟩)

theorem checkParity_eq_ok_iff : checkParity inputs serving = .ok () ↔
    inputs.IsTyped ∧ inputs.roles.SameFeatures serving.roles := by
  rcases checkParity_cases hformed htrained hserved with
    ⟨error, hbatch, hresult⟩ | ⟨htyped, hfeatures, hresult⟩ | ⟨htyped, hfeatures, hresult⟩
  · simp [hresult, TrainingInputs.not_isTyped_of_batch_error hbatch]
  · simp [hresult, htyped, hfeatures]
  · simp [hresult, hfeatures]

theorem checkParity_eq_error_iff : checkParity inputs serving = .error error ↔
    inputs.batch = .error error ∨
    inputs.IsTyped ∧ ¬ inputs.roles.SameFeatures serving.roles ∧
      error = .signatureMismatch (.trainingFeatures
        (SortedMap.ofList inputs.roles.types) (SortedMap.ofList serving.roles.types)) := by
  have hno (htyped : inputs.IsTyped) : inputs.batch ≠ .error error := fun hbatch =>
    TrainingInputs.not_isTyped_of_batch_error hbatch htyped
  rcases checkParity_cases hformed htrained hserved with
    ⟨fault, hbatch, hresult⟩ | ⟨htyped, hfeatures, hresult⟩ | ⟨htyped, hfeatures, hresult⟩
  · simp [hresult, hbatch, TrainingInputs.not_isTyped_of_batch_error hbatch]
  · simp [hresult, hno htyped, hfeatures]
  · simp [hresult, hno htyped, htyped, hfeatures, @eq_comm _ error]

end

theorem Table.nodup_features_of_classify {t t' : Table} {a : Assignment} {roles : Roles}
    (h : t.classify a = (t', .ok roles)) : roles.features.Nodup := by
  obtain ⟨rfl, hpartition, -⟩ := Table.classify_eq_ok h
  exact hpartition.nodup.of_append_left

/-- Training inputs on a table agree with serving inputs exactly if the table has what the roles of
the one ask for, in these types, and the roles of the other have the same features.  Otherwise the
error is that of the first column that is missed, or else it tells the names and types of the
features on both sides.  Nor is any placeholder looked up that is not there. -/
theorem parity_iff_same_features {t t₁ t₁' t₂ t₂' : Table} {a₁ a₂ : Assignment}
    {trained served : Roles} (hformed : t.IsFormed)
    (h₁ : t₁.classify a₁ = (t₁', .ok trained)) (h₂ : t₂.classify a₂ = (t₂', .ok served)) :
    let inputs : TrainingInputs := ⟨t, trained⟩
    let serving : ServingInputs := ⟨served⟩
    (checkParity inputs serving = .ok () ↔ inputs.IsTyped ∧ trained.SameFeatures served) ∧
    (∀ error, checkParity inputs serving = .error error ↔ inputs.batch = .error error ∨
      inputs.IsTyped ∧ ¬ trained.SameFeatures served ∧
        error = .signatureMismatch (.trainingFeatures
          (SortedMap.ofList trained.types) (SortedMap.ofList served.types))) ∧
    (∀ error, inputs.batch = .error error ↔ ∃ before demand after,
      trained.demands = before ++ demand :: after ∧
        inputs.Misses error demand ∧ ∀ earlier ∈ before, ∀ other, ¬ inputs.Misses other earlier) ∧
    ∀ batch, inputs.batch = .ok batch → trained.SameFeatures served →
      ∀ name ∈ batch.features.keys, (serving.signature.features.get? name).isSome := by
  intro inputs serving
  have htrained := Table.nodup_features_of_classify h₁
  have hserved := Table.nodup_features_of_classify h₂
  refine ⟨checkParity_eq_ok_iff hformed htrained hserved, fun error => ?_, fun error => ?_, ?_⟩
  · exact checkParity_eq_error_iff hformed htrained hserved
  · exact TrainingInputs.batch_eq_error_iff
  · exact fun batch hbatch hsame name hname => isSome_placeholder hbatch hsame hname

def readings : Table :=
  ⟨[("c", .texts ["a", "b"]), ("x", .floats [0.5, 1.5]), ("z", .ints [3, 4]),
    ("y", .floats [1.0, 0.0])]⟩

/-- Roles for the readings, with a numeric label. -/
def readingRoles (continuous : List String) : Assignment := ⟨continuous, ["c"], "y", .numeric⟩

/-- The readings agree with roles that name their features in another order and have another label,
but not with roles that leave one out.  Before they are classified, one of their columns is
missed. -/
theorem parity_iff_same_features_once :
    let a := readingRoles ["x", "z"]
    let other : Assignment := ⟨["z", "x"], ["c"], "y", .classes ["0.0", "1.0"]⟩
    let fewer := readingRoles ["x"]
    ∃ t t₁ t₂, readings.IsFormed ∧ t.IsFormed ∧ readings.classify a = (t, .ok a.roles) ∧
      readings.classify other = (t₁, .ok other.roles) ∧
      readings.classify fewer = (t₂, .ok fewer.roles) ∧
      checkParity ⟨t, a.roles⟩ ⟨other.roles⟩ = .ok () ∧
      checkParity ⟨t, a.roles⟩ ⟨fewer.roles⟩ = .error (.signatureMismatch (.trainingFeatures
        [("c", .string), ("x", .float64), ("z", .float64)] [("c", .string), ("x", .float64)])) ∧
      checkParity ⟨readings, a.roles⟩ ⟨a.roles⟩ = .error (.typeMismatch "z" .float64 .int64) := by
  intro a other fewer
  have hformed : readings.IsFormed := ⟨by decide, by decide⟩
  let t : Table := ⟨[("c", .texts ["a", "b"]), ("x", .floats [0.5, 1.5]), ("z", .floats [3.0, 4.0]),
    ("y", .floats [1.0, 0.0])]⟩
  have hformed' : t.IsFormed := ⟨by decide, by decide⟩
  have ha : readings.classify a = (t, .ok a.roles) := by decide +kernel
  have hother : readings.classify other
      = (⟨t.columns.set 3 ("y", .ints [1, 0])⟩, .ok other.roles) := by decide +kernel
  have hfewer : readings.classify fewer
      = (⟨t.columns.set 2 ("z", .ints [3, 4])⟩, .ok fewer.roles) := by decide +kernel
  have htyped : (TrainingInputs.mk t a.roles).IsTyped :=
    (TrainingInputs.batch_eq_ok (rfl : TrainingInputs.batch ⟨t, a.roles⟩ = .ok _)).1
  refine ⟨t, _, _, hformed, hformed', ha, hother, hfewer, ?_, ?_, ?_⟩
  · refine (parity_iff_same_features hformed' ha hother).1.2
      ⟨htyped, fun name => ?_, fun name => .rfl⟩
    exact (List.Perm.swap "z" "x" []).mem_iff
  · refine ((parity_iff_same_features hformed' ha hfewer).2.1 _).2 (.inr ⟨htyped, ?_, rfl⟩)
    intro hsame
    have hmem : "z" ∈ fewer.roles.continuous := (hsame.1 "z").1 (by decide)
    exact absurd hmem (by decide)
  · exact ((parity_iff_same_features hformed ha ha).2.1 _).2 (.inl rfl)

end Exemplar
