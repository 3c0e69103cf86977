/-
What serving checks of a model's columns.

The columns of a model are collected into a map from names to types before they
are compared with the placeholders, and of columns of one name the map holds the
type of the last.  So every column of a model that is accepted finds its tensor,
but one whose type was lost in the map does not fit it: the encoding then ends
there, if it comes that far.  Where all columns of a name say the same type
nothing is lost, and no batch of the roles that were served is refused for a
name or a type.
-/
import Exemplar.Proofs.ColumnFaults
import Exemplar.Proofs.Learning

namespace Exemplar

theorem SortedMap.get?_mapValues {α β : Type} (f : α → β) (m : SortedMap α) (name : String) :
    (m.mapValues f).get? name = (m.get? name).map f := by
  unfold mapValues get?
  induction m with
  | nil => rfl
  | cons entry rest ih =>
    rw [List.map_cons, List.lookup_cons, List.lookup_cons, ih]
    by_cases hname : (name == entry.1) = true
    · simp [hname]
    · simp [hname]

namespace Description

variable {columns : List InputColumn} {column : InputColumn}

/-- A model with some columns is accepted for the serving inputs, when it is described for its
export or when it was read back. -/
def Accepts (columns : List InputColumn) (serving : ServingInputs) : Prop :=
  (∃ d : Description, d.columns = columns ∧ d.checkServing serving = .ok ()) ∨
    ∃ estimator architecture head hiddenUnits steps d,
      of estimator architecture head columns hiddenUnits steps serving = .ok d

/-- Columns of one name say one type. -/
def AreConsistent (columns : List InputColumn) : Prop :=
  ∀ column ∈ columns, ∀ other ∈ columns, column.column = other.column → column.type = other.type

instance (columns : List InputColumn) : Decidable (AreConsistent columns) :=
  inferInstanceAs (Decidable (∀ column ∈ columns, ∀ other ∈ columns,
    column.column = other.column → column.type = other.type))

theorem checkColumns_eq_ok_iff {serving : ServingInputs} :
    checkColumns columns serving = .ok () ↔ columnTypes columns = serving.types := by
  unfold checkColumns
  split <;> simp_all

theorem Accepts.columnTypes_eq {serving : ServingInputs} (h : Accepts columns serving) :
    columnTypes columns = serving.types := by
  rcases h with ⟨d, rfl, hserving⟩ | ⟨estimator, architecture, head, hiddenUnits, steps, d, hd⟩
  · obtain ⟨⟨⟩, hcheck, -⟩ := bind_eq_ok_iff.1 hserving
    exact checkColumns_eq_ok_iff.1 hcheck
  · obtain ⟨⟨⟩, hcheck, -⟩ := bind_eq_ok_iff.1 hd
    exact checkColumns_eq_ok_iff.1 hcheck

theorem exists_columnType (h : column ∈ columns) :
    ∃ type, SortedMap.get? (columnTypes columns) column.column = some type := by
  have hkey : column.column ∈ SortedMap.keys (columnTypes columns) := by
    rw [columnTypes, SortedMap.mem_keys_ofList, List.map_map]
    exact List.mem_map_of_mem (f := fun column => column.column) h
  obtain ⟨⟨name, type⟩, hentry, hname⟩ := List.mem_map.1 hkey
  rw [← hname]
  exact ⟨type, (SortedMap.sorted_ofList _).get?_eq_some_iff.2 hentry⟩

/-- No type is lost exactly if columns of one name say one type. -/
theorem areConsistent_iff : AreConsistent columns ↔
    ∀ column ∈ columns, SortedMap.get? (columnTypes columns) column.column = some column.type := by
  constructor
  · intro h column hcolumn
    obtain ⟨type, htype⟩ := exists_columnType hcolumn
    have hentry := SortedMap.mem_of_mem_ofList (SortedMap.mem_of_get? htype)
    obtain ⟨other, hother, heq⟩ := List.mem_map.1 hentry
    obtain ⟨hname, hsame⟩ := Prod.mk.inj heq
    rw [htype, ← hsame, h column hcolumn other hother hname.symm]
  · intro h column hcolumn other hother hname
    have hfound := h column hcolumn
    rw [hname, h other hother] at hfound
    exact (Option.some.inj hfound).symm

end Description

namespace TrainingInputs

variable {inputs : TrainingInputs} {batch : Batch} {columns : List InputColumn}
variable {column : InputColumn} {name : String} {expected actual : ElementType}

/-- The columns of an accepted model find their tensors, each of the type that the map has. -/
theorem exists_tensor_of_accepts (hbatch : inputs.batch = .ok batch)
    (haccepts : Description.Accepts columns ⟨inputs.roles⟩) (hcolumn : column ∈ columns) :
    ∃ tensor, batch.features.get? column.column = some tensor ∧
      SortedMap.get? (Description.columnTypes columns) column.column = some tensor.elementType := by
  have htypes : Description.columnTypes columns = batch.features.mapValues Column.elementType := by
    rw [haccepts.columnTypes_eq, ServingInputs.types_eq, types_batch hbatch]
  obtain ⟨type, htype⟩ := Description.exists_columnType hcolumn
  have hfound := htype
  rw [htypes, SortedMap.get?_mapValues] at hfound
  obtain ⟨tensor, hget, rfl⟩ := Option.map_eq_some_iff.1 hfound
  exact ⟨tensor, hget, htype⟩

/-- What is wrong with a column of an accepted model is a lost type or an unknown key. -/
theorem columnFault?_of_accepts (hbatch : inputs.batch = .ok batch)
    (hformed : inputs.table.IsFormed) (haccepts : Description.Accepts columns ⟨inputs.roles⟩)
    (hcolumn : column ∈ columns) {error : DataError}
    (h : Layout.columnFault? batch.features (Layout.batchRows batch.features) column = some error) :
    (∃ actual, SortedMap.get? (Description.columnTypes columns) column.column = some actual ∧
      actual ≠ column.type ∧ error = .typeMismatch column.column column.type actual) ∨
    SortedMap.get? (Description.columnTypes columns) column.column = some column.type ∧
      ∃ key, error = .unknownCategory column.column key := by
  obtain ⟨tensor, hget, htype⟩ := exists_tensor_of_accepts hbatch haccepts hcolumn
  by_cases hsame : tensor.elementType = column.type
  · right
    obtain ⟨htyped, hisBatch⟩ := batch_eq_ok hbatch
    have hlength := hisBatch.length_of_get? htyped hformed hget
    rw [Layout.columnFault?_of_fits hget hsame hlength] at h
    obtain ⟨key, -, herror⟩ := Layout.keyFault?_eq_some h
    exact ⟨by rw [htype, hsame], key, herror⟩
  · left
    rw [Layout.columnFault?_of_type_ne hget hsame] at h
    exact ⟨tensor.elementType, htype, hsame, (Option.some.inj h).symm⟩

/-- A batch is refused for a type exactly if the first column that does not fit it is one whose type
was lost. -/
theorem typeMismatch_iff (hbatch : inputs.batch = .ok batch) (hformed : inputs.table.IsFormed)
    (haccepts : Description.Accepts columns ⟨inputs.roles⟩) :
    Layout.sparseRows ⟨columns⟩ batch.features = .error (.typeMismatch name expected actual) ↔
      ∃ before column after, columns = before ++ column :: after ∧ name = column.column ∧
        expected = column.type ∧
        SortedMap.get? (Description.columnTypes columns) name = some actual ∧
        actual ≠ expected ∧ ∀ earlier ∈ before,
          Layout.Encodes batch.features (Layout.batchRows batch.features) earlier := by
  rw [Layout.sparseRows_eq_error_iff, List.findSome?_eq_some_iff]
  simp only [Layout.columnFault?_eq_none_iff]
  constructor
  · intro h
    obtain ⟨before, column, after, hcolumns, hfault, hbefore⟩ := h
    have hcolumn : column ∈ columns := by
      rw [show columns = _ from hcolumns]
      simp
    rcases columnFault?_of_accepts hbatch hformed haccepts hcolumn hfault with hlost | hkey
    · obtain ⟨lost, hget, hne, herror⟩ := hlost
      cases herror
      exact ⟨before, column, after, hcolumns, rfl, rfl, hget, hne, hbefore⟩
    · obtain ⟨-, key, herror⟩ := hkey
      cases herror
  · intro h
    obtain ⟨before, column, after, hcolumns, rfl, rfl, hget, hne, hbefore⟩ := h
    have hcolumn : column ∈ columns := by
      rw [hcolumns]
      simp
    obtain ⟨tensor, htensor, htype⟩ := exists_tensor_of_accepts hbatch haccepts hcolumn
    obtain rfl : actual = tensor.elementType := Option.some.inj (hget.symm.trans htype)
    exact ⟨before, column, after, hcolumns, Layout.columnFault?_of_type_ne htensor hne, hbefore⟩

end TrainingInputs

namespace Description

/-- Encoding a table that was classified with the roles that a model is served with never fails for
a missing column.  It fails for a type exactly if a column says another type than the last of its
name and all columns before it can be encoded.  So if the columns of a name say one type it never
fails for a type, and if they do not it never succeeds. -/
theorem accepted_columns_encode_iff {t coerced : Table} {a : Assignment} {roles : Roles}
    {columns : List InputColumn} (hformed : t.IsFormed)
    (hclassify : t.classify a = (coerced, .ok roles)) (haccepts : Accepts columns ⟨roles⟩) :
    ∃ batch, TrainingInputs.batch ⟨coerced, roles⟩ = .ok batch ∧
      (∀ name, Layout.sparseRows ⟨columns⟩ batch.features ≠ .error (.unknownColumn name)) ∧
      (∀ name expected actual,
        Layout.sparseRows ⟨columns⟩ batch.features = .error (.typeMismatch name expected actual) ↔
          ∃ before column after, columns = before ++ column :: after ∧ name = column.column ∧
            expected = column.type ∧ SortedMap.get? (columnTypes columns) name = some actual ∧
            actual ≠ expected ∧ ∀ earlier ∈ before,
              Layout.Encodes batch.features (Layout.batchRows batch.features) earlier) ∧
      (AreConsistent columns → ∀ name expected actual,
        Layout.sparseRows ⟨columns⟩ batch.features ≠ .error (.typeMismatch name expected actual)) ∧
      (¬ AreConsistent columns →
        ∀ rows, Layout.sparseRows ⟨columns⟩ batch.features ≠ .ok rows) := by
  have htyped := Table.isTyped_of_classify hclassify
  have hcoerced : coerced.IsFormed := (Table.classify_eq_ok hclassify).2.2.formed hformed
  obtain ⟨batch, hbatch⟩ := htyped.exists_batch
  refine ⟨batch, hbatch, ?_, ?_, ?_, ?_⟩
  · intro name h
    obtain ⟨column, hcolumn, hfault⟩ :=
      List.exists_of_findSome?_eq_some (Layout.sparseRows_eq_error_iff.1 h)
    rcases TrainingInputs.columnFault?_of_accepts hbatch hcoerced haccepts hcolumn hfault with
      hlost | hkey
    · obtain ⟨actual, -, -, herror⟩ := hlost
      cases herror
    · obtain ⟨-, key, herror⟩ := hkey
      cases herror
  · intro name expected actual
    exact TrainingInputs.typeMismatch_iff hbatch hcoerced haccepts
  · intro hconsistent name expected actual h
    obtain ⟨before, column, after, hcolumns, rfl, rfl, hget, hne, -⟩ :=
      (TrainingInputs.typeMismatch_iff hbatch hcoerced haccepts).1 h
    have hkept := areConsistent_iff.1 hconsistent column (by rw [hcolumns]; simp)
    exact hne (Option.some.inj (hget.symm.trans hkept))
  · intro hinconsistent rows h
    refine hinconsistent (areConsistent_iff.2 ?_)
    intro column hcolumn
    obtain ⟨tensor, hget, htype, -⟩ := (Layout.sparseRows_eq_ok_iff.1 h).1 column hcolumn
    obtain ⟨found, hfound, hkept⟩ :=
      TrainingInputs.exists_tensor_of_accepts hbatch haccepts hcolumn
    obtain rfl : tensor = found := Option.some.inj (hget.symm.trans hfound)
    rw [hkept, htype]

/-- A model that takes a number twice. -/
theorem accepted_columns_encode_once :
    let columns : List InputColumn := [.keyed ⟨"c", .string, ["a", "b"]⟩,
      .realValued ⟨"x", .float64⟩, .realValued ⟨"x", .float64⟩]
    Accepts columns ⟨Model.sample.roles⟩ ∧ AreConsistent columns ∧
      ∃ batch, Model.sample.batch = .ok batch ∧ ∀ name expected actual,
        Layout.sparseRows ⟨columns⟩ batch.features
          ≠ .error (.typeMismatch name expected actual) := by
  intro columns
  have hformed : Model.sampleTable.IsFormed := ⟨by decide, by decide⟩
  have haccepts : Accepts columns ⟨Model.sample.roles⟩ :=
    .inr ⟨"linear", .linear, .regression, [], 0, _, rfl⟩
  have hconsistent : AreConsistent columns := by decide
  obtain ⟨batch, hbatch, -, -, hencodes, -⟩ :=
    accepted_columns_encode_iff hformed Model.classify_sample haccepts
  exact ⟨haccepts, hconsistent, batch, hbatch, hencodes hconsistent⟩

/-- A column of numbers and one of keys have one name, and only the type of the second is
checked. -/
theorem lost_type_is_refused :
    let columns : List InputColumn :=
      [.realValued ⟨"c", .float64⟩, .keyed ⟨"c", .string, ["a", "b"]⟩]
    let inputs : TrainingInputs :=
      ⟨⟨[("c", .texts ["a", "b"]), ("y", .floats [1.0, 2.0])]⟩, [], ["c"], "y", .regression⟩
    inputs.table.IsFormed ∧
      inputs.table.classify ⟨[], ["c"], "y", .numeric⟩ = (inputs.table, .ok inputs.roles) ∧
      (∃ d : Description, d.columns = columns ∧ d.checkServing ⟨inputs.roles⟩ = .ok ()) ∧
      ∃ batch, inputs.batch = .ok batch ∧
        Layout.sparseRows ⟨columns⟩ batch.features
          = .error (.typeMismatch "c" .float64 .string) := by
  intro columns inputs
  have hformed : inputs.table.IsFormed := ⟨by decide, by decide⟩
  have hclassify : inputs.table.classify ⟨[], ["c"], "y", .numeric⟩
      = (inputs.table, .ok inputs.roles) := by
    decide +kernel
  let d : Description := ⟨currentVersion, "linear", .linear, .regression, columns, [], 0,
    [(servingKey, callSignature .regression ⟨inputs.roles⟩)]⟩
  have hserving : d.checkServing ⟨inputs.roles⟩ = .ok () := by decide +kernel
  exact ⟨hformed, hclassify, ⟨d, rfl, hserving⟩, _, rfl, rfl⟩

end Description
end Exemplar
