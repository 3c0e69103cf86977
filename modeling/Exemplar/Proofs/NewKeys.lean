/-
Keys that a vocabulary has not got.

A vocabulary is made of the keys of a table.  A batch of another table with the
same features is encoded unless one of its keys is new, and the error names the
first of these: the first column in the order of the features that has one, and
the key in the first of its rows.
-/
import Exemplar.Proofs.ColumnFaults
import Exemplar.Proofs.Decoding

namespace Exemplar

/-- The first item with a result, by its position. -/
theorem findSome?_eq_some_iff_getElem? {α β : Type} {f : α → Option β} {xs : List α} {y : β} :
    xs.findSome? f = some y ↔ ∃ (i : Nat) (x : α), xs[i]? = some x ∧ f x = some y ∧
      ∀ j < i, ∀ other, xs[j]? = some other → f other = none := by
  rw [List.findSome?_eq_some_iff]
  constructor
  · intro h
    obtain ⟨before, x, after, rfl, hx, hbefore⟩ := h
    refine ⟨before.length, x, by simp, hx, ?_⟩
    intro j hj other hother
    rw [List.getElem?_append_left hj] at hother
    exact hbefore other (List.mem_of_getElem? hother)
  · intro h
    obtain ⟨i, x, hi, hx, hbefore⟩ := h
    obtain ⟨hlt, hget⟩ := List.getElem?_eq_some_iff.1 hi
    refine ⟨xs.take i, x, xs.drop (i + 1), ?_, hx, ?_⟩
    · rw [← hget, List.getElem_cons_drop, List.take_append_drop]
    · intro other hother
      obtain ⟨j, hj, rfl⟩ := List.mem_take_iff_getElem.1 hother
      exact hbefore j (by omega) _ (List.getElem?_eq_getElem (by omega))

namespace Table

variable {seen t : Table} {name key : String} {r : Nat} {cells known : List String}

/-- A row of a table has a key in some column that no row of the other has there. -/
def IsNew (seen t : Table) (name : String) (r : Nat) (key : String) : Prop :=
  t.cell? name r = some (.text key) ∧ ∀ other, seen.cell? name other ≠ some (.text key)

/-- The first row of a column with a new key. -/
def IsFirstNew (seen t : Table) (name : String) (r : Nat) (key : String) : Prop :=
  IsNew seen t name r key ∧ ∀ before < r, ∀ other, ¬ IsNew seen t name before other

theorem cell?_of_texts (h : t.column? name = some (.texts cells)) :
    t.cell? name r = cells[r]?.map .text := by
  rw [cell?, h]
  rfl

theorem cell?_eq_text_iff (h : t.column? name = some (.texts cells)) :
    t.cell? name r = some (.text key) ↔ cells[r]? = some key := by
  rw [cell?_of_texts h, Option.map_eq_some_iff]
  simp

theorem isNew_iff (hseen : seen.column? name = some (.texts known))
    (h : t.column? name = some (.texts cells)) :
    IsNew seen t name r key ↔ cells[r]? = some key ∧ key ∉ known := by
  unfold IsNew
  simp only [ne_eq, cell?_eq_text_iff hseen, cell?_eq_text_iff h, List.mem_iff_getElem?,
    not_exists]

/-- If a key is new there is a first row with one. -/
theorem exists_isFirstNew (h : IsNew seen t name r key) :
    ∃ r key, IsFirstNew seen t name r key := by
  induction r using Nat.strong_induction_on generalizing key with
  | _ r ih =>
    by_cases hbefore : ∃ before < r, ∃ other, IsNew seen t name before other
    · obtain ⟨before, hlt, other, hnew⟩ := hbefore
      exact ih before hlt hnew
    · refine ⟨r, key, h, ?_⟩
      intro before hlt other hnew
      exact hbefore ⟨before, hlt, other, hnew⟩

/-- Numbers are no keys. -/
theorem not_isNew_of_floats {xs : List Float} (h : t.column? name = some (.floats xs)) :
    ¬ IsNew seen t name r key := by
  intro hnew
  have hcell := hnew.1
  rw [cell?, h] at hcell
  obtain ⟨x, -, hx⟩ := Option.map_eq_some_iff.1 hcell
  cases hx

end Table

/-- Of the features only the categorical ones can have new keys. -/
theorem TrainingInputs.IsTyped.forall_not_isNew_iff {inputs : TrainingInputs} {seen : Table}
    (h : inputs.IsTyped) :
    (∀ name ∈ inputs.roles.features, ∀ r key, ¬ Table.IsNew seen inputs.table name r key) ↔
      ∀ name ∈ inputs.roles.categorical, ∀ r key, inputs.table.cell? name r = some (.text key) →
        ∃ other, seen.cell? name other = some (.text key) := by
  constructor
  · intro hold name hname r key hcell
    by_contra hnot
    refine hold name (List.mem_append_right _ hname) r key ⟨hcell, ?_⟩
    intro other hother
    exact hnot ⟨other, hother⟩
  · intro hold name hname r key hnew
    rcases List.mem_append.1 hname with hreal | hkeyed
    · obtain ⟨xs, hcolumn⟩ := h.exists_floats hreal
      exact Table.not_isNew_of_floats hcolumn hnew
    · obtain ⟨other, hother⟩ := hold name hkeyed r key hnew.1
      exact hnew.2 other hother

/-- The encodings of a table are its continuous features and its categorical ones with their
keys. -/
theorem Encoding.mem_ofTable {table : Table} {roles : Roles} {encodings : List Encoding}
    (h : ofTable table roles = .ok encodings) {encoding : Encoding} (hmem : encoding ∈ encodings) :
    (∃ name ∈ roles.continuous, encoding = .realValued ⟨name, .float64⟩) ∨
      ∃ name ∈ roles.categorical, ∃ cells, table.column? name = some (.texts cells) ∧
        encoding = .keyed ⟨name, .string, SortedMap.distinct cells⟩ := by
  unfold ofTable at h
  obtain ⟨keyed, hkeyed, h⟩ := bind_eq_ok_iff.1 h
  obtain rfl := Except.ok.inj h
  rcases List.mem_append.1 hmem with hmem | hmem
  · obtain ⟨name, hname, rfl⟩ := List.mem_map.1 hmem
    exact .inl ⟨name, hname, rfl⟩
  · right
    refine forall_of_mapM (p := fun encoding => ∃ name ∈ roles.categorical, ∃ cells,
      table.column? name = some (.texts cells) ∧
        encoding = .keyed ⟨name, .string, SortedMap.distinct cells⟩) hkeyed ?_ encoding hmem
    intro name hname other hother
    obtain ⟨column, hcolumn, hkeys⟩ := bind_eq_ok_iff.1 hother
    obtain ⟨keys, hvocabulary, hother⟩ := bind_eq_ok_iff.1 hkeys
    obtain rfl := Except.ok.inj hother
    refine ⟨name, hname, ?_⟩
    unfold vocabulary at hvocabulary
    split at hvocabulary
    · cases hvocabulary
    · rename_i cells _
      cases hvocabulary
      exact ⟨cells, Table.column_eq_ok_iff.1 hcolumn, rfl⟩
    · cases hvocabulary

/-- A key is at fault exactly if the table of the vocabulary has not got it. -/
theorem KeyedColumn.errorOf?_keyIndex (name key : String) (known : List String) :
    errorOf? ((KeyedColumn.mk name .string (SortedMap.distinct known)).keyIndex key)
      = if key ∈ known then none else some (.unknownCategory name key) := by
  have hfound : (∃ i, (KeyedColumn.mk name .string (SortedMap.distinct known)).keyIndex key = .ok i)
      ↔ key ∈ known :=
    (exists_keyIndex_iff (SortedMap.pairwise_distinct known)).trans SortedMap.mem_distinct
  by_cases hkey : key ∈ known
  · rw [if_pos hkey, errorOf?_eq_none_iff]
    exact hfound.2 hkey
  · rw [if_neg hkey, errorOf?_eq_some_iff]
    cases hindex : (KeyedColumn.mk name .string (SortedMap.distinct known)).keyIndex key with
    | ok i => exact absurd (hfound.1 ⟨i, hindex⟩) hkey
    | error error => rw [keyIndex_eq_error hindex]

namespace Layout

open Table (IsNew IsFirstNew)

variable {inputs : TrainingInputs} {batch : Batch} {seen : Table} {encoding : Encoding}
variable {name : String} {known cells : List String} {error : DataError}

/-- The keys of a column against those of another table. -/
theorem findSome?_keyIndex_iff (hseen : seen.column? name = some (.texts known))
    (h : inputs.table.column? name = some (.texts cells)) :
    (cells.findSome? fun key => errorOf?
        ((KeyedColumn.mk name .string (SortedMap.distinct known)).keyIndex key)) = some error ↔
      ∃ r key, IsFirstNew seen inputs.table name r key ∧ error = .unknownCategory name key := by
  simp only [KeyedColumn.errorOf?_keyIndex, findSome?_eq_some_iff_getElem?, IsFirstNew,
    Table.isNew_iff hseen h]
  constructor
  · intro hfault
    obtain ⟨r, key, hkey, hnew, hbefore⟩ := hfault
    by_cases hknown : key ∈ known
    · rw [if_pos hknown] at hnew
      cases hnew
    · rw [if_neg hknown] at hnew
      refine ⟨r, key, ⟨⟨hkey, hknown⟩, ?_⟩, (Option.some.inj hnew).symm⟩
      intro before hlt other hother
      have hnone := hbefore before hlt other hother.1
      rw [if_neg hother.2] at hnone
      cases hnone
  · intro hfirst
    obtain ⟨r, key, ⟨⟨hkey, hnew⟩, hbefore⟩, herror⟩ := hfirst
    refine ⟨r, key, hkey, by rw [if_neg hnew, herror], ?_⟩
    intro before hlt other hother
    rw [if_pos (not_not.1 fun hnot => hbefore before hlt other ⟨hother, hnot⟩)]

/-- What is wrong with a column of a table's encodings, for the batch of another table, is the first
new key. -/
theorem columnFault?_resolve_iff {roles : Roles} {encodings : List Encoding}
    (hencodings : Encoding.ofTable seen roles = .ok encodings) (hmem : encoding ∈ encodings)
    (hcontinuous : inputs.roles.continuous = roles.continuous)
    (hcategorical : inputs.roles.categorical = roles.categorical)
    (hbatch : inputs.batch = .ok batch) (hformed : inputs.table.IsFormed) (density : Density) :
    columnFault? batch.features (batchRows batch.features) (encoding.resolve density)
        = some error ↔
      ∃ r key, IsFirstNew seen inputs.table encoding.column r key ∧
        error = .unknownCategory encoding.column key := by
  obtain ⟨htyped, hisBatch⟩ := TrainingInputs.batch_eq_ok hbatch
  rcases Encoding.mem_ofTable hencodings hmem with hreal | hkeyed
  · obtain ⟨name, hname, rfl⟩ := hreal
    rw [← hcontinuous] at hname
    obtain ⟨xs, hcolumn⟩ := htyped.exists_floats hname
    have hget := (hisBatch.features name _).2 ⟨List.mem_append_left _ hname, hcolumn⟩
    have hlength := hisBatch.length_of_get? htyped hformed hget
    show columnFault? _ _ (.realValued ⟨name, .float64⟩) = some error ↔ _
    rw [columnFault?_of_fits hget rfl hlength]
    constructor
    · intro hfault
      cases hfault
    · intro hnew
      obtain ⟨r, key, hfirst, -⟩ := hnew
      exact absurd hfirst.1 (Table.not_isNew_of_floats hcolumn)
  · obtain ⟨name, hname, known, hseen, rfl⟩ := hkeyed
    rw [← hcategorical] at hname
    obtain ⟨cells, hcolumn⟩ := htyped.exists_texts hname
    have hget := (hisBatch.features name _).2 ⟨List.mem_append_right _ hname, hcolumn⟩
    have hlength := hisBatch.length_of_get? htyped hformed hget
    cases density with
    | sparse =>
      rw [columnFault?_of_fits hget rfl hlength]
      exact findSome?_keyIndex_iff hseen hcolumn
    | dense =>
      rw [columnFault?_of_fits hget rfl hlength]
      exact findSome?_keyIndex_iff hseen hcolumn

/-! ## Batches with new keys -/

variable {l : Layout} {features : SortedMap Column} {t : Table}

/-- What is wrong with a column of a layout is its first new key. -/
def FailsOnNew (l : Layout) (seen t : Table) (features : SortedMap Column) : Prop :=
  ∀ column ∈ l.columns, ∀ error,
    columnFault? features (batchRows features) column = some error ↔
      ∃ r key, IsFirstNew seen t column.column r key ∧ error = .unknownCategory column.column key

namespace FailsOnNew

theorem columnFault?_eq_none_iff {column : InputColumn} (h : l.FailsOnNew seen t features)
    (hcolumn : column ∈ l.columns) :
    columnFault? features (batchRows features) column = none ↔
      ∀ r key, ¬ IsNew seen t column.column r key := by
  rw [Option.eq_none_iff_forall_ne_some]
  constructor
  · intro hnone r key hnew
    obtain ⟨first, other, hfirst⟩ := Table.exists_isFirstNew hnew
    exact hnone _ ((h column hcolumn _).2 ⟨first, other, hfirst, rfl⟩)
  · intro hold error herror
    obtain ⟨r, key, hfirst, -⟩ := (h column hcolumn error).1 herror
    exact hold r key hfirst.1

theorem exists_rows_iff (h : l.FailsOnNew seen t features) :
    (∃ rows, l.sparseRows features = .ok rows) ↔
      ∀ name ∈ l.columns.map (·.column), ∀ r key, ¬ IsNew seen t name r key := by
  have hrows : (∃ rows, l.sparseRows features = .ok rows) ↔
      ∀ column ∈ l.columns, Encodes features (batchRows features) column := by
    simp only [sparseRows_eq_ok_iff]
    constructor
    · intro hrows
      obtain ⟨rows, hencodes, -⟩ := hrows
      exact hencodes
    · intro hencodes
      exact ⟨_, hencodes, rfl⟩
  rw [hrows, List.forall_mem_map]
  refine forall₂_congr fun column hcolumn => ?_
  rw [← Layout.columnFault?_eq_none_iff, h.columnFault?_eq_none_iff hcolumn]

/-- The first column with a new key ends the encoding, with the first of its new keys. -/
theorem sparseRows_eq_error_iff (h : l.FailsOnNew seen t features) :
    l.sparseRows features = .error error ↔
      ∃ (i : Nat) (name : String) (r : Nat) (key : String),
        (l.columns.map (·.column))[i]? = some name ∧ error = .unknownCategory name key ∧
        IsFirstNew seen t name r key ∧
        ∀ j < i, ∀ earlier, (l.columns.map (·.column))[j]? = some earlier →
          ∀ r' key', ¬ IsNew seen t earlier r' key' := by
  rw [Layout.sparseRows_eq_error_iff, findSome?_eq_some_iff_getElem?]
  simp only [List.getElem?_map, Option.map_eq_some_iff]
  constructor
  · intro hfault
    obtain ⟨i, column, hi, hcolumn, hbefore⟩ := hfault
    obtain ⟨r, key, hfirst, herror⟩ := (h column (List.mem_of_getElem? hi) error).1 hcolumn
    refine ⟨i, column.column, r, key, ⟨column, hi, rfl⟩, herror, hfirst, ?_⟩
    rintro j hj _ ⟨other, hother, rfl⟩
    exact (h.columnFault?_eq_none_iff (List.mem_of_getElem? hother)).1 (hbefore j hj other hother)
  · intro hnew
    obtain ⟨i, _, r, key, ⟨column, hi, rfl⟩, herror, hfirst, hbefore⟩ := hnew
    refine ⟨i, column, hi, ?_, ?_⟩
    · exact (h column (List.mem_of_getElem? hi) error).2 ⟨r, key, hfirst, herror⟩
    · intro j hj other hother
      rw [h.columnFault?_eq_none_iff (List.mem_of_getElem? hother)]
      exact hbefore j hj _ ⟨other, hother, rfl⟩

end FailsOnNew
end Layout

namespace Encoding

open Table (IsNew IsFirstNew)
open Layout (decode?)

variable {seen t coerced : Table} {roles roles' : Roles} {encodings : List Encoding}

theorem columns_ofTable (h : ofTable seen roles = .ok encodings) :
    encodings.map (·.column) = roles.features := by
  have htypes := congrArg (List.map (·.1)) (types_ofTable h .sparse)
  simpa [Roles.types, Roles.features, Function.comp_def] using htypes

theorem isHonest_resolve (h : ofTable seen roles = .ok encodings) (density : Density) :
    ∀ column ∈ encodings.map (resolve density), column.IsHonest := by
  intro column hcolumn
  obtain ⟨encoding, hmem, rfl⟩ := List.mem_map.1 hcolumn
  rcases mem_ofTable h hmem with hreal | hkeyed
  · obtain ⟨name, -, rfl⟩ := hreal
    rfl
  · obtain ⟨name, -, keys, -, rfl⟩ := hkeyed
    cases density <;> rfl

/-- A batch is encoded with the encodings of another table with the same features, in the order of
the features.  It fails only for a key that the other table has not in the same column, and the
error names the first such column with the key in the first such row.  Otherwise every row has one
entry for each feature and decodes to the cells of the row. -/
theorem rows_decode_or_key_is_new {a : Assignment} (density : Density)
    (hencodings : ofTable seen roles = .ok encodings) (hfeatures : roles.features ≠ [])
    (hformed : t.IsFormed) (hclassify : t.classify a = (coerced, .ok roles'))
    (hcontinuous : roles'.continuous = roles.continuous)
    (hcategorical : roles'.categorical = roles.categorical) :
    let l : Layout := ⟨encodings.map (resolve density)⟩
    l.columns.map (·.column) = roles.features ∧
    ∃ batch, TrainingInputs.batch ⟨coerced, roles'⟩ = .ok batch ∧
      ((∃ rows, l.sparseRows batch.features = .ok rows) ↔
        ∀ name ∈ roles.categorical, ∀ r key, coerced.cell? name r = some (.text key) →
          ∃ other, seen.cell? name other = some (.text key)) ∧
      (∀ error, l.sparseRows batch.features = .error error ↔
        ∃ (i : Nat) (name : String) (r : Nat) (key : String), roles.features[i]? = some name ∧
          error = .unknownCategory name key ∧ IsFirstNew seen coerced name r key ∧
          ∀ j < i, ∀ earlier, roles.features[j]? = some earlier →
            ∀ r' key', ¬ IsNew seen coerced earlier r' key') ∧
      ∀ rows, l.sparseRows batch.features = .ok rows → rows.length = coerced.rowCount ∧
        ∀ (r : Nat) row, rows[r]? = some row → row.length = roles.features.length ∧
          ∃ cells, decode? l.placed row = some cells ∧
            List.Forall₂ (fun name cell => coerced.cell? name r = some cell)
              roles.features cells := by
  intro l
  have hnames : l.columns.map (·.column) = roles.features := by
    simpa [l, Function.comp_def] using columns_ofTable hencodings
  have hhonest : ∀ column ∈ l.columns, column.IsHonest := isHonest_resolve hencodings density
  have htyped := Table.isTyped_of_classify hclassify
  have hcoerced : coerced.IsFormed := (Table.classify_eq_ok hclassify).2.2.formed hformed
  have hsame : roles'.features = roles.features := by
    rw [Roles.features, Roles.features, hcontinuous, hcategorical]
  obtain ⟨batch, hbatch⟩ := htyped.exists_batch
  have hfails : l.FailsOnNew seen coerced batch.features := by
    intro column hcolumn error
    obtain ⟨encoding, hmem, rfl⟩ := List.mem_map.1 hcolumn
    rw [column_resolve]
    exact Layout.columnFault?_resolve_iff hencodings hmem hcontinuous hcategorical hbatch hcoerced
      density
  refine ⟨hnames, batch, hbatch, ?_, ?_, ?_⟩
  · rw [hfails.exists_rows_iff, hnames, ← hcategorical, ← hsame]
    exact htyped.forall_not_isNew_iff
  · intro error
    rw [hfails.sparseRows_eq_error_iff, hnames]
  · intro rows hrows
    obtain ⟨hlength, hdecode⟩ :=
      TrainingInputs.decode?_of_sparseRows hbatch hcoerced (hsame ▸ hfeatures) hhonest hrows
    rw [← List.length_map (f := fun column : InputColumn => column.column), hnames] at hdecode
    exact ⟨hlength, hdecode⟩

/-- The keys of a table in another order, and with another one among them. -/
theorem rows_decode_or_key_is_new_once :
    let l : Layout := ⟨[.realValued ⟨"x", .float64⟩, .oneHot ⟨"c", .string, ["a", "b"]⟩]⟩
    let roles : Roles := ⟨["x"], ["c"], "z", .regression⟩
    let t (keys : List String) : Table :=
      ⟨[("z", .floats [7.0, 8.0]), ("c", .texts keys), ("x", .floats [4.0, 0.5])]⟩
    (∃ batch rows, TrainingInputs.batch ⟨t ["b", "a"], roles⟩ = .ok batch ∧
      l.sparseRows batch.features = .ok rows ∧ rows.length = 2 ∧
      ∀ (r : Nat) row, rows[r]? = some row → ∃ cells, decode? l.placed row = some cells ∧
        List.Forall₂ (fun name cell => (t ["b", "a"]).cell? name r = some cell)
          ["x", "c"] cells) ∧
    ∃ batch, TrainingInputs.batch ⟨t ["b", "d"], roles⟩ = .ok batch ∧
      l.sparseRows batch.features = .error (.unknownCategory "c" "d") := by
  intro l roles t
  have hencodings : ofTable Model.sample.table Model.sample.roles
      = .ok [.realValued ⟨"x", .float64⟩, .keyed ⟨"c", .string, ["a", "b"]⟩] := by
    decide +kernel
  have hfeatures : Model.sample.roles.features ≠ [] := by decide
  have hseen : Model.sample.table.column? "c" = some (.texts ["a", "b", "a"]) := rfl
  constructor
  · have hformed : (t ["b", "a"]).IsFormed := ⟨by decide, by decide⟩
    have hclassify : (t ["b", "a"]).classify ⟨["x"], ["c"], "z", .numeric⟩
        = (t ["b", "a"], .ok roles) := by
      decide +kernel
    obtain ⟨-, batch, hbatch, hsuccess, -, hrows⟩ := rows_decode_or_key_is_new .dense hencodings
      hfeatures hformed hclassify rfl rfl
    have hkeys : ∀ name ∈ Model.sample.roles.categorical, ∀ r key,
        (t ["b", "a"]).cell? name r = some (.text key) →
          ∃ other, Model.sample.table.cell? name other = some (.text key) := by
      intro name hname r key hcell
      obtain rfl : name = "c" := List.mem_singleton.1 hname
      have hcolumn : (t ["b", "a"]).column? "c" = some (.texts ["b", "a"]) := rfl
      rw [Table.cell?_eq_text_iff hcolumn] at hcell
      simp only [Table.cell?_eq_text_iff hseen]
      have hknown : ∀ key ∈ ["b", "a"], key ∈ ["a", "b", "a"] := by decide
      exact List.mem_iff_getElem?.1 (hknown key (List.mem_of_getElem? hcell))
    obtain ⟨rows, hencoded⟩ := hsuccess.2 hkeys
    obtain ⟨hlength, hdecode⟩ := hrows rows hencoded
    exact ⟨batch, rows, hbatch, hencoded, hlength, fun r row hrow => (hdecode r row hrow).2⟩
  · have hformed : (t ["b", "d"]).IsFormed := ⟨by decide, by decide⟩
    have hclassify : (t ["b", "d"]).classify ⟨["x"], ["c"], "z", .numeric⟩
        = (t ["b", "d"], .ok roles) := by
      decide +kernel
    obtain ⟨-, batch, hbatch, -, herror, -⟩ := rows_decode_or_key_is_new .dense hencodings
      hfeatures hformed hclassify rfl rfl
    have hcolumn : (t ["b", "d"]).column? "c" = some (.texts ["b", "d"]) := rfl
    refine ⟨batch, hbatch, (herror _).2 ⟨1, "c", 1, "d", rfl, rfl, ⟨?_, ?_⟩, ?_⟩⟩
    · exact (Table.isNew_iff hseen hcolumn).2 ⟨rfl, by decide⟩
    · intro before hlt other hnew
      obtain rfl : before = 0 := by omega
      obtain ⟨hkey, hnot⟩ := (Table.isNew_iff hseen hcolumn).1 hnew
      cases hkey
      exact hnot (by decide)
    · intro j hj earlier hearlier r key
      obtain rfl : j = 0 := by omega
      cases hearlier
      exact Table.not_isNew_of_floats rfl

end Encoding
end Exemplar
