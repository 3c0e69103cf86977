/-
Keys and their positions.

A vocabulary is in strict order, so halving leads to the one position at which a key can stand.  The
vocabulary of a column holds exactly its cells: a column knows all of its own keys.
-/
import Exemplar.Proofs.Batches
import Exemplar.Proofs.Rows

namespace Exemplar

namespace KeyedColumn

variable {c : KeyedColumn} {key : String} {vocabulary : List String}

/-- Halving leads to the position of a key: the part that is left always holds it. -/
theorem bisect_getElem (h : vocabulary.Pairwise (· < ·)) {k base size : Nat}
    (hk : k < vocabulary.length) (hlow : base ≤ k) (hhigh : k < base + size)
    (hsize : base + size ≤ vocabulary.length) :
    bisect vocabulary (vocabulary[k]) base size = k := by
  induction size using Nat.strong_induction_on generalizing base with
  | _ size ih =>
    unfold bisect
    by_cases hone : size ≤ 1
    · rw [if_pos hone]
      omega
    rw [if_neg hone]
    dsimp only
    have hmiddle : base + size / 2 < vocabulary.length := by omega
    have hget : vocabulary.getD (base + size / 2) "" = vocabulary[base + size / 2] := by
      rw [List.getD_eq_getElem?_getD, List.getElem?_eq_getElem hmiddle]
      rfl
    rw [hget]
    by_cases hbelow : k < base + size / 2
    · rw [if_pos (List.pairwise_iff_getElem.1 h k _ hk hmiddle hbelow)]
      exact ih _ (by omega) hlow (by omega) (by omega)
    · have hnot : ¬ vocabulary[k] < vocabulary[base + size / 2] := by
        intro hlt
        rcases Nat.lt_or_eq_of_le (Nat.le_of_not_lt hbelow) with habove | heq
        · exact lt_asymm hlt (List.pairwise_iff_getElem.1 h _ k hmiddle hk habove)
        · simp only [heq] at hlt
          exact lt_irrefl _ hlt
      rw [if_neg hnot]
      exact ih _ (by omega) (by omega) (by omega) (by omega)

/-- A key of the vocabulary is found where it stands. -/
theorem keyIndex_getElem (h : c.vocabulary.Pairwise (· < ·)) {k : Nat}
    (hk : k < c.vocabulary.length) : c.keyIndex (c.vocabulary[k]) = .ok k := by
  unfold keyIndex
  dsimp only
  rw [bisect_getElem h hk (Nat.zero_le k) (by omega) (by omega),
    if_pos (List.getElem?_eq_getElem hk)]

/-- The keys that are found are those of the vocabulary. -/
theorem exists_keyIndex_iff (h : c.vocabulary.Pairwise (· < ·)) :
    (∃ i, c.keyIndex key = .ok i) ↔ key ∈ c.vocabulary := by
  constructor
  · rintro ⟨i, hi⟩
    exact List.mem_of_getElem? (getElem?_of_keyIndex hi)
  · intro hmem
    obtain ⟨k, hk, rfl⟩ := List.getElem_of_mem hmem
    exact ⟨k, keyIndex_getElem h hk⟩

end KeyedColumn

namespace SortedMap

theorem mem_distinct {names : List String} {name : String} :
    name ∈ distinct names ↔ name ∈ names := by
  unfold distinct
  rw [mem_keys_ofList, List.map_map, Function.comp_def, List.map_id']

theorem pairwise_distinct (names : List String) : (distinct names).Pairwise (· < ·) :=
  List.pairwise_map.2 (sorted_ofList _)

end SortedMap

/-! ## The encodings of a table -/

theorem Encoding.ofCategorical_eq_ok {table : Table} {name : String} {encoding : Encoding}
    (h : ofCategorical table name = .ok encoding) :
    ∃ keys, encoding = .keyed ⟨name, .string, keys⟩ := by
  unfold ofCategorical at h
  simp only [bind_eq_ok_iff] at h
  obtain ⟨column, -, keys, -, h⟩ := h
  exact ⟨keys, (Except.ok.inj h).symm⟩

theorem Encoding.ofCategorical_texts {table : Table} {name : String} {cells : List String}
    (hcolumn : table.column? name = some (.texts cells)) (hcells : cells ≠ []) :
    ofCategorical table name = .ok (.keyed ⟨name, .string, SortedMap.distinct cells⟩) := by
  unfold ofCategorical
  rw [Table.column_eq_ok_iff.2 hcolumn]
  cases cells with
  | nil => exact absurd rfl hcells
  | cons cell rest => rfl

/-- Encodings have the names and the types of the features. -/
theorem Encoding.types_ofTable {table : Table} {roles : Roles} {encodings : List Encoding}
    (h : ofTable table roles = .ok encodings) (density : Density) :
    (encodings.map (resolve density)).map (fun column => (column.column, column.type))
      = roles.types := by
  unfold ofTable at h
  simp only [bind_eq_ok_iff] at h
  obtain ⟨keyed, hkeyed, h⟩ := h
  obtain rfl := Except.ok.inj h
  have hall := mapM_eq_ok_iff.1 hkeyed
  rw [List.map_append, List.map_append, List.map_map, List.map_map]
  unfold Roles.types
  congr 1
  clear hkeyed h
  generalize roles.categorical = names at hall
  induction hall with
  | nil => rfl
  | cons hencoding _ ih =>
    obtain ⟨keys, rfl⟩ := ofCategorical_eq_ok hencoding
    rw [List.map_cons, List.map_cons, ih]
    cases density <;> rfl

namespace TrainingInputs

variable {inputs : TrainingInputs} {encoding : Encoding} {name : String}

/-- A feature of the inputs is encoded by a column that fits its cells, however dense. -/
def IsEncodedBy (inputs : TrainingInputs) (encoding : Encoding) : Prop :=
  ∀ density, (encoding.resolve density).column ∈ inputs.roles.features ∧
    ∃ column, inputs.table.column? (encoding.resolve density).column = some column ∧
      column.elementType = (encoding.resolve density).type ∧
      (encoding.resolve density).Knows column

theorem isEncodedBy_realValued (h : inputs.IsTyped) (hname : name ∈ inputs.roles.continuous) :
    inputs.IsEncodedBy (.realValued ⟨name, .float64⟩) := by
  intro density
  obtain ⟨column, hcolumn, htype⟩ := h.continuous name hname
  exact ⟨List.mem_append_left _ hname, column, hcolumn, htype, trivial⟩

/-- Text cells are encoded by their own keys. -/
theorem isEncodedBy_keyed {cells : List String} (hname : name ∈ inputs.roles.categorical)
    (hcolumn : inputs.table.column? name = some (.texts cells)) :
    inputs.IsEncodedBy (.keyed ⟨name, .string, SortedMap.distinct cells⟩) := by
  have hkeys : ∀ key ∈ cells, ∃ i, (KeyedColumn.mk name .string
      (SortedMap.distinct cells)).keyIndex key = .ok i := by
    intro key hkey
    apply (KeyedColumn.exists_keyIndex_iff (SortedMap.pairwise_distinct cells)).2
    exact SortedMap.mem_distinct.2 hkey
  intro density
  cases density with
  | sparse => exact ⟨List.mem_append_right _ hname, _, hcolumn, rfl, hkeys⟩
  | dense => exact ⟨List.mem_append_right _ hname, _, hcolumn, rfl, hkeys⟩

theorem exists_keyed (h : inputs.IsTyped) (hformed : inputs.table.IsFormed)
    (hrows : 0 < inputs.rowCount) (hname : name ∈ inputs.roles.categorical) :
    ∃ encoding, Encoding.ofCategorical inputs.table name = .ok encoding ∧
      inputs.IsEncodedBy encoding := by
  obtain ⟨cells, hcolumn⟩ := h.exists_texts hname
  have hlength : cells.length = inputs.rowCount := hformed.length_of_column? hcolumn
  exact ⟨_, Encoding.ofCategorical_texts hcolumn (List.ne_nil_of_length_pos (hlength ▸ hrows)),
    isEncodedBy_keyed hname hcolumn⟩

/-- Every feature of a table with rows is encoded. -/
theorem exists_encodings (h : inputs.IsTyped) (hformed : inputs.table.IsFormed)
    (hrows : 0 < inputs.rowCount) :
    ∃ encodings, Encoding.ofTable inputs.table inputs.roles = .ok encodings ∧
      ∀ encoding ∈ encodings, inputs.IsEncodedBy encoding := by
  obtain ⟨keyed, hkeyed⟩ := mapM_ok_of_forall fun name hname =>
    (exists_keyed h hformed hrows hname).imp fun _ h => h.1
  refine ⟨_, by unfold Encoding.ofTable; rw [hkeyed]; rfl, fun encoding hencoding => ?_⟩
  rcases List.mem_append.1 hencoding with hmem | hmem
  · obtain ⟨name, hname, rfl⟩ := List.mem_map.1 hmem
    exact isEncodedBy_realValued h hname
  · refine forall_of_mapM hkeyed (fun name hname other hother => ?_) encoding hmem
    obtain ⟨found, hfound, hencoded⟩ := exists_keyed h hformed hrows hname
    obtain rfl : found = other := Except.ok.inj (hfound.symm.trans hother)
    exact hencoded

/-- A column that encodes a feature encodes each of its batches. -/
theorem IsEncodedBy.encodes {batch : Batch} (h : inputs.IsEncodedBy encoding)
    (hformed : inputs.table.IsFormed) (hbatch : inputs.IsBatch batch) (density : Density) :
    Layout.Encodes batch.features inputs.rowCount (encoding.resolve density) := by
  obtain ⟨hname, column, hcolumn, htype, hknows⟩ := h density
  exact ⟨column, (hbatch.features _ column).2 ⟨hname, hcolumn⟩, htype,
    hformed.length_of_column? hcolumn, hknows⟩

end TrainingInputs
end Exemplar
