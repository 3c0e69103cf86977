/-
Why a batch is not encoded.

Columns are encoded one after the other, and the first that does not fit the batch ends the work.
What is wrong with a column does not depend on its place or on what was encoded before it.  So the
error of a batch is that of the first faulty column, and the error of a column of keys that has its
tensor is the first key that it does not know.
-/
import Exemplar.Proofs.Vocabularies

namespace Exemplar

section

variable {ε α β σ : Type} {xs : List α} {error : ε}

/-- What went wrong, if something did. -/
def errorOf? : Except ε α → Option ε
  | .ok _ => none
  | .error error => some error

theorem errorOf?_eq_some_iff {result : Except ε α} :
    errorOf? result = some error ↔ result = .error error := by
  cases result with
  | ok a => simp [errorOf?]
  | error other => simp [errorOf?]

theorem errorOf?_eq_none_iff {result : Except ε α} :
    errorOf? result = none ↔ ∃ a, result = .ok a := by
  cases result with
  | ok a => simp [errorOf?]
  | error other => simp [errorOf?]

/-- Items are worked through up to the first that fails. -/
theorem mapM_eq_error_iff {f : α → Except ε β} :
    xs.mapM f = .error error ↔ xs.findSome? (fun x => errorOf? (f x)) = some error := by
  induction xs with
  | nil => simp [pure, Except.pure]
  | cons x xs ih =>
    rw [List.mapM_cons, List.findSome?_cons]
    cases hx : f x with
    | error other => simp [errorOf?, bind, Except.bind]
    | ok y =>
      show (xs.mapM f >>= fun ys => pure (y :: ys)) = .error error ↔
        xs.findSome? (fun x => errorOf? (f x)) = some error
      rw [← ih]
      cases xs.mapM f with
      | error other => rfl
      | ok ys => simp [bind, Except.bind, pure, Except.pure]

theorem errorOf?_map (result : Except ε α) (g : α → β) :
    errorOf? (result.map g) = errorOf? result := by
  cases result <;> rfl

/-- Work that fails behind other work in the same way whatever that came to. -/
theorem errorOf?_bind {first : Except ε α} {next : α → Except ε β} {rest : Option ε}
    (h : ∀ a, errorOf? (next a) = rest) :
    errorOf? (first >>= next) = (errorOf? first).or rest := by
  cases first with
  | error other => rfl
  | ok a => exact h a

theorem errorOf?_mapM (f : α → Except ε β) (xs : List α) :
    errorOf? (xs.mapM f) = xs.findSome? fun x => errorOf? (f x) := by
  refine Option.ext fun error => ?_
  rw [errorOf?_eq_some_iff, mapM_eq_error_iff]

/-- Steps whose failures do not depend on the state are taken up to the first that fails. -/
theorem foldlM_eq_error_iff {f : σ → α → Except ε σ} {fault : α → Option ε}
    (hf : ∀ s x, errorOf? (f s x) = fault x) (s : σ) :
    xs.foldlM f s = .error error ↔ xs.findSome? fault = some error := by
  induction xs generalizing s with
  | nil => simp [pure, Except.pure]
  | cons x xs ih =>
    rw [List.foldlM_cons, List.findSome?_cons, ← hf s x]
    cases hx : f s x with
    | error other => simp [errorOf?, bind, Except.bind]
    | ok s' => exact ih s'

end

theorem KeyedColumn.keyIndex_eq_error {c : KeyedColumn} {key : String} {error : DataError}
    (h : c.keyIndex key = .error error) : error = .unknownCategory c.column key := by
  unfold keyIndex at h
  dsimp only at h
  split at h
  · cases h
  · exact (Except.error.inj h).symm

namespace Layout

variable {features : SortedMap Column} {l : Layout} {column : InputColumn} {tensor : Column}
variable {n : Nat} {error : DataError}

/-- What is wrong with the keys of a tensor: the first that the column does not know. -/
def keyFault? (column : InputColumn) (tensor : Column) : Option DataError :=
  match column with
  | .realValued _ => none
  | .keyed c | .oneHot c => (tensor.texts?.getD []).findSome? fun key => errorOf? (c.keyIndex key)

/-- What is wrong with a column for a batch of `n` rows. -/
def columnFault? (features : SortedMap Column) (n : Nat) (column : InputColumn) :
    Option DataError :=
  match columnTensor features n column with
  | .error error => some error
  | .ok tensor => keyFault? column tensor

theorem errorOf?_entries (column : InputColumn) (offset : Nat) (tensor : Column) :
    errorOf? (entries column offset tensor) = keyFault? column tensor := by
  have hkeyed (c : KeyedColumn) (keys : List String) :
      errorOf? (keys.mapM fun key => (c.keyIndex key).map fun i => (offset + i, (1.0 : Float)))
        = keys.findSome? fun key => errorOf? (c.keyIndex key) := by
    rw [errorOf?_mapM]
    simp only [errorOf?_map]
  cases column with
  | realValued c => rfl
  | keyed c => exact hkeyed c _
  | oneHot c => exact hkeyed c _

theorem errorOf?_addColumn (rows : List SparseRow) (p : InputColumn × Nat) :
    errorOf? (addColumn features n rows p) = columnFault? features n p.1 := by
  obtain ⟨column, offset⟩ := p
  show errorOf? (columnTensor features n column >>= fun tensor =>
    entries column offset tensor >>= fun es => pure (appendEntries rows es)) = _
  unfold columnFault?
  cases columnTensor features n column with
  | error error => rfl
  | ok tensor =>
    show _ = keyFault? column tensor
    rw [← errorOf?_entries column offset tensor]
    show errorOf? (entries column offset tensor >>= _) = _
    cases entries column offset tensor <;> rfl

/-- The error of a batch is that of the first column that does not fit it. -/
theorem sparseRows_eq_error_iff : l.sparseRows features = .error error ↔
    l.columns.findSome? (columnFault? features (batchRows features)) = some error := by
  unfold sparseRows
  dsimp only
  rw [foldlM_eq_error_iff errorOf?_addColumn, ← map_place 0 l.columns, List.findSome?_map]
  rfl

theorem knows_iff_keyFault? : column.Knows tensor ↔ keyFault? column tensor = none := by
  rw [← errorOf?_entries column 0 tensor, errorOf?_eq_none_iff]
  constructor
  · exact exists_entries 0
  · intro h
    obtain ⟨es, hes⟩ := h
    exact (entries_eq_ok hes).1

theorem columnFault?_eq_none_iff : columnFault? features n column = none ↔
    Encodes features n column := by
  unfold columnFault?
  cases htensor : columnTensor features n column with
  | error error =>
    refine ⟨fun h => (by cases h), fun h => ?_⟩
    obtain ⟨tensor, hget, htype, hlength, -⟩ := h
    rw [columnTensor_eq_ok_iff.2 ⟨hget, htype, hlength⟩] at htensor
    cases htensor
  | ok tensor =>
    obtain ⟨hget, htype, hlength⟩ := columnTensor_eq_ok_iff.1 htensor
    show keyFault? column tensor = none ↔ _
    rw [← knows_iff_keyFault?]
    constructor
    · intro hknows
      exact ⟨tensor, hget, htype, hlength, hknows⟩
    · intro h
      obtain ⟨found, hfound, -, -, hknows⟩ := h
      obtain rfl : tensor = found := Option.some.inj (hget.symm.trans hfound)
      exact hknows

/-- What is wrong with a column whose type is not that of its tensor. -/
theorem columnFault?_of_type_ne (hget : features.get? column.column = some tensor)
    (htype : tensor.elementType ≠ column.type) : columnFault? features n column
      = some (.typeMismatch column.column column.type tensor.elementType) := by
  unfold columnFault? columnTensor
  rw [hget]
  dsimp only
  rw [if_pos htype]

/-- With a tensor that fits, only keys can be wrong. -/
theorem columnFault?_of_fits (hget : features.get? column.column = some tensor)
    (htype : tensor.elementType = column.type) (hlength : tensor.length = n) :
    columnFault? features n column = keyFault? column tensor := by
  rw [columnFault?, columnTensor_eq_ok_iff.2 ⟨hget, htype, hlength⟩]

theorem keyFault?_eq_some (h : keyFault? column tensor = some error) :
    ∃ key ∈ tensor.texts?.getD [], error = .unknownCategory column.column key := by
  have hkeyed {c : KeyedColumn} (h : (tensor.texts?.getD []).findSome?
      (fun key => errorOf? (c.keyIndex key)) = some error) :
      ∃ key ∈ tensor.texts?.getD [], error = .unknownCategory c.column key := by
    obtain ⟨key, hkey, herror⟩ := List.exists_of_findSome?_eq_some h
    exact ⟨key, hkey, KeyedColumn.keyIndex_eq_error (errorOf?_eq_some_iff.1 herror)⟩
  cases column with
  | realValued c => cases h
  | keyed c => exact hkeyed h
  | oneHot c => exact hkeyed h

end Layout
end Exemplar
