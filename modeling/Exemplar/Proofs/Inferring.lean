/-
What the type of a column that was read decides.

A column of a text gets the narrowest type that all of its cells are literals
of.  Every literal of an integer is one of a number, so whether the column can
be used as numbers is decided by its cells alone: if all of them are literals of
numbers, it can, whichever type it got, and otherwise the error is about the
first that is none, with its row and its text as it stands in the record.
-/
import Exemplar.Proofs.Coercing
import Exemplar.Proofs.Digits

namespace Exemplar

/-! ## Literals -/

namespace Decimal

variable {text : List Char}

/-- A literal of an integer is one of a number. -/
theorem isSome_readFloat?_of_readInt? (h : (readInt? text).isSome) :
    (readFloat? text).isSome := by
  unfold readInt? at h
  unfold readFloat?
  generalize splitSign text = split at h
  obtain ⟨negative, digits⟩ := split
  dsimp only at h ⊢
  rw [Option.isSome_map] at h ⊢
  have hdigits : digits ≠ [] ∧ ∀ c ∈ digits, c.isDigit = true := by
    unfold readNat? at h
    split at h
    · cases h
    · rename_i hall
      simpa using hall
  have hread := readUnsigned?_whole hdigits.1 hdigits.2 .none
  rw [List.append_nil] at hread
  rw [hread]
  rfl

theorem isSome_readFloat?_of_readInt64? (h : (readInt64? text).isSome) :
    (readFloat? text).isSome := by
  obtain ⟨i, hi⟩ := Option.isSome_iff_exists.1 h
  obtain ⟨whole, hwhole, -⟩ := Option.bind_eq_some_iff.1 hi
  exact isSome_readFloat?_of_readInt? (by rw [hwhole]; rfl)

end Decimal

/-! ## The narrowest type -/

namespace Column

variable {α β : Type} {raw : List String} {name cell : String} {row : Nat} {error : DataError}

theorem mapM_eq_some_iff {read : α → Option β} {cells : List α} {values : List β} :
    cells.mapM read = some values ↔ cells.map read = values.map some := by
  induction cells generalizing values with
  | nil => cases values <;> simp
  | cons cell rest ih =>
    simp only [List.mapM_cons, bind, Option.bind_eq_some_iff, ih, pure, Option.some.injEq,
      List.map_cons]
    cases values with
    | nil => simp
    | cons value others => simp [and_left_comm]

theorem isSome_mapM_iff {read : α → Option β} {cells : List α} :
    (cells.mapM read).isSome ↔ ∀ cell ∈ cells, (read cell).isSome := by
  induction cells with
  | nil => simp
  | cons cell rest ih =>
    rw [List.forall_mem_cons, ← ih, List.mapM_cons]
    cases read cell with
    | none => simp
    | some value =>
      cases rest.mapM read with
      | none => simp
      | some others => simp

/-- The column of cells, of the narrowest type that all of them are literals of.  It holds their
values, or else the cells as they are. -/
structure IsNarrowest (raw : List String) (column : Column) : Prop where
  isInts : (∃ values, column = .ints values) ↔ ∀ cell ∈ raw, (readInt? cell).isSome
  isFloats : (∃ values, column = .floats values) ↔
    (¬ ∀ cell ∈ raw, (readInt? cell).isSome) ∧ ∀ cell ∈ raw, (readFloat? cell).isSome
  isTexts : column = .texts raw ↔ ¬ ∀ cell ∈ raw, (readFloat? cell).isSome
  ints : ∀ values, column = .ints values → raw.map readInt? = values.map some
  floats : ∀ values, column = .floats values → raw.map readFloat? = values.map some
  texts : ∀ cells, column = .texts cells → cells = raw

/-- The first cell that is no literal of a number, by its row. -/
structure FirstMisfit (raw : List String) (row : Nat) (cell : String) : Prop where
  at_row : raw[row]? = some cell
  misfit : readFloat? cell = none
  before : ∀ earlier < row, ∀ other, raw[earlier]? = some other → (readFloat? other).isSome

theorem forall_isSome_readFloat? (h : ∀ cell ∈ raw, (readInt? cell).isSome) :
    ∀ cell ∈ raw, (readFloat? cell).isSome :=
  fun cell hcell => Decimal.isSome_readFloat?_of_readInt64? (h cell hcell)

theorem isNarrowest_infer (raw : List String) : IsNarrowest raw (infer raw) := by
  unfold infer
  cases hints : raw.mapM readInt? with
  | some values =>
    have hall : ∀ cell ∈ raw, (readInt? cell).isSome :=
      isSome_mapM_iff.1 (Option.isSome_iff_exists.2 ⟨values, hints⟩)
    refine ⟨iff_of_true ⟨values, rfl⟩ hall, ?_, ?_, ?_, nofun, nofun⟩
    · exact iff_of_false nofun fun h => h.1 hall
    · exact iff_of_false nofun fun h => h (forall_isSome_readFloat? hall)
    · intro values' h
      rw [← Column.ints.inj h]
      exact mapM_eq_some_iff.1 hints
  | none =>
    have hnot : ¬ ∀ cell ∈ raw, (readInt? cell).isSome := by
      rw [← isSome_mapM_iff, hints]
      exact Bool.false_ne_true
    dsimp only
    cases hfloats : raw.mapM readFloat? with
    | some values =>
      have hall : ∀ cell ∈ raw, (readFloat? cell).isSome :=
        isSome_mapM_iff.1 (Option.isSome_iff_exists.2 ⟨values, hfloats⟩)
      refine ⟨iff_of_false nofun hnot, iff_of_true ⟨values, rfl⟩ ⟨hnot, hall⟩, ?_, nofun, ?_, nofun⟩
      · exact iff_of_false nofun fun h => h hall
      · intro values' h
        rw [← Column.floats.inj h]
        exact mapM_eq_some_iff.1 hfloats
    | none =>
      have hnone : ¬ ∀ cell ∈ raw, (readFloat? cell).isSome := by
        rw [← isSome_mapM_iff, hfloats]
        exact Bool.false_ne_true
      exact ⟨iff_of_false nofun hnot, iff_of_false nofun fun h => hnone h.2,
        iff_of_true rfl hnone, nofun, nofun, fun _ h => (Column.texts.inj h).symm⟩

/-! ## Columns as numbers -/

theorem stopsAt_texts_iff {value : String} :
    (texts raw).StopsAt .number row value ↔ FirstMisfit raw row value := by
  have hcell (place : Nat) (cell : Cell) :
      (texts raw).cell? place = some cell ↔ ∃ text, raw[place]? = some text ∧ .text text = cell :=
    Option.map_eq_some_iff
  constructor
  · rintro ⟨⟨cell, hat, hmisfit, rfl⟩, hbefore⟩
    obtain ⟨text, htext, rfl⟩ := (hcell _ _).1 hat
    refine ⟨htext, Option.not_isSome_iff_eq_none.1 hmisfit, fun earlier hlt other hother => ?_⟩
    exact hbefore earlier hlt (.text other) ((hcell _ _).2 ⟨other, hother, rfl⟩)
  · rintro ⟨hat, hmisfit, hbefore⟩
    refine ⟨⟨.text value, (hcell _ _).2 ⟨value, hat, rfl⟩, ?_, rfl⟩, ?_⟩
    · exact Option.not_isSome_iff_eq_none.2 hmisfit
    · intro earlier hlt cell hother
      obtain ⟨text, htext, rfl⟩ := (hcell _ _).1 hother
      exact hbefore earlier hlt text htext

theorem FirstMisfit.unique {other : String} {place : Nat} (h : FirstMisfit raw row cell)
    (h' : FirstMisfit raw place other) : row = place ∧ cell = other := by
  have hrow : row = place := by
    rcases Nat.lt_trichotomy row place with hlt | heq | hlt
    · have := h'.before row hlt cell h.at_row
      rw [h.misfit] at this
      cases this
    · exact heq
    · have := h.before place hlt other h'.at_row
      rw [h'.misfit] at this
      cases this
  subst hrow
  exact ⟨rfl, Option.some.inj (h.at_row.symm.trans h'.at_row)⟩

namespace IsNarrowest

variable {column new : Column} (h : IsNarrowest raw column)
include h

theorem forall_of_toFloats (hcoerce : column.toFloats name = .ok new) :
    ∀ cell ∈ raw, (readFloat? cell).isSome := by
  cases column with
  | ints values => exact forall_isSome_readFloat? (h.isInts.1 ⟨values, rfl⟩)
  | floats values => exact (h.isFloats.1 ⟨values, rfl⟩).2
  | texts cells =>
    obtain rfl := h.texts cells rfl
    obtain ⟨values, hvalues, -⟩ := map_eq_ok_iff.1 hcoerce
    have hmap : cells.map readFloat? = values.map some := by
      rw [← List.forall₂_eq_eq_eq, List.forall₂_map_left_iff, List.forall₂_map_right_iff]
      exact readCells_eq_ok_iff.1 hvalues
    exact isSome_mapM_iff.1 (Option.isSome_iff_exists.2 ⟨values, mapM_eq_some_iff.2 hmap⟩)

theorem firstMisfit_of_toFloats (hcoerce : column.toFloats name = .error error) :
    ∃ row cell, FirstMisfit raw row cell ∧ error = .coercion name row cell .number := by
  cases column with
  | ints values => cases hcoerce
  | floats values => cases hcoerce
  | texts cells =>
    obtain rfl := h.texts cells rfl
    obtain ⟨row, value, hstops, herror⟩ := stopsAt_of_toFloats hcoerce
    exact ⟨row, value, stopsAt_texts_iff.1 hstops, herror⟩

/-- Whatever its type, a column can be used as numbers exactly if all cells are literals of
numbers. -/
theorem toFloats_eq_ok_iff : (∃ numbers, column.toFloats name = .ok (.floats numbers)) ↔
    ∀ cell ∈ raw, (readFloat? cell).isSome := by
  refine ⟨fun ⟨numbers, hcoerce⟩ => h.forall_of_toFloats hcoerce, fun hall => ?_⟩
  cases hcoerce : column.toFloats name with
  | error error =>
    obtain ⟨row, cell, hmisfit, -⟩ := h.firstMisfit_of_toFloats hcoerce
    have := hall cell (List.mem_of_getElem? hmisfit.at_row)
    rw [hmisfit.misfit] at this
    cases this
  | ok new =>
    obtain ⟨numbers, rfl⟩ := toFloats_eq_ok hcoerce
    exact ⟨numbers, rfl⟩

/-- Otherwise the error is about the first that is none. -/
theorem toFloats_eq_error_iff : column.toFloats name = .error error ↔
    ∃ row cell, FirstMisfit raw row cell ∧ error = .coercion name row cell .number := by
  refine ⟨h.firstMisfit_of_toFloats, ?_⟩
  rintro ⟨row, cell, hmisfit, rfl⟩
  cases hcoerce : column.toFloats name with
  | error error =>
    obtain ⟨place, other, hmisfit', rfl⟩ := h.firstMisfit_of_toFloats hcoerce
    obtain ⟨rfl, rfl⟩ := hmisfit.unique hmisfit'
    rfl
  | ok new =>
    have := h.forall_of_toFloats hcoerce cell (List.mem_of_getElem? hmisfit.at_row)
    rw [hmisfit.misfit] at this
    cases this

end IsNarrowest

end Column

/-! ## Columns of a sheet -/

namespace Csv

variable {record index width : Nat} {fields : List (List UInt8)} {texts : List String}
variable {rest : List (List (List UInt8))} {rows : List (List String)} {sheet : Sheet}

theorem length_of_decodeFields (h : decodeFields record index fields = .ok texts) :
    texts.length = fields.length := by
  induction fields generalizing index texts with
  | nil =>
    cases h
    rfl
  | cons field rest ih =>
    unfold decodeFields at h
    split at h
    · cases h
    · obtain ⟨others, hothers, rfl⟩ := map_eq_ok_iff.1 h
      rw [List.length_cons, ih hothers, List.length_cons]

theorem length_of_decodeRows (h : decodeRows width record rest = .ok rows) :
    ∀ row ∈ rows, row.length = width := by
  induction rest generalizing record rows with
  | nil =>
    cases h
    simp
  | cons fields rest ih =>
    unfold decodeRows at h
    split at h
    · cases h
    rename_i hwidth
    split at h
    · cases h
    · rename_i texts htexts
      obtain ⟨others, hothers, rfl⟩ := map_eq_ok_iff.1 h
      refine List.forall_mem_cons.2 ⟨?_, ih hothers⟩
      exact (length_of_decodeFields htexts).trans (not_not.1 hwidth)

/-- The records that are read are as long as the header. -/
theorem length_of_read {bytes : List UInt8} (h : read bytes = .ok sheet) :
    ∀ row ∈ sheet.rows, row.length = sheet.header.length := by
  unfold read at h
  dsimp only at h
  split at h
  · cases h
  · rename_i header hheader
    obtain ⟨rows, hrows, rfl⟩ := map_eq_ok_iff.1 h
    intro row hrow
    rw [length_of_decodeRows hrows row hrow, length_of_decodeFields hheader]

end Csv

namespace Table

variable {t : Table} {bytes : List UInt8}

theorem ofBytes_eq_ok (h : ofBytes bytes = .ok t) : ∃ sheet, Csv.read bytes = .ok sheet ∧
    t = ⟨sheet.header.zipIdx.map fun (name, index) =>
      (Text.trimmed name, Column.infer (cellsAt sheet.rows index))⟩ := by
  unfold ofBytes at h
  split at h
  · cases h
  · rename_i sheet hsheet
    cases htable : ofSheet sheet with
    | error error =>
      rw [htable] at h
      cases h
    | ok table =>
      rw [htable] at h
      cases h
      exact ⟨sheet, hsheet, (ofColumns_eq_ok_iff.1 htable).1⟩

/-- Where every record is long enough, the cells of a column are all there. -/
theorem map_some_cellsAt {rows : List (List String)} {index : Nat}
    (h : ∀ row ∈ rows, index < row.length) :
    rows.map (·[index]?) = (cellsAt rows index).map some := by
  rw [cellsAt, List.map_map]
  refine List.map_congr_left fun row hrow => ?_
  show row[index]? = some (row.getD index "")
  rw [List.getD_eq_getElem?_getD, List.getElem?_eq_getElem (h row hrow)]
  rfl

end Table

/-! ## Columns that are wanted as numbers -/

namespace Assignment

variable {a : Assignment} {t : Table} {name : String}

/-- The columns that are to become numbers. -/
def WantsNumbers (a : Assignment) (name : String) : Prop :=
  name ∈ a.continuous ∨ name = a.label ∧ a.labelKind = .numeric

/-- A column that cannot be coerced as its role says, and what is told of that. -/
def Rejects (a : Assignment) (t : Table) (name : String) (error : DataError) : Prop :=
  ∃ column, t.column? name = some column ∧ a.coercion name column = .error error

theorem WantsNumbers.mem (h : a.WantsNumbers name) :
    name ∈ a.continuous ++ a.categorical ++ [a.label] := by
  rcases h with hname | ⟨rfl, -⟩
  · exact List.mem_append_left _ (List.mem_append_left _ hname)
  · exact List.mem_append_right _ (List.mem_singleton_self _)

theorem IsPartition.coercion_of_wantsNumbers (hpartition : a.IsPartition t)
    (h : a.WantsNumbers name) : a.coercion name = Column.toFloats name := by
  rcases h with hname | ⟨rfl, hkind⟩
  · exact coercion_continuous hname
  · rw [hpartition.coercion_label, hkind]
    rfl

end Assignment

namespace Table

variable {t t' : Table} {a : Assignment} {roles : Roles} {bytes : List UInt8}
variable {name : String} {column : Column} {error : DataError} {outcome : Except DataError Roles}

/-- An accepted assignment either coerces each of its columns, or those before the first that it
cannot coerce. -/
theorem classify_cases (hformed : t.IsFormed) (hpartition : a.IsPartition t)
    (h : t.classify a = (t', outcome)) :
    (outcome = .ok a.roles ∧
      Coerces a.coercion (a.continuous ++ a.categorical ++ [a.label]) t t') ∨
    ∃ before name after error,
      a.continuous ++ a.categorical ++ [a.label] = before ++ name :: after ∧
      outcome = .error error ∧ a.Rejects t name error ∧ Coerces a.coercion before t t' := by
  unfold classify at h
  rw [Assignment.validate_eq_ok_iff.2 hpartition] at h
  dsimp only at h
  split at h
  · rename_i after error hcoerce
    obtain ⟨rfl, rfl⟩ := Prod.mk.inj h
    obtain ⟨before, name, rest, old, hnames, hold, herror, hcoerces⟩ :=
      coerce_eq_error hpartition hformed hcoerce
    exact .inr ⟨before, name, rest, error, hnames, rfl, ⟨old, hold, herror⟩, hcoerces⟩
  · rename_i after hcoerce
    obtain ⟨rfl, rfl⟩ := Prod.mk.inj h
    exact .inl ⟨rfl, coerces_coerce hpartition hcoerce⟩

section

variable (hformed : t.IsFormed) (hpartition : a.IsPartition t) (hname : a.WantsNumbers name)
variable (hcolumn : t.column? name = some column) (h : t.classify a = (t', outcome))
include hformed hpartition hname hcolumn h

/-- A column that can be used as numbers becomes numbers, unless another one is told of. -/
theorem classify_of_numbers {numbers : List Float}
    (hnumbers : column.toFloats name = .ok (.floats numbers)) :
    (∀ roles, outcome = .ok roles → t'.column? name = some (.floats numbers)) ∧
      ∀ error, outcome = .error error → ∃ other ≠ name, a.Rejects t other error := by
  rw [← hpartition.coercion_of_wantsNumbers hname] at hnumbers
  rcases classify_cases hformed hpartition h with
    ⟨rfl, hcoerces⟩ | ⟨before, other, after, fault, -, rfl, ⟨old, hold, herror⟩, -⟩
  · refine ⟨fun roles _ => ?_, nofun⟩
    obtain ⟨old, new, hold, hnew, hcoerced⟩ := hcoerces.coerced name hname.mem
    rw [Option.some.inj (hold.symm.trans hcolumn), hnumbers] at hnew
    rw [hcoerced, Except.ok.inj hnew]
  · refine ⟨nofun, fun error heq => ⟨other, ?_, old, hold, herror.trans ?_⟩⟩
    · rintro rfl
      rw [Option.some.inj (hold.symm.trans hcolumn), hnumbers] at herror
      cases herror
    · exact congrArg Except.error (Except.error.inj heq)

/-- A column that cannot be used as numbers is told of, unless one is that is named before it. -/
theorem classify_of_misfit (herror : column.toFloats name = .error error) :
    outcome = .error error ∨ ∃ before after,
      a.continuous ++ a.categorical ++ [a.label] = before ++ name :: after ∧
      ∃ other ∈ before, ∃ fault, a.Rejects t other fault ∧ outcome = .error fault := by
  rw [← hpartition.coercion_of_wantsNumbers hname] at herror
  have hnot {names : List String} (hcoerces : Coerces a.coercion names t t') : name ∉ names := by
    intro hmem
    obtain ⟨old, new, hold, hnew, -⟩ := hcoerces.coerced name hmem
    rw [Option.some.inj (hold.symm.trans hcolumn), herror] at hnew
    cases hnew
  rcases classify_cases hformed hpartition h with
    ⟨-, hcoerces⟩ | ⟨before, other, after, fault, hnames, rfl, hrejects, hcoerces⟩
  · exact absurd hname.mem (hnot hcoerces)
  · have hmem := hname.mem
    rw [hnames] at hmem
    rcases List.mem_cons.1 ((List.mem_append.1 hmem).resolve_left (hnot hcoerces)) with rfl | hafter
    · obtain ⟨old, hold, hfault⟩ := hrejects
      rw [Option.some.inj (hold.symm.trans hcolumn), herror] at hfault
      exact .inl (congrArg Except.error (Except.error.inj hfault).symm)
    · obtain ⟨middle, rest, rfl⟩ := List.append_of_mem hafter
      refine .inr ⟨before ++ other :: middle, rest, ?_, other, by simp, fault, hrejects, rfl⟩
      rw [hnames, List.append_assoc, List.cons_append]

end

/-- Each column of a text is of the narrowest type for its cells, and whether it can be used as
numbers does not depend on that type.  As a continuous feature or as a numeric label it can exactly
if all of its cells are literals of numbers, and otherwise the error is about the first that is
none. -/
theorem usable_whatever_was_inferred (h : ofBytes bytes = .ok t) :
    ∃ sheet, Csv.read bytes = .ok sheet ∧ t.names = sheet.header.map Text.trimmed ∧
      ∀ (i : Nat) (name : String) (column : Column), t.columns[i]? = some (name, column) →
        ∃ raw, sheet.rows.map (·[i]?) = raw.map some ∧ column.IsNarrowest raw ∧
          ((∃ numbers, column.toFloats name = .ok (.floats numbers)) ↔
            ∀ cell ∈ raw, (Column.readFloat? cell).isSome) ∧
          (∀ error, column.toFloats name = .error error ↔
            ∃ row cell, Column.FirstMisfit raw row cell ∧
              error = .coercion name row cell .number) ∧
          ∀ (a : Assignment) (t' : Table) (outcome : Except DataError Roles),
            a.validate t = .ok () → a.WantsNumbers name → t.classify a = (t', outcome) →
            ((∀ cell ∈ raw, (Column.readFloat? cell).isSome) →
              (∀ roles, outcome = .ok roles →
                ∃ numbers, t'.column? name = some (.floats numbers)) ∧
              ∀ error, outcome = .error error → ∃ other ≠ name, a.Rejects t other error) ∧
            ∀ row cell, Column.FirstMisfit raw row cell →
              outcome = .error (.coercion name row cell .number) ∨ ∃ before after,
                a.continuous ++ a.categorical ++ [a.label] = before ++ name :: after ∧
                ∃ other ∈ before, ∃ fault, a.Rejects t other fault ∧ outcome = .error fault := by
  have hformed := isFormed_ofBytes h
  obtain ⟨sheet, hsheet, ht⟩ := ofBytes_eq_ok h
  have hwidth := Csv.length_of_read hsheet
  refine ⟨sheet, hsheet, ?_, fun i name column hentry => ?_⟩
  · rw [ht, names, List.map_map]
    show List.map (Text.trimmed ∘ Prod.fst) _ = _
    rw [← List.map_map, List.zipIdx_map_fst]
  · have hcolumn : t.column? name = some column :=
      SortedMap.get?_of_mem hformed.names (List.mem_of_getElem? hentry)
    obtain ⟨hi, rfl⟩ : i < sheet.header.length ∧ column = Column.infer (cellsAt sheet.rows i) := by
      rw [ht, List.getElem?_map, List.getElem?_zipIdx, Option.map_map] at hentry
      obtain ⟨text, htext, heq⟩ := Option.map_eq_some_iff.1 hentry
      refine ⟨(List.getElem?_eq_some_iff.1 htext).1, ?_⟩
      rw [← (Prod.mk.inj heq).2, Nat.zero_add]
    have hnarrowest := Column.isNarrowest_infer (cellsAt sheet.rows i)
    refine ⟨cellsAt sheet.rows i, ?_, hnarrowest, hnarrowest.toFloats_eq_ok_iff,
      fun error => hnarrowest.toFloats_eq_error_iff, ?_⟩
    · exact map_some_cellsAt fun row hrow => by rwa [hwidth row hrow]
    · intro a t' outcome hvalid hname hclassify
      have hpartition := Assignment.validate_eq_ok_iff.1 hvalid
      refine ⟨fun hall => ?_, fun row cell hmisfit => ?_⟩
      · obtain ⟨numbers, hnumbers⟩ := hnarrowest.toFloats_eq_ok_iff.2 hall
        obtain ⟨hok, herror⟩ :=
          classify_of_numbers hformed hpartition hname hcolumn hclassify hnumbers
        exact ⟨fun roles hroles => ⟨numbers, hok roles hroles⟩, herror⟩
      · exact classify_of_misfit hformed hpartition hname hcolumn hclassify
          (hnarrowest.toFloats_eq_error_iff.2 ⟨row, cell, hmisfit, rfl⟩)

/-- A column of texts, of which the first is a literal of a number. -/
def paid : Table := ⟨[("Age", .ints [38, 35]), ("Pay", .texts ["2.5", " x"])]⟩

theorem pay_is_told_of : ofBytes "Age, Pay\n38,2.5\n35, x\n".toUTF8.toList = .ok paid ∧
    ∃ raw, (Column.texts ["2.5", " x"]).IsNarrowest raw ∧ Column.FirstMisfit raw 1 " x" ∧
      (paid.classify ⟨[], [], "Pay", .numeric⟩).2 = .error (.coercion "Pay" 1 " x" .number) := by
  have htable : ofBytes "Age, Pay\n38,2.5\n35, x\n".toUTF8.toList = .ok paid := by decide +kernel
  obtain ⟨sheet, -, -, hcolumns⟩ := usable_whatever_was_inferred htable
  obtain ⟨raw, -, hnarrowest, -, herror, hclassify⟩ := hcolumns 1 "Pay" _ rfl
  obtain ⟨row, cell, hmisfit, heq⟩ :=
    (herror (.coercion "Pay" 1 " x" .number)).1 (by decide +kernel)
  cases heq
  refine ⟨htable, raw, hnarrowest, hmisfit, ?_⟩
  rcases (hclassify ⟨[], [], "Pay", .numeric⟩ _ _ (by decide +kernel) (.inr ⟨rfl, rfl⟩) rfl).2
    1 " x" hmisfit with htold | ⟨before, after, hnames, other, hother, -⟩
  · exact htold
  · have hbefore : before = [] := by
      cases before with
      | nil => rfl
      | cons first rest => cases rest <;> cases hnames
    rw [hbefore] at hother
    cases hother

end Table
end Exemplar
