/-
Tables that are classified again and again.

No attempt to classify a table, whether it comes to its end or stops in the
middle, changes the names of the columns, their order or their number of rows:
the step is the coercion of one column, which puts another of the same length in
its place or leaves the table as it is.  So the table that any number of
attempts leaves holds columns of different names and of one length, as it did
when it was put together, and no coerced column is ever refused for its length.
-/
import Exemplar.Proofs.Inferring
import Exemplar.Proofs.Validating

namespace Exemplar
namespace Table

variable {t t₁ t' : Table} {a : Assignment} {name : String} {error : DataError}

/-! ## Attempts -/

/-- A table with the same names in the same order and the same number of rows, whose columns are
of one length if they were before. -/
structure SameShape (t t' : Table) : Prop where
  names : t'.names = t.names
  rowCount : t'.rowCount = t.rowCount
  formed : t.IsFormed → t'.IsFormed

namespace SameShape

theorem refl (t : Table) : SameShape t t := ⟨rfl, rfl, id⟩

theorem trans (h : SameShape t t₁) (h' : SameShape t₁ t') : SameShape t t' :=
  ⟨h'.names.trans h.names, h'.rowCount.trans h.rowCount,
    fun hformed => h'.formed (h.formed hformed)⟩

end SameShape

/-- Coercing a column keeps the shape of a table, also where it fails. -/
theorem sameShape_coerceColumn (coerce : Column → Except DataError Column) (state : Coerced)
    (name : String) : SameShape state.1 (coerceColumn coerce state name).1 := by
  obtain ⟨t, fault⟩ := state
  cases fault with
  | some error => exact .refl t
  | none =>
    unfold coerceColumn
    dsimp only
    split
    · rename_i next hnext
      obtain ⟨old, -, hreplace⟩ := bind_eq_ok_iff.1 hnext
      obtain ⟨new, -, hreplace⟩ := bind_eq_ok_iff.1 hreplace
      exact ⟨names_replaceColumn hreplace, rowCount_replaceColumn hreplace,
        (·.replaceColumn hreplace)⟩
    · exact .refl t

theorem sameShape_foldl (coerce : String → Column → Except DataError Column) (state : Coerced)
    (names : List String) : SameShape state.1
      (names.foldl (fun state name => coerceColumn (coerce name) state name) state).1 := by
  induction names generalizing state with
  | nil => exact .refl state.1
  | cons name rest ih => exact (sameShape_coerceColumn (coerce name) state name).trans (ih _)

theorem sameShape_coerce (t : Table) (a : Assignment) : SameShape t (t.coerce a).1 :=
  ((sameShape_foldl Column.toFloats (t, none) a.continuous).trans
    (sameShape_foldl (fun _ column => .ok column.toTexts) _ a.categorical)).trans
      (sameShape_coerceColumn _ _ a.label)

/-- An attempt to classify a table keeps its shape, however it ends. -/
theorem sameShape_classify (t : Table) (a : Assignment) : SameShape t (t.classify a).1 := by
  have hcoerce := sameShape_coerce t a
  unfold classify
  split
  · exact .refl t
  · split
    · rename_i after error heq
      rwa [heq] at hcoerce
    · rename_i after heq
      rwa [heq] at hcoerce

/-- What is left of a table after attempts to classify it, each of which starts with what the one
before has left. -/
def afterAll (t : Table) (attempts : List Assignment) : Table :=
  attempts.foldl (fun left a => (left.classify a).1) t

theorem sameShape_afterAll (t : Table) (attempts : List Assignment) :
    SameShape t (t.afterAll attempts) := by
  induction attempts generalizing t with
  | nil => exact .refl t
  | cons a rest ih => exact (sameShape_classify t a).trans (ih _)

/-! ## What attempts are told -/

/-- An error about the length of a column. -/
def IsMiscounted (error : DataError) : Prop :=
  ∃ counted expected actual, error = .rowCount counted expected actual

theorem not_isMiscounted_of_validate (h : a.validate t = .error error) : ¬ IsMiscounted error := by
  rintro ⟨counted, expected, actual, rfl⟩
  have hfault : a.fault? t = some (.rowCount counted expected actual) := by
    unfold Assignment.validate at h
    split at h
    · rename_i fault hfault
      rw [hfault, Except.error.inj h]
    · cases h
  rw [Assignment.fault?_eq_findSome?] at hfault
  obtain ⟨check, -, hcheck⟩ := List.exists_of_findSome?_eq_some hfault
  rw [Assignment.faultAt?_eq_some_iff] at hcheck
  cases check <;> simp [Assignment.Fails] at hcheck

/-- An attempt is never told that a coerced column has another length than the table. -/
theorem not_isMiscounted_of_classify (hformed : t.IsFormed)
    (h : (t.classify a).2 = .error error) : ¬ IsMiscounted error := by
  cases hvalid : a.validate t with
  | error fault =>
    have hfault : (t.classify a).2 = .error fault := by
      unfold classify
      rw [hvalid]
    rw [← Except.error.inj (hfault.symm.trans h)]
    exact not_isMiscounted_of_validate hvalid
  | ok =>
    have hpartition := Assignment.validate_eq_ok_iff.1 hvalid
    rcases classify_cases hformed hpartition (Prod.mk.eta (p := t.classify a)).symm with
      ⟨hok, -⟩ | ⟨before, name, after, fault, hnames, hfault, ⟨old, -, hcoerce⟩, -⟩
    · cases hok.symm.trans h
    · obtain ⟨-, target, row, value, -, -, hcoercion⟩ :=
        hpartition.stopsAt (hnames ▸ by simp) hcoerce
      rw [← Except.error.inj (hfault.symm.trans h), hcoercion]
      rintro ⟨counted, expected, actual, heq⟩
      cases heq

/-- Whatever attempts were made to classify a table, it holds the columns of the names that it was
put together with, in their order, and all of them have as many rows as then.  Exactly the columns
of these names are found, and no further attempt is told that a column has another length. -/
theorem shape_outlives_attempts (h : (∃ bytes, ofBytes bytes = .ok t) ∨
    ∃ columns, ofColumns columns = .ok t) (attempts : List Assignment) :
    (t.afterAll attempts).names.Nodup ∧ (t.afterAll attempts).names = t.names ∧
      (t.afterAll attempts).rowCount = t.rowCount ∧
      (∀ entry ∈ (t.afterAll attempts).columns,
        entry.2.length = (t.afterAll attempts).rowCount) ∧
      (∀ name, (∃ column, (t.afterAll attempts).column name = .ok column) ↔ name ∈ t.names) ∧
      (∀ name, name ∉ t.names →
        (t.afterAll attempts).column name = .error (.unknownColumn name)) ∧
      ∀ a error, ((t.afterAll attempts).classify a).2 = .error error → ¬ IsMiscounted error := by
  have hformed : t.IsFormed := by
    rcases h with ⟨bytes, hbytes⟩ | ⟨columns, hcolumns⟩
    · exact isFormed_ofBytes hbytes
    · exact (ofColumns_eq_ok_iff.1 hcolumns).2
  have hshape := sameShape_afterAll t attempts
  have hleft := hshape.formed hformed
  have hfound (name : String) :
      ((t.afterAll attempts).column? name).isSome = true ↔ name ∈ t.names := by
    rw [column?_isSome_iff, hshape.names]
  refine ⟨hleft.names, hshape.names, hshape.rowCount, hleft.lengths, fun name => ?_,
    fun name hname => ?_, fun a error => not_isMiscounted_of_classify hleft⟩
  · rw [← hfound, Option.isSome_iff_exists]
    exact exists_congr fun column => column_eq_ok_iff
  · rw [← hfound, Option.not_isSome_iff_eq_none] at hname
    rw [Table.column, hname]

/-- An attempt that stops at the notes, one that comes to its end and one that is refused. -/
def attempts : List Assignment :=
  [surveyed ["Age", "Note", "Pay"], surveyed ["Age", "Pay"], surveyed ["Wage"]]

theorem survey_outlives_attempts : ofColumns survey.columns = .ok survey ∧
    survey.afterAll attempts = coded ∧ coded.names = survey.names ∧
      coded.rowCount = survey.rowCount ∧ coded.column "Wage" = .error (.unknownColumn "Wage") := by
  have htable : ofColumns survey.columns = .ok survey := by decide +kernel
  have hafter : survey.afterAll attempts = coded := by decide +kernel
  obtain ⟨-, hnames, hrows, -, -, hunknown, -⟩ :=
    shape_outlives_attempts (.inr ⟨survey.columns, htable⟩) attempts
  rw [hafter] at hnames hrows hunknown
  exact ⟨htable, hafter, hnames, hrows, hunknown "Wage" (by decide)⟩

end Table
end Exemplar
