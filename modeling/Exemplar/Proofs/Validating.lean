/-
For what an assignment is refused.

An assignment passes five checks before it is accepted: its continuous names, its categorical names,
its label, whether all of these are columns of the table, and the vocabulary of its classes.  Each
check is stated by itself here, by what fails it and by the error that tells of that, so that
several can fail at once.  The error of an assignment is that of the first check that it fails, and
one that fails none is a partition of columns of the table.
-/
import Exemplar.Proofs.Classifying

namespace Exemplar
namespace Assignment

variable {a : Assignment} {t : Table} {error : DataError}

/-- The first item of a list that stands there a second time. -/
def RepeatsFirst (items : List String) (item : String) : Prop :=
  ∃ before after, items = before ++ item :: after ∧ before.Nodup ∧ item ∈ before

/-- What an assignment is checked for. -/
inductive Check where
  | continuousNames
  | categoricalNames
  | label
  | columns
  | vocabulary
  deriving DecidableEq, Repr

/-- The checks in the order in which they are made. -/
def Check.all : List Check := [.continuousNames, .categoricalNames, .label, .columns, .vocabulary]

/-- An assignment that fails a check, and what it is then told.  What comes of the other checks
makes no difference. -/
def Fails (a : Assignment) (t : Table) (error : DataError) : Check → Prop
  | .continuousNames => ∃ name, RepeatsFirst a.continuous name ∧ error = .duplicateColumn name
  | .categoricalNames => ∃ before name after, a.categorical = before ++ name :: after ∧
      (∀ earlier ∈ before, earlier ∉ a.continuous) ∧ before.Nodup ∧
      (name ∈ a.continuous ∧ error = .roleOverlap name ∨
        name ∈ before ∧ error = .duplicateColumn name)
  | .label => a.label ∈ a.continuous ++ a.categorical ∧ error = .labelInFeatures a.label
  | .columns => ∃ before name after,
      a.continuous ++ a.categorical ++ [a.label] = before ++ name :: after ∧
      (∀ earlier ∈ before, earlier ∈ t.names) ∧ name ∉ t.names ∧ error = .unknownColumn name
  | .vocabulary => ∃ vocabulary, a.labelKind = .classes vocabulary ∧
      (vocabulary = [] ∧ error = .emptyLabelVocabulary a.label ∨
        ∃ value, RepeatsFirst vocabulary value ∧ error = .duplicateLabel a.label value)

/-! ## The checks one by one -/

/-- What a check finds wrong. -/
def faultAt? (a : Assignment) (t : Table) : Check → Option DataError
  | .continuousNames => (firstRepeat? [] a.continuous).map .duplicateColumn
  | .categoricalNames => categoricalFault? a.continuous [] a.categorical
  | .label =>
    if a.continuous.contains a.label || a.categorical.contains a.label then
      some (.labelInFeatures a.label) else none
  | .columns => ((a.continuous ++ a.categorical ++ [a.label]).find? (!t.hasColumn ·)).map
      .unknownColumn
  | .vocabulary => vocabularyFault? a.label a.labelKind

theorem fault?_eq_findSome? (a : Assignment) (t : Table) :
    a.fault? t = Check.all.findSome? (a.faultAt? t) := by
  have hcons (check : Check) (rest : List Check) : (check :: rest).findSome? (a.faultAt? t)
      = (a.faultAt? t check).or (rest.findSome? (a.faultAt? t)) := by
    rw [List.findSome?_cons]
    cases a.faultAt? t check <;> rfl
  rw [Check.all, hcons, hcons, hcons, hcons, hcons, List.findSome?_nil, Option.or_none]
  rfl

/-- Names are read behind those that were read before them. -/
theorem categoricalFault?_append (continuous seen before rest : List String) :
    categoricalFault? continuous seen (before ++ rest)
      = (categoricalFault? continuous seen before).or
          (categoricalFault? continuous (before.reverse ++ seen) rest) := by
  induction before generalizing seen with
  | nil => rfl
  | cons name before ih =>
    rw [List.cons_append, categoricalFault?, categoricalFault?, ih, List.reverse_cons,
      List.append_assoc, List.singleton_append]
    split_ifs <;> rfl

/-- The first categorical name that is continuous or stands before is the one that is told. -/
theorem categoricalFault?_eq_some_iff {continuous names : List String} :
    categoricalFault? continuous [] names = some error ↔
      ∃ before name after, names = before ++ name :: after ∧
        (∀ earlier ∈ before, earlier ∉ continuous) ∧ before.Nodup ∧
        (name ∈ continuous ∧ error = .roleOverlap name ∨
          name ∈ before ∧ error = .duplicateColumn name) := by
  have hlast {before : List String} {name : String}
      (hbefore : categoricalFault? continuous [] before = none) :
      categoricalFault? continuous before.reverse [name] = some error ↔
        (name ∈ continuous ∧ error = .roleOverlap name ∨
          name ∈ before ∧ error = .duplicateColumn name) := by
    have hapart := (categoricalFault?_eq_none_iff.1 hbefore).1 name
    by_cases hcontinuous : name ∈ continuous
    · have hnot : name ∉ before := fun hmem => hapart hmem hcontinuous
      simp [categoricalFault?, hcontinuous, hnot, eq_comm]
    · simp [categoricalFault?, hcontinuous, eq_comm]
  constructor
  · intro h
    induction names using List.reverseRecOn with
    | nil => cases h
    | append_singleton before name ih =>
      rw [categoricalFault?_append, List.append_nil] at h
      cases hbefore : categoricalFault? continuous [] before with
      | some other =>
        rw [hbefore] at h
        obtain ⟨first, stop, after, rfl, hstop⟩ := ih (hbefore.trans h)
        exact ⟨first, stop, after ++ [name], by simp, hstop⟩
      | none =>
        rw [hbefore, Option.none_or, hlast hbefore] at h
        obtain ⟨hapart, hnodup, -⟩ := categoricalFault?_eq_none_iff.1 hbefore
        exact ⟨before, name, [], rfl, hapart, hnodup, h⟩
  · rintro ⟨before, name, after, rfl, hapart, hnodup, hname⟩
    have hbefore : categoricalFault? continuous [] before = none :=
      categoricalFault?_eq_none_iff.2 ⟨hapart, hnodup, by simp⟩
    rw [categoricalFault?_append, hbefore, Option.none_or, List.append_nil,
      ← List.singleton_append, categoricalFault?_append, (hlast hbefore).2 hname]
    rfl

/-- Repeats alone are found as among categorical names of which none is continuous. -/
theorem categoricalFault?_nil (seen names : List String) :
    categoricalFault? [] seen names = (firstRepeat? seen names).map .duplicateColumn := by
  induction names generalizing seen with
  | nil => rfl
  | cons name rest ih =>
    rw [categoricalFault?, firstRepeat?, ih, if_neg (by simp)]
    split_ifs <;> rfl

theorem firstRepeat?_eq_some_iff {items : List String} {item : String} :
    firstRepeat? [] items = some item ↔ RepeatsFirst items item := by
  have hmap : firstRepeat? [] items = some item ↔
      categoricalFault? [] [] items = some (.duplicateColumn item) := by
    rw [categoricalFault?_nil, Option.map_eq_some_iff]
    simp
  rw [hmap, categoricalFault?_eq_some_iff]
  simp [RepeatsFirst]

theorem vocabularyFault?_eq_some_iff {label : String} {kind : LabelKind} :
    vocabularyFault? label kind = some error ↔ ∃ vocabulary, kind = .classes vocabulary ∧
      (vocabulary = [] ∧ error = .emptyLabelVocabulary label ∨
        ∃ value, RepeatsFirst vocabulary value ∧ error = .duplicateLabel label value) := by
  cases kind with
  | numeric => simp [vocabularyFault?]
  | classes vocabulary =>
    cases vocabulary with
    | nil => simp [vocabularyFault?, RepeatsFirst, eq_comm]
    | cons value rest =>
      rw [vocabularyFault?, Option.map_eq_some_iff]
      · simp [firstRepeat?_eq_some_iff, @eq_comm _ error]
      · rintro ⟨⟩

/-- What a check finds wrong is what fails it. -/
theorem faultAt?_eq_some_iff {check : Check} :
    a.faultAt? t check = some error ↔ a.Fails t error check := by
  cases check with
  | continuousNames =>
    show (firstRepeat? [] a.continuous).map .duplicateColumn = some error ↔ _
    simp only [Option.map_eq_some_iff, firstRepeat?_eq_some_iff, Fails, @eq_comm _ error]
  | categoricalNames => exact categoricalFault?_eq_some_iff
  | label =>
    show (if _ then some (.labelInFeatures a.label) else none) = some error ↔ _
    simp [Fails, @eq_comm _ error]
  | columns =>
    show (List.find? _ _).map .unknownColumn = some error ↔ _
    have hhas (name : String) : (!t.hasColumn name) = true ↔ name ∉ t.names := by
      rw [← Table.hasColumn_iff]
      simp
    simp only [Option.map_eq_some_iff, List.find?_eq_some_iff_append, Fails, hhas,
      Bool.not_not, Table.hasColumn_iff]
    constructor
    · rintro ⟨name, ⟨hname, before, after, hnames, hbefore⟩, rfl⟩
      exact ⟨before, name, after, hnames, hbefore, hname, rfl⟩
    · rintro ⟨before, name, after, hnames, hbefore, hname, rfl⟩
      exact ⟨name, ⟨hname, before, after, hnames, hbefore⟩, rfl⟩
  | vocabulary => exact vocabularyFault?_eq_some_iff

/-- An assignment is accepted exactly if it is a partition of columns of the table, and it is
refused for the first check that it fails. -/
theorem refused_for_first_failed_check (a : Assignment) (t : Table) :
    (a.validate t = .ok () ↔ a.IsPartition t) ∧
    ∀ error, a.validate t = .error error ↔ ∃ before check after,
      Check.all = before ++ check :: after ∧ a.Fails t error check ∧
        ∀ earlier ∈ before, ∀ other, ¬ a.Fails t other earlier := by
  refine ⟨validate_eq_ok_iff, fun error => ?_⟩
  have hfault : a.validate t = .error error ↔ a.fault? t = some error := by
    unfold validate
    cases a.fault? t <;> simp
  rw [hfault, fault?_eq_findSome?, List.findSome?_eq_some_iff]
  simp only [faultAt?_eq_some_iff, Option.eq_none_iff_forall_ne_some, ne_eq]

/-- Of all that is wrong here, the overlap is told and not the repeat behind it, nor the label. -/
example : (⟨["x"], ["y", "x", "y"], "y", .classes []⟩ : Assignment).validate {}
    = .error (.roleOverlap "x") := rfl

end Assignment
end Exemplar
