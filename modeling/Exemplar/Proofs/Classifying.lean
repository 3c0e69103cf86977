/-
What a table becomes when it is classified.

An assignment is accepted exactly if it partitions columns that are there.  A table whose
coercion comes to its end has the same names and rows as before, each column with a role is coerced
on its own, and all other columns are as they were.
-/
import Exemplar.Proofs.Cells
import Exemplar.Proofs.Tables

namespace Exemplar

/-! ## Checking an assignment -/

namespace Assignment

variable {a : Assignment} {t : Table}

/-- Roles that partition columns of a table; classes are those of a vocabulary. -/
structure IsPartition (a : Assignment) (t : Table) : Prop where
  continuous : a.continuous.Nodup
  categorical : a.categorical.Nodup
  disjoint : ∀ name ∈ a.categorical, name ∉ a.continuous
  label : a.label ∉ a.continuous ++ a.categorical
  present : ∀ name ∈ a.continuous ++ a.categorical ++ [a.label], name ∈ t.names
  vocabulary : ∀ vocabulary, a.labelKind = .classes vocabulary →
    vocabulary ≠ [] ∧ vocabulary.Nodup

theorem firstRepeat?_eq_none_iff {seen names : List String} :
    firstRepeat? seen names = none ↔ names.Nodup ∧ ∀ name ∈ names, name ∉ seen := by
  induction names generalizing seen with
  | nil => simp [firstRepeat?]
  | cons name rest ih =>
    rw [firstRepeat?, List.nodup_cons, List.forall_mem_cons]
    by_cases hseen : name ∈ seen
    · simp [hseen]
    · rw [if_neg (by simpa using hseen), ih]
      simp only [List.mem_cons, not_or]
      constructor
      · rintro ⟨hrest, hnot⟩
        exact ⟨⟨fun hmem => (hnot name hmem).1 rfl, hrest⟩, hseen, fun n hn => (hnot n hn).2⟩
      · rintro ⟨⟨hmem, hrest⟩, -, hnot⟩
        exact ⟨hrest, fun n hn => ⟨fun heq => hmem (heq ▸ hn), hnot n hn⟩⟩

theorem categoricalFault?_eq_none_iff {continuous seen names : List String} :
    categoricalFault? continuous seen names = none ↔
      (∀ name ∈ names, name ∉ continuous) ∧ names.Nodup ∧ ∀ name ∈ names, name ∉ seen := by
  rw [← firstRepeat?_eq_none_iff]
  induction names generalizing seen with
  | nil => simp [categoricalFault?, firstRepeat?]
  | cons name rest ih =>
    rw [categoricalFault?, firstRepeat?, List.forall_mem_cons]
    by_cases hcontinuous : name ∈ continuous
    · simp [hcontinuous]
    · rw [if_neg (by simpa using hcontinuous)]
      split
      · simp
      · rw [ih]
        simp [hcontinuous]

theorem vocabularyFault?_eq_none_iff {label : String} {kind : LabelKind} :
    vocabularyFault? label kind = none ↔
      ∀ vocabulary, kind = .classes vocabulary → vocabulary ≠ [] ∧ vocabulary.Nodup := by
  cases kind with
  | numeric => simp [vocabularyFault?]
  | classes vocabulary =>
    cases vocabulary with
    | nil => simp [vocabularyFault?]
    | cons value rest => simp [vocabularyFault?, firstRepeat?_eq_none_iff]

theorem fault?_eq_none_iff : a.fault? t = none ↔ a.IsPartition t := by
  have hlabel : a.label ∉ a.continuous ++ a.categorical ↔
      (a.continuous.contains a.label || a.categorical.contains a.label) = false := by
    simp
  have hpresent : (a.continuous ++ a.categorical ++ [a.label]).find? (!t.hasColumn ·) = none ↔
      ∀ name ∈ a.continuous ++ a.categorical ++ [a.label], name ∈ t.names := by
    rw [List.find?_eq_none]
    refine forall₂_congr fun name _ => ?_
    rw [← Table.hasColumn_iff]
    simp
  unfold fault?
  simp only [Option.or_eq_none_iff, Option.map_eq_none_iff, firstRepeat?_eq_none_iff,
    categoricalFault?_eq_none_iff, vocabularyFault?_eq_none_iff, hpresent]
  constructor
  · rintro ⟨⟨hcontinuous, -⟩, ⟨hdisjoint, hcategorical, -⟩, hlabel', hpresent, hvocabulary⟩
    refine ⟨hcontinuous, hcategorical, hdisjoint, hlabel.2 ?_, hpresent, hvocabulary⟩
    by_contra hne
    rw [if_pos (by simpa only [Bool.not_eq_false] using hne)] at hlabel'
    cases hlabel'
  · intro h
    refine ⟨⟨h.continuous, by simp⟩, ⟨h.disjoint, h.categorical, by simp⟩, ?_, h.present,
      h.vocabulary⟩
    rw [hlabel.1 h.label]
    rfl

/-- An assignment is accepted exactly if it partitions columns of the table. -/
theorem validate_eq_ok_iff : a.validate t = .ok () ↔ a.IsPartition t := by
  rw [← fault?_eq_none_iff]
  unfold validate
  cases a.fault? t with
  | none => simp
  | some error => simp

/-- How the column of a role is coerced. -/
def coercion (a : Assignment) (name : String) : Column → Except DataError Column :=
  if name ∈ a.continuous then Column.toFloats name
  else if name ∈ a.categorical then fun column => .ok column.toTexts
  else Table.coerceLabel name a.labelKind

variable {name : String}

theorem coercion_continuous (h : name ∈ a.continuous) :
    a.coercion name = Column.toFloats name := if_pos h

theorem IsPartition.coercion_categorical (h : a.IsPartition t) (hname : name ∈ a.categorical) :
    a.coercion name = fun column => .ok column.toTexts := by
  rw [coercion, if_neg (h.disjoint name hname), if_pos hname]

theorem IsPartition.coercion_label (h : a.IsPartition t) :
    a.coercion a.label = Table.coerceLabel a.label a.labelKind := by
  have hlabel := h.label
  rw [List.mem_append, not_or] at hlabel
  rw [coercion, if_neg hlabel.1, if_neg hlabel.2]

/-- No column has two roles. -/
theorem IsPartition.nodup (h : a.IsPartition t) :
    (a.continuous ++ a.categorical ++ [a.label]).Nodup := by
  have hfeatures : (a.continuous ++ a.categorical).Nodup :=
    List.nodup_append.2 ⟨h.continuous, h.categorical, fun name hname other hother heq =>
      h.disjoint other hother (heq ▸ hname)⟩
  refine List.nodup_append.2
    ⟨hfeatures, List.nodup_singleton _, fun name hname other hother heq => ?_⟩
  rw [List.mem_singleton] at hother
  exact h.label (hother ▸ heq ▸ hname)

end Assignment

/-! ## Coercing columns -/

namespace Table

variable {t t₁ t' : Table} {a : Assignment} {roles : Roles}
variable {f : String → Column → Except DataError Column} {names more : List String}

/-- The table in which the columns of some names are coerced. -/
structure Coerces (f : String → Column → Except DataError Column) (names : List String)
    (t t' : Table) : Prop where
  names_eq : t'.names = t.names
  rowCount_eq : t'.rowCount = t.rowCount
  formed : t.IsFormed → t'.IsFormed
  coerced : ∀ name ∈ names, ∃ old new, t.column? name = some old ∧ f name old = .ok new ∧
    t'.column? name = some new
  kept : ∀ name, name ∉ names → t'.column? name = t.column? name

namespace Coerces

theorem refl (t : Table) : Coerces f [] t t :=
  ⟨rfl, rfl, id, fun _ h => by simp at h, fun _ _ => rfl⟩

theorem append (h₁ : Coerces f names t t₁) (h₂ : Coerces f more t₁ t')
    (hdisjoint : ∀ name ∈ more, name ∉ names) : Coerces f (names ++ more) t t' := by
  refine ⟨h₂.names_eq.trans h₁.names_eq, h₂.rowCount_eq.trans h₁.rowCount_eq,
    fun h => h₂.formed (h₁.formed h), fun name hname => ?_, fun name hname => ?_⟩
  · rcases List.mem_append.1 hname with hname | hname
    · obtain ⟨old, new, hold, hcoerce, hnew⟩ := h₁.coerced name hname
      exact ⟨old, new, hold, hcoerce, (h₂.kept name fun hmem => hdisjoint name hmem hname) ▸ hnew⟩
    · obtain ⟨old, new, hold, hcoerce, hnew⟩ := h₂.coerced name hname
      exact ⟨old, new, (h₁.kept name (hdisjoint name hname)) ▸ hold, hcoerce, hnew⟩
  · rw [List.mem_append, not_or] at hname
    rw [h₂.kept name hname.2, h₁.kept name hname.1]

end Coerces

/-- One column is coerced, and that in its place. -/
theorem coerces_coerceColumn {name : String}
    (h : coerceColumn (f name) (t, none) name = (t', none)) : Coerces f [name] t t' := by
  unfold coerceColumn at h
  dsimp only at h
  split at h
  · rename_i next hnext
    obtain rfl : next = t' := (Prod.mk.inj h).1
    cases hold : t.column? name with
    | none =>
      rw [Table.column, hold] at hnext
      cases hnext
    | some old =>
      rw [column_eq_ok_iff.2 hold] at hnext
      cases hnew : f name old with
      | error error =>
        simp only [bind, Except.bind, hnew] at hnext
        cases hnext
      | ok new =>
        simp only [bind, Except.bind, hnew] at hnext
        refine ⟨names_replaceColumn hnext, rowCount_replaceColumn hnext,
          IsFormed.replaceColumn hnext, ?_, ?_⟩
        · intro other hother
          rw [List.mem_singleton.1 hother]
          exact ⟨old, new, hold, hnew, column?_replaceColumn_self hnext⟩
        · intro other hother
          exact column?_replaceColumn_ne hnext fun heq => hother (by simp [heq])
  · cases (Prod.mk.inj h).2

theorem foldl_coerceColumn_of_fault (error : DataError) :
    names.foldl (fun state name => coerceColumn (f name) state name) (t, some error)
      = (t, some error) := by
  induction names with
  | nil => rfl
  | cons name rest ih => exact ih

/-- Columns of different names are coerced each on its own. -/
theorem coerces_foldl (hnames : names.Nodup)
    (h : names.foldl (fun state name => coerceColumn (f name) state name) (t, none)
      = (t', none)) : Coerces f names t t' := by
  induction names generalizing t with
  | nil =>
    obtain rfl : t = t' := (Prod.mk.inj h).1
    exact .refl t
  | cons name rest ih =>
    obtain ⟨hname, hrest⟩ := List.nodup_cons.1 hnames
    rw [List.foldl_cons] at h
    rcases hfirst : coerceColumn (f name) (t, none) name with ⟨t₁, _ | error⟩
    · rw [hfirst] at h
      refine (coerces_coerceColumn hfirst).append (ih hrest h) fun other hother heq => ?_
      exact hname (List.mem_singleton.1 heq ▸ hother)
    · rw [hfirst, foldl_coerceColumn_of_fault] at h
      cases (Prod.mk.inj h).2

/-- The columns with a role are coerced in one go, each by its own role. -/
theorem coerce_eq_foldl (h : a.IsPartition t) : t.coerce a
    = (a.continuous ++ a.categorical ++ [a.label]).foldl (fun state name =>
        coerceColumn (a.coercion name) state name) (t, none) := by
  have hcontinuous (state : Coerced) : a.continuous.foldl (fun state name =>
      coerceColumn (a.coercion name) state name) state = a.continuous.foldl (fun state name =>
        coerceColumn (Column.toFloats name) state name) state :=
    List.foldl_ext _ _ _ fun state name hname => by rw [Assignment.coercion_continuous hname]
  have hcategorical (state : Coerced) : a.categorical.foldl (fun state name =>
      coerceColumn (a.coercion name) state name) state
        = a.categorical.foldl (coerceColumn fun column => .ok column.toTexts) state :=
    List.foldl_ext _ _ _ fun state name hname => by rw [h.coercion_categorical hname]
  rw [List.foldl_append, List.foldl_append, List.foldl_cons, List.foldl_nil, h.coercion_label,
    hcategorical, hcontinuous]
  rfl

theorem coerces_coerce (hpartition : a.IsPartition t) (h : t.coerce a = (t', none)) :
    Coerces a.coercion (a.continuous ++ a.categorical ++ [a.label]) t t' := by
  rw [coerce_eq_foldl hpartition] at h
  exact coerces_foldl hpartition.nodup h

/-- A table is classified only by a partition, which coerces each of its columns on its own. -/
theorem classify_eq_ok (h : t.classify a = (t', .ok roles)) :
    roles = a.roles ∧ a.IsPartition t ∧
      Coerces a.coercion (a.continuous ++ a.categorical ++ [a.label]) t t' := by
  unfold classify at h
  split at h
  · cases (Prod.mk.inj h).2
  rename_i hvalid
  have hpartition := Assignment.validate_eq_ok_iff.1 hvalid
  split at h
  · cases (Prod.mk.inj h).2
  rename_i after hcoerce
  obtain ⟨rfl, hroles⟩ := Prod.mk.inj h
  exact ⟨(Except.ok.inj hroles).symm, hpartition, coerces_coerce hpartition hcoerce⟩

end Table

end Exemplar
