/-
Which table a classification leaves.

Columns are coerced one after the other, each in a table that was partly coerced before.  Since the
roles of an accepted assignment are apart, that comes to every column being coerced by itself, in
whichever order they are named.  A coercion that fails has coerced exactly the columns that are
named before the failing one, and its error is about the first cell of that column that cannot be
read.  No other error comes up once the assignment is accepted: every column is there, and none
changes its length.
-/
import Exemplar.Proofs.Classifying

namespace Exemplar

namespace Assignment

variable {a b : Assignment} {t : Table} {name : String} {old new : Column} {error : DataError}

/-- What becomes of a column, by its role. -/
def Turns (a : Assignment) (name : String) (old new : Column) : Prop :=
  if name ∈ a.continuous then old.TurnsInto .number new
  else if name ∈ a.categorical then new = .texts old.spellings
  else if name = a.label then old.TurnsInto a.labelKind.target new
  else new = old

/-- The same roles, whose columns are named in another order. -/
structure Reorders (b a : Assignment) : Prop where
  continuous : b.continuous.Perm a.continuous
  categorical : b.categorical.Perm a.categorical
  label : b.label = a.label
  labelKind : b.labelKind = a.labelKind

theorem Reorders.coercion_eq (h : b.Reorders a) : b.coercion = a.coercion := by
  funext name
  unfold coercion
  simp only [h.continuous.mem_iff, h.categorical.mem_iff, h.labelKind]

theorem Reorders.names_perm (h : b.Reorders a) :
    (b.continuous ++ b.categorical ++ [b.label]).Perm
      (a.continuous ++ a.categorical ++ [a.label]) :=
  (h.continuous.append h.categorical).append (by rw [h.label])

theorem Reorders.isPartition (h : b.Reorders a) (hpartition : a.IsPartition t) :
    b.IsPartition t where
  continuous := h.continuous.nodup_iff.2 hpartition.continuous
  categorical := h.categorical.nodup_iff.2 hpartition.categorical
  disjoint name hname hmem := hpartition.disjoint name (h.categorical.mem_iff.1 hname)
    (h.continuous.mem_iff.1 hmem)
  label := by
    rw [h.label, (h.continuous.append h.categorical).mem_iff]
    exact hpartition.label
  present name hname := hpartition.present name (h.names_perm.mem_iff.1 hname)
  vocabulary := h.labelKind ▸ hpartition.vocabulary

/-- A column with a role that is coerced turns into what its role says. -/
theorem turns_of_coercion (hname : name ∈ a.continuous ++ a.categorical ++ [a.label])
    (hcoerce : a.coercion name old = .ok new) : a.Turns name old new := by
  unfold coercion at hcoerce
  unfold Turns
  split_ifs at hcoerce ⊢ with hcontinuous hcategorical hlabel
  · exact Column.turnsInto_of_toFloats hcoerce
  · exact (Except.ok.inj hcoerce).symm
  · exact Column.turnsInto_of_coerceLabel hcoerce
  · simp [hcontinuous, hcategorical, hlabel] at hname

theorem Turns.length_eq (h : a.Turns name old new) : new.length = old.length := by
  unfold Turns at h
  split_ifs at h
  · exact h.length_eq
  · rw [h, ← old.length_cells, ← List.length_map, old.map_spelling_cells]
    rfl
  · exact h.length_eq
  · rw [h]

/-- Only a continuous column or the label cannot be coerced, and then for the first cell that does
not take the role. -/
theorem IsPartition.stopsAt (h : a.IsPartition t)
    (hname : name ∈ a.continuous ++ a.categorical ++ [a.label])
    (hcoerce : a.coercion name old = .error error) :
    name ∉ a.categorical ∧ ∃ target row value,
      (name ∈ a.continuous ∧ target = .number ∨ name = a.label ∧ target = a.labelKind.target) ∧
        old.StopsAt target row value ∧ error = .coercion name row value target := by
  have hstop {target : CellTarget} (hrole : name ∈ a.continuous ∧ target = .number ∨
      name = a.label ∧ target = a.labelKind.target)
      (h : ∃ row value, old.StopsAt target row value ∧ error = .coercion name row value target) :
      ∃ target row value,
        (name ∈ a.continuous ∧ target = .number ∨ name = a.label ∧ target = a.labelKind.target) ∧
          old.StopsAt target row value ∧ error = .coercion name row value target := by
    obtain ⟨row, value, hat, herror⟩ := h
    exact ⟨target, row, value, hrole, hat, herror⟩
  unfold coercion at hcoerce
  split_ifs at hcoerce with hcontinuous hcategorical
  · exact ⟨fun hmem => h.disjoint name hmem hcontinuous,
      hstop (.inl ⟨hcontinuous, rfl⟩) (Column.stopsAt_of_toFloats hcoerce)⟩
  · have hlabel : name = a.label := by simpa [hcontinuous, hcategorical] using hname
    exact ⟨hcategorical,
      hstop (.inr ⟨hlabel, rfl⟩) (Column.stopsAt_of_coerceLabel hcoerce)⟩

end Assignment

namespace Table

variable {t t₁ t' : Table} {a b : Assignment} {roles : Roles} {name : String} {old : Column}
variable {f : String → Column → Except DataError Column} {names : List String} {error : DataError}

/-! ## Coerced columns in their places -/

/-- The columns of some names are coerced in their places. -/
theorem Coerces.columns (h : Coerces f names t t') (hformed : t.IsFormed) :
    List.Forall₂ (fun old new => new.1 = old.1 ∧
      if old.1 ∈ names then f old.1 old.2 = .ok new.2 else new.2 = old.2)
      t.columns t'.columns := by
  have hlength : t.columns.length = t'.columns.length := by
    simpa [Table.names] using (congrArg List.length h.names_eq).symm
  refine List.forall₂_iff_get.2 ⟨hlength, fun i hi hi' => ?_⟩
  have hname : t'.columns[i].1 = t.columns[i].1 := by
    have hat := congrArg (·[i]?) h.names_eq
    simpa [Table.names, hi, hi'] using hat
  have hold : t.column? t.columns[i].1 = some t.columns[i].2 :=
    SortedMap.get?_of_mem hformed.names (List.getElem_mem hi)
  have hnew : t'.column? t.columns[i].1 = some t'.columns[i].2 := by
    rw [← hname]
    exact SortedMap.get?_of_mem (h.formed hformed).names (List.getElem_mem hi')
  refine ⟨hname, ?_⟩
  show if t.columns[i].1 ∈ names then f t.columns[i].1 t.columns[i].2 = .ok t'.columns[i].2
    else t'.columns[i].2 = t.columns[i].2
  split_ifs with hmem
  · obtain ⟨old, new, hfound, hcoerce, hcoerced⟩ := h.coerced _ hmem
    rwa [Option.some.inj (hfound.symm.trans hold), Option.some.inj (hcoerced.symm.trans hnew)]
      at hcoerce
  · rw [h.kept _ hmem, hold] at hnew
    exact (Option.some.inj hnew).symm

/-- Coercing the same columns in the same way makes the same table. -/
theorem Coerces.unique {more : List String} (h : Coerces f names t t') (h₁ : Coerces f more t t₁)
    (hmem : ∀ name, name ∈ names ↔ name ∈ more) (hformed : t.IsFormed) : t' = t₁ := by
  have hcolumns := h₁.columns hformed
  simp only [← hmem] at hcolumns
  have hsame : t'.columns = t₁.columns := by
    refine Relator.RightUnique.forall₂ ?_ (h.columns hformed) hcolumns
    rintro old ⟨name, new⟩ ⟨name', new'⟩ ⟨hname, hnew⟩ ⟨hname', hnew'⟩
    obtain rfl : name = name' := hname.trans hname'.symm
    split_ifs at hnew hnew'
    · cases hnew.symm.trans hnew'
      rfl
    · cases hnew.trans hnew'.symm
      rfl
  cases t'
  exact congrArg Table.mk hsame

/-! ## Coercions that fail -/

theorem coerceColumn_eq_error (hold : t.column? name = some old)
    (hlength : ∀ new, f name old = .ok new → new.length = t.rowCount)
    (h : coerceColumn (f name) (t, none) name = (t', some error)) :
    t' = t ∧ f name old = .error error := by
  unfold coerceColumn at h
  dsimp only at h
  rw [column_eq_ok_iff.2 hold] at h
  cases hnew : f name old with
  | error other =>
    simp only [hnew, bind, Except.bind] at h
    cases h
    exact ⟨rfl, rfl⟩
  | ok new =>
    have hhas : t.hasColumn name = true := by
      rw [hasColumn_iff, ← column?_isSome_iff, hold]
      rfl
    obtain ⟨replaced, hreplace⟩ : ∃ replaced, t.replaceColumn name new = .ok replaced := by
      unfold replaceColumn
      simp [hhas, hlength new hnew]
    simp only [hnew, bind, Except.bind, hreplace] at h
    cases h

/-- The columns before one that cannot be coerced are coerced, and nothing else is. -/
theorem foldl_eq_error (hnames : names.Nodup) (hpresent : ∀ name ∈ names, name ∈ t.names)
    (hformed : t.IsFormed)
    (hlength : ∀ name ∈ names, ∀ old new, f name old = .ok new → new.length = old.length)
    (h : names.foldl (fun state name => coerceColumn (f name) state name) (t, none)
      = (t', some error)) :
    ∃ before name after old, names = before ++ name :: after ∧ t.column? name = some old ∧
      f name old = .error error ∧ Coerces f before t t' := by
  induction names generalizing t with
  | nil => cases (Prod.mk.inj h).2
  | cons name rest ih =>
    obtain ⟨hname, hrest⟩ := List.nodup_cons.1 hnames
    obtain ⟨hpresent₀, hpresent⟩ := List.forall_mem_cons.1 hpresent
    obtain ⟨hlength₀, hlength⟩ := List.forall_mem_cons.1 hlength
    rw [List.foldl_cons] at h
    rcases hfirst : coerceColumn (f name) (t, none) name with ⟨t₁, _ | other⟩
    · have hcoerces := coerces_coerceColumn hfirst
      rw [hfirst] at h
      obtain ⟨before, failing, after, old, rfl, hold, herror, hbefore⟩ := ih hrest
        (fun n hn => hcoerces.names_eq ▸ hpresent n hn) (hcoerces.formed hformed) hlength h
      refine ⟨name :: before, failing, after, old, rfl, ?_, herror, ?_⟩
      · rw [← hold, hcoerces.kept]
        rintro hmem
        exact hname (List.mem_singleton.1 hmem ▸ by simp)
      · refine hcoerces.append hbefore fun n hn hmem => ?_
        exact hname (List.mem_singleton.1 hmem ▸ List.mem_append_left _ hn)
    · obtain ⟨old, hold⟩ := Option.isSome_iff_exists.1 (column?_isSome_iff.2 hpresent₀)
      rw [hfirst, foldl_coerceColumn_of_fault] at h
      cases h
      obtain ⟨rfl, herror⟩ := coerceColumn_eq_error hold
        (fun new hnew => (hlength₀ old new hnew).trans (hformed.length_of_column? hold)) hfirst
      exact ⟨[], name, rest, old, rfl, hold, herror, .refl t'⟩

theorem coerce_eq_error (hpartition : a.IsPartition t) (hformed : t.IsFormed)
    (h : t.coerce a = (t', some error)) :
    ∃ before name after old, a.continuous ++ a.categorical ++ [a.label] = before ++ name :: after ∧
      t.column? name = some old ∧ a.coercion name old = .error error ∧
      Coerces a.coercion before t t' := by
  rw [coerce_eq_foldl hpartition] at h
  refine foldl_eq_error hpartition.nodup hpartition.present hformed
    (fun name hname old new hnew => ?_) h
  exact (Assignment.turns_of_coercion hname hnew).length_eq

/-! ## Classifying -/

/-- The columns of a table after some of them turned into what their roles say. -/
theorem Coerces.turns (h : Coerces a.coercion names t t') (hformed : t.IsFormed)
    (hnames : ∀ name ∈ names, name ∈ a.continuous ++ a.categorical ++ [a.label]) :
    List.Forall₂ (fun old new => new.1 = old.1 ∧
      if old.1 ∈ names then a.Turns old.1 old.2 new.2 else new.2 = old.2)
      t.columns t'.columns := by
  refine (h.columns hformed).imp fun old new hcolumn => ⟨hcolumn.1, ?_⟩
  have hnew := hcolumn.2
  split_ifs at hnew ⊢ with hmem
  · exact Assignment.turns_of_coercion (hnames _ hmem) hnew
  · exact hnew

/-- Naming the columns of the roles in another order makes the same table. -/
theorem classify_of_reorders (hformed : t.IsFormed) (hpartition : a.IsPartition t)
    (h : Coerces a.coercion (a.continuous ++ a.categorical ++ [a.label]) t t')
    (hreorders : b.Reorders a) : t.classify b = (t', .ok b.roles) := by
  have hpartition' := hreorders.isPartition hpartition
  have hmem (name : String) := hreorders.names_perm.mem_iff (a := name)
  unfold classify
  rw [Assignment.validate_eq_ok_iff.2 hpartition']
  dsimp only
  rcases hcoerce : t.coerce b with ⟨t₁, _ | error⟩
  · have hcoerces := coerces_coerce hpartition' hcoerce
    rw [hreorders.coercion_eq] at hcoerces
    rw [h.unique hcoerces (fun name => (hmem name).symm) hformed]
  · obtain ⟨before, name, after, old, hnames, hold, herror, -⟩ :=
      coerce_eq_error hpartition' hformed hcoerce
    have hname : name ∈ a.continuous ++ a.categorical ++ [a.label] := by
      rw [← hmem, hnames]
      simp
    obtain ⟨found, new, hfound, hnew, -⟩ := h.coerced name hname
    rw [Option.some.inj (hfound.symm.trans hold), ← hreorders.coercion_eq, herror] at hnew
    cases hnew

/-- A classified table has the names and the rows that it had, and each of its columns turned by
itself into what its role says.  The roles are those that were asked for, with no name in two of
them, and the order in which they name their columns makes no difference to the table. -/
theorem classification_is_columnwise (hformed : t.IsFormed) (h : t.classify a = (t', .ok roles)) :
    t'.names = t.names ∧ t'.rowCount = t.rowCount ∧
      List.Forall₂ (fun old new => new.1 = old.1 ∧ a.Turns old.1 old.2 new.2)
        t.columns t'.columns ∧
      (∀ b : Assignment, b.Reorders a → t.classify b = (t', .ok b.roles)) ∧
      roles.continuous = a.continuous ∧ roles.categorical = a.categorical ∧
      roles.label = a.label ∧ (roles.continuous ++ roles.categorical ++ [roles.label]).Nodup := by
  obtain ⟨rfl, hpartition, hcoerces⟩ := classify_eq_ok h
  refine ⟨hcoerces.names_eq, hcoerces.rowCount_eq, ?_, ?_, rfl, rfl, rfl, hpartition.nodup⟩
  · refine (hcoerces.turns hformed fun _ hname => hname).imp fun old new hcolumn => ?_
    refine ⟨hcolumn.1, ?_⟩
    have hnew := hcolumn.2
    split_ifs at hnew with hmem
    · exact hnew
    · simp only [List.mem_append, List.mem_singleton, not_or] at hmem
      rw [Assignment.Turns, if_neg hmem.1.1, if_neg hmem.1.2, if_neg hmem.2]
      exact hnew
  · exact fun b hreorders => classify_of_reorders hformed hpartition hcoerces hreorders

/-- Columns of each type, the ages of which are integers. -/
def survey : Table :=
  ⟨[("Origin", .ints [1, 3]), ("Age", .ints [38, 35]), ("Pay", .texts [" 2.5", "1e3"]),
    ("Note", .texts ["", "-"]), ("Adjusted", .floats [0.0, 1.0])]⟩

/-- Roles for all of them but the notes. -/
def surveyed (continuous : List String) : Assignment :=
  ⟨continuous, ["Origin"], "Adjusted", .classes ["1.0", "0.0"]⟩

def coded : Table :=
  ⟨[("Origin", .texts ["1", "3"]), ("Age", .floats [38.0, 35.0]), ("Pay", .floats [2.5, 1000.0]),
    ("Note", .texts ["", "-"]), ("Adjusted", .ints [1, 0])]⟩

theorem classification_is_columnwise_once : survey.IsFormed ∧
    survey.classify (surveyed ["Age", "Pay"]) = (coded, .ok (surveyed ["Age", "Pay"]).roles) ∧
    List.Forall₂ (fun old new => new.1 = old.1 ∧ (surveyed ["Age", "Pay"]).Turns old.1 old.2 new.2)
      survey.columns coded.columns ∧
    survey.classify (surveyed ["Pay", "Age"]) = (coded, .ok (surveyed ["Pay", "Age"]).roles) := by
  have hformed : survey.IsFormed := ⟨by decide, by decide⟩
  have hclassify : survey.classify (surveyed ["Age", "Pay"])
      = (coded, .ok (surveyed ["Age", "Pay"]).roles) := by decide +kernel
  obtain ⟨-, -, hturns, hreorders, -⟩ := classification_is_columnwise hformed hclassify
  exact ⟨hformed, hclassify, hturns, hreorders _ ⟨.swap .., .refl _, rfl, rfl⟩⟩

/-- What is left of a table that cannot be classified.  If the assignment is refused, that is its
fault and the table is as it was.  Otherwise a column of the roles cannot be coerced, which is no
categorical one: the error is about its first cell that cannot be read, the columns of the roles
before it are coerced, and all others are as they were. -/
theorem failed_classification_stops (hformed : t.IsFormed)
    (h : t.classify a = (t', .error error)) :
    (∀ fault, a.validate t = .error fault → error = fault ∧ t' = t) ∧
    (a.validate t = .ok () → ∃ before name after old target row value,
      a.continuous ++ a.categorical ++ [a.label] = before ++ name :: after ∧
      name ∉ a.categorical ∧
      (name ∈ a.continuous ∧ target = .number ∨ name = a.label ∧ target = a.labelKind.target) ∧
      t.column? name = some old ∧ old.StopsAt target row value ∧
      error = .coercion name row value target ∧
      List.Forall₂ (fun old new => new.1 = old.1 ∧
        if old.1 ∈ before then a.Turns old.1 old.2 new.2 else new.2 = old.2)
        t.columns t'.columns) := by
  unfold classify at h
  refine ⟨fun fault hfault => ?_, fun hvalid => ?_⟩
  · rw [hfault] at h
    cases h
    exact ⟨rfl, rfl⟩
  · rw [hvalid] at h
    dsimp only at h
    have hpartition := Assignment.validate_eq_ok_iff.1 hvalid
    split at h
    · rename_i after fault hcoerce
      cases h
      obtain ⟨before, name, after, old, hnames, hold, herror, hcoerces⟩ :=
        coerce_eq_error hpartition hformed hcoerce
      obtain ⟨hcategorical, target, row, value, hrole, hstops, rfl⟩ :=
        hpartition.stopsAt (hnames ▸ by simp) herror
      refine ⟨before, name, after, old, target, row, value, hnames, hcategorical, hrole, hold,
        hstops, rfl, hcoerces.turns hformed fun n hn => ?_⟩
      rw [hnames]
      exact List.mem_append_left _ hn
    · cases (Prod.mk.inj h).2

/-- The notes are no numbers, so the ages are coerced and the pay is not. -/
theorem failed_classification_stops_once :
    let a := surveyed ["Age", "Note", "Pay"]
    let left : Table := ⟨survey.columns.set 1 ("Age", .floats [38.0, 35.0])⟩
    survey.IsFormed ∧ a.validate survey = .ok () ∧
      survey.classify a = (left, .error (.coercion "Note" 0 "" .number)) ∧
      ∃ before after old, a.continuous ++ a.categorical ++ [a.label] = before ++ "Note" :: after ∧
        survey.column? "Note" = some old ∧ old.StopsAt .number 0 "" ∧
        List.Forall₂ (fun old new => new.1 = old.1 ∧
          if old.1 ∈ before then a.Turns old.1 old.2 new.2 else new.2 = old.2)
          survey.columns left.columns := by
  intro a left
  have hformed : survey.IsFormed := ⟨by decide, by decide⟩
  have hvalid : a.validate survey = .ok () := by decide +kernel
  have hclassify : survey.classify a = (left, .error (.coercion "Note" 0 "" .number)) := by
    decide +kernel
  obtain ⟨before, name, after, old, target, row, value, hnames, -, -, hold, hstops, herror,
    hcolumns⟩ := (failed_classification_stops hformed hclassify).2 hvalid
  cases herror
  exact ⟨hformed, hvalid, hclassify, before, after, old, hnames, hold, hstops, hcolumns⟩

end Table
end Exemplar
