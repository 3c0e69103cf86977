/-
Tables hold columns of different names and of one length.

That is what a table is checked for when it is put together, and a replaced column keeps it: the new
column stands under the same name and has the same length.
-/
import Exemplar.Proofs.Maps
import Exemplar.Table.Reading

namespace Exemplar

deriving instance DecidableEq for Column
deriving instance DecidableEq for Table

namespace Table

variable {t t' : Table} {name other : String} {column : Column}

/-- Columns of different names and of one length. -/
structure IsFormed (t : Table) : Prop where
  names : t.names.Nodup
  lengths : ∀ entry ∈ t.columns, entry.2.length = t.rowCount

theorem hasColumn_iff : t.hasColumn name = true ↔ name ∈ t.names := List.contains_iff_mem

/-! ## Putting a table together -/

theorem rowCount_append (columns more : List (String × Column)) (h : columns ≠ []) :
    rowCount ⟨columns ++ more⟩ = rowCount ⟨columns⟩ := by
  cases columns with
  | nil => exact absurd rfl h
  | cons entry rest => rfl

/-- A column is added exactly if that makes a table of it. -/
theorem addColumn_eq_ok_iff (h : t.IsFormed) : t.addColumn name column = .ok t' ↔
    t' = ⟨t.columns ++ [(name, column)]⟩ ∧ t'.IsFormed := by
  have hnames : names ⟨t.columns ++ [(name, column)]⟩ = t.names ++ [name] := by
    simp [names]
  unfold addColumn
  split
  · rename_i hhas
    refine ⟨fun heq => (by cases heq), ?_⟩
    rintro ⟨rfl, hformed⟩
    have hdistinct := hformed.names
    rw [hnames, List.nodup_append] at hdistinct
    exact absurd rfl (hdistinct.2.2 name (hasColumn_iff.1 hhas) name (List.mem_singleton_self _))
  rename_i hhas
  have hdistinct : (t.names ++ [name]).Nodup := by
    refine List.nodup_append.2 ⟨h.names, List.nodup_singleton _, ?_⟩
    intro a ha b hb heq
    rw [heq, List.mem_singleton.1 hb] at ha
    exact hhas (hasColumn_iff.2 ha)
  by_cases hempty : t.columns = []
  · have hformed : IsFormed ⟨t.columns ++ [(name, column)]⟩ := by
      refine ⟨hnames ▸ hdistinct, ?_⟩
      simp [hempty, rowCount]
    simp only [hempty, List.isEmpty_nil, Bool.not_true, Bool.false_and, Bool.false_eq_true,
      if_false]
    rw [hempty] at hformed
    constructor
    · rintro heq
      cases heq
      exact ⟨rfl, hformed⟩
    · rintro ⟨rfl, -⟩
      rfl
  have hcount := rowCount_append t.columns [(name, column)] hempty
  split
  · rename_i hne
    refine ⟨fun heq => (by cases heq), ?_⟩
    rintro ⟨rfl, hformed⟩
    have hlength : column.length = t.rowCount :=
      (hformed.lengths (name, column) (by simp)).trans hcount
    simp [hlength] at hne
  · rename_i heq
    have hlength : column.length = t.rowCount := by
      by_contra hne
      exact heq (by simp [hempty, Ne.symm hne])
    have hformed : IsFormed ⟨t.columns ++ [(name, column)]⟩ := by
      refine ⟨hnames ▸ hdistinct, fun entry hentry => ?_⟩
      rw [hcount]
      rcases List.mem_append.1 hentry with hentry | hentry
      · exact h.lengths entry hentry
      · rw [List.mem_singleton.1 hentry]
        exact hlength
    constructor
    · intro hok
      cases hok
      exact ⟨rfl, hformed⟩
    · rintro ⟨rfl, -⟩
      rfl

theorem IsFormed.dropLast {columns : List (String × Column)} {entry : String × Column}
    (h : IsFormed ⟨columns ++ [entry]⟩) : IsFormed ⟨columns⟩ := by
  by_cases hempty : columns = []
  · rw [hempty]
    exact ⟨.nil, fun _ h => by cases h⟩
  · refine ⟨?_, fun e he => ?_⟩
    · have hnames : ((columns ++ [entry]).map (·.1)).Nodup := h.names
      rw [List.map_append] at hnames
      exact hnames.of_append_left
    · rw [← rowCount_append columns [entry] hempty]
      exact h.lengths e (List.mem_append_left _ he)

/-- Tables are put together of all columns of different names and one length, and of no others. -/
theorem ofColumns_eq_ok_iff {columns : List (String × Column)} :
    ofColumns columns = .ok t ↔ t = ⟨columns⟩ ∧ t.IsFormed := by
  unfold ofColumns
  induction columns using List.reverseRecOn generalizing t with
  | nil =>
    constructor
    · intro h
      cases h
      exact ⟨rfl, .nil, fun _ h => by cases h⟩
    · rintro ⟨rfl, -⟩
      rfl
  | append_singleton columns entry ih =>
    rw [List.foldlM_append]
    simp only [List.foldlM_cons, List.foldlM_nil, bind_pure]
    constructor
    · intro h
      cases hfirst : columns.foldlM (fun t (entry : String × Column) =>
          addColumn t entry.1 entry.2) {} with
      | error error =>
        rw [hfirst] at h
        cases h
      | ok first =>
        obtain ⟨rfl, hformed⟩ := ih.1 hfirst
        rw [hfirst] at h
        exact (addColumn_eq_ok_iff hformed).1 h
    · rintro ⟨rfl, hformed⟩
      rw [ih.2 ⟨rfl, hformed.dropLast⟩]
      exact (addColumn_eq_ok_iff hformed.dropLast).2 ⟨rfl, hformed⟩

/-- What is read from a text is a table of different names and one length. -/
theorem isFormed_ofBytes {bytes : List UInt8} (h : ofBytes bytes = .ok t) : t.IsFormed := by
  unfold ofBytes at h
  split at h
  · cases h
  · rename_i sheet _
    cases hsheet : ofSheet sheet with
    | error error =>
      rw [hsheet] at h
      cases h
    | ok table =>
      rw [hsheet] at h
      cases h
      exact (ofColumns_eq_ok_iff.1 hsheet).2

/-! ## Looking columns up -/

theorem mem_of_column? (h : t.column? name = some column) : (name, column) ∈ t.columns := by
  unfold column? at h
  generalize t.columns = columns at h
  induction columns with
  | nil => cases h
  | cons entry rest ih =>
    obtain ⟨n, c⟩ := entry
    rw [List.lookup_cons] at h
    split at h
    · rename_i heq
      rw [eq_of_beq heq, Option.some.inj h]
      exact List.mem_cons_self
    · exact List.mem_cons_of_mem _ (ih h)

theorem IsFormed.length_of_column? (h : t.IsFormed) (hc : t.column? name = some column) :
    column.length = t.rowCount := h.lengths _ (mem_of_column? hc)

theorem column?_isSome_iff : (t.column? name).isSome = true ↔ name ∈ t.names := by
  unfold column? names
  induction t.columns with
  | nil => simp
  | cons entry rest ih =>
    obtain ⟨n, c⟩ := entry
    rw [List.lookup_cons, List.map_cons, List.mem_cons]
    by_cases heq : name = n
    · simp [heq]
    · simp [beq_false_of_ne heq, heq, ih]

theorem column_eq_ok_iff : t.column name = .ok column ↔ t.column? name = some column := by
  unfold Table.column
  cases t.column? name with
  | none => simp
  | some found => simp

/-! ## Replacing a column -/

/-- What replacing a column comes to. -/
theorem replaceColumn_eq_ok (h : t.replaceColumn name column = .ok t') :
    name ∈ t.names ∧ column.length = t.rowCount ∧
      t' = ⟨t.columns.map fun (n, c) => if n = name then (n, column) else (n, c)⟩ := by
  unfold replaceColumn at h
  split at h
  · cases h
  split at h
  · cases h
  rename_i hhas hlength
  cases h
  exact ⟨hasColumn_iff.1 (by simpa using hhas), not_not.1 hlength, rfl⟩

section

variable (h : t.replaceColumn name column = .ok t')
include h

theorem names_replaceColumn : t'.names = t.names := by
  obtain ⟨-, -, rfl⟩ := replaceColumn_eq_ok h
  unfold names
  rw [List.map_map]
  refine List.map_congr_left fun entry _ => ?_
  show (if entry.1 = name then (entry.1, column) else (entry.1, entry.2)).1 = entry.1
  split <;> rfl

theorem rowCount_replaceColumn : t'.rowCount = t.rowCount := by
  obtain ⟨-, hlength, rfl⟩ := replaceColumn_eq_ok h
  obtain ⟨columns⟩ := t
  cases columns with
  | nil => rfl
  | cons entry rest =>
    show (if entry.1 = name then (entry.1, column) else (entry.1, entry.2)).2.length = _
    split
    · exact hlength
    · rfl

theorem IsFormed.replaceColumn (hformed : t.IsFormed) : t'.IsFormed := by
  refine ⟨names_replaceColumn h ▸ hformed.names, ?_⟩
  rw [rowCount_replaceColumn h]
  obtain ⟨-, hlength, rfl⟩ := replaceColumn_eq_ok h
  refine List.forall_mem_map.2 fun entry hentry => ?_
  show (if entry.1 = name then (entry.1, column) else (entry.1, entry.2)).2.length = _
  split
  · exact hlength
  · exact hformed.lengths entry hentry

theorem column?_replaceColumn_self : t'.column? name = some column := by
  obtain ⟨hmem, -, rfl⟩ := replaceColumn_eq_ok h
  obtain ⟨columns⟩ := t
  show (List.map _ columns).lookup name = _
  replace hmem : name ∈ columns.map (·.1) := hmem
  clear h
  induction columns with
  | nil => cases hmem
  | cons entry rest ih =>
    obtain ⟨n, c⟩ := entry
    rw [List.map_cons, List.lookup_cons]
    by_cases heq : n = name
    · simp [heq]
    · rw [List.map_cons, List.mem_cons] at hmem
      have hrest : name ∈ rest.map (·.1) := hmem.resolve_left (Ne.symm heq)
      simp only [if_neg heq, beq_false_of_ne (Ne.symm heq)]
      exact ih hrest

theorem column?_replaceColumn_ne (hne : other ≠ name) : t'.column? other = t.column? other := by
  obtain ⟨-, -, rfl⟩ := replaceColumn_eq_ok h
  unfold column?
  show (List.map _ t.columns).lookup other = _
  induction t.columns with
  | nil => rfl
  | cons entry rest ih =>
    obtain ⟨n, c⟩ := entry
    rw [List.map_cons, List.lookup_cons, List.lookup_cons]
    by_cases heq : n = name
    · have hother : (other == n) = false := beq_false_of_ne (heq ▸ hne)
      simp only [if_pos heq, hother]
      exact ih
    · simp only [if_neg heq]
      rw [ih]

end

end Table
end Exemplar
