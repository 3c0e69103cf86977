/-
The slots of the input space.

The columns of a layout own slices of the input space, one after the other,
which do not overlap and together are all of it.  A column puts at most one
entry into a row, and that into its own slice, so the slots of a row increase.
The dense row holds each entry in its slot and zero everywhere else.  This needs
nothing of the columns: names may be repeated, vocabularies may be empty, and a
column may be of any type.
-/
import Exemplar.Proofs.Indexing

namespace Exemplar
namespace Layout

variable {features : SortedMap Column} {l : Layout} {p : InputColumn × Nat} {e : Nat × Float}
variable {columns : List InputColumn}
variable {offset slot r : Nat} {row : SparseRow} {rows : List SparseRow}

/-! ## Slices -/

/-- A slot lies in the slice of a placed column. -/
def Owns (p : InputColumn × Nat) (slot : Nat) : Prop := p.2 ≤ slot ∧ slot < p.2 + p.1.width

/-- The columns own one slice after the other, which are apart and together are the input space. -/
structure IsDivided (l : Layout) : Prop where
  columns : l.placed.map (·.1) = l.columns
  offset : ∀ before p after, l.placed = before ++ p :: after → p.2 = width ⟨before.map (·.1)⟩
  apart : l.placed.Pairwise fun p q => p.2 + p.1.width ≤ q.2
  covered : ∀ slot, slot < l.width ↔ ∃ p ∈ l.placed, Owns p slot

theorem width_cons (column : InputColumn) (rest : List InputColumn) :
    width ⟨column :: rest⟩ = column.width + width ⟨rest⟩ := rfl

theorem le_of_mem_place (h : p ∈ place offset columns) : offset ≤ p.2 := by
  induction columns generalizing offset with
  | nil => cases h
  | cons column rest ih =>
    rcases List.mem_cons.1 h with heq | hrest
    · rw [heq]
    · have hle := ih hrest
      omega

theorem pairwise_place (offset : Nat) (columns : List InputColumn) :
    (place offset columns).Pairwise fun p q => p.2 + p.1.width ≤ q.2 := by
  induction columns generalizing offset with
  | nil => exact .nil
  | cons column rest ih => exact .cons (fun q hq => le_of_mem_place hq) (ih _)

theorem exists_owns_iff : (∃ p ∈ place offset columns, Owns p slot) ↔
    offset ≤ slot ∧ slot < offset + width ⟨columns⟩ := by
  induction columns generalizing offset with
  | nil =>
    have hnone : ¬ (offset ≤ slot ∧ slot < offset + width ⟨[]⟩) := by
      show ¬ (offset ≤ slot ∧ slot < offset + 0)
      omega
    simp [place, hnone]
  | cons column rest ih =>
    have hfirst : Owns (column, offset) slot ↔ offset ≤ slot ∧ slot < offset + column.width :=
      Iff.rfl
    simp only [place, List.exists_mem_cons_iff, ih, hfirst, width_cons]
    omega

/-- What stands before a placed column is what its offset counts. -/
theorem offset_of_place {before after : List (InputColumn × Nat)}
    (h : place offset columns = before ++ p :: after) :
    p.2 = offset + width ⟨before.map (·.1)⟩ := by
  induction columns generalizing offset before with
  | nil => simp [place] at h
  | cons column rest ih =>
    cases before with
    | nil =>
      obtain ⟨hp, -⟩ := List.cons.inj h
      rw [← hp]
      rfl
    | cons q before =>
      obtain ⟨hq, hrest⟩ := List.cons.inj h
      rw [ih hrest, List.map_cons, width_cons, ← hq, Nat.add_assoc]

theorem isDivided (l : Layout) : l.IsDivided where
  columns := map_place 0 l.columns
  offset before p after h := by
    rw [offset_of_place h, Nat.zero_add]
  apart := pairwise_place 0 l.columns
  covered slot := by
    rw [placed, exists_owns_iff]
    show slot < l.width ↔ 0 ≤ slot ∧ slot < 0 + l.width
    omega

/-! ## Entries -/

/-- What a placed column puts into a row of a batch: the entry of its tensor there. -/
def Puts (features : SortedMap Column) (r : Nat) (p : InputColumn × Nat) (e : Nat × Float) : Prop :=
  ∃ tensor es, features.get? p.1.column = some tensor ∧ entries p.1 p.2 tensor = .ok es ∧
    es[r]? = some e

theorem Encodes.puts_iff {n : Nat} (h : Encodes features n p.1) :
    Puts features r p e ↔ placedSlot? features r p = some e := by
  obtain ⟨tensor, hget, -, -, hknows⟩ := h
  obtain ⟨es, hes⟩ := exists_entries p.2 hknows
  have hentry := (entries_eq_ok hes).2 r
  rw [placedSlot?, hget, Option.bind_some, ← hentry]
  constructor
  · intro hputs
    obtain ⟨found, fs, hfound, hfs, he⟩ := hputs
    obtain rfl : tensor = found := Option.some.inj (hget.symm.trans hfound)
    obtain rfl : es = fs := Except.ok.inj (hes.symm.trans hfs)
    exact he
  · intro he
    exact ⟨tensor, es, hget, hes, he⟩

theorem owns_of_placedSlot? (h : placedSlot? features r p = some e) : Owns p e.1 := by
  obtain ⟨tensor, -, hcell⟩ := Option.bind_eq_some_iff.1 h
  exact cellSlot?_within hcell

/-- The slots of a row increase. -/
theorem pairwise_rowAt (l : Layout) (features : SortedMap Column) (r : Nat) :
    (l.rowAt features r).Pairwise fun e e' => e.1 < e'.1 := by
  refine List.pairwise_filterMap.2 ((pairwise_place 0 l.columns).imp ?_)
  intro p q hapart e he e' he'
  have hbefore := (owns_of_placedSlot? he).2
  have hafter := (owns_of_placedSlot? he').1
  omega

theorem forall₂_filterMap {α β : Type} (f : α → Option β) (xs : List α) :
    List.Forall₂ (fun x y => f x = some y) (xs.filter fun x => (f x).isSome) (xs.filterMap f) := by
  induction xs with
  | nil => exact .nil
  | cons x xs ih =>
    cases hx : f x with
    | none => simpa [hx] using ih
    | some y => simpa [hx] using ih

/-- The entries of a row are those of the columns that put one there, in their order. -/
theorem forall₂_rowAt
    (hencodes : ∀ column ∈ l.columns, Encodes features (batchRows features) column)
    (r : Nat) : List.Forall₂ (fun p e => Puts features r p e ∧ Owns p e.1)
      (l.placed.filter fun p => (placedSlot? features r p).isSome) (l.rowAt features r) := by
  have hplaced : ∀ p ∈ l.placed.filter fun p => (placedSlot? features r p).isSome,
      Encodes features (batchRows features) p.1 := by
    intro p hp
    exact hencodes p.1 (mem_columns_of_placed (List.mem_of_mem_filter hp))
  have hentries := (List.forall₂_and_left _ _).2
    ⟨hplaced, forall₂_filterMap (placedSlot? features r) l.placed⟩
  refine hentries.imp fun p e h => ?_
  exact ⟨h.1.puts_iff.2 h.2, owns_of_placedSlot? h.2⟩

/-! ## Dense rows -/

/-- A list in which every entry of a row stands in its slot, and zero in all other slots. -/
structure IsSpread (width : Nat) (row : SparseRow) (x : List Float) : Prop where
  length : x.length = width
  entry : ∀ e ∈ row, x[e.1]? = some e.2
  zero : ∀ slot, slot < width → slot ∉ row.map (·.1) → x[slot]? = some 0.0

theorem getElem?_foldl_set_of_not_mem (h : slot ∉ row.map (·.1)) (x : List Float) :
    (row.foldl (fun dense (e : Nat × Float) => dense.set e.1 e.2) x)[slot]? = x[slot]? := by
  induction row generalizing x with
  | nil => rfl
  | cons e row ih =>
    rw [List.map_cons, List.mem_cons, not_or] at h
    rw [List.foldl_cons, ih h.2, List.getElem?_set_ne (Ne.symm h.1)]

theorem getElem?_foldl_set_of_mem (hrow : row.Pairwise fun e e' => e.1 < e'.1) (he : e ∈ row)
    {x : List Float} (hx : e.1 < x.length) :
    (row.foldl (fun dense (e : Nat × Float) => dense.set e.1 e.2) x)[e.1]? = some e.2 := by
  induction row generalizing x with
  | nil => cases he
  | cons first row ih =>
    obtain ⟨hfirst, hrest⟩ := List.pairwise_cons.1 hrow
    rw [List.foldl_cons]
    rcases List.mem_cons.1 he with heq | hmem
    · -- All that follows is further right, so the entry stays.
      have hnot : e.1 ∉ row.map (·.1) := by
        intro hslot
        obtain ⟨e', he', hsame⟩ := List.mem_map.1 hslot
        have hlt := hfirst e' he'
        rw [← heq] at hlt
        omega
      rw [getElem?_foldl_set_of_not_mem hnot, ← heq, List.getElem?_set_self hx]
    · exact ih hrest hmem (by rwa [List.length_set])

theorem isSpread_spread {width : Nat} (hrow : row.Pairwise fun e e' => e.1 < e'.1)
    (hslots : ∀ e ∈ row, e.1 < width) : IsSpread width row (spread width row) where
  length := length_spread width row
  entry e he := getElem?_foldl_set_of_mem hrow he (by
    rw [List.length_replicate]
    exact hslots e he)
  zero slot hslot hnot := by
    unfold spread
    rw [getElem?_foldl_set_of_not_mem hnot, List.getElem?_replicate, if_pos hslot]

theorem denseRows_of_sparseRows (h : l.sparseRows features = .ok rows) :
    l.denseRows features = .ok (rows.map (spread l.width)) := by
  unfold denseRows
  rw [h]
  rfl

theorem denseRows_eq_error_iff {error : DataError} :
    l.denseRows features = .error error ↔ l.sparseRows features = .error error := by
  unfold denseRows
  cases l.sparseRows features with
  | error other => simp [Except.map]
  | ok rows => simp [Except.map]

/-- The columns divide the input space among them.  A batch is encoded densely exactly if it is
sparsely, with the same errors.  Then the slots of each row increase, each in the slice of the
column that put it there, and the dense row is the sparse one spread out, with no slot out of
range. -/
theorem dense_rows_expand_sparse (l : Layout) (features : SortedMap Column) :
    l.IsDivided ∧
    (∀ error, l.denseRows features = .error error ↔ l.sparseRows features = .error error) ∧
    ∀ rows, l.sparseRows features = .ok rows → ∃ dense, l.denseRows features = .ok dense ∧
      dense.length = rows.length ∧ ∀ r row, rows[r]? = some row →
        row.Pairwise (fun e e' => e.1 < e'.1) ∧
        (∃ ps, ps.Sublist l.placed ∧
          List.Forall₂ (fun p e => Puts features r p e ∧ Owns p e.1) ps row) ∧
        ∃ x, dense[r]? = some x ∧ spread? l.width row = some x ∧ IsSpread l.width row x := by
  refine ⟨l.isDivided, fun error => denseRows_eq_error_iff, ?_⟩
  intro rows hrows
  refine ⟨_, denseRows_of_sparseRows hrows, List.length_map .., ?_⟩
  intro r row hrow
  obtain ⟨hencodes, rfl⟩ := sparseRows_eq_ok_iff.1 hrows
  have hrowAt : row = l.rowAt features r := by
    obtain ⟨hr, heq⟩ := List.getElem?_eq_some_iff.1 hrow
    simpa using heq.symm
  have hincrease : row.Pairwise fun e e' => e.1 < e'.1 := hrowAt ▸ pairwise_rowAt l features r
  have hslots : ∀ e ∈ row, e.1 < l.width := by
    intro e he
    rw [hrowAt] at he
    exact slot_lt he
  have hentries := forall₂_rowAt hencodes r
  rw [← hrowAt] at hentries
  refine ⟨hincrease, ⟨_, List.filter_sublist, hentries⟩, spread l.width row, ?_, spread?_eq hslots,
    isSpread_spread hincrease hslots⟩
  rw [List.getElem?_map, hrow, Option.map_some]

/-- One name three times, once for a vocabulary without keys that is said to be of numbers. -/
theorem dense_rows_expand_sparse_once :
    let l : Layout := ⟨[.realValued ⟨"x", .float64⟩, .keyed ⟨"x", .float64, []⟩,
      .oneHot ⟨"c", .string, ["a", "b"]⟩, .realValued ⟨"x", .float64⟩]⟩
    let features : SortedMap Column := [("c", .texts ["b", "a"]), ("x", .floats [1.5, -2.0])]
    l.sparseRows features
        = .ok [[(0, 1.5), (2, 1.0), (3, 1.5)], [(0, -2.0), (1, 1.0), (3, -2.0)]] ∧
      ∃ dense x, l.denseRows features = .ok dense ∧ dense.length = 2 ∧ dense[1]? = some x ∧
        IsSpread 4 [(0, -2.0), (1, 1.0), (3, -2.0)] x := by
  intro l features
  have hrows : l.sparseRows features
      = .ok [[(0, 1.5), (2, 1.0), (3, 1.5)], [(0, -2.0), (1, 1.0), (3, -2.0)]] := by
    decide +kernel
  obtain ⟨-, -, hexpand⟩ := dense_rows_expand_sparse l features
  obtain ⟨dense, hdense, hlength, hspread⟩ := hexpand _ hrows
  obtain ⟨-, -, x, hx, -, hx'⟩ := hspread 1 _ rfl
  exact ⟨hrows, dense, x, hdense, hlength, hx, hx'⟩

end Layout
end Exemplar
