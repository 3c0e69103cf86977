/-
Where the keys of a table stand.

The keys of a categorical feature are the different texts of its column in the order of their bytes.
So each stands in the place that counts the smaller ones, where it is found, and no other text is
found anywhere.  Neither the order of the rows nor how often a row is there makes a difference,
before classification or after.
-/
import Exemplar.Proofs.ByteOrder
import Exemplar.Proofs.ColumnFaults
import Exemplar.Proofs.Learning
import Exemplar.Proofs.Picking

namespace Exemplar

/-! ## Places in an order -/

/-- An item of a list in strict order stands where its smaller ones are counted. -/
theorem countP_lt_getElem {keys : List String} (h : keys.Pairwise (· < ·)) {i : Nat}
    (hi : i < keys.length) : keys.countP (· < keys[i]) = i := by
  induction keys generalizing i with
  | nil => cases hi
  | cons key rest ih =>
    obtain ⟨hkey, hrest⟩ := List.pairwise_cons.1 h
    cases i with
    | zero =>
      rw [List.countP_eq_zero]
      intro other hother
      rw [List.getElem_cons_zero, decide_eq_true_iff, not_lt]
      rcases List.mem_cons.1 hother with rfl | hother
      · exact le_rfl
      · exact (hkey other hother).le
    | succ i =>
      have hlt : i < rest.length := Nat.lt_of_succ_lt_succ hi
      have hfirst : key < rest[i] := hkey _ (List.getElem_mem hlt)
      rw [List.getElem_cons_succ, List.countP_cons, ih hrest hlt, if_pos (decide_eq_true hfirst)]

/-- The number of different texts that are smaller than a key in the order of bytes. -/
def keysBelow (cells : List String) (key : String) : Nat :=
  cells.dedup.countP fun cell => Text.bytes cell < Text.bytes key

namespace SortedMap

theorem nodup_distinct (names : List String) : (distinct names).Nodup :=
  (pairwise_distinct names).imp ne_of_lt

theorem distinct_perm (names : List String) : (distinct names).Perm names.dedup := by
  refine (List.perm_ext_iff_of_nodup (nodup_distinct names) names.nodup_dedup).2 fun name => ?_
  rw [mem_distinct, List.mem_dedup]

/-- The same names are distinct in the same order, however often each is there. -/
theorem distinct_congr {names others : List String} (h : ∀ name, name ∈ names ↔ name ∈ others) :
    distinct names = distinct others := by
  have hperm : (distinct names).Perm (distinct others) := by
    refine (List.perm_ext_iff_of_nodup (nodup_distinct _) (nodup_distinct _)).2 fun name => ?_
    rw [mem_distinct, mem_distinct, h]
  exact hperm.eq_of_pairwise (fun _ _ _ _ hlt hgt => absurd hgt hlt.asymm)
    (pairwise_distinct names) (pairwise_distinct others)

theorem keysBelow_eq_countP (names : List String) (name : String) :
    keysBelow names name = (distinct names).countP (· < name) := by
  unfold keysBelow
  rw [← (distinct_perm names).countP_eq]
  exact List.countP_congr fun other _ => by simp [Text.bytes_lt_bytes_iff]

end SortedMap

/-! ## Keys of a column -/

namespace KeyedColumn

variable {c : KeyedColumn} {cells : List String}

/-- The keys are the texts of some cells in the order of their bytes, and each is found in its
place. -/
structure Indexes (c : KeyedColumn) (cells : List String) : Prop where
  ordered : c.vocabulary.Pairwise fun key next => Text.bytes key < Text.bytes next
  mem_iff : ∀ key, key ∈ c.vocabulary ↔ key ∈ cells
  keyIndex_eq_ok_iff : ∀ key i, c.keyIndex key = .ok i ↔ key ∈ cells ∧ i = keysBelow cells key
  getElem?_eq_some_iff : ∀ key i, c.vocabulary[i]? = some key ↔ c.keyIndex key = .ok i
  unknown : ∀ key, key ∉ cells → c.keyIndex key = .error (.unknownCategory c.column key)

theorem getElem?_eq_some_iff_keyIndex (h : c.vocabulary.Pairwise (· < ·)) {key : String} {i : Nat} :
    c.vocabulary[i]? = some key ↔ c.keyIndex key = .ok i := by
  constructor
  · intro hkey
    obtain ⟨hi, rfl⟩ := List.getElem?_eq_some_iff.1 hkey
    exact keyIndex_getElem h hi
  · exact getElem?_of_keyIndex

theorem indexes_distinct (h : c.vocabulary = SortedMap.distinct cells) : c.Indexes cells := by
  have hordered : c.vocabulary.Pairwise (· < ·) := h ▸ SortedMap.pairwise_distinct cells
  have hmem (key : String) : key ∈ c.vocabulary ↔ key ∈ cells := by
    rw [h, SortedMap.mem_distinct]
  refine ⟨?_, hmem, fun key i => ?_, fun key i => getElem?_eq_some_iff_keyIndex hordered, ?_⟩
  · exact hordered.imp Text.bytes_lt_bytes_iff.2
  · rw [SortedMap.keysBelow_eq_countP, ← h, ← hmem, ← getElem?_eq_some_iff_keyIndex hordered]
    constructor
    · intro hkey
      obtain ⟨hi, rfl⟩ := List.getElem?_eq_some_iff.1 hkey
      exact ⟨List.getElem_mem hi, (countP_lt_getElem hordered hi).symm⟩
    · rintro ⟨hkey, rfl⟩
      obtain ⟨i, hi, rfl⟩ := List.getElem_of_mem hkey
      rw [countP_lt_getElem hordered hi, List.getElem?_eq_getElem hi]
  · intro key hkey
    cases hindex : c.keyIndex key with
    | ok i => exact absurd ((hmem key).1 ((exists_keyIndex_iff hordered).1 ⟨i, hindex⟩)) hkey
    | error error => rw [keyIndex_eq_error hindex]

end KeyedColumn

/-! ## Keys of a table -/

namespace Table

variable {t t' : Table} {a : Assignment} {roles : Roles} {rows : List Nat} {name : String}

/-- The column of keys that a categorical feature gets. -/
def keyed (t : Table) (name : String) : KeyedColumn :=
  ⟨name, .string, SortedMap.distinct (((t.column? name).bind Column.texts?).getD [])⟩

theorem keyed_eq {cells : List String} (h : t.column? name = some (.texts cells)) :
    t.keyed name = ⟨name, .string, SortedMap.distinct cells⟩ := by
  unfold keyed
  rw [h]
  rfl

/-- A table with rows has an encoding for each feature. -/
theorem ofTable_eq (htyped : TrainingInputs.IsTyped ⟨t, roles⟩) (hformed : t.IsFormed)
    (hrows : 0 < t.rowCount) : Encoding.ofTable t roles
      = .ok (roles.continuous.map (fun name => .realValued ⟨name, .float64⟩)
        ++ (roles.categorical.map t.keyed).map .keyed) := by
  have hkeyed : roles.categorical.mapM (Encoding.ofCategorical t)
      = .ok ((roles.categorical.map t.keyed).map .keyed) := by
    rw [List.map_map, mapM_eq_ok_iff, List.forall₂_map_right_iff, List.forall₂_same]
    intro name hname
    obtain ⟨cells, hcolumn⟩ := htyped.exists_texts hname
    have hlength : cells.length = t.rowCount := hformed.length_of_column? hcolumn
    rw [Function.comp_apply, keyed_eq hcolumn]
    exact Encoding.ofCategorical_texts hcolumn (List.ne_nil_of_length_pos (hlength ▸ hrows))
  unfold Encoding.ofTable
  rw [hkeyed]
  rfl

/-- The keys of a column are the same in whatever order and however often its rows are there. -/
theorem keyed_pick (hformed : t.IsFormed) (hrows : ∀ row, row ∈ rows ↔ row < t.rowCount)
    {cells : List String} (hcolumn : t.column? name = some (.texts cells)) :
    (t.pick rows).keyed name = t.keyed name := by
  have hpicked : (t.pick rows).column? name = some (.texts (picked rows cells)) := by
    rw [column?_pick, hcolumn]
    rfl
  have hlength : cells.length = t.rowCount := hformed.length_of_column? hcolumn
  rw [keyed_eq hpicked, keyed_eq hcolumn,
    SortedMap.distinct_congr fun key => mem_picked (hlength ▸ hrows)]

/-- Every categorical feature of a classified table with rows gets the different texts of its column
as keys, in strictly increasing order of their bytes.  A key is found exactly if it stands in the
column, and then in the place that counts the different texts below it, which is where the
vocabulary has it.  The encodings are the same if the rows of the table are put into another order
or repeated, before it is classified or after. -/
theorem keys_stand_in_byte_order (hformed : t.IsFormed) (h : t.classify a = (t', .ok roles))
    (hrows : 0 < t'.rowCount) : ∃ keyed : List KeyedColumn,
      Encoding.ofTable t' roles = .ok (roles.continuous.map (fun name =>
        .realValued ⟨name, .float64⟩) ++ keyed.map .keyed) ∧
      List.Forall₂ (fun name c => c.column = name ∧ ∃ cells,
        t'.column? name = some (.texts cells) ∧ c.Indexes cells) roles.categorical keyed ∧
      ∀ rows : List Nat, (∀ row, row ∈ rows ↔ row < t'.rowCount) →
        (t.pick rows).classify a = (t'.pick rows, .ok roles) ∧
        Encoding.ofTable (t'.pick rows) roles = Encoding.ofTable t' roles := by
  have htyped := isTyped_of_classify h
  have hformed' := (classify_eq_ok h).2.2.formed hformed
  have hencodings := ofTable_eq htyped hformed' hrows
  refine ⟨_, hencodings, ?_, fun rows hall => ?_⟩
  · rw [List.forall₂_map_right_iff, List.forall₂_same]
    intro name hname
    obtain ⟨cells, hcolumn⟩ := htyped.exists_texts hname
    rw [keyed_eq hcolumn]
    exact ⟨rfl, cells, hcolumn, KeyedColumn.indexes_distinct rfl⟩
  · have hpick : (t.pick rows).classify a = (t'.pick rows, .ok roles) := classify_pick hformed h
    refine ⟨hpick, ?_⟩
    have hrows' : 0 < (t'.pick rows).rowCount := by
      rw [rowCount_pick, List.countP_pos_iff]
      exact ⟨0, (hall 0).2 hrows, by simpa using hrows⟩
    have hsame : roles.categorical.map (t'.pick rows).keyed = roles.categorical.map t'.keyed := by
      refine List.map_congr_left fun name hname => ?_
      obtain ⟨cells, hcolumn⟩ := htyped.exists_texts hname
      exact keyed_pick hformed' hall hcolumn
    rw [ofTable_eq (isTyped_of_classify hpick) hformed'.pick hrows', hsame, hencodings]

/-- Words one of which is there twice, and a character that takes four bytes. -/
def words : List String := ["😀", "～", "Zoë", "～"]

def spoken : Table := ⟨[("word", .texts words), ("y", .ints [1, 0, 1, 0])]⟩

def scored : Table := ⟨[("word", .texts words), ("y", .floats [1.0, 0.0, 1.0, 0.0])]⟩

theorem keys_stand_in_byte_order_once :
    let a : Assignment := ⟨[], ["word"], "y", .numeric⟩
    let c : KeyedColumn := ⟨"word", .string, ["Zoë", "～", "😀"]⟩
    spoken.IsFormed ∧ spoken.classify a = (scored, .ok a.roles) ∧ 0 < scored.rowCount ∧
      Encoding.ofTable scored a.roles = .ok [.keyed c] ∧ c.Indexes words ∧
      (spoken.pick [3, 2, 2, 0, 1]).classify a = (scored.pick [3, 2, 2, 0, 1], .ok a.roles) ∧
      Encoding.ofTable (scored.pick [3, 2, 2, 0, 1]) a.roles = .ok [.keyed c] := by
  intro a c
  have hformed : spoken.IsFormed := ⟨by decide, by decide⟩
  have hclassify : spoken.classify a = (scored, .ok a.roles) := by decide +kernel
  have hrows : 0 < scored.rowCount := by decide
  have hencodings : Encoding.ofTable scored a.roles = .ok [.keyed c] := by decide +kernel
  obtain ⟨keyed, hkeyed, hindexes, hpick⟩ := keys_stand_in_byte_order hformed hclassify hrows
  have hall (row : Nat) : row ∈ [3, 2, 2, 0, 1] ↔ row < scored.rowCount := by
    show _ ↔ row < 4
    simp only [List.mem_cons, List.not_mem_nil, or_false]
    omega
  obtain ⟨hpicked, hsame⟩ := hpick _ hall
  refine ⟨hformed, hclassify, hrows, hencodings, ?_, hpicked, hsame.trans hencodings⟩
  cases hindexes with
  | cons hword hnone =>
    cases hnone
    obtain ⟨-, cells, hcolumn, hindexes⟩ := hword
    have hwords : scored.column? "word" = some (.texts words) := rfl
    cases hwords.symm.trans hcolumn
    cases hkeyed.symm.trans hencodings
    exact hindexes

end Table
end Exemplar
