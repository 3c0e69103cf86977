/-
Maps from names hold what was put into them.

A map of entries with different names holds just these entries, and one whose
entries are in order already is the list of them.
-/
import Exemplar.SortedMap
import Mathlib.Data.List.Induction
import Mathlib.Data.List.Nodup
import Mathlib.Data.String.Basic

namespace Exemplar
namespace SortedMap

variable {α β : Type} {m : SortedMap α} {name : String} {value : α}

/-- Strictly increasing names. -/
def Sorted (m : SortedMap α) : Prop := m.Pairwise fun a b => a.1 < b.1

theorem insert_perm (h : name ∉ m.keys) : (m.insert name value).Perm ((name, value) :: m) := by
  induction m with
  | nil => exact .refl _
  | cons entry rest ih =>
    obtain ⟨n, v⟩ := entry
    have hne : name ≠ n := fun heq => h (heq ▸ List.mem_cons_self)
    have hrest : name ∉ SortedMap.keys rest := fun hmem => h (List.mem_cons_of_mem _ hmem)
    unfold insert
    split
    · exact .refl _
    · rename_i hlt
      rw [if_pos (lt_of_le_of_ne (not_lt.1 hlt) hne.symm)]
      exact ((ih hrest).cons _).trans (.swap _ _ _)

theorem ofList_concat (entries : List (String × α)) (entry : String × α) :
    ofList (entries ++ [entry]) = (ofList entries).insert entry.1 entry.2 := List.foldl_concat ..

/-- Entries with different names are all kept. -/
theorem ofList_perm {entries : List (String × α)} (h : (entries.map (·.1)).Nodup) :
    (ofList entries).Perm entries := by
  induction entries using List.reverseRecOn with
  | nil => exact .refl _
  | append_singleton entries entry ih =>
    rw [List.map_append, List.map_singleton, List.nodup_append] at h
    obtain ⟨hentries, -, hne⟩ := h
    have hperm := ih hentries
    have hname : entry.1 ∉ (ofList entries).keys := fun hmem =>
      hne _ ((hperm.map (·.1)).mem_iff.1 hmem) _ (List.mem_singleton_self _) rfl
    rw [ofList_concat]
    exact ((insert_perm hname).trans (hperm.cons _)).trans (List.perm_append_singleton ..).symm

theorem get?_of_mem (hnames : m.keys.Nodup) (h : (name, value) ∈ m) :
    m.get? name = some value := by
  induction m with
  | nil => cases h
  | cons entry rest ih =>
    obtain ⟨n, v⟩ := entry
    obtain ⟨hn, hrest⟩ := List.nodup_cons.1 hnames
    unfold get?
    rcases List.mem_cons.1 h with heq | hmem
    · cases heq
      exact List.lookup_cons_self
    · have hne : name ≠ n := by
        rintro rfl
        exact hn (List.mem_map.2 ⟨_, hmem, rfl⟩)
      rw [List.lookup_cons, beq_false_of_ne hne]
      exact ih hrest hmem

/-- The value that was put in under a name. -/
theorem get?_ofList {entries : List (String × α)} (hnames : (entries.map (·.1)).Nodup)
    (h : (name, value) ∈ entries) : (ofList entries).get? name = some value := by
  have hperm := ofList_perm hnames
  exact get?_of_mem ((hperm.map Prod.fst).nodup_iff.2 hnames) (hperm.mem_iff.2 h)

/-! ## Order -/

theorem mem_of_mem_insert {entry : String × α} (h : entry ∈ m.insert name value) :
    entry = (name, value) ∨ entry ∈ m := by
  induction m with
  | nil => exact .inl (List.mem_singleton.1 h)
  | cons first rest ih =>
    obtain ⟨n, v⟩ := first
    unfold insert at h
    split at h
    · exact List.mem_cons.1 h
    split at h
    · rcases List.mem_cons.1 h with rfl | h
      · exact .inr List.mem_cons_self
      · exact (ih h).imp_right (List.mem_cons_of_mem _)
    · rcases List.mem_cons.1 h with rfl | h
      · exact .inl rfl
      · exact .inr (List.mem_cons_of_mem _ h)

theorem mem_keys_insert {n : String} (h : n ∈ (m.insert name value).keys) :
    n = name ∨ n ∈ m.keys := by
  obtain ⟨entry, hentry, rfl⟩ := List.mem_map.1 h
  rcases mem_of_mem_insert hentry with rfl | hentry
  · exact .inl rfl
  · exact .inr (List.mem_map_of_mem hentry)

/-- A map holds nothing but what was put into it. -/
theorem mem_of_mem_ofList {entries : List (String × α)} {entry : String × α}
    (h : entry ∈ ofList entries) : entry ∈ entries := by
  induction entries using List.reverseRecOn with
  | nil => exact h
  | append_singleton entries last ih =>
    rw [ofList_concat] at h
    rcases mem_of_mem_insert h with rfl | h
    · exact List.mem_append_right _ List.mem_cons_self
    · exact List.mem_append_left _ (ih h)

theorem sorted_cons {entry : String × α} :
    Sorted (entry :: m) ↔ (∀ n ∈ m.keys, entry.1 < n) ∧ Sorted m := by
  unfold Sorted keys
  rw [List.pairwise_cons, List.forall_mem_map]

theorem Sorted.insert (h : Sorted m) : Sorted (m.insert name value) := by
  induction m with
  | nil => exact List.pairwise_singleton _ _
  | cons entry rest ih =>
    obtain ⟨n, v⟩ := entry
    obtain ⟨hn, hrest⟩ := sorted_cons.1 h
    unfold SortedMap.insert
    split
    · rename_i hlt
      refine sorted_cons.2 ⟨fun k hk => ?_, h⟩
      rcases List.mem_cons.1 hk with rfl | hk
      · exact hlt
      · exact hlt.trans (hn k hk)
    split
    · rename_i hlt
      refine sorted_cons.2 ⟨fun k hk => ?_, ih hrest⟩
      rcases mem_keys_insert hk with rfl | hk
      · exact hlt
      · exact hn k hk
    · rename_i hle hge
      have heq : name = n := le_antisymm (not_lt.1 hge) (not_lt.1 hle)
      exact sorted_cons.2 ⟨fun k hk => heq ▸ hn k hk, hrest⟩

theorem sorted_ofList (entries : List (String × α)) : Sorted (ofList entries) := by
  induction entries using List.reverseRecOn with
  | nil => exact .nil
  | append_singleton entries entry ih =>
    rw [ofList_concat]
    exact ih.insert

theorem insert_last (h : ∀ n ∈ m.keys, n < name) :
    m.insert name value = m ++ [(name, value)] := by
  induction m with
  | nil => rfl
  | cons entry rest ih =>
    obtain ⟨n, v⟩ := entry
    have hn : n < name := h n List.mem_cons_self
    unfold insert
    rw [if_neg hn.not_gt, if_pos hn, ih fun n hmem => h n (List.mem_cons_of_mem _ hmem)]
    rfl

/-- A map is that of its entries. -/
theorem Sorted.ofList_eq (h : Sorted m) : ofList m = m := by
  induction m using List.reverseRecOn with
  | nil => rfl
  | append_singleton entries entry ih =>
    obtain ⟨hentries, -, hlast⟩ := List.pairwise_append.1 h
    rw [ofList_concat, ih hentries]
    refine insert_last fun n hn => ?_
    obtain ⟨before, hmem, rfl⟩ := List.mem_map.1 hn
    exact hlast before hmem entry (List.mem_singleton_self _)

/-- Maps of the same entries are equal. -/
theorem Sorted.eq_of_perm {m' : SortedMap α} (h : Sorted m) (h' : Sorted m') (hperm : m.Perm m') :
    m = m' :=
  hperm.eq_of_pairwise (fun _ _ _ _ hlt hgt => absurd hgt hlt.asymm) h h'

theorem Sorted.mapValues (h : Sorted m) (f : α → β) : Sorted (m.mapValues f) :=
  List.pairwise_map.2 h

/-! ## Look-up -/

theorem Sorted.nodup_keys (h : Sorted m) : m.keys.Nodup := by
  refine (List.pairwise_map.2 (h.imp fun hlt => ?_))
  exact ne_of_lt hlt

theorem mem_of_get? (h : m.get? name = some value) : (name, value) ∈ m := by
  induction m with
  | nil => cases h
  | cons entry rest ih =>
    obtain ⟨n, v⟩ := entry
    unfold get? at h
    rw [List.lookup_cons] at h
    split at h
    · rename_i heq
      rw [eq_of_beq heq, Option.some.inj h]
      exact List.mem_cons_self
    · exact List.mem_cons_of_mem _ (ih h)

theorem Sorted.get?_eq_some_iff (h : Sorted m) : m.get? name = some value ↔ (name, value) ∈ m :=
  ⟨mem_of_get?, get?_of_mem h.nodup_keys⟩

theorem mem_insert (name : String) (value : α) (m : SortedMap α) :
    (name, value) ∈ m.insert name value := by
  induction m with
  | nil => exact List.mem_singleton_self _
  | cons entry rest ih =>
    unfold insert
    split
    · exact List.mem_cons_self
    split
    · exact List.mem_cons_of_mem _ ih
    · exact List.mem_cons_self

theorem mem_keys_insert_of_mem {n : String} (h : n ∈ m.keys) : n ∈ (m.insert name value).keys := by
  induction m with
  | nil => cases h
  | cons entry rest ih =>
    obtain ⟨k, v⟩ := entry
    unfold insert
    split
    · exact List.mem_cons_of_mem _ h
    split
    · rcases List.mem_cons.1 h with rfl | h
      · exact List.mem_cons_self
      · exact List.mem_cons_of_mem _ (ih h)
    · rename_i hle hge
      rcases List.mem_cons.1 h with rfl | h
      · rw [le_antisymm (not_lt.1 hle) (not_lt.1 hge)]
        exact List.mem_cons_self
      · exact List.mem_cons_of_mem _ h

/-- Every name that was put in is in the map. -/
theorem mem_keys_ofList {entries : List (String × α)} {n : String} :
    n ∈ (ofList entries).keys ↔ n ∈ entries.map (·.1) := by
  constructor
  · intro h
    obtain ⟨entry, hentry, rfl⟩ := List.mem_map.1 h
    exact List.mem_map_of_mem (mem_of_mem_ofList hentry)
  · intro h
    induction entries using List.reverseRecOn with
    | nil => cases h
    | append_singleton entries entry ih =>
      rw [ofList_concat]
      rw [List.map_append, List.mem_append] at h
      rcases h with h | h
      · exact mem_keys_insert_of_mem (ih h)
      · obtain rfl : n = entry.1 := List.mem_singleton.1 h
        exact List.mem_map_of_mem (mem_insert entry.1 entry.2 _)

theorem mapValues_insert (f : α → β) :
    (m.insert name value).mapValues f = (m.mapValues f).insert name (f value) := by
  induction m with
  | nil => rfl
  | cons entry rest ih =>
    obtain ⟨n, v⟩ := entry
    show mapValues f (insert name value ((n, v) :: rest))
      = insert name (f value) ((n, f v) :: mapValues f rest)
    unfold insert
    split
    · rfl
    split
    · exact congrArg ((n, f v) :: ·) ih
    · rfl

theorem mapValues_ofList (f : α → β) (entries : List (String × α)) :
    (ofList entries).mapValues f = ofList (entries.map fun entry => (entry.1, f entry.2)) := by
  induction entries using List.reverseRecOn with
  | nil => rfl
  | append_singleton entries entry ih =>
    rw [ofList_concat, mapValues_insert, ih, List.map_append, List.map_singleton, ofList_concat]

end SortedMap
end Exemplar
