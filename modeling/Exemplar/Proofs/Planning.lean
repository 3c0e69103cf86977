/-
What a catalog plans.

Names of planned fixtures consist of titles and of letters and numbers, however a
dataset is called, so that each can be a fixture's name.  In a catalog that is
valid no two of them are the same, and what is selected is a part of what is
planned.
-/
import Exemplar.Catalog.Basic
import Exemplar.Proofs.Fallible
import Exemplar.Proofs.Parts

namespace Exemplar

/-! ## Names in one word -/

namespace Text

variable {c x : Char}

/-- A character that does not end the name of a fixture. -/
def IsNameChar (c : Char) : Prop := c ≠ '.' ∧ c ≠ '-' ∧ c ≠ '/'

theorem code_of_isAlphanumeric (h : isAlphanumeric c = true) : '/'.toNat < c.toNat := by
  have hfirst : ∀ range ∈ Table.alphanumeric, '/'.toNat < range.1 := by decide +kernel
  obtain ⟨range, hrange, hinside⟩ := List.any_eq_true.1 h
  rw [Bool.and_eq_true, decide_eq_true_eq, decide_eq_true_eq] at hinside
  exact Nat.lt_of_lt_of_le (hfirst range hrange) hinside.1

/-- The characters after the slash are none of those that end a name. -/
theorem isNameChar_of_lt (h : '/'.toNat < c.toNat) : IsNameChar c := by
  refine ⟨?_, ?_, ?_⟩ <;>
  · rintro rfl
    exact absurd h (by decide)

theorem isNameChar_ofNat {code : Nat} (h : '/'.toNat < code) : IsNameChar (Char.ofNat code) := by
  by_cases hvalid : code.isValidChar
  · have hcode : Char.ofNat code = Char.ofNatAux code hvalid := dif_pos hvalid
    rw [hcode]
    exact isNameChar_of_lt h
  · have hnull : Char.ofNat code = '\x00' := dif_neg hvalid
    rw [hnull]
    exact ⟨by decide, by decide, by decide⟩

/-- A map of cases leads to characters after the slash if its tables do. -/
theorem isNameChar_mapCase {exceptions : List (Nat × List Nat)} {shifts : List Shift}
    (hexceptions : ∀ entry ∈ exceptions, ∀ code ∈ entry.2, '/'.toNat < code)
    (hshifts : ∀ shift ∈ shifts, ('/'.toNat : Int) < shift.source.first + shift.distance)
    (hc : '/'.toNat < c.toNat) (hx : x ∈ mapCase exceptions shifts c) : IsNameChar x := by
  rw [mapCase] at hx
  split at hx
  · rename_i codes hcodes
    obtain ⟨code, hcode, rfl⟩ := List.mem_map.1 hx
    obtain ⟨before, after, rfl, -⟩ := List.lookup_eq_some_iff.1 hcodes
    exact isNameChar_ofNat (hexceptions (c.toNat, codes) (by simp) code hcode)
  · rw [List.mem_singleton.1 hx]
    refine isNameChar_ofNat ?_
    rw [shiftCode]
    split
    · rename_i shift hshift
      have hinside := List.find?_some hshift
      have hmoved := hshifts shift (List.mem_of_find?_eq_some hshift)
      simp only [Stride.contains, Bool.and_eq_true, decide_eq_true_eq] at hinside
      omega
    · exact hc

theorem isNameChar_upperCase (hc : '/'.toNat < c.toNat) (hx : x ∈ upperCase c) : IsNameChar x :=
  isNameChar_mapCase (by decide +kernel) (by decide +kernel) hc hx

theorem isNameChar_lowerCase (hc : '/'.toNat < c.toNat) (hx : x ∈ lowerCase c) : IsNameChar x :=
  isNameChar_mapCase (by decide +kernel) (by decide +kernel) hc hx

namespace CamelCase

theorem mem_of_mem_words {mode : Mode} {word piece w : List Char} (hw : w ∈ words mode word piece)
    (hc : c ∈ w) : c ∈ word ++ piece := by
  fun_induction words mode word piece with
  | case1 => cases hw
  | case2 => rwa [← List.mem_singleton.1 hw]
  | case3 mode word c' next rest _ _ ih =>
    rcases List.mem_cons.1 hw with rfl | hw
    · exact List.append_subset_of_subset_of_subset (by simp) (by simp) hc
    · have := ih hw
      simp_all
  | case4 mode word c' next rest _ _ _ ih =>
    rcases List.mem_cons.1 hw with rfl | hw
    · exact List.mem_append_left _ hc
    · have := ih hw
      simp_all
  | case5 mode word c' next rest _ _ _ ih => simpa using ih hw

theorem isNameChar_lowerTail {word : List Char} (hword : ∀ c ∈ word, '/'.toNat < c.toNat)
    (hx : x ∈ lowerTail word) : IsNameChar x := by
  fun_induction lowerTail word with
  | case1 => cases hx
  | case2 =>
    rw [List.mem_singleton.1 hx]
    exact ⟨by decide, by decide, by decide⟩
  | case3 c rest _ ih =>
    obtain ⟨hc, hrest⟩ := List.forall_mem_cons.1 hword
    rcases List.mem_append.1 hx with hx | hx
    · exact isNameChar_lowerCase hc hx
    · exact ih hrest hx

theorem isNameChar_capitalize {word : List Char} (hword : ∀ c ∈ word, '/'.toNat < c.toNat)
    (hx : x ∈ capitalize word) : IsNameChar x := by
  cases word with
  | nil => cases hx
  | cons c rest =>
    obtain ⟨hc, hrest⟩ := List.forall_mem_cons.1 hword
    rcases List.mem_append.1 hx with hx | hx
    · exact isNameChar_upperCase hc hx
    · exact isNameChar_lowerTail hrest hx

end CamelCase

/-- No piece holds a character that it is cut at. -/
theorem not_of_mem_splitOnP {p : Char → Bool} {text piece : List Char}
    (h : piece ∈ text.splitOnP p) (hc : c ∈ piece) : p c = false := by
  induction text generalizing piece with
  | nil =>
    rw [List.splitOnP_nil, List.mem_singleton] at h
    rw [h] at hc
    cases hc
  | cons first rest ih =>
    rw [List.splitOnP_cons_eq_if_modifyHead] at h
    split at h
    · rcases List.mem_cons.1 h with rfl | h
      · cases hc
      · exact ih h hc
    · rename_i hfirst
      cases hsplit : rest.splitOnP p with
      | nil => exact absurd hsplit (List.splitOnP_ne_nil p rest)
      | cons piece' others =>
        rw [hsplit, List.modifyHead_cons] at h
        rcases List.mem_cons.1 h with rfl | h
        · rcases List.mem_cons.1 hc with rfl | hc
          · simpa using hfirst
          · exact ih (by simp [hsplit]) hc
        · exact ih (by simp [hsplit, h]) hc

/-- A name in one word has letters and numbers only. -/
theorem isNameChar_camelCase (name : String) (hx : x ∈ (camelCase name).toList) :
    IsNameChar x := by
  rw [camelCase, String.toList_ofList, List.mem_flatMap] at hx
  obtain ⟨piece, hpiece, hx⟩ := hx
  obtain ⟨word, hword, hx⟩ := List.mem_flatMap.1 hx
  refine CamelCase.isNameChar_capitalize (fun c hc => code_of_isAlphanumeric ?_) hx
  simpa using not_of_mem_splitOnP hpiece (CamelCase.mem_of_mem_words hword hc)

end Text

/-! ## Planned fixtures -/

namespace Catalog

open Store

variable {c : Catalog} {planned : List Planned} {p : Planned}

/-- No title ends the name of a fixture. -/
theorem isNameChar_titles (architecture : Architecture) (task : Task) :
    ∀ x ∈ (architecture.title ++ task.title).toList, Text.IsNameChar x := by
  have htitles : ∀ text ∈ ["LinearClassification", "LinearRegression", "DNNClassification",
      "DNNRegression"], ∀ x ∈ text.toList, Text.IsNameChar x := by
    simp [Text.IsNameChar]
  refine htitles _ ?_
  cases architecture <;> cases task <;> simp [Architecture.title, Task.title]

theorem isFixtureName_fixtureName (d : Dataset) (choice : Choice) :
    IsFixtureName (d.fixtureName choice) := by
  have hchar : ∀ x ∈ (d.fixtureName choice).toList, Text.IsNameChar x := by
    intro x hx
    rw [Dataset.fixtureName, String.toList_append] at hx
    rcases List.mem_append.1 hx with hx | hx
    · exact isNameChar_titles _ _ x hx
    · exact Text.isNameChar_camelCase d.name hx
  refine ⟨?_, fun h => (hchar _ h).1 rfl, fun h => (hchar _ h).2.1 rfl,
    fun h => (hchar _ h).2.2 rfl⟩
  rw [Dataset.fixtureName]
  cases choice.architecture <;> simp [Architecture.title]

/-- A plan has the fixtures of each dataset, under the dataset's position. -/
theorem mem_plan (h : p ∈ c.plan) :
    c.datasets[p.position]? = some p.dataset ∧ p.name = p.dataset.fixtureName p.choice := by
  obtain ⟨⟨d, position⟩, hd, hp⟩ := List.mem_flatMap.1 h
  obtain ⟨choice, -, rfl⟩ := List.mem_map.1 hp
  exact ⟨List.mem_zipIdx_iff_getElem?.1 hd, rfl⟩

/-- The names of the fixtures of a dataset. -/
def fixtureNames (d : Dataset) : List String := d.choices.map d.fixtureName

theorem names_plan (c : Catalog) : c.plan.map (·.name) = c.datasets.flatMap fixtureNames := by
  rw [plan, List.map_flatMap]
  conv_rhs => rw [← List.zipIdx_map_fst 0 c.datasets, List.flatMap_map]
  simp [planDataset, fixtureNames, Function.comp_def]

/-- Names are taken once each, and none that was taken before. -/
theorem takeNames_eq_ok {taken taken' : List String} {d : Dataset} {choices : List Choice}
    (h : takeNames taken d choices = .ok taken') :
    (choices.map d.fixtureName).Nodup ∧ (∀ n ∈ choices.map d.fixtureName, n ∉ taken) ∧
      ∀ n, n ∈ taken' ↔ n ∈ choices.map d.fixtureName ∨ n ∈ taken := by
  induction choices generalizing taken with
  | nil =>
    cases h
    simp
  | cons choice rest ih =>
    rw [takeNames] at h
    split at h
    · cases h
    · rename_i hnew
      obtain ⟨hnodup, hfree, hmem⟩ := ih h
      simp only [List.mem_cons, not_or] at hfree
      simp only [List.contains_eq_mem, decide_eq_true_eq] at hnew
      refine ⟨List.nodup_cons.2 ⟨fun h => (hfree _ h).1 rfl, hnodup⟩,
        List.forall_mem_cons.2 ⟨hnew, fun n hn => (hfree n hn).2⟩, fun n => ?_⟩
      rw [hmem, List.map_cons, List.mem_cons, List.mem_cons]
      tauto

theorem checkDatasets_eq_ok {names fixtures : List String} {datasets : List Dataset}
    (h : checkDatasets names fixtures datasets = .ok ()) :
    (datasets.flatMap fixtureNames).Nodup ∧
      ∀ n ∈ datasets.flatMap fixtureNames, n ∉ fixtures := by
  induction datasets generalizing names fixtures with
  | nil => simp
  | cons d rest ih =>
    rw [checkDatasets] at h
    split at h
    · cases h
    · split at h
      · cases h
      · split at h
        · cases h
        · rename_i taken htaken
          obtain ⟨hnodup, hfree, hmem⟩ := takeNames_eq_ok htaken
          obtain ⟨hrest, hother⟩ := ih h
          simp only [hmem, not_or] at hother
          rw [List.flatMap_cons]
          refine ⟨hnodup.append hrest fun n hn hn' => (hother n hn').1 hn, fun n hn => ?_⟩
          rcases List.mem_append.1 hn with hn | hn
          · exact hfree n hn
          · exact (hother n hn).2

/-- No two fixtures of a valid catalog have the same name. -/
theorem nodup_plan (h : c.validate = .ok ()) : (c.plan.map (·.name)).Nodup := by
  rw [names_plan]
  exact (checkDatasets_eq_ok h).1

theorem select_sublist {selection : List String} {chosen : List Planned}
    (h : select planned selection = .ok chosen) : chosen.Sublist planned := by
  rw [select] at h
  split at h
  · cases h
    exact .refl _
  · split at h
    · cases h
    · cases h
      exact List.filter_sublist

/-- Fixtures that can be built together: each under a name of its own, and those of one position
from one dataset. -/
structure AreTogether (planned : List Planned) : Prop where
  names : ∀ p ∈ planned, IsFixtureName p.name
  distinct : (planned.map (·.name)).Nodup
  datasets : ∀ p ∈ planned, ∀ q ∈ planned, p.position = q.position → p.dataset = q.dataset

/-- What is selected from the plan of a valid catalog can be built together. -/
theorem areTogether_select {selection : List String} (hvalid : c.validate = .ok ())
    (h : select c.plan selection = .ok planned) : AreTogether planned := by
  have hsublist := select_sublist h
  have hplan (p : Planned) (hp : p ∈ planned) := mem_plan (hsublist.subset hp)
  refine ⟨fun p hp => ?_, (hsublist.map _).nodup (nodup_plan hvalid), fun p hp q hq hposition => ?_⟩
  · rw [(hplan p hp).2]
    exact isFixtureName_fixtureName _ _
  · have hdataset := (hplan p hp).1
    rw [hposition, (hplan q hq).1] at hdataset
    exact (Option.some.inj hdataset).symm

end Catalog
end Exemplar
