/-
Which catalogs are valid, and what is selected from their plans.

A catalog is checked in one pass that stops at the first fault; what the pass accepts
is said here of the catalog as a whole.  The plan of a valid catalog names every
fixture once, so a selection by names picks each fixture at most once, however often
it is named, and leaves the rest of the plan in its order.
-/
import Exemplar.Proofs.Planning

namespace Exemplar
namespace Catalog

variable {c : Catalog} {d : Dataset} {datasets rest : List Dataset} {choices : List Choice}
variable {names fixtures taken : List String}

/-! ## Validity -/

/-- Names can be taken exactly if none of them was taken before, by another choice or by another
dataset. -/
theorem takes_iff : (∃ taken', takeNames taken d choices = .ok taken') ↔
    (choices.map d.fixtureName).Nodup ∧ ∀ n ∈ choices.map d.fixtureName, n ∉ taken := by
  constructor
  · rintro ⟨taken', h⟩
    obtain ⟨hnodup, hfree, -⟩ := takeNames_eq_ok h
    exact ⟨hnodup, hfree⟩
  · rintro ⟨hnodup, hfree⟩
    induction choices generalizing taken with
    | nil => exact ⟨taken, rfl⟩
    | cons choice rest ih =>
      rw [List.map_cons, List.nodup_cons] at hnodup
      rw [List.map_cons, List.forall_mem_cons] at hfree
      rw [takeNames, if_neg (by simpa using hfree.1)]
      refine ih hnodup.2 fun n hn hmem => ?_
      rcases List.mem_cons.1 hmem with heq | hmem
      · exact hnodup.1 (heq ▸ hn)
      · exact hfree.2 n hn hmem

/-- Datasets that can stand behind others with the given names and fixtures. -/
structure CanFollow (names fixtures : List String) (datasets : List Dataset) : Prop where
  distinct : (datasets.map (·.name)).Nodup
  new : ∀ d ∈ datasets, d.name ∉ names
  chosen : ∀ d ∈ datasets, d.choices ≠ []
  distinctFixtures : (datasets.flatMap fixtureNames).Nodup
  newFixtures : ∀ n ∈ datasets.flatMap fixtureNames, n ∉ fixtures

theorem canFollow_cons (htaken : ∀ n, n ∈ taken ↔ n ∈ fixtureNames d ∨ n ∈ fixtures) :
    CanFollow names fixtures (d :: rest) ↔ d.name ∉ names ∧ d.choices ≠ [] ∧
      ((fixtureNames d).Nodup ∧ ∀ n ∈ fixtureNames d, n ∉ fixtures) ∧
      CanFollow (d.name :: names) taken rest := by
  constructor
  · intro h
    obtain ⟨hfirst, hdistinct⟩ := List.nodup_cons.1 h.distinct
    obtain ⟨hname, hnew⟩ := List.forall_mem_cons.1 h.new
    obtain ⟨hchoices, hchosen⟩ := List.forall_mem_cons.1 h.chosen
    obtain ⟨hown, hothers, hapart⟩ := List.nodup_append.1 h.distinctFixtures
    obtain ⟨hfree, hfreeOthers⟩ := List.forall_mem_append.1 h.newFixtures
    refine ⟨hname, hchoices, ⟨hown, hfree⟩, hdistinct, fun d' hd' hmem => ?_, hchosen, hothers,
      fun n hn hmem => ?_⟩
    · rcases List.mem_cons.1 hmem with heq | hmem
      · exact hfirst (List.mem_map.2 ⟨d', hd', heq⟩)
      · exact hnew d' hd' hmem
    · rcases (htaken n).1 hmem with hmem | hmem
      · exact hapart n hmem n hn rfl
      · exact hfreeOthers n hn hmem
  · rintro ⟨hname, hchoices, ⟨hown, hfree⟩, h⟩
    have hfirst : d.name ∉ rest.map (·.name) := by
      intro hmem
      obtain ⟨d', hd', heq⟩ := List.mem_map.1 hmem
      exact h.new d' hd' (by simp [heq])
    have hnew (d' : Dataset) (hd' : d' ∈ rest) : d'.name ∉ names :=
      fun hmem => h.new d' hd' (List.mem_cons_of_mem _ hmem)
    have hothers (n : String) (hn : n ∈ rest.flatMap fixtureNames) :
        n ∉ fixtureNames d ∧ n ∉ fixtures := by
      have hnot := h.newFixtures n hn
      rwa [htaken, not_or] at hnot
    exact ⟨List.nodup_cons.2 ⟨hfirst, h.distinct⟩, List.forall_mem_cons.2 ⟨hname, hnew⟩,
      List.forall_mem_cons.2 ⟨hchoices, h.chosen⟩,
      hown.append h.distinctFixtures fun n hn hn' => (hothers n hn').1 hn,
      List.forall_mem_append.2 ⟨hfree, fun n hn => (hothers n hn).2⟩⟩

theorem checkDatasets_cons : checkDatasets names fixtures (d :: rest) = .ok () ↔
    d.name ∉ names ∧ d.choices ≠ [] ∧ ∃ fixtures', takeNames fixtures d d.choices = .ok fixtures' ∧
      checkDatasets (d.name :: names) fixtures' rest = .ok () := by
  rw [checkDatasets]
  by_cases hname : d.name ∈ names
  · rw [if_pos (by simpa using hname)]
    simp [hname]
  · rw [if_neg (by simpa using hname)]
    by_cases hchoices : d.choices = []
    · rw [if_pos (by simpa using hchoices)]
      simp [hchoices]
    · rw [if_neg (by simpa using hchoices)]
      cases htakes : takeNames fixtures d d.choices with
      | error => simp
      | ok => simp [hname, hchoices]

/-- The check accepts exactly the datasets that can stand behind those before them. -/
theorem checkDatasets_iff :
    checkDatasets names fixtures datasets = .ok () ↔ CanFollow names fixtures datasets := by
  induction datasets generalizing names fixtures with
  | nil => simpa [checkDatasets] using ⟨.nil, by simp, by simp, .nil, by simp⟩
  | cons d rest ih =>
    rw [checkDatasets_cons]
    constructor
    · rintro ⟨hname, hchoices, fixtures', htakes, hrest⟩
      obtain ⟨hown, hfree, htaken⟩ := takeNames_eq_ok htakes
      exact (canFollow_cons htaken).2 ⟨hname, hchoices, ⟨hown, hfree⟩, ih.1 hrest⟩
    · intro h
      obtain ⟨hname, hchoices, hown, -⟩ := (canFollow_cons fun _ => List.mem_append).1 h
      obtain ⟨fixtures', htakes⟩ := takes_iff.2 hown
      obtain ⟨-, -, htaken⟩ := takeNames_eq_ok htakes
      exact ⟨hname, hchoices, fixtures', htakes, ih.2 ((canFollow_cons htaken).1 h).2.2.2⟩

/-- A catalog is valid if its datasets have different names, each has a choice, and all planned
fixtures have different names. -/
theorem validate_iff : c.validate = .ok () ↔ (c.datasets.map (·.name)).Nodup ∧
    (∀ d ∈ c.datasets, d.choices ≠ []) ∧ (c.plan.map (·.name)).Nodup := by
  rw [validate, checkDatasets_iff, names_plan]
  constructor
  · intro h
    exact ⟨h.distinct, h.chosen, h.distinctFixtures⟩
  · rintro ⟨hdistinct, hchosen, hfixtures⟩
    exact ⟨hdistinct, by simp, hchosen, hfixtures, by simp⟩

/-! ## Selection -/

variable {planned chosen : List Planned} {p q : Planned} {selection selection' : List String}

theorem select_eq_ok (h : ∀ n ∈ selection, n ∈ planned.map (·.name)) :
    select planned selection =
      .ok (planned.filter fun p => selection = [] ∨ p.name ∈ selection) := by
  have hknown : selection.filter (!(planned.map (·.name)).contains ·) = [] := by
    rw [List.filter_eq_nil_iff]
    intro n hn
    simpa using h n hn
  rw [select, hknown]
  by_cases hempty : selection = []
  · simp [hempty]
  · simp [hempty]

theorem select_eq_error (h : ¬ ∀ n ∈ selection, n ∈ planned.map (·.name)) :
    select planned selection = .error (.unknownFixtures
      (selection.filter (· ∉ planned.map (·.name)))
      (SortedMap.distinct (planned.map (·.name)))) := by
  have hunknown : selection.filter (!(planned.map (·.name)).contains ·) =
      selection.filter (· ∉ planned.map (·.name)) := by
    simp only [List.contains_eq_mem, decide_not]
  have hsome : selection.filter (· ∉ planned.map (·.name)) ≠ [] := by
    intro hnone
    rw [List.filter_eq_nil_iff] at hnone
    exact h fun n hn => by simpa using hnone n hn
  have hempty : selection ≠ [] := by
    rintro rfl
    exact hsome rfl
  rw [select, hunknown, if_neg (by simpa using hempty), if_pos (by simpa using hsome)]

/-- A plan has a fixture for each choice of each dataset. -/
theorem mem_plan_iff : p ∈ c.plan ↔ c.datasets[p.position]? = some p.dataset ∧
    p.choice ∈ p.dataset.choices ∧ p.name = p.dataset.fixtureName p.choice := by
  rw [plan, List.mem_flatMap]
  constructor
  · rintro ⟨⟨d, position⟩, hd, hp⟩
    obtain ⟨choice, hchoice, rfl⟩ := List.mem_map.1 hp
    exact ⟨List.mem_zipIdx_iff_getElem?.1 hd, hchoice, rfl⟩
  · rintro ⟨hd, hchoice, hname⟩
    refine ⟨(p.dataset, p.position), List.mem_zipIdx_iff_getElem?.2 hd, ?_⟩
    exact List.mem_map.2 ⟨p.choice, hchoice, by rw [← hname]⟩

/-- A plan goes through the datasets one after the other. -/
theorem pairwise_plan (c : Catalog) : c.plan.Pairwise fun p q => p.position ≤ q.position := by
  have hposition {d : Dataset} {position : Nat} {p : Planned} (hp : p ∈ planDataset d position) :
      p.position = position := by
    obtain ⟨choice, -, rfl⟩ := List.mem_map.1 hp
    rfl
  have hpositions : c.datasets.zipIdx.Pairwise fun a b => a.2 < b.2 := by
    rw [← List.pairwise_map (R := (· < ·)), List.zipIdx_map_snd]
    exact List.pairwise_lt_range'
  rw [plan, List.pairwise_flatMap]
  constructor
  · rintro ⟨d, position⟩ _
    refine List.pairwise_of_forall_mem_list fun p hp q hq => ?_
    exact Nat.le_of_eq ((hposition hp).trans (hposition hq).symm)
  · refine hpositions.imp fun {a b} hlt p hp q hq => ?_
    rw [hposition hp, hposition hq]
    exact Nat.le_of_lt hlt

/-- Only the fixtures of a dataset stand between two of them. -/
theorem adjacent_of_sublist {before between after : List Planned}
    (hnames : (c.datasets.map (·.name)).Nodup)
    (h : (before ++ p :: between ++ q :: after).Sublist c.plan) (hdataset : p.dataset = q.dataset) :
    ∀ r ∈ between, r.dataset = p.dataset := by
  have hplanned (r : Planned) (hr : r ∈ before ++ p :: between ++ q :: after) :
      c.datasets[r.position]? = some r.dataset := (mem_plan_iff.1 (h.subset hr)).1
  have hp := hplanned p (by simp)
  have hq := hplanned q (by simp)
  -- Datasets differ by their names, so that the two stand under the same position.
  have hposition : p.position = q.position := by
    have hlt := (List.getElem?_eq_some_iff.1 hp).1
    exact (List.getElem?_inj hlt hnames.of_map).1 (by rw [hp, hq, hdataset])
  intro r hr
  have hordered := (pairwise_plan c).sublist h
  rw [List.append_assoc, List.pairwise_append, List.cons_append, List.pairwise_cons,
    List.pairwise_append] at hordered
  have hfirst : p.position ≤ r.position := hordered.2.1.1 r (by simp [hr])
  have hlast : r.position ≤ q.position := hordered.2.1.2.2.2 r hr q (by simp)
  have hmiddle : r.position = p.position := by omega
  have hr := hplanned r (by simp [hr])
  rw [hmiddle, hp] at hr
  exact (Option.some.inj hr).symm

/-- What is selected from the plan of a catalog by a list of names. -/
structure IsSelected (c : Catalog) (selection : List String) (chosen : List Planned) : Prop where
  /-- The order is that of the catalog. -/
  ordered : chosen.Sublist c.plan
  /-- A selected fixture is there once, and no selection is a selection of all. -/
  once : ∀ p, chosen.count p =
    if p ∈ c.plan ∧ (selection = [] ∨ p.name ∈ selection) then 1 else 0
  /-- Each fixture has the dataset it was planned for, and one of the choices of that. -/
  own : ∀ p ∈ chosen, c.datasets[p.position]? = some p.dataset ∧
    p.choice ∈ p.dataset.choices ∧ p.name = p.dataset.fixtureName p.choice
  /-- Only the fixtures of a dataset stand between two of them. -/
  adjacent : ∀ before p between q after, chosen = before ++ p :: between ++ q :: after →
    p.dataset = q.dataset → ∀ r ∈ between, r.dataset = p.dataset
  /-- Neither the order of the names nor how often they are given matters. -/
  members : ∀ selection', (∀ n, n ∈ selection' ↔ n ∈ selection) →
    select c.plan selection' = .ok chosen

theorem isSelected (hvalid : c.validate = .ok ())
    (h : ∀ n ∈ selection, n ∈ c.plan.map (·.name)) :
    IsSelected c selection (c.plan.filter fun p => selection = [] ∨ p.name ∈ selection) where
  ordered := List.filter_sublist
  once p := by
    have hplan : c.plan.Nodup := (nodup_plan hvalid).of_map
    rw [(hplan.filter _).count]
    simp only [List.mem_filter, decide_eq_true_eq]
  own p hp := mem_plan_iff.1 (List.mem_filter.1 hp).1
  adjacent before p between q after hchosen := by
    apply adjacent_of_sublist (validate_iff.1 hvalid).1
    rw [← hchosen]
    exact List.filter_sublist
  members selection' hmembers := by
    have hempty : selection' = [] ↔ selection = [] := by
      simp only [List.eq_nil_iff_forall_not_mem, hmembers]
    rw [select_eq_ok fun n hn => h n ((hmembers n).1 hn)]
    simp only [hempty, hmembers]

/-- Names can be selected from the plan of a valid catalog if they are planned; those that are not
are all named. -/
theorem selected_by_name (c : Catalog) :
    (c.validate = .ok () ↔ (c.datasets.map (·.name)).Nodup ∧ (∀ d ∈ c.datasets, d.choices ≠ []) ∧
      (c.plan.map (·.name)).Nodup) ∧
    (c.validate = .ok () → ∀ selection,
      ((∃ chosen, select c.plan selection = .ok chosen) ↔
        ∀ n ∈ selection, n ∈ c.plan.map (·.name)) ∧
      (∀ chosen, select c.plan selection = .ok chosen → IsSelected c selection chosen) ∧
      ∀ refusal, select c.plan selection = .error refusal →
        refusal = .unknownFixtures (selection.filter (· ∉ c.plan.map (·.name)))
          (SortedMap.distinct (c.plan.map (·.name)))) := by
  refine ⟨validate_iff, fun hvalid selection => ?_⟩
  by_cases h : ∀ n ∈ selection, n ∈ c.plan.map (·.name)
  · rw [select_eq_ok h]
    refine ⟨iff_of_true ⟨_, rfl⟩ h, fun chosen hchosen => ?_, fun refusal hrefusal => ?_⟩
    · obtain rfl := Except.ok.inj hchosen
      exact isSelected hvalid h
    · cases hrefusal
  · rw [select_eq_error h]
    refine ⟨iff_of_false ?_ h, fun chosen hchosen => ?_, fun refusal hrefusal => ?_⟩
    · rintro ⟨chosen, hchosen⟩
      cases hchosen
    · cases hchosen
    · exact (Except.error.inj hrefusal).symm

/-- A fixture of the standard catalog that is named twice is selected once. -/
theorem selected_once_of_named_twice : standard.validate = .ok () ∧
    ∃ chosen, select standard.plan ["LinearRegressionAuto", "DNNClassificationIris",
        "LinearRegressionAuto"] = .ok chosen ∧
      chosen.map (·.name) = ["DNNClassificationIris", "LinearRegressionAuto"] ∧
      IsSelected standard ["LinearRegressionAuto", "DNNClassificationIris", "LinearRegressionAuto"]
        chosen := by
  have hvalid : standard.validate = .ok () := by decide +kernel
  obtain ⟨hexists, hselected, -⟩ := (selected_by_name standard).2 hvalid
    ["LinearRegressionAuto", "DNNClassificationIris", "LinearRegressionAuto"]
  have hnames : ((select standard.plan ["LinearRegressionAuto", "DNNClassificationIris",
      "LinearRegressionAuto"]).map fun chosen => chosen.map (·.name)) =
      .ok ["DNNClassificationIris", "LinearRegressionAuto"] := by decide +kernel
  obtain ⟨chosen, hchosen⟩ := hexists.2 (by decide +kernel)
  rw [hchosen] at hnames
  exact ⟨hvalid, chosen, hchosen, Except.ok.inj hnames, hselected chosen hchosen⟩

end Catalog
end Exemplar
