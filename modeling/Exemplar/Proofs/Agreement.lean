/-
Building many fixtures and then verifying them.

What a build leaves of a fixture is kept while the others are built, and so are the
datasets.  A verification of the whole batch therefore finds every fixture as its
own build left it, and reports of it what the build reported, as long as nothing that
it loads is too large for memory.
-/
import Exemplar.Proofs.Crashing
import Exemplar.Proofs.Lasting

namespace Exemplar

open Exemplar.Action Disk Store

namespace Catalog

variable {s : Store} {d d' : Disk} {p : Planned} {planned : List Planned}
variable {ready : Prepared} {policy : Policy} {report : Fixture.Report} {directory : Path}

/-! ## What a batch of verifications reports -/

section Built

variable {trained : Model} (h : Built s d.workingDirectory p report ready trained d)
include h

theorem Built.isShaped : trained.IsShaped := by
  obtain ⟨model, hmodel, hfit⟩ := h.trains
  exact (Model.isShaped_build hmodel).fit hfit

theorem Built.named : p.choice.architecture.taskModelName p.dataset.task = .ok trained.name := by
  obtain ⟨model, hmodel, hfit⟩ := h.trains
  rw [Model.name_of_fit hfit]
  exact Model.name_of_build hmodel

/-- A verification of a fixture that was built reports the same as the build. -/
theorem Built.verified (hname : Path.IsPlain p.name) (hfinite : trained.IsFinite) :
    single (Table.inDirectory s.sheetDirectory) policy (Planned.verify s) d p
      = .ok (.succeeded report) := by
  have hverified : Work.told d (Fixture.verify ready.inputs p.spec s) = .ok report :=
    h.reported ▸ h.complete.verifies hname h.isShaped hfinite
  have hestimator : report.estimator = trained.name := by
    rw [h.reported]
    rfl
  have hplanned : Work.told d (p.verify s ready) = .ok report := by
    refine (Work.told_bind_eq_ok_iff (Fixture.looks_verify _ _ s)).2 ⟨report, hverified, ?_⟩
    refine (Work.told_bind_eq_ok_iff (Work.looks_ofAttempt _)).2 ⟨trained.name, h.named, ?_⟩
    rw [if_neg (not_not.2 hestimator)]
    rfl
  rw [single, h.prepares.told]
  show settle policy p (Work.told d (p.verify s ready)) = _
  rw [hplanned]
  rfl

/-- What a build has left to be loaded fits into memory. -/
theorem Built.fitsMemory (hname : Path.IsPlain p.name) {m : Description}
    (hm : d.Documents (Artifact.descriptionPath (s.artifactPath p.name)) Description.ofJson? m) :
    m.FitsMemory := by
  obtain ⟨description, hdescribe, -, hrecords⟩ := h.complete.records hname
  have hdescription :=
    hrecords.description_documents (h.isShaped.isWord_description hdescribe)
  obtain rfl := hm.unique hdescription
  exact h.isShaped.fitsMemory hdescribe

end Built

theorem told_verify_ne_crash (hmemory : ∀ m,
    d.Documents (Artifact.descriptionPath (s.artifactPath p.name)) Description.ofJson? m →
      m.FitsMemory) : Work.told d (p.verify s ready) ≠ .error .crash := by
  have hverify : Work.told d (Fixture.verify ready.inputs p.spec s) ≠ .error .crash :=
    Fixture.told_verify_ne_crash hmemory
  refine Work.told_bind_ne_crash (Fixture.looks_verify _ _ s) hverify fun report _ => ?_
  refine Work.told_bind_ne_crash (Work.looks_ofAttempt _) ?_ fun expected _ => ?_
  · refine Attempt.map_ne_crash ?_
    cases p.dataset.task with
    | regression => exact fun hcrash => by cases hcrash
    | classification n =>
      rw [Head.ofTask]
      split
      · exact fun hcrash => by cases hcrash
      · split <;> exact fun hcrash => by cases hcrash
  · dsimp only
    split <;> exact fun hcrash => by cases hcrash

/-- A batch of verifications that keeps going comes to an outcome of every fixture of which nothing
is loaded that is too large for memory. -/
theorem exists_single (hmemory : ∀ m,
    d.Documents (Artifact.descriptionPath (s.artifactPath p.name)) Description.ofJson? m →
      m.FitsMemory) :
    ∃ outcome, single (Table.inDirectory directory) .keepGoing (Planned.verify s) d p
      = .ok outcome := by
  rw [single]
  have hprepare := told_prepare_ne_crash directory p.dataset d
  cases hprepared : Work.told d (prepare (Table.inDirectory directory) p.dataset) with
  | error failure =>
    rw [hprepared] at hprepare
    cases failure with
    | crash => exact absurd rfl hprepare
    | during activities cause => exact ⟨_, rfl⟩
  | ok ready =>
    have hverify : Work.told d (p.verify s ready) ≠ .error .crash := told_verify_ne_crash hmemory
    show ∃ outcome, settle .keepGoing p (Work.told d (p.verify s ready)) = .ok outcome
    rcases hverified : Work.told d (p.verify s ready) with (_ | _) | report
    · exact ⟨_, rfl⟩
    · exact absurd hverified hverify
    · exact ⟨_, rfl⟩

variable {c : Catalog}

/-- A batch of verifications does with each fixture what would be done with it alone. -/
theorem run_verifyAll
    (htogether : ∀ p ∈ planned, ∀ q ∈ planned, p.position = q.position → p.dataset = q.dataset) :
    d.run (verifyAll c.source c.store policy planned).run
      = (planned.mapM (single c.source policy (Planned.verify c.store) d), d) :=
  run_runAll (fun _ => Table.looks_load _) (fun p => p.looks_verify c.store)
    (fun _ _ h => by cases h) htogether

/-! ## Agreement -/

variable {selection : List String} {outcomes : List Outcome}

/-- What was built is verified.  Fixtures of a valid catalog are built, whichever requests fail, and
then verified.  If the paths of the directories and the datasets lead through nothing that is kept
of one of the fixtures, and no description that stands where a build failed is too large for memory,
then the verification comes to an end, and of every fixture that was reported to be built, and whose
model is finite, it reports the same. -/
theorem verification_agrees_with_build (hvalid : c.validate = .ok ())
    (hselect : select c.plan selection = .ok planned) (hd : d.Sound)
    (hdirectories : c.Accommodates d.workingDirectory planned)
    (hdatasets : ∀ p ∈ planned, ∀ q ∈ planned,
      c.store.Avoids d.workingDirectory q.name (c.sheetDirectory.entry p.dataset.file))
    (hends : Ends Happens (buildAll c.source c.store policy planned).run d (.ok outcomes) d')
    (hmemory : ∀ p ∈ planned, (∀ report, .succeeded report ∈ outcomes → report.name ≠ p.name) →
      ∀ m, d'.Documents (Artifact.descriptionPath (c.store.artifactPath p.name))
        Description.ofJson? m → m.FitsMemory) :
    ∃ verified, d'.run (verifyAll c.source c.store .keepGoing planned).run = (.ok verified, d') ∧
      ∀ report, .succeeded report ∈ outcomes → ∃ p ∈ planned, ∃ ready trained,
        Built c.store d.workingDirectory p report ready trained d' ∧
          (trained.IsFinite → .succeeded report ∈ verified) := by
  have htogether := areTogether_select hvalid hselect
  have hcoexist : Coexist c.store d.workingDirectory planned :=
    ⟨htogether, fun p hp => hdirectories.ready hp (htogether.names p hp), hdatasets⟩
  have hbuilt := built_of_runAll hcoexist hd rfl (fun _ _ h => by cases h) hends
  have hhome : d'.workingDirectory = d.workingDirectory :=
    ((holds_runAll_build hcoexist.ready hd rfl (fun _ => Table.looks_load _) policy none).ends
      hends).home_eq
  rw [← hhome] at hbuilt ⊢
  have hfits : ∀ p ∈ planned, ∀ m, d'.Documents
      (Artifact.descriptionPath (c.store.artifactPath p.name)) Description.ofJson? m →
        m.FitsMemory := by
    intro p hp m hm
    by_cases hsucceeded : ∃ report, .succeeded report ∈ outcomes ∧ report.name = p.name
    · obtain ⟨report, hreport, hname⟩ := hsucceeded
      obtain ⟨q, hq, ready, trained, h⟩ := hbuilt report hreport
      obtain rfl : q = p := by
        refine List.inj_on_of_nodup_map htogether.distinct hq hp (Eq.trans ?_ hname)
        rw [h.reported]
        rfl
      exact h.fitsMemory (htogether.names q hq).isPlain hm
    · exact hmemory p hp (fun report hreport hname => hsucceeded ⟨report, hreport, hname⟩) m hm
  obtain ⟨verified, hverified⟩ := mapM_ok_of_forall fun p hp => exists_single (hfits p hp)
  refine ⟨verified, ?_, fun report hreport => ?_⟩
  · exact (run_verifyAll htogether.datasets).trans (congrArg (·, d') hverified)
  · obtain ⟨p, hp, ready, trained, h⟩ := hbuilt report hreport
    refine ⟨p, hp, ready, trained, h, fun hfinite => ?_⟩
    exact mem_of_mapM hverified hp (h.verified (htogether.names p hp).isPlain hfinite)

/-- Builds what is selected and keeps going. -/
def buildSelected (c : Catalog) (planned : List Planned) : Work (List Outcome) :=
  buildAll c.source c.store .keepGoing planned

/-- Builds all that a catalog plans and keeps going. -/
def buildPlan (c : Catalog) : Work (List Outcome) := buildAll c.source c.store .keepGoing c.plan

/-- Verifies all that a catalog plans and keeps going. -/
def verifyPlan (c : Catalog) : Work (List Outcome) := verifyAll c.source c.store .keepGoing c.plan

/-- Whether the model is finite that is trained for a fixture on the table in a text. -/
def trainsFinite (p : Planned) (text : String) : Bool :=
  let trained := do
    let ready ← prepareTable p.dataset (← Table.ofBytes text.toUTF8.toList)
    let model ← Model.build p.choice.architecture p.dataset.task ready.encodings
      p.choice.hiddenUnits p.choice.seed
    model.fit ready.inputs.training p.dataset.steps
  trained.toOption.any fun trained => trained.parameters.all Float.isFinite

theorem Built.isFinite {trained : Model} {text : String} {home : Key}
    (h : Built s home p report ready trained d)
    (hread : d.readFile (s.sheetDirectory.entry p.dataset.file) = .ok text.toUTF8)
    (hfinite : trainsFinite p text = true) : trained.IsFinite := by
  obtain ⟨bytes, table, hbytes, htable, hready⟩ := h.prepares
  obtain ⟨model, hmodel, hfit⟩ := h.trains
  obtain rfl := Except.ok.inj (hread.symm.trans hbytes)
  simp only [trainsFinite, htable, hready, hmodel, hfit, Attempt.ok_bind] at hfinite
  exact List.all_eq_true.1 hfinite

/-- What a build reports of the one fixture of `wines`. -/
def wineReport : Fixture.Report := ⟨"LinearRegressionWine", "LinearRegressor", 1,
  ⟨"/c/LinearRegressionWine.csv"⟩, ⟨"/m/LinearRegressionWine"⟩⟩

theorem wine_reported :
    ((cellar "wine.csv").run (wines "wine.csv").buildPlan.run).1 = .ok [.succeeded wineReport] ∧
      ((cellar "wine.csv").run (wines "wine.csv").buildPlan.run).2.readFile ⟨"/c/wine.csv"⟩
        = .ok "x,y\n1.0,2.0\n".toUTF8 := by decide +kernel

/-- A fixture is built and verified, with the same report. -/
theorem verification_agrees_with_build_once : ∃ d' verified,
    Ends Happens (wines "wine.csv").buildPlan.run (cellar "wine.csv") (.ok [.succeeded wineReport])
      d' ∧
    d'.run (wines "wine.csv").verifyPlan.run = (.ok verified, d') ∧
    .succeeded wineReport ∈ verified := by
  obtain ⟨hreported, hread⟩ := wine_reported
  have hends := Fixture.ends_answer hreported
  have hdirectories : (wines "wine.csv").Accommodates (cellar "wine.csv").workingDirectory
      (wines "wine.csv").plan := ⟨rfl, by decide +kernel, by decide +kernel⟩
  have hplan : ∀ p ∈ (wines "wine.csv").plan, p.name = wineReport.name ∧
      (wines "wine.csv").sheetDirectory.entry p.dataset.file = ⟨"/c/wine.csv"⟩ ∧
      trainsFinite p "x,y\n1.0,2.0\n" = true := by decide +kernel
  obtain ⟨verified, hverified, hagrees⟩ :=
    verification_agrees_with_build rfl (rfl : select (wines "wine.csv").plan [] = _)
      (sound_cellar (by decide)) hdirectories (by decide +kernel) hends fun p hp hnone =>
        absurd (hplan p hp).1.symm (hnone wineReport List.mem_cons_self)
  obtain ⟨p, hp, ready, trained, hbuilt, hmore⟩ := hagrees wineReport List.mem_cons_self
  obtain ⟨-, hfile, hfinite⟩ := hplan p hp
  rw [← hfile] at hread
  exact ⟨_, verified, hends, hverified, hmore (hbuilt.isFinite hread hfinite)⟩

/-! ## Disagreement -/

/-- What a batch of verifications reports was found on the disk. -/
theorem told_of_verifyAll
    (htogether : ∀ p ∈ planned, ∀ q ∈ planned, p.position = q.position → p.dataset = q.dataset)
    {verified : List Outcome}
    (hrun : (d.run (verifyAll c.source c.store policy planned).run).1 = .ok verified)
    (hreport : .succeeded report ∈ verified) :
    ∃ p ∈ planned, ∃ ready, Work.told d (p.verify c.store ready) = .ok report := by
  rw [run_verifyAll htogether] at hrun
  have hall := forall_of_mapM hrun (p := fun outcome => ∃ p ∈ planned,
    single c.source policy (Planned.verify c.store) d p = .ok outcome)
    fun p hp outcome h => ⟨p, hp, h⟩
  obtain ⟨p, hp, hsingle⟩ := hall _ hreport
  refine ⟨p, hp, ?_⟩
  rw [single] at hsingle
  rcases hprepared : Work.told d (prepare c.source p.dataset) with failure | ready
  · rw [hprepared] at hsingle
    exact absurd hsingle settleUnprepared_ne_succeeded
  · rw [hprepared] at hsingle
    exact ⟨ready, settle_eq_succeeded hsingle⟩

/-- What is verified has an artifact, and is reported under its name. -/
theorem Planned.found_of_told_verify (h : Work.told d (p.verify s ready) = .ok report) :
    report.name = p.name ∧ ∃ key, d.find (s.artifactPath p.name) = .ok (key, .directory) := by
  obtain ⟨found, hfound, h⟩ := (Work.told_bind_eq_ok_iff (Fixture.looks_verify _ _ s)).1 h
  obtain ⟨expected, -, h⟩ := (Work.told_bind_eq_ok_iff (Work.looks_ofAttempt _)).1 h
  dsimp only at h
  split at h
  · cases h
  obtain rfl := Except.ok.inj h
  obtain ⟨_, _, _, _, hagrees, rfl⟩ := Fixture.told_verify_eq_ok_iff.1 hfound
  exact ⟨rfl, hagrees.artifact⟩

/-- A batch of verifications crashes if one of them does. -/
theorem verifyAll_ne_ok
    (htogether : ∀ p ∈ planned, ∀ q ∈ planned, p.position = q.position → p.dataset = q.dataset)
    (hp : p ∈ planned) (hprepares : Prepares c.sheetDirectory p.dataset ready d)
    (hcrash : Work.told d (p.verify c.store ready) = .error .crash) (verified : List Outcome) :
    (d.run (verifyAll c.source c.store policy planned).run).1 ≠ .ok verified := by
  intro hrun
  rw [run_verifyAll htogether] at hrun
  obtain ⟨outcome, hsingle⟩ := exists_mapM_iff.1 ⟨verified, hrun⟩ p hp
  have hprepared : Work.told d (prepare c.source p.dataset) = .ok ready := hprepares.told
  rw [single, hprepared] at hsingle
  replace hsingle : settle policy p (Work.told d (p.verify c.store ready)) = .ok outcome := hsingle
  rw [hcrash] at hsingle
  cases hsingle

/-- A dataset is prepared from the table in a text. -/
theorem exists_prepares (dataset : Dataset) {text : String} {check : Prepared → Bool}
    (hread : d.readFile (directory.entry dataset.file) = .ok text.toUTF8)
    (hcheck : ((Table.ofBytes text.toUTF8.toList).bind (prepareTable dataset)).toOption.any check
      = true) : ∃ ready, Prepares directory dataset ready d ∧ check ready = true := by
  obtain ⟨ready, hready, hcheck⟩ := exists_ok_of_any hcheck
  obtain ⟨table, htable, hready⟩ := bind_eq_ok_iff.1 hready
  exact ⟨ready, ⟨_, table, hread, htable, hready⟩, hcheck⟩

/-- What is asked of a catalog if only the predictions and the artifacts of fixtures are thought of,
not what is swept for them: neither directory lies at or below one of these, and no dataset is
reached through what is kept of a fixture. -/
structure SeemsSafe (c : Catalog) : Prop where
  valid : c.validate = .ok ()
  absolute : c.artifactDirectory.isAbsolute = true
  directories : ∀ p ∈ c.plan, ∀ part ∈ [Part.sheet, Part.artifact],
    ¬ c.store.Owns [] part p.name (c.sheetDirectory.key []) ∧
      ¬ c.store.Owns [] part p.name (c.artifactDirectory.key [])
  datasets : ∀ p ∈ c.plan, ∀ q ∈ c.plan,
    c.store.Avoids [] q.name (c.sheetDirectory.entry p.dataset.file)

/-- The fixtures of a catalog can be built so that one is reported of which a verification does not
report the same, although a finite model is trained for it. -/
def Loses (c : Catalog) (d : Disk) (report : Fixture.Report) : Prop :=
  (∀ p ∈ c.plan, p.name = report.name → trainsFinite p "x,y\n1.0,2.0\n" = true) ∧
  ∃ outcomes d', Ends Happens c.buildPlan.run d (.ok outcomes) d' ∧
    .succeeded report ∈ outcomes ∧
    ∀ verified, (d'.run c.verifyPlan.run).1 = .ok verified → .succeeded report ∉ verified

/-- Two datasets, and the directory of the artifacts has a name like that of staged predictions of
the second. -/
def tangled : Catalog :=
  let dataset (name file : String) : Dataset :=
    ⟨name, file, ⟨["x"], [], "y", .numeric⟩, 0, [linearChoice]⟩
  ⟨⟨"/c"⟩, ⟨"/c/.LinearRegressionA-.csv.tmp"⟩, [dataset "B" "b.csv", dataset "A" "a.csv"]⟩

/-- A disk with both datasets. -/
def twoSheets : Disk := (cellar "b.csv").put ["c", "a.csv"] (.file "x,y\n1.0,2.0\n".toUTF8)

theorem sound_twoSheets : twoSheets.Sound := by
  have h : (cellar "b.csv").Sound := sound_cellar (by decide)
  exact @Sound.put _ ["c"] _ h "a.csv" (by decide) rfl fun h => by cases h

/-- What a build reports of a fixture of `tangled`. -/
def tangledReport (name : String) : Fixture.Report := ⟨name, "LinearRegressor", 1,
  ⟨"/c/" ++ name ++ ".csv"⟩, ⟨"/c/.LinearRegressionA-.csv.tmp/" ++ name⟩⟩

theorem tangled_planned : tangled.SeemsSafe ∧
    (∀ p ∈ tangled.plan, p.name = (tangledReport "LinearRegressionB").name →
      trainsFinite p "x,y\n1.0,2.0\n" = true) ∧
    ∀ p ∈ tangled.plan, ∀ q ∈ tangled.plan, p.position = q.position → p.dataset = q.dataset :=
  ⟨⟨rfl, rfl, by decide +kernel, by decide +kernel⟩, by decide +kernel, by decide +kernel⟩

theorem seemsSafe_tangled : tangled.SeemsSafe := tangled_planned.1

/-- The first fixture of `tangled` can be built alone, and is lost if both are built. -/
theorem tangled_built :
    ((twoSheets.run (tangled.buildSelected (tangled.plan.take 1)).run).1
        = .ok [.succeeded (tangledReport "LinearRegressionB")] ∧
      (tangled.buildSelected (tangled.plan.take 1)).run.isFaultless twoSheets = true ∧
      (twoSheets.run (tangled.buildSelected (tangled.plan.take 1)).run).2.get?
        (tangled.store.artifactKey [] "LinearRegressionB") = some .directory) ∧
    ((twoSheets.run tangled.buildPlan.run).1 = .ok [.succeeded (tangledReport "LinearRegressionB"),
        .succeeded (tangledReport "LinearRegressionA")] ∧
      tangled.buildPlan.run.isFaultless twoSheets = true) ∧
    (twoSheets.run tangled.buildPlan.run).2.get?
        (tangled.store.artifactKey [] "LinearRegressionB") = none ∧
      ((twoSheets.run tangled.buildPlan.run).2.find
        (tangled.store.artifactPath "LinearRegressionB")).toOption.isNone = true := by
  decide +kernel

theorem loses_tangled : tangled.Loses twoSheets (tangledReport "LinearRegressionB") := by
  obtain ⟨-, ⟨hreported, -⟩, -, hgone⟩ := tangled_built
  obtain ⟨-, hfinite, htogether⟩ := tangled_planned
  refine ⟨hfinite, _, _, Fixture.ends_answer hreported, List.mem_cons_self, ?_⟩
  intro verified hverified hreport
  obtain ⟨p, hp, ready, htold⟩ := told_of_verifyAll htogether hverified hreport
  obtain ⟨hname, key, hfind⟩ := p.found_of_told_verify htold
  replace hname : "LinearRegressionB" = p.name := hname
  rw [← hname] at hfind
  rw [hfind] at hgone
  cases hgone

/-- A network with an empty layer is not built. -/
theorem Model.build_ne_ok {task : Task} {encodings : List Encoding} {hiddenUnits : List Nat}
    {seed : Int64} {model : Model} (hempty : 0 ∈ hiddenUnits) :
    Model.build .network task encodings hiddenUnits seed ≠ .ok model := by
  intro h
  obtain ⟨head, -, h⟩ := Attempt.bind_eq_ok h
  obtain ⟨m, hnew, -⟩ := Attempt.bind_eq_ok h
  obtain ⟨⟨⟩, hcheck, -⟩ := Attempt.bind_eq_ok hnew
  exact (NetworkModel.check_eq_ok_iff.1 hcheck).2 hempty

/-- One dataset, with a linear model and a network that cannot be built. -/
def ambitious : Dataset :=
  ⟨"Wine", "wine.csv", ⟨["x"], [], "y", .numeric⟩, 0, [linearChoice, networkChoice [0]]⟩

def doomed : Catalog := { wines "wine.csv" with datasets := [ambitious] }

/-- A network with a layer that is too large for memory. -/
def oversized : Description where
  formatVersion := 1
  estimator := "DNNRegressor"
  architecture := .network
  head := .regression
  columns := [.realValued ⟨"x", .float64⟩]
  hiddenUnits := [twoTo 61]
  steps := 0
  signatures := [(Description.servingKey,
    ⟨"regress", [("x", ⟨.float64, [.unbound, .fixed 1]⟩)], []⟩)]

theorem isWord_oversized : oversized.IsWord := by
  refine ⟨trivial, by decide, List.pairwise_singleton .., ?_⟩
  refine List.forall_mem_singleton.2 ⟨List.pairwise_singleton .., .nil, ?_, List.forall_mem_nil _⟩
  exact List.forall_mem_singleton.2 (List.forall_mem_cons.2 ⟨trivial,
    List.forall_mem_singleton.2 (show 1 < twoTo 63 by decide)⟩)

/-- A disk with the dataset, and with an old artifact under the name of the network. -/
def haunted : Disk :=
  let d := ((cellar "wine.csv").put ["m"] .directory).put ["m", "DNNRegressionWine"] .directory
  ((d.put ["m", "DNNRegressionWine", "saved_model.json"] (.file oversized.json.pretty.toUTF8)).put
    ["m", "DNNRegressionWine", "variables"] .directory).put
    ["m", "DNNRegressionWine", "variables", "variables.json"]
    (.file (Variables.json []).pretty.toUTF8)

theorem sound_haunted : haunted.Sound := by
  have h₀ : (cellar "wine.csv").Sound := sound_cellar (by decide)
  have h₁ := @Sound.put _ [] .directory h₀ "m" (by decide) rfl fun _ => rfl
  have h₂ := @Sound.put _ ["m"] .directory h₁ "DNNRegressionWine" (by decide) rfl fun _ => rfl
  have h₃ := @Sound.put _ ["m", "DNNRegressionWine"] (.file oversized.json.pretty.toUTF8) h₂
    "saved_model.json" (by decide) rfl fun h => by cases h
  have h₄ := @Sound.put _ ["m", "DNNRegressionWine"] .directory h₃ "variables" (by decide) rfl
    fun _ => rfl
  exact @Sound.put _ ["m", "DNNRegressionWine", "variables"] _ h₄ "variables.json" (by decide) rfl
    fun h => by cases h

/-- What is planned of `doomed`, which of the paths are avoided, and that the old artifact could be
served. -/
theorem doomed_planned :
    (doomed.SeemsSafe ∧ doomed.Accommodates haunted.workingDirectory doomed.plan) ∧
    (∀ p ∈ doomed.plan, p.name = "LinearRegressionWine" ∨
      p.choice.architecture = .network ∧ 0 ∈ p.choice.hiddenUnits) ∧
    (∀ path ∈ [doomed.sheetDirectory.entry "wine.csv",
        doomed.store.artifactPath "DNNRegressionWine",
        Artifact.descriptionPath (doomed.store.artifactPath "DNNRegressionWine"),
        Artifact.variablesPath (doomed.store.artifactPath "DNNRegressionWine")],
      doomed.store.Avoids haunted.workingDirectory "LinearRegressionWine" path) ∧
    (∀ p ∈ doomed.plan, p.name = wineReport.name → trainsFinite p "x,y\n1.0,2.0\n" = true) ∧
    (∀ p ∈ doomed.plan, ∀ q ∈ doomed.plan, p.position = q.position → p.dataset = q.dataset) ∧
    (⟨"DNNRegressionWine", 0, ambitious, networkChoice [0]⟩ : Planned) ∈ doomed.plan ∧
    ((Table.ofBytes "x,y\n1.0,2.0\n".toUTF8.toList).bind
      (prepareTable ambitious)).toOption.any (fun ready =>
        decide (oversized.checkServing ready.inputs.serving = .ok ())) = true :=
  ⟨⟨⟨rfl, rfl, by decide +kernel, by decide +kernel⟩, rfl, by decide +kernel, by decide +kernel⟩,
    by decide +kernel⟩

/-- What is built of `doomed` leaves the dataset and the old artifact alone. -/
theorem haunted_kept {outcomes : Attempt (List Outcome)}
    (hends : Ends Happens doomed.buildPlan.run haunted outcomes d') :
    let artifact := doomed.store.artifactPath "DNNRegressionWine"
    d'.readFile (doomed.sheetDirectory.entry "wine.csv") = .ok "x,y\n1.0,2.0\n".toUTF8 ∧
    d'.find artifact = .ok (["m", "DNNRegressionWine"], .directory) ∧
    d'.Documents (Artifact.descriptionPath artifact) Description.ofJson? oversized ∧
    d'.Documents (Artifact.variablesPath artifact) Variables.ofJson? [] := by
  obtain ⟨⟨-, haccommodates⟩, hplan, havoids, -⟩ := doomed_planned
  have hnames : ∀ p ∈ doomed.plan, p.name ∈ ["LinearRegressionWine"] ∧
      Fixture.Ready doomed.store haunted.workingDirectory p.name ∨ p.IsHopeless := by
    intro p hp
    rcases hplan p hp with hname | ⟨harchitecture, hempty⟩
    · have hfixture : IsFixtureName p.name :=
        isFixtureName_of_select (rfl : select doomed.plan [] = .ok doomed.plan) hp
      exact .inl ⟨List.mem_singleton.2 hname, haccommodates.ready hp hfixture⟩
    · refine .inr fun encodings model => ?_
      rw [harchitecture]
      exact Model.build_ne_ok hempty
  have hdevelops : doomed.store.Develops haunted.workingDirectory ["LinearRegressionWine"] haunted
      d' := (holds_runAll_develops hnames sound_haunted rfl (fun _ => Table.looks_load _)
        .keepGoing none).ends hends
  simp only [List.forall_mem_cons] at havoids
  obtain ⟨hdataset, hartifact, hdescription, hvariables, -⟩ := havoids
  have hsingle {path : Path}
      (h : doomed.store.Avoids haunted.workingDirectory "LinearRegressionWine" path) :
      ∀ name ∈ ["LinearRegressionWine"],
        doomed.store.Avoids haunted.workingDirectory name path := List.forall_mem_singleton.2 h
  refine ⟨hdevelops.readFile rfl (hsingle hdataset) rfl,
    hdevelops.find rfl (hsingle hartifact) rfl, ?_, ?_⟩
  · exact .of_text (hdevelops.readFile rfl (hsingle hdescription) rfl)
      (Description.ofJson?_pretty isWord_oversized)
  · exact .of_text (hdevelops.readFile rfl (hsingle hvariables) rfl)
      (Variables.ofJson?_pretty ⟨.nil, List.forall_mem_nil _⟩ (List.forall_mem_nil _))

theorem doomed_reported : (haunted.run doomed.buildPlan.run).1 = .ok [.succeeded wineReport,
    .failed "DNNRegressionWine" (.refusal (.emptyHiddenLayer [0]))] := by decide +kernel

theorem loses_doomed : doomed.Loses haunted wineReport := by
  obtain ⟨d', hends⟩ : ∃ d', Ends Happens doomed.buildPlan.run haunted _ d' :=
    ⟨_, Fixture.ends_answer doomed_reported⟩
  obtain ⟨-, -, -, hfinite, htogether, hplanned, hserves⟩ := doomed_planned
  refine ⟨hfinite, _, d', hends, List.mem_cons_self, fun verified hverified _ => ?_⟩
  obtain ⟨hread, hartifact, hdescription, hvariables⟩ := haunted_kept hends
  obtain ⟨ready, hprepares, hserving⟩ := exists_prepares ambitious hread hserves
  refine verifyAll_ne_ok htogether hplanned hprepares ?_ verified hverified
  refine Work.told_bind_of_error (Fixture.looks_verify _ _ _) ?_
  exact Fixture.told_verify_eq_crash ⟨_, hartifact⟩ hdescription (of_decide_eq_true hserving)
    (Model.told_load_eq_crash hdescription hvariables rfl rfl)

/-- It is not enough that neither directory lies at or below the predictions or the artifact of a
fixture.  A sweep for one fixture takes along the artifacts of another, if their directory has a
name like that of staged predictions.  And an old artifact that is too large for memory ends a
verification if it stands under the name of a fixture that could not be built. -/
theorem verification_disagrees :
    (tangled.SeemsSafe ∧ twoSheets.Sound ∧
      tangled.Loses twoSheets (tangledReport "LinearRegressionB")) ∧
    doomed.SeemsSafe ∧ haunted.Sound ∧ doomed.Accommodates haunted.workingDirectory doomed.plan ∧
      doomed.Loses haunted wineReport := by
  obtain ⟨⟨hdoomed, haccommodates⟩, -⟩ := doomed_planned
  exact ⟨⟨seemsSafe_tangled, sound_twoSheets, loses_tangled⟩, hdoomed, sound_haunted, haccommodates,
    loses_doomed⟩

end Catalog
end Exemplar
