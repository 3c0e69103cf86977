/-
How batches end.

A batch of builds or verifications does what the plain loop does.  A command that runs one
ends well exactly if its catalog is loaded, every selected name is planned and no fixture
fails: what succeeds stands at a path that ends in its name, and such names are short enough
for a summary.
-/
import Exemplar.CommandLine.Basic
import Exemplar.Proofs.Comparing
import Exemplar.Proofs.Grouping
import Exemplar.Proofs.Lasting

namespace Exemplar

open Exemplar.Action Disk Store NotedWork

variable {R : System} {d d' : Disk} {s : Store} {name : String}

/-! ## Names of what succeeds -/

theorem Store.size_le_of_fits (h : Fits (s.sheetPath name)) :
    name.utf8ByteSize ≤ Report.widestColumn := by
  obtain ⟨front, htext⟩ := Path.text_entry s.sheetDirectory (name ++ ".csv")
  have hshort := h.short
  rw [sheetPath, htext, String.utf8ByteSize_append, String.utf8ByteSize_append] at hshort
  have hlongest : longestPath ≤ Report.widestColumn := by decide
  omega

theorem Store.ends_stage {sheet : PredictionSheet} {staged : StagedSheet}
    (h : Ends R (s.stage name sheet).run d (.ok staged) d') : staged.target = s.sheetPath name := by
  obtain ⟨_, _, -, h⟩ := Work.ends_bind h
  obtain ⟨_, _, -, h⟩ := Work.ends_bind h
  obtain ⟨file, _, -, h⟩ := Work.ends_bind h
  obtain ⟨_, _, -, h⟩ := Work.ends_bind h
  cases (ends_pure.1 h).1
  rfl

theorem Store.fits_of_readSheet {sheet : Csv.Sheet}
    (h : Ends Happens (s.readSheet name).run d (.ok sheet) d') : Fits (s.sheetPath name) := by
  have hreads : Holds Happens (fun _ => True) (s.readSheet name).run d fun result _ =>
      ∀ sheet, result = .ok sheet → Fits (s.sheetPath name) := by
    refine Work.holds_bind (Work.holds_ofAction (holds_request trivial fun reply d' hreply => ?_))
    obtain ⟨-, hread⟩ := happens_read hreply
    rcases reply with error | bytes
    · cases error <;> exact fun _ hok => by cases hok
    · have hfits := fits_of_readFile (hread bytes rfl)
      exact (holds_true _ _).mono (fun _ h => h) fun _ _ _ _ _ => hfits
  exact hreads.ends h sheet rfl

namespace Fixture

variable {inputs : InputPair} {spec : Spec} {model : Model} {report : Report}

/-- What is built is reported under its name, and its predictions are at their path. -/
theorem ends_build (h : Ends R (build model inputs spec s).run d (.ok report) d') :
    report.name = spec.name ∧ ∃ (staged : StagedSheet) (predictions : Path) (d₁ d₂ : Disk),
      staged.target = s.sheetPath spec.name ∧ Ends R staged.rename.run d₁ (.ok predictions) d₂ := by
  obtain ⟨trained, _, -, h⟩ := Work.ends_bind h
  obtain ⟨sheet, _, -, h⟩ := Work.ends_bind h
  obtain ⟨staged, _, hstage, h⟩ := Work.ends_bind h
  obtain ⟨scratch, _, -, h⟩ := Work.ends_bind (Work.ends_onFailure h)
  obtain ⟨_, h, -⟩ := Work.ends_andThen h
  obtain ⟨directory, _, -, h⟩ := Work.ends_bind h
  obtain ⟨_, _, -, h⟩ := Work.ends_bind h
  obtain ⟨artifact, _, -, h⟩ := Work.ends_bind h
  obtain ⟨predictions, d₂, hrename, h⟩ := Work.ends_bind h
  cases (ends_pure.1 h).1
  exact ⟨rfl, staged, predictions, _, d₂, ends_stage hstage, hrename⟩

/-- What is verified is reported under its name, and its predictions were read. -/
theorem ends_verify (h : Ends R (verify inputs spec s).run d (.ok report) d') :
    report.name = spec.name ∧ ∃ stored d₁ d₂,
      Ends R (s.readSheet spec.name).run d₁ (.ok stored) d₂ := by
  obtain ⟨found, _, -, h⟩ := Work.ends_bind h
  dsimp only at h
  split at h
  · cases (ends_pure.1 h).1
  obtain ⟨description, _, -, h⟩ := Work.ends_bind h
  obtain ⟨⟨⟩, _, -, h⟩ := Work.ends_bind h
  obtain ⟨model, _, -, h⟩ := Work.ends_bind h
  obtain ⟨expected, _, -, h⟩ := Work.ends_bind h
  obtain ⟨stored, d₂, hread, h⟩ := Work.ends_bind h
  obtain ⟨⟨⟩, _, -, h⟩ := Work.ends_bind h
  cases (ends_pure.1 h).1
  exact ⟨rfl, stored, _, d₂, hread⟩

end Fixture

namespace Catalog

variable {p : Planned} {ready : Prepared} {report : Fixture.Report} {policy : Policy}
variable {act : Planned → Prepared → Work Fixture.Report} {source : String → Work Table}
variable {last : Option (Nat × Attempt Prepared)} {planned : List Planned}
variable {outcomes : List Outcome} {c : Catalog}

/-- What a command does with each fixture of a batch. -/
def IsDeed (act : Planned → Prepared → Work Fixture.Report) : Prop :=
  ∃ s, act = Planned.build s ∨ act = Planned.verify s

theorem Planned.ends_build (h : Ends R (p.build s ready).run d (.ok report) d') :
    report.name = p.name ∧ ∃ (staged : StagedSheet) (predictions : Path) (d₁ d₂ : Disk),
      staged.target = s.sheetPath p.name ∧ Ends R staged.rename.run d₁ (.ok predictions) d₂ := by
  obtain ⟨model, _, -, h⟩ := Work.ends_bind h
  exact Fixture.ends_build h

theorem Planned.ends_verify (h : Ends R (p.verify s ready).run d (.ok report) d') :
    report.name = p.name ∧ ∃ stored d₁ d₂,
      Ends R (s.readSheet p.name).run d₁ (.ok stored) d₂ := by
  obtain ⟨found, _, hfound, h⟩ := Work.ends_bind h
  obtain ⟨expected, _, -, h⟩ := Work.ends_bind h
  dsimp only at h
  split at h
  · cases (ends_pure.1 h).1
  cases (ends_pure.1 h).1
  exact Fixture.ends_verify hfound

theorem IsDeed.named (h : IsDeed act) : Named R act := by
  rintro p ready d report d' hends
  obtain ⟨s, rfl | rfl⟩ := h
  · exact (Planned.ends_build hends).1
  · exact (Planned.ends_verify hends).1

/-- A name of what succeeds is short. -/
theorem IsDeed.size_le (h : IsDeed act) (hends : Ends Happens (act p ready).run d (.ok report) d') :
    report.name.utf8ByteSize ≤ Report.widestColumn := by
  rw [h.named p ready d report d' hends]
  obtain ⟨s, rfl | rfl⟩ := h
  · obtain ⟨-, staged, predictions, d₁, d₂, htarget, hrename⟩ := Planned.ends_build hends
    exact size_le_of_fits
      (htarget ▸ (Fixture.holds_rename_fits staged d₁).ends hrename predictions rfl)
  · obtain ⟨-, stored, d₁, d₂, hread⟩ := Planned.ends_verify hends
    exact size_le_of_fits (fits_of_readSheet hread)

/-- What a batch reports is what was done with one of its fixtures. -/
theorem exists_ends_of_runAll
    (h : Ends R (runAll source policy act last planned).run d (.ok outcomes) d')
    (hreport : .succeeded report ∈ outcomes) :
    ∃ p ∈ planned, ∃ ready d₁ d₂, Ends R (act p ready).run d₁ (.ok report) d₂ := by
  induction planned generalizing last d outcomes with
  | nil =>
    cases (ends_pure.1 h).1
    cases hreport
  | cons p rest ih =>
    obtain ⟨result, d₁, -, h⟩ := Work.ends_bind h
    obtain ⟨outcome, d₂, hone, h⟩ := Work.ends_bind h
    obtain ⟨others, d₃, hmore, h⟩ := Work.ends_bind h
    obtain ⟨heq, rfl⟩ := ends_pure.1 h
    cases heq
    rcases List.mem_cons.1 hreport with rfl | hreport
    · cases result with
      | error failure =>
        exact absurd (Work.ends_ofAttempt hone).1 settleUnprepared_ne_succeeded
      | ok ready =>
        obtain ⟨result, d', hact, hsettled⟩ := Work.ends_bind hone
        obtain rfl := settle_eq_succeeded (Work.ends_ofAttempt hsettled).1
        exact ⟨p, List.mem_cons_self, ready, d₁, d', Work.ends_outcome hact⟩
    · obtain ⟨q, hq, hends⟩ := ih hmore hreport
      exact ⟨q, List.mem_cons_of_mem _ hq, hends⟩

/-- What is selected is all of a plan, or what is named, if all names are planned. -/
theorem select_eq_ok_iff {selection : List String} {chosen : List Planned} :
    select planned selection = .ok chosen ↔
      (∀ name ∈ selection, name ∈ planned.map (·.name)) ∧
        chosen = if selection.isEmpty then planned
          else planned.filter fun p => selection.contains p.name := by
  have hunknown : (selection.filter (!(planned.map (·.name)).contains ·)).isEmpty = true ↔
      ∀ name ∈ selection, name ∈ planned.map (·.name) := by
    simp [List.isEmpty_iff, List.filter_eq_nil_iff]
  rw [← hunknown]
  unfold select
  dsimp only
  cases hempty : selection.isEmpty with
  | true =>
    rw [List.isEmpty_iff.1 hempty]
    exact ⟨fun h => ⟨rfl, (Except.ok.inj h).symm⟩, fun h => congrArg Except.ok h.2.symm⟩
  | false =>
    cases (selection.filter (!(planned.map (·.name)).contains ·)).isEmpty with
    | true => exact ⟨fun h => ⟨rfl, (Except.ok.inj h).symm⟩, fun h => congrArg Except.ok h.2.symm⟩
    | false => exact iff_of_false (fun h => by cases h) fun h => by cases h.1

end Catalog

/-! ## Summaries -/

namespace Report

theorem columnWidth_le {least bound : Nat} {names : List String} (hleast : least ≤ bound)
    (h : ∀ name ∈ names, name.utf8ByteSize ≤ bound) : columnWidth least names ≤ bound := by
  induction names generalizing least with
  | nil => exact hleast
  | cons name names ih =>
    obtain ⟨hname, hnames⟩ := List.forall_mem_cons.1 h
    exact ih (max_le hleast hname) hnames

theorem failureCount_eq_zero_iff {outcomes : List Catalog.Outcome} :
    failureCount outcomes = 0 ↔ ∃ reports : List Fixture.Report,
      outcomes = reports.map .succeeded := by
  induction outcomes with
  | nil => exact iff_of_true rfl ⟨[], rfl⟩
  | cons outcome outcomes ih =>
    cases outcome with
    | succeeded report =>
      refine Iff.trans ih ⟨fun ⟨reports, h⟩ => ⟨report :: reports, congrArg _ h⟩, ?_⟩
      rintro ⟨_ | ⟨report', reports⟩, h⟩
      · cases h
      · exact ⟨reports, (List.cons.inj h).2⟩
    | failed name failure =>
      refine iff_of_false (fun h => by cases h) ?_
      rintro ⟨_ | ⟨report', reports⟩, h⟩
      · cases h
      · cases (List.cons.inj h).1

/-- What succeeded can be summed up if it goes by short names. -/
theorem summary_eq_ok {reports : List Fixture.Report} (done : String)
    (h : ∀ report ∈ reports, report.name.utf8ByteSize ≤ widestColumn) :
    ∃ text, summary (reports.map .succeeded) done = .ok text := by
  have hwidth : columnWidth nameTitle.utf8ByteSize
      ((reports.map Catalog.Outcome.succeeded).map Catalog.Outcome.name) ≤ widestColumn := by
    refine columnWidth_le (by decide) fun name hname => ?_
    rw [List.map_map] at hname
    obtain ⟨report, hreport, rfl⟩ := List.mem_map.1 hname
    exact h report hreport
  exact ⟨_, if_pos hwidth⟩

end Report

/-! ## Commands -/

namespace CommandLine

open Catalog

theorem code_failing (output : String) (failure : Failure) : (failing output failure).code ≠ 0 := by
  cases failure <;> exact Nat.noConfusion

/-- A batch ends well if every fixture succeeded and that can be summed up. -/
theorem code_concluding {done : String} {result : Attempt (List Outcome)} :
    (concluding done result).code = 0 ↔ ∃ (reports : List Fixture.Report) (text : String),
      result = .ok (reports.map .succeeded) ∧
        Report.summary (reports.map .succeeded) done = .ok text := by
  cases result with
  | error failure =>
    refine iff_of_false (code_failing "" failure) ?_
    rintro ⟨reports, text, h, -⟩
    cases h
  | ok outcomes =>
    cases hsummary : Report.summary outcomes done with
    | error failure =>
      rw [concluding, hsummary]
      refine iff_of_false (code_failing "" failure) ?_
      rintro ⟨reports, text, h, htext⟩
      rw [← Except.ok.inj h, hsummary] at htext
      cases htext
    | ok text =>
      rw [concluding, hsummary, printed]
      split
      · rename_i hfailed
        refine iff_of_false (code_failing _ _) ?_
        rintro ⟨reports, text', h, -⟩
        have hzero := Report.failureCount_eq_zero_iff.2 ⟨reports, Except.ok.inj h⟩
        omega
      · rename_i hfailed
        refine iff_of_true rfl ?_
        have hzero : Report.failureCount outcomes = 0 := by omega
        obtain ⟨reports, rfl⟩ := Report.failureCount_eq_zero_iff.1 hzero
        exact ⟨reports, text, rfl, hsummary⟩

/-- A command that does something with all fixtures that are selected. -/
def performing (done : String) (deed : Store → Planned → Prepared → Work Fixture.Report)
    (settings : List Setting) : Action Ending := do
  return concluding done (← (batch (fun source s policy planned =>
    runAll source policy (deed s) none planned) settings).run)

/-- The catalog is loaded, every name that is selected is planned, and no fixture fails. -/
def AllSucceed (deed : Store → Planned → Prepared → Work Fixture.Report) (settings : List Setting)
    (d d' : Disk) : Prop :=
  ∃ (c : Catalog) (d₁ : Disk) (planned : List Planned) (reports : List Fixture.Report),
    Ends Happens (catalog settings).run d (.ok c) d₁ ∧
    (∀ name ∈ fixtures settings, name ∈ c.plan.map (·.name)) ∧
    select c.plan (fixtures settings) = .ok planned ∧
    Ends Happens (runAll c.source (policy settings) (deed c.store) none planned).run d₁
      (.ok (reports.map .succeeded)) d'

theorem ends_performing_iff {done : String}
    {deed : Store → Planned → Prepared → Work Fixture.Report} (hdeed : ∀ s, IsDeed (deed s))
    (settings : List Setting) (d d' : Disk) :
    (∃ ending, Ends Happens (performing done deed settings) d ending d' ∧ ending.code = 0) ↔
      AllSucceed deed settings d d' := by
  constructor
  · rintro ⟨ending, hends, hcode⟩
    obtain ⟨result, d₁, hbatch, hdone⟩ := ends_bind.1 hends
    obtain ⟨rfl, rfl⟩ := ends_pure.1 hdone
    obtain ⟨reports, text, rfl, -⟩ := code_concluding.1 hcode
    obtain ⟨c, d₁, hcatalog, hbatch⟩ := Work.ends_bind hbatch
    dsimp only at hbatch
    split at hbatch
    · cases (ends_pure.1 hbatch).1
    · rename_i planned hselect
      exact ⟨c, d₁, planned, reports, hcatalog, (select_eq_ok_iff.1 hselect).1, hselect, hbatch⟩
  · rintro ⟨c, d₁, planned, reports, hcatalog, -, hselect, hrun⟩
    have hnames (report : Fixture.Report) (hreport : report ∈ reports) :
        report.name.utf8ByteSize ≤ Report.widestColumn := by
      obtain ⟨p, -, ready, d₂, d₃, hends⟩ :=
        exists_ends_of_runAll hrun (List.mem_map_of_mem hreport)
      exact (hdeed c.store).size_le hends
    obtain ⟨text, htext⟩ := Report.summary_eq_ok done hnames
    refine ⟨_, ends_bind.2 ⟨_, _, ?_, ends_pure.2 ⟨rfl, rfl⟩⟩,
      code_concluding.2 ⟨reports, text, rfl, htext⟩⟩
    refine ends_bind.2 ⟨_, _, hcatalog, ?_⟩
    dsimp only [ExceptT.bindCont]
    rw [hselect]
    exact hrun

end CommandLine

/-! ## Batches and the plain loop -/

namespace Catalog

variable {I : Disk → Prop} {source : String → Work Table} {tables : String → Attempt Table}
variable {act : Planned → Prepared → Work Fixture.Report} {planned : List Planned} {c : Catalog}

/-- What a batch does with fixtures, beside what the plain loop does with them.

* On a system that replies, it ends, and it does the same whether or not it takes notes.
* If it ends well then the plain loop has come to as many results, all of which the batch may go on
  after: there is an outcome for each fixture in order, under its name, that shows the same report
  or the same text.
* It does end well if the plain loop comes to such results.
* Else it ends with the failure of the first fixture that it may not go on after, or of its dataset,
  as that fixture leaves the disk.
* It acts once on each fixture that it comes to and whose dataset can be prepared, and loads no
  dataset twice. -/
structure RunsAsOneByOne (R : System) (source : String → Work Table)
    (tables : String → Attempt Table) (act : Planned → Prepared → Work Fixture.Report)
    (policy : Policy) (datasets : List Dataset) (planned : List Planned) (d : Disk) : Prop where
  ends : (∀ r d, ∃ reply d', R r d reply d') → ∃ result d',
    Ends R (runAll source policy act none planned).run d result d'
  notes : ∀ result d', Ends R (runAll source policy act none planned).run d result d' ↔
    ∃ events, Notes R (noted source policy act none planned) d [] result d' events
  told : ∀ outcomes d' events,
    Notes R (noted source policy act none planned) d [] (.ok outcomes) d' events →
      ∃ results, OneByOne R (alone source act) planned d results d' ∧
        (∀ result ∈ results, policy.Passes result) ∧
        outcomes.map Outcome.name = planned.map (·.name) ∧
        outcomes.map Outcome.shown = results.map shown ∧
        events = trace tables none planned
  reached : ∀ results d', OneByOne R (alone source act) planned d results d' →
    (∀ result ∈ results, policy.Passes result) → ∃ outcomes,
      Ends R (runAll source policy act none planned).run d (.ok outcomes) d'
  fails : ∀ failure d' events,
    Notes R (noted source policy act none planned) d [] (.error failure) d' events ↔
      ∃ done p cause, StopsAt R (alone source act) policy planned d done p cause d' ∧
        failure = blame p (ready tables p.dataset) cause ∧
        events = trace tables none (done ++ [p])
  acts : ∀ touched, (trace tables none touched).filterMap Event.acted?
    = (touched.filter fun p => (ready tables p.dataset).isOk).map (·.name)
  loads : ∀ touched, touched.Sublist planned →
    ((trace tables none touched).filterMap Event.loaded?).Sublist (datasets.map (·.file))

/-- A program comes to an end on a system that replies. -/
theorem exists_ends {α : Type} (hreplies : ∀ r d, ∃ reply d', R r d reply d') (program : Action α)
    (d : Disk) : ∃ result d', Ends R program d result d' := by
  induction program generalizing d with
  | done value => exact ⟨value, d, .done⟩
  | ask r next ih =>
    obtain ⟨reply, d₁, hreply⟩ := hreplies r d
    obtain ⟨result, d', hends⟩ := ih reply d₁
    exact ⟨result, d', .after hreply hends⟩

theorem Undisturbed.runsAsOneByOne (h : Undisturbed R I source tables act planned)
    (hnamed : Named R act) (hplanned : planned.Sublist c.plan) (policy : Policy) (hd : I d) :
    RunsAsOneByOne R source tables act policy c.datasets planned d where
  ends hreplies := exists_ends hreplies _ d
  notes result d' := forgets_noted.ends_iff []
  told outcomes d' events hnotes := by
    obtain ⟨results, hloop, hall, hnames, hshown, rfl⟩ :=
      oneByOne_of_notes h hnamed hd (fun _ _ h => by cases h) hnotes
    exact ⟨results, hloop, hall, hnames, hshown, rfl⟩
  reached results d' hloop hall := by
    have hkept : Kept tables none planned := fun _ _ h => by cases h
    obtain ⟨outcomes, events, hnotes⟩ : ∃ outcomes events,
        Notes R (noted source policy act none planned) d [] (.ok outcomes) d' events :=
      notes_of_oneByOne h hnamed hd hkept hloop hall
    exact ⟨outcomes, (forgets_noted.ends_iff []).2 ⟨events, hnotes⟩⟩
  fails failure d' events := notes_error_iff h hnamed hd fun _ _ h => by cases h
  acts touched := acted_trace none touched
  loads touched htouched := loaded_trace_sublist (htouched.trans hplanned)

/-- A batch of builds or verifications of what is selected from a plan runs as one by one, from
wherever the source answers the same all along.  And a command that runs one ends well exactly if
its catalog is loaded, every selected name is planned and no fixture fails. -/
theorem batches_run_one_by_one {selection : List String}
    (hselect : select c.plan selection = .ok planned)
    (hact : ∃ s, act = Planned.build s ∨ act = Planned.verify s)
    (hsteady : Steady R I source tables)
    (hkeeps : ∀ p ∈ planned, ∀ ready d result d',
      I d → Ends R (act p ready).run d result d' → I d')
    (policy : Policy) (hd : I d) :
    RunsAsOneByOne R source tables act policy c.datasets planned d ∧
    ∀ settings d d',
      ((∃ ending, Ends Happens (CommandLine.perform ⟨.build, settings⟩) d ending d' ∧
        ending.code = 0) ↔ CommandLine.AllSucceed Planned.build settings d d') ∧
      ((∃ ending, Ends Happens (CommandLine.perform ⟨.verify, settings⟩) d ending d' ∧
        ending.code = 0) ↔ CommandLine.AllSucceed Planned.verify settings d d') := by
  have hsublist := select_sublist hselect
  have htogether (p : Planned) (hp : p ∈ planned) (q : Planned) (hq : q ∈ planned)
      (hposition : p.position = q.position) : p.dataset = q.dataset := by
    have hdataset := (mem_plan (hsublist.subset hp)).1
    rw [hposition, (mem_plan (hsublist.subset hq)).1] at hdataset
    exact (Option.some.inj hdataset).symm
  have hundisturbed : Undisturbed R I source tables act planned := ⟨hsteady, hkeeps, htogether⟩
  refine ⟨hundisturbed.runsAsOneByOne (IsDeed.named hact) hsublist policy hd, ?_⟩
  intro settings d d'
  exact ⟨CommandLine.ends_performing_iff (fun s => ⟨s, .inl rfl⟩) settings d d',
    CommandLine.ends_performing_iff (fun s => ⟨s, .inr rfl⟩) settings d d'⟩

/-- A source that has the same small table under every name. -/
theorem batches_run_one_by_one_once :
    let table := Table.ofBytes "x,y\n1.0,2.0\n".toUTF8.toList
    RunsAsOneByOne Happens (fun _ => Work.ofAttempt table) (fun _ => table)
      (Planned.build (wines "wine.csv").store) .keepGoing (wines "wine.csv").datasets
      (wines "wine.csv").plan (cellar "wine.csv") :=
  (batches_run_one_by_one (I := fun _ => True)
    (rfl : select (wines "wine.csv").plan [] = .ok (wines "wine.csv").plan) ⟨_, .inl rfl⟩
    (fun _ _ _ _ _ => ends_pure) (fun _ _ _ _ _ _ _ _ => trivial) .keepGoing trivial).1

/-- Two models of the one dataset of `wines`, the first with more weights than fit into memory. -/
def vats : Catalog :=
  { wines "wine.csv" with datasets := (wines "wine.csv").datasets.map fun d =>
      { d with choices := [networkChoice [1152921504606846976], linearChoice] } }

/-- A batch that keeps going has no outcome for any of its fixtures if one of them crashes. -/
theorem crash_ends_batch : ∃ (c : Catalog) (d : Disk) (planned : List Planned),
    c.validate = .ok () ∧ select c.plan [] = .ok planned ∧ planned.length = 2 ∧
    (d.run (buildAll c.source c.store .keepGoing planned).run).1 = .error .crash := by
  refine ⟨vats, cellar "wine.csv", vats.plan, rfl, rfl, rfl, ?_⟩
  decide +kernel

end Catalog
end Exemplar
