/-
What a run leaves behind.

A run that fails before it puts anything in place leaves no trace but the two
directories of the store, if they were missing.  A run that succeeds leaves one
record for each row that the model was trained on, and as the artifact the
directory that its export has answered.
-/
import Exemplar.Proofs.Closing
import Exemplar.Proofs.Shapes
import Exemplar.Proofs.Sheets

namespace Exemplar

open Exemplar.Action Disk Store

namespace Fixture

variable {M : Type} [Estimator M] {R : System} {s : Store} {home : Key} {d d' d'' : Disk}
variable {model : M} {inputs : InputPair} {spec : Spec} {failure : Failure} {report : Report}

/-! ## Failures before anything is put in place -/

/-- A run up to where an export and its predictions are put in place, which is left open. -/
def buildWith (persist : M → StagedSheet → Path → Work Report) (model : M) (inputs : InputPair)
    (spec : Spec) (s : Store) : Work Report := do
  let trained ← Work.within (.training spec.name) (Estimator.fit model inputs.training spec.steps)
  let sheet ← Work.ofAttempt (score trained inputs.training spec)
  let staged ← s.stage spec.name sheet
  Work.onFailure (do
    let scratch ← s.newScratch spec.name
    Work.andThen (do
      let directory ← exportInto trained inputs.serving spec.name scratch
      let _ ← s.discardSheet spec.name
      persist trained staged directory) (Store.removeScratch scratch)) staged.discard

theorem build_eq_buildWith (model : M) (inputs : InputPair) (spec : Spec) (s : Store) :
    build model inputs spec s = buildWith
      (fun trained staged directory => persist trained inputs s spec staged directory)
      model inputs spec s := rfl

/-- Putting nothing in place, which succeeds. -/
def quiet (inputs : InputPair) (spec : Spec) (s : Store) (trained : M) (_ : StagedSheet)
    (_ : Path) : Work Report := pure (reportOf trained inputs spec s)

/-- A failure before anything is put in place: one that does not depend on how that is done. -/
def FailsEarly (R : System) (model : M) (inputs : InputPair) (spec : Spec) (s : Store) (d : Disk)
    (failure : Failure) (d' : Disk) : Prop :=
  ∀ persist, Ends R (buildWith persist model inputs spec s).run d (.error failure) d'

/-- The failures before anything is put in place are those that are left if nothing is. -/
theorem failsEarly_iff : FailsEarly R model inputs spec s d failure d' ↔
    Ends R (buildWith (quiet inputs spec s) model inputs spec s).run d (.error failure) d' := by
  refine ⟨fun h => h _, fun h persist => ?_⟩
  have hfails : Work.FailsAs R (buildWith (quiet inputs spec s) model inputs spec s)
      (buildWith persist model inputs spec s) :=
    Work.failsAs_bind fun _ => Work.failsAs_bind fun _ => Work.failsAs_bind fun _ =>
      Work.failsAs_onFailure (Work.failsAs_bind fun _ => Work.failsAs_andThen
        (Work.failsAs_bind fun _ => Work.failsAs_bind fun _ => Work.failsAs_pure _ _))
  exact hfails d failure d' h

theorem holds_exportInto_contained (hM : Estimator.Contained M) (trained : M)
    (serving : ServingInputs) (name : String) {scratch : Path} (hd : d.Sound)
    (hvacant : d.Vacant scratch) :
    Holds Happens (fun _ => True) (exportInto trained serving name scratch).run d fun _ d' =>
      d.Confined (Inside (scratch.key d.workingDirectory)) Nowhere d' := by
  refine Work.holds_bind (Work.holds_within
    ((hM.holds_exportTo trained serving scratch d hd hvacant).mono (fun _ _ => trivial) ?_))
  rintro (failure | directory) d₁ h₁
  · exact h₁
  · exact (holds_exportCheck directory scratch name trivial).mono (fun _ h => h)
      fun _ _ h => h.1 ▸ h₁

/-- Nothing is left of what was done in a scratch directory. -/
theorem holds_viaScratch (hR : Cleans R s home spec.name) (hM : Estimator.Contained M)
    (hname : Path.IsPlain spec.name) (trained : M) (hd : d.Sound)
    (hhome : d.workingDirectory = home) :
    Holds R (fun _ => True) (do
      let scratch ← s.newScratch spec.name
      Work.andThen (do
        let _ ← exportInto trained inputs.serving spec.name scratch
        let _ ← s.discardSheet spec.name
        pure (reportOf trained inputs spec s)) (Store.removeScratch scratch) : Work Report).run d
      fun result d' => ∀ failure, result = .error failure →
        d.Confined Nowhere (s.OnTheWay home) d' := by
  refine Work.holds_bind (((holds_newScratch_alone hname hd hhome).restrict hR.happens).mono
    (fun _ _ => trivial) ?_)
  rintro (failure | scratch) d₁ ⟨hfailed, hnew⟩
  · exact fun _ _ => (hfailed failure rfl).mono (fun _ h => h) fun _ hk => .inl (.inr hk)
  replace hnew := hnew scratch rfl
  have hhome₁ : d₁.workingDirectory = home := hnew.confined.home.trans hhome
  refine Work.holds_andThen (Work.holds_bind
    (((holds_exportInto_contained hM trained inputs.serving spec.name hnew.confined.sound
      hnew.vacant).restrict hR.happens).mono (fun _ _ => trivial) ?_))
  rw [hhome₁]
  rintro (failure | directory) d₂ h₂
  · exact (holds_removeScratch_clean hR hd hhome hnew h₂).mono (fun _ h => h) fun _ _ h _ _ => h
  refine Work.holds_bind (((holds_discardSheet_kept s spec.name d₂).restrict hR.happens).mono
    (fun _ _ => trivial) ?_)
  rintro (failure | found) d₃ hkept
  · rw [hkept failure rfl]
    exact (holds_removeScratch_clean hR hd hhome hnew h₂).mono (fun _ h => h) fun _ _ h _ _ => h
  · exact Work.holds_pure ((holds_ends _ d₃).mono (fun _ h => h) fun _ _ _ _ herror => by
      cases herror)

/-- Where nothing can fail after the checks, a failure leaves no trace. -/
theorem holds_buildWith (hR : Cleans R s home spec.name) (hM : Estimator.Contained M)
    (hname : Path.IsPlain spec.name)
    (hapart : ∀ k, s.OnTheWay home k → ¬ s.Owns home .staged spec.name k) (hd : d.Sound)
    (hhome : d.workingDirectory = home) :
    Holds R (fun _ => True) (buildWith (quiet inputs spec s) model inputs spec s).run
      d fun result d' => ∀ failure, result = .error failure →
        s.Undisturbed home spec.name Nowhere d d' := by
  refine Work.holds_bind (Work.holds_within
    (((hM.fit_still model inputs.training spec.steps d hd).restrict hR.happens).mono
      (fun _ _ => trivial) ?_))
  rintro (failure | trained) d₁ rfl
  · exact fun _ _ => .refl hd
  refine Work.holds_bind (Work.holds_ofAttempt ?_)
  cases score trained inputs.training spec with
  | error failure => exact fun _ _ => .refl hd
  | ok sheet =>
    refine Work.holds_bind ((holds_stage_clean hR hname hapart hd hhome).mono (fun _ h => h) ?_)
    rintro (failure | staged) d₂ ⟨hfailed, hheld⟩
    · exact fun _ _ => hfailed failure rfl
    replace hheld := hheld staged rfl
    refine Work.holds_onFailure ((holds_viaScratch hR hM hname trained hheld.undisturbed.sound
      (hheld.undisturbed.home_eq.trans hhome)).mono (fun _ h => h) ?_)
    rintro (failure | report) d₃ hgrown
    · exact (holds_discard_clean staged hR hapart hhome
        (hheld.grow hapart (hgrown failure rfl))).mono (fun _ h => h) fun _ _ h _ _ => h
    · exact fun _ herror => by cases herror

/-- A failure before anything is put in place is one of the run itself. -/
theorem FailsEarly.ends (h : FailsEarly R model inputs spec s d failure d') :
    Ends R (build model inputs spec s).run d (.error failure) d' := by
  rw [build_eq_buildWith]
  exact h _

theorem FailsEarly.undisturbed (h : FailsEarly R model inputs spec s d failure d')
    (hR : Cleans R s d.workingDirectory spec.name) (hM : Estimator.Contained M)
    (hname : Path.IsPlain spec.name)
    (hapart : ∀ k, s.OnTheWay d.workingDirectory k →
      ¬ s.Owns d.workingDirectory .staged spec.name k)
    (hd : d.Sound) : s.Undisturbed d.workingDirectory spec.name Nowhere d d' :=
  (holds_buildWith hR hM hname hapart hd rfl).ends (h _) failure rfl

/-! ## Success -/

/-- The number of probabilities beside each prediction. -/
def Output.classCount : Output → Nat
  | .pointOnly => 0
  | .withProbabilities classCount => classCount

/-- What is recorded of a row: its prediction, and the probabilities of the classes if they are
asked for. -/
structure Records (trained : M) (training : TrainingInputs) (output : Output) (stored : Csv.Sheet) :
    Prop where
  count : stored.rows.length = training.rowCount
  width : ∀ row ∈ stored.rows, row.length = 1 + output.classCount
  rows : ∃ targets, Estimator.predict trained training = .ok targets ∧
    targets.length = training.rowCount ∧ match output with
    | .pointOnly => stored.rows = targets.map fun target => [target.text]
    | .withProbabilities _ => ∃ probabilities,
      Estimator.probabilities trained training = .ok probabilities ∧
      probabilities.length = training.rowCount ∧
      stored.rows = List.zipWith (fun target row => target.text :: row.map Decimal.plain.text)
        targets probabilities

theorem width_written {sheet : PredictionSheet} : ∀ row ∈ sheet.written.rows,
    row.length = 1 + sheet.classCount := by
  intro row hrow
  obtain ⟨entry, hentry, rfl⟩ := List.mem_map.1 hrow
  rw [PredictionSheet.cells, List.length_cons, List.length_map, sheet.width_eq entry hentry,
    Nat.add_comm]

theorem withProbabilities_ok {targets : List Value} {probabilities : List (List Float)}
    {classCount : Nat} {sheet : PredictionSheet}
    (h : PredictionSheet.withProbabilities targets probabilities classCount = .ok sheet) :
    probabilities.length = targets.length ∧ sheet.classCount = classCount ∧
      sheet.rows = targets.zip probabilities := by
  rw [PredictionSheet.withProbabilities] at h
  split at h
  · cases h
  · rename_i hlength
    split at h
    · cases h
    · cases h
      exact ⟨Decidable.not_not.1 hlength, rfl, rfl⟩

/-- A sheet of predictions records what was asked for. -/
theorem records_of_score {trained : M} {training : TrainingInputs} {sheet : PredictionSheet}
    (h : score trained training spec = .ok sheet) :
    Records trained training spec.output sheet.written := by
  obtain ⟨targets, hpredict, h⟩ := Attempt.bind_eq_ok h
  replace hpredict := Attempt.within_eq_ok hpredict
  dsimp only at h
  split at h
  · cases h
  rename_i hlength
  replace hlength := Decidable.not_not.1 hlength
  rw [sheetOf] at h
  cases houtput : spec.output with
  | pointOnly =>
    rw [houtput] at h
    obtain rfl := Except.ok.inj h
    refine ⟨?_, width_written, targets, hpredict, hlength, ?_⟩
    · simpa [PredictionSheet.written, PredictionSheet.records, PredictionSheet.pointOnly]
    · simp [PredictionSheet.written, PredictionSheet.records, PredictionSheet.pointOnly,
        PredictionSheet.cells]
  | withProbabilities classCount =>
    rw [houtput] at h
    obtain ⟨probabilities, hprobabilities, h⟩ := Attempt.bind_eq_ok h
    obtain ⟨hrows, rfl, hzip⟩ := withProbabilities_ok (Attempt.ofData_eq_ok h)
    refine ⟨?_, width_written, targets, hpredict, hlength, probabilities,
      Attempt.within_eq_ok hprobabilities, hrows.trans hlength, ?_⟩
    · simp [PredictionSheet.written, PredictionSheet.records, hzip, hrows, hlength]
    · simp [PredictionSheet.written, PredictionSheet.records, hzip, PredictionSheet.cells,
        List.zip, List.map_zipWith]

/-- Predictions stand there that record what was asked for. -/
def SheetStands (s : Store) (home : Key) (name : String) (training : TrainingInputs)
    (output : Output) (trained : M) (d : Disk) : Prop :=
  ∃ bytes stored, d.get? (s.sheetKey home name) = some (.file bytes) ∧
    Csv.read bytes.toList = .ok stored ∧ Records trained training output stored

/-- A run that fails before it puts anything in place leaves no trace but the directories of the
store, if removing hidden entries meets no fault.  A run that succeeds leaves one record for each
row, made of its prediction and its probabilities.  If the directory of the artifacts is given by an
absolute path, the artifact is the directory that the export has answered, as it stood there then,
wherever that is, unless it is in a leftover that the run sweeps away.  The estimator may answer
whatever it likes.  The name is that of a file, and neither directory is reached through an entry of
the fixture. -/
theorem build_leaves_nothing_or_all (hR : ∀ r d reply d', R r d reply d' → Happens r d reply d')
    (hM : Estimator.Contained M) (hname : Path.IsPlain spec.name)
    (hapart : s.Apart d.workingDirectory spec.name) (hd : d.Sound) :
    (∀ failure d', FailsEarly R model inputs spec s d failure d' →
      Ends R (build model inputs spec s).run d (.error failure) d' ∧
        (Cleans R s d.workingDirectory spec.name →
          s.Undisturbed d.workingDirectory spec.name Nowhere d d')) ∧
    ∀ report d', Ends R (build model inputs spec s).run d (.ok report) d' →
      ∃ trained scratch directory d₁,
        Exporting R model inputs spec s d trained scratch directory d₁ ∧
        SheetStands s d.workingDirectory spec.name inputs.training spec.output trained d' ∧
        (s.artifactDirectory.isAbsolute = true →
          ¬ InLeftover s d.workingDirectory spec.name scratch directory →
            d'.tree (s.artifactKey d.workingDirectory spec.name)
              = d₁.tree (directory.key d.workingDirectory)) := by
  constructor
  · intro failure d' h
    exact ⟨h.ends, fun hclean =>
      h.undisturbed hclean hM hname (fun k hk => hapart .staged k hk) hd⟩
  · intro report d' hends
    obtain ⟨trained, sheet, middle, scratch, directory, d₁, hscore, hexporting, hclosing⟩ :=
      closing_of_ends hR hM hname hapart hd hends
    obtain ⟨-, -, -, -, -, hsheet⟩ := hclosing.installs hR hname hapart
    refine ⟨trained, scratch, directory, d₁, hexporting, ⟨sheet.written.bytes, sheet.written,
      hsheet, sheet.read_written, records_of_score hscore⟩, fun habsolute hleft => ?_⟩
    exact hclosing.tree_eq hR ⟨hname, hapart, habsolute⟩ hexporting.accepted hleft

/-- A disk on which a directory stands where the predictions of a fixture belong. -/
def obstructed : Disk := (({} : Disk).run (Files.ensureDirectory ⟨"/c/A.csv"⟩)).2

theorem sound_obstructed : obstructed.Sound := sound_ensureDirectory sound_empty _

theorem apart_plainStore : plainStore.Apart [] "A" := by decide

/-- What `quiet` leaves of a run of a job. -/
def Job.early (job : Job Model) (s : Store) : Action (Attempt Report) :=
  (buildWith (quiet job.inputs job.spec s) job.model job.inputs job.spec s).run

/-- A run that fails when nothing was put in place yet. -/
theorem failsEarly_of_ends {job : Job Model} {result : Attempt Report}
    (hends : Ends R (job.early s) d result d') (hfails : result.toOption.isNone = true) :
    ∃ failure, FailsEarly R job.model job.inputs job.spec s d failure d' := by
  cases result with
  | ok report => cases hfails
  | error failure => exact ⟨failure, failsEarly_iff.2 hends⟩

/-- A run that succeeds. -/
theorem ends_ok_of_ends {program : Work Report} {result : Attempt Report}
    (hends : Ends R program.run d result d') (hok : result.toOption.isSome = true) :
    ∃ report, Ends R program.run d (.ok report) d' := by
  cases result with
  | error failure => cases hok
  | ok report => exact ⟨report, hends⟩

/-- An estimator that predicts zeros, writes nothing, and answers where a path leads from the
directory that an export is given. -/
structure Stray where
  way : Path

instance : Estimator Stray where
  name _ := "stray"
  fit model _ _ := pure model
  predict _ inputs := .ok (List.replicate inputs.rowCount (.int 0))
  probabilities _ _ := .ok []
  exportTo model base _ := pure (base.join model.way)

theorem Stray.contained : Estimator.Contained Stray where
  fit_still _ _ _ _ _ := rfl
  holds_exportTo _ _ _ _ hd _ := .refl hd

/-- The directory that such an estimator answers in a run. -/
theorem Exporting.directory_eq {stray trained : Stray} {scratch directory : Path}
    (h : Exporting R stray inputs spec s d trained scratch directory d') :
    directory = scratch.join stray.way := by
  obtain ⟨htrained, -⟩ := ends_pure.1 h.trains
  obtain ⟨_, _, _, _, -, -, -, hexport⟩ := h.exports
  obtain ⟨hdirectory, -⟩ := ends_pure.1 hexport
  cases htrained
  cases hdirectory
  rfl

/-- A disk on which the artifact of another fixture stands. -/
def inhabited : Disk := (({} : Disk).run (Files.ensureDirectory ⟨"/m/B/1"⟩)).2

/-- A run of the smallest job with such an estimator in the place of the model. -/
def strayBuild (way : String) : Work Report :=
  build (Stray.mk ⟨way⟩) (Job.smallest "A").inputs (Job.smallest "A").spec plainStore

theorem neighbour_taken :
    (strayBuild "../B").run.isFaultless inhabited = true ∧
      (inhabited.run (strayBuild "../B").run).1.toOption.isSome = true ∧
      (inhabited.get? (plainStore.artifactKey [] "B")).isSome = true ∧
      ((inhabited.run (strayBuild "../B").run).2.get? (plainStore.artifactKey [] "B")).isNone
        = true := by
  decide +kernel

/-- A run that cannot discard the old predictions, one that succeeds, and one that succeeds with
the artifact of another fixture. -/
theorem build_leaves_nothing_or_all_once :
    (∃ failure d', FailsEarly Faultless (Job.smallest "A").model (Job.smallest "A").inputs
        (Job.smallest "A").spec plainStore obstructed failure d' ∧
      plainStore.Undisturbed [] "A" Nowhere obstructed d') ∧
    (∃ report d', Ends Faultless (build (Job.smallest "A").model (Job.smallest "A").inputs
        (Job.smallest "A").spec plainStore).run {} (.ok report) d' ∧
      ∃ trained scratch directory d₁, Exporting Faultless (Job.smallest "A").model
        (Job.smallest "A").inputs (Job.smallest "A").spec plainStore {} trained scratch directory
          d₁ ∧
        SheetStands plainStore [] "A" (Job.smallest "A").inputs.training .pointOnly trained d' ∧
        d'.tree (plainStore.artifactKey [] "A") = d₁.tree (directory.key [])) ∧
    ∃ report d', Ends Faultless (strayBuild "../B").run inhabited (.ok report) d' ∧
      ∃ trained scratch d₁, Exporting Faultless (Stray.mk ⟨"../B"⟩) (Job.smallest "A").inputs
        (Job.smallest "A").spec plainStore inhabited trained scratch (scratch.join ⟨"../B"⟩) d₁ ∧
        d'.tree (plainStore.artifactKey [] "A") = d₁.tree (plainStore.artifactKey [] "B") := by
  have happens (r : Request) (d reply d') (h : Faultless r d reply d') : Happens r d reply d' :=
    h.happens
  refine ⟨?_, ?_, ?_⟩
  · obtain ⟨hfaultless, hnone⟩ :
        ((Job.smallest "A").early plainStore).isFaultless obstructed = true ∧
          (obstructed.run ((Job.smallest "A").early plainStore)).1.toOption.isNone = true := by
      decide +kernel
    obtain ⟨failure, hfails⟩ := failsEarly_of_ends (ends_faultless hfaultless) hnone
    obtain ⟨-, hundisturbed⟩ := (build_leaves_nothing_or_all happens Model.lawful.contained
      (by decide) apart_plainStore sound_obstructed).1 _ _ hfails
    exact ⟨failure, _, hfails,
      hundisturbed ⟨happens, fun _ k _ _ => Files.clears_faultless k⟩⟩
  · obtain ⟨hfaultless, hok⟩ :
        let program := (build (Job.smallest "A").model (Job.smallest "A").inputs
          (Job.smallest "A").spec plainStore).run
        program.isFaultless {} = true ∧ (({} : Disk).run program).1.toOption.isSome = true := by
      decide +kernel
    obtain ⟨report, hends⟩ := ends_ok_of_ends (ends_faultless hfaultless) hok
    obtain ⟨trained, scratch, directory, d₁, hexporting, hsheet, hartifact⟩ :=
      (build_leaves_nothing_or_all happens Model.lawful.contained (by decide) apart_plainStore
        sound_empty).2 report _ hends
    refine ⟨report, _, hends, trained, scratch, directory, d₁, hexporting, hsheet,
      hartifact rfl fun hleft => hleft.2 ?_⟩
    exact hexporting.inside happens (by decide) sound_empty
      (hexporting.no_parent happens (by decide) sound_empty Model.lawful.toExports)
  · obtain ⟨hfaultless, hok, -⟩ := neighbour_taken
    have hsound : inhabited.Sound := sound_ensureDirectory sound_empty _
    obtain ⟨report, hends⟩ := ends_ok_of_ends (ends_faultless hfaultless) hok
    obtain ⟨trained, scratch, directory, d₁, hexporting, -, hartifact⟩ :=
      (build_leaves_nothing_or_all happens Stray.contained (by decide) apart_plainStore
        hsound).2 report _ hends
    obtain rfl := hexporting.directory_eq
    obtain ⟨habsolute, middle, hscratch⟩ := hexporting.scratch_key happens (by decide) hsound
    have hkey : (scratch.join ⟨"../B"⟩).key inhabited.workingDirectory
        = plainStore.artifactKey [] "B" := by
      rw [Path.key_join habsolute (by decide), hscratch]
      rfl
    refine ⟨report, _, hends, trained, scratch, d₁, hexporting, ?_⟩
    rw [← hkey]
    refine hartifact rfl fun hleft => absurd hleft.1 ?_
    rw [hkey]
    decide +kernel

/-- An artifact of another fixture in a directory with a name like that of staged predictions, and
a directory where the predictions belong. -/
def nestedBefore : Disk :=
  (((Job.smallest "B").finish answer nestedStore {}).run (Files.ensureDirectory ⟨"/c/A.csv"⟩)).2

/-- A disk from which no file can be removed. -/
def keepingFiles : (r : Request) → Disk → r.Reply × Disk
  | .removeFile _, d => (.error .busy, d)
  | r, d => d.answer r

theorem happens_keepingFiles (r : Request) (d : Disk) :
    Happens r d (keepingFiles r d).1 (keepingFiles r d).2 := by
  cases r with
  | removeFile path => exact .inr ⟨rfl, .busy, by simp, rfl⟩
  | _ => exact happens_answer _ d

theorem early_failures_leave :
    (((Job.smallest "A").early nestedStore).isFaultless nestedBefore = true ∧
      (nestedBefore.run ((Job.smallest "A").early nestedStore)).1.toOption.isNone = true ∧
      (nestedBefore.get? (nestedStore.artifactKey [] "B")).isSome = true ∧
      ((nestedBefore.run ((Job.smallest "A").early nestedStore)).2.get?
        (nestedStore.artifactKey [] "B")).isNone = true) ∧
    let result := ((Job.smallest "A").early plainStore).run keepingFiles {}
    result.1.toOption.isNone = true ∧
      ∃ entry ∈ result.2.entries, plainStore.Owns [] .staged "A" entry.1 := by
  decide +kernel

/-- Directories from which a name that leads up leads to the same place. -/
def climbingStore : Store := ⟨⟨"/i/z"⟩, ⟨"/m"⟩⟩

def climbingBefore : Disk :=
  ((({} : Disk).run (Files.ensureDirectory ⟨"/i/z/.../i"⟩)).2.run
    (Files.ensureDirectory ⟨"/m/.../i"⟩)).2

theorem successes_leave :
    let climbing := (build (Job.smallest "../i/i").model (Job.smallest "../i/i").inputs
      (Job.smallest "../i/i").spec climbingStore).run
    let cut := ((build (Job.smallest "A").model (Job.smallest "A").inputs (Job.smallest "A").spec
      relativeStore).run.run keepingDirectories {}).1
    (climbing.isFaultless climbingBefore = true ∧
      (climbingBefore.run climbing).1.toOption.isSome = true ∧
      ((climbingBefore.run climbing).2.tree ["i", "i"] ["i.csv"]).isSome = true) ∧
    cut.toOption.isSome = true := by
  decide +kernel

/-- A disk on which an artifact stands, with what is left of two earlier ones. -/
def leftBehind : Disk :=
  ((((({} : Disk).run (Files.ensureDirectory ⟨"/m/A/1"⟩)).2.run
    (Files.ensureDirectory ⟨"/m/.A.replaced-0/2"⟩)).2.run
    (Files.ensureDirectory ⟨"/m/.A.old/1"⟩)).2.run (Files.ensureDirectory ⟨"/m/.A.old/2"⟩)).2

theorem sound_leftBehind : leftBehind.Sound :=
  sound_ensureDirectory (sound_ensureDirectory (sound_ensureDirectory (sound_ensureDirectory
    sound_empty _) _) _) _

/-- A disk from which one directory cannot be removed. -/
def keepingOne (kept : Path) : (r : Request) → Disk → r.Reply × Disk
  | .removeDirectory path, d =>
    if path = kept then (.error .busy, d) else d.answer (.removeDirectory path)
  | r, d => d.answer r

theorem happens_keepingOne (kept : Path) (r : Request) (d : Disk) :
    Happens r d (keepingOne kept r d).1 (keepingOne kept r d).2 := by
  cases r with
  | removeDirectory path =>
    by_cases hpath : path = kept
    · simp only [keepingOne, if_pos hpath]
      exact .inr ⟨rfl, .busy, by simp, rfl⟩
    · simp only [keepingOne, if_neg hpath]
      exact happens_answer _ d
  | _ => exact happens_answer _ d

theorem leftovers_lose :
    leftBehind.workingDirectory = [] ∧
    ((strayBuild "../.A.replaced-0").run.isFaultless leftBehind = true ∧
      (leftBehind.run (strayBuild "../.A.replaced-0").run).1.toOption.isSome = true ∧
      (leftBehind.get? ["m", ".A.replaced-0", "2"]).isSome = true ∧
      ((leftBehind.run (strayBuild "../.A.replaced-0").run).2.get?
        (plainStore.artifactKey [] "A" ++ ["2"])).isNone = true) ∧
    let result := (strayBuild "../.A.old").run.run (keepingOne ⟨"/m/.A.old/1"⟩) leftBehind
    result.1.toOption.isSome = true ∧
      (leftBehind.get? ["m", ".A.old", "2"]).isSome = true ∧
      (result.2.get? (plainStore.artifactKey [] "A" ++ ["2"])).isNone = true := by
  decide +kernel

/-- What was answered is not what is installed, if an entry of it is missing there: a leftover
stands as it was until it has been answered. -/
theorem leftover_not_installed (leftover : String) {way : String}
    (hR : ∀ r d reply d', R r d reply d' → Happens r d reply d') (hd : d.Sound)
    (hhome : d.workingDirectory = []) (hends : Ends R (strayBuild way).run d (.ok report) d')
    (hrelative : (Path.mk way).isAbsolute = false)
    (hway : (Path.mk way).segments = ["..", leftover]) (hplain : Path.IsPlain leftover)
    (hbefore : (d.get? ["m", leftover, "2"]).isSome = true)
    (hspared : ¬ plainStore.Owns [] .staged "A" ["m", leftover, "2"])
    (hafter : (d'.get? (plainStore.artifactKey [] "A" ++ ["2"])).isNone = true) :
    ∃ trained scratch directory d₁, Exporting R (Stray.mk ⟨way⟩) (Job.smallest "A").inputs
      (Job.smallest "A").spec plainStore d trained scratch directory d₁ ∧
      d'.tree (plainStore.artifactKey [] "A") ≠ d₁.tree (directory.key []) := by
  have hname : Path.IsPlain (Job.smallest "A").spec.name := by decide
  obtain ⟨trained, sheet, middle, scratch, directory, d₁, -, hexporting, -⟩ := closing_of_ends hR
    Stray.contained hname (hhome ▸ apart_plainStore) hd hends
  refine ⟨trained, scratch, directory, d₁, hexporting, fun heq => ?_⟩
  have hkey : directory.key [] = ["m", leftover] := by
    obtain ⟨habsolute, middle, hscratch⟩ := hexporting.scratch_key hR hname hd
    rw [hhome] at hscratch
    have hclimbs : Key.walk (scratch.key []) [".."] = ["m"] := congrArg (Key.walk · _) hscratch
    rw [hexporting.directory_eq, Path.key_join habsolute hrelative, hway, ← List.singleton_append,
      Key.walk_append, hclimbs, Key.walk_plain (by simpa using hplain), List.singleton_append]
  obtain ⟨entry, hentry⟩ := Option.isSome_iff_exists.1 hbefore
  have hkept := hexporting.kept hR hname hd Stray.contained (by rwa [hhome]) hentry
  have hsecond := congrFun heq ["2"]
  rw [tree, tree, hkey] at hsecond
  rw [hsecond, List.cons_append, List.cons_append, List.nil_append, hkept] at hafter
  cases hafter

/-- All restrictions are needed.  A run that fails early sweeps away the artifact of another
fixture, if it stands in a directory with a name like that of staged predictions.  If no file can be
removed, the staged predictions of such a run stay.  A run that succeeds has put the predictions
into the artifact, if the name leads up and down to it.  If the directory of the artifacts is given
from the working directory, a run can succeed with less than an export.  And if the directory that
is answered is a leftover of the fixture, it is swept away first: the earlier artifact is installed
again, if it was put aside under that name, and what is left of the leftover, if the sweep met a
fault.  Nor need what is installed have been written in the run: it can be the artifact of another
fixture, which then is gone. -/
theorem build_leaves_traces :
    (∃ d failure d', FailsEarly Faultless (Job.smallest "A").model (Job.smallest "A").inputs
        (Job.smallest "A").spec nestedStore d failure d' ∧
      (d.get? (nestedStore.artifactKey [] "B")).isSome = true ∧
      (d'.get? (nestedStore.artifactKey [] "B")).isNone = true) ∧
    (∃ failure d', FailsEarly Happens (Job.smallest "A").model (Job.smallest "A").inputs
        (Job.smallest "A").spec plainStore {} failure d' ∧
      ∃ entry ∈ d'.entries, plainStore.Owns [] .staged "A" entry.1) ∧
    (∃ d report d', Ends Faultless (build (Job.smallest "../i/i").model
        (Job.smallest "../i/i").inputs (Job.smallest "../i/i").spec climbingStore).run d
          (.ok report) d' ∧
      ∀ model serving, ¬ Model.IsExport model serving
        (d'.tree ((climbingStore.artifactPath "../i/i").key []))) ∧
    (∃ report d', Ends Happens (build (Job.smallest "A").model (Job.smallest "A").inputs
        (Job.smallest "A").spec relativeStore).run {} (.ok report) d' ∧
      ∀ model serving, ¬ Model.IsExport model serving
        (d'.tree (relativeStore.artifactKey [] "A"))) ∧
    (∃ d report d', Ends Faultless (strayBuild "../.A.replaced-0").run d (.ok report) d' ∧
      ∃ trained scratch directory d₁, Exporting Faultless (Stray.mk ⟨"../.A.replaced-0"⟩)
        (Job.smallest "A").inputs (Job.smallest "A").spec plainStore d trained scratch directory
          d₁ ∧
        d'.tree (plainStore.artifactKey [] "A") ≠ d₁.tree (directory.key [])) ∧
    (∃ d report d', Ends Happens (strayBuild "../.A.old").run d (.ok report) d' ∧
      ∃ trained scratch directory d₁, Exporting Happens (Stray.mk ⟨"../.A.old"⟩)
        (Job.smallest "A").inputs (Job.smallest "A").spec plainStore d trained scratch directory
          d₁ ∧
        d'.tree (plainStore.artifactKey [] "A") ≠ d₁.tree (directory.key [])) ∧
    ∃ d report d', Ends Faultless (strayBuild "../B").run d (.ok report) d' ∧
      (d.get? (plainStore.artifactKey [] "B")).isSome = true ∧
      (d'.get? (plainStore.artifactKey [] "B")).isNone = true := by
  refine ⟨?_, ?_, ?_, ?_, ?_, ?_, ?_⟩
  · obtain ⟨⟨hfaultless, hfails, hbefore, hafter⟩, -⟩ := early_failures_leave
    obtain ⟨failure, hearly⟩ := failsEarly_of_ends (ends_faultless hfaultless) hfails
    exact ⟨nestedBefore, failure, _, hearly, hbefore, hafter⟩
  · obtain ⟨-, hfails, hleft⟩ := early_failures_leave
    obtain ⟨failure, hearly⟩ := failsEarly_of_ends
      (ends_run happens_keepingFiles ((Job.smallest "A").early plainStore) {}) hfails
    exact ⟨failure, _, hearly, hleft⟩
  · obtain ⟨⟨hfaultless, hok, hsheet⟩, -⟩ := successes_leave
    obtain ⟨report, hends⟩ := ends_ok_of_ends (ends_faultless hfaultless) hok
    refine ⟨climbingBefore, report, _, hends, ?_⟩
    rintro model serving ⟨description, -, htree⟩
    have hkey : (climbingStore.artifactPath "../i/i").key [] = ["i", "i"] := rfl
    rw [hkey] at htree
    rw [htree] at hsheet
    exact absurd hsheet
      (by simp [Artifact.tree, Artifact.descriptionFile, Artifact.variablesFolder])
  · obtain ⟨report, hends⟩ := ends_ok_of_ends
      (ends_run happens_keepingDirectories (build (Job.smallest "A").model (Job.smallest "A").inputs
        (Job.smallest "A").spec relativeStore).run {}) successes_leave.2
    exact ⟨report, _, hends, fun model serving => not_isExport_of_none relative_incomplete.2⟩
  · obtain ⟨hhome, ⟨hfaultless, hok, hbefore, hafter⟩, -⟩ := leftovers_lose
    obtain ⟨report, hends⟩ := ends_ok_of_ends (ends_faultless hfaultless) hok
    exact ⟨leftBehind, report, _, hends, leftover_not_installed ".A.replaced-0"
      (fun r d reply d' h => h.happens) sound_leftBehind hhome hends (by decide) (by decide)
      (by decide) hbefore (by decide) hafter⟩
  · obtain ⟨hhome, -, hok, hbefore, hafter⟩ := leftovers_lose
    obtain ⟨report, hends⟩ := ends_ok_of_ends
      (ends_run (happens_keepingOne _) (strayBuild "../.A.old").run leftBehind) hok
    exact ⟨leftBehind, report, _, hends, leftover_not_installed ".A.old"
      (fun _ _ _ _ h => h) sound_leftBehind hhome hends (by decide) (by decide) (by decide) hbefore
      (by decide) hafter⟩
  · obtain ⟨hfaultless, hok, hbefore, hafter⟩ := neighbour_taken
    obtain ⟨report, hends⟩ := ends_ok_of_ends (ends_faultless hfaultless) hok
    exact ⟨inhabited, report, _, hends, hbefore, hafter⟩

end Fixture
end Exemplar
