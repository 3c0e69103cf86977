/-
What comes of a build where no fault is met.

Training and predicting ask for nothing.  Where they succeed, all that can still be refused is the
description of the model for the export, which asks for nothing either: both directories can be
made, what is prepared is new, and only a directory at the place of the predictions would be in the
way.  So what a build reports is foretold by what it is given, whatever else is on the disk.
-/
import Exemplar.Proofs.Outcomes
import Exemplar.Proofs.Shelves
import Exemplar.Proofs.Verifying

namespace Exemplar

open Exemplar.Action Disk Store

/-! ## Exports -/

section Export

variable {d : Disk} {base : Path} {name : String}

/-- Without faults a text is written in an open directory, and all other entries stay. -/
theorem Files.holds_writeText_faultless {text : String} (hd : d.Sound) (hname : Path.IsPlain name)
    (htrail : d.AreDirectories (base.trail d.workingDirectory))
    (hfree : d.get? (base.key d.workingDirectory ++ [name]) ≠ some .directory) :
    Holds Faultless (fun _ => True) (writeText (base.entry name) text) d fun result d' =>
      result = .ok () ∧ d.Confined (· = base.key d.workingDirectory ++ [name]) Nowhere d' := by
  refine holds_request trivial fun reply d' hanswer => ?_
  obtain ⟨⟨hreply, hd'⟩, hfine⟩ := hanswer
  obtain ⟨d₁, hwrite⟩ := write_entry hname htrail hfree hfine
  rw [answer, hwrite] at hreply hd'
  obtain rfl : d' = d₁ := hd'
  have hconfined := confined_write hd hwrite
  rw [Path.key_entry hname] at hconfined
  exact ⟨hreply, hconfined⟩

/-- Without faults an artifact is written to a vacant directory given by an absolute path. -/
theorem Artifact.holds_write_faultless {description : Description} {recorded : Variables}
    (hd : d.Sound) (habsolute : base.isAbsolute = true) (hbase : d.Vacant base) :
    Holds Faultless (fun _ => True) (Artifact.write base description recorded).run d
      fun result _ => ∃ directory, result = .ok directory := by
  refine Work.holds_bind (Work.holds_ofAction (holds_request trivial fun seconds d₁ hreply => ?_))
  obtain rfl := happens_clock hreply.happens
  have hplain := Decimal.isPlain_natText seconds
  dsimp only
  generalize Decimal.natText seconds = name at hplain ⊢
  have hnone := hbase.empty name
  refine Work.holds_bind (Work.holds_ofAction (Files.holds_pathExists_faultless hplain
    hbase.open_trail trivial (fun hsome => absurd hnone hsome) fun _ => ?_))
  generalize hfolder : (base.entry name).entry variablesFolder = folder
  have htop : (base.entry name).key d₁.workingDirectory = base.key d₁.workingDirectory ++ [name] :=
    Path.key_entry hplain
  have htrail : folder.trail d₁.workingDirectory = (base.entry name).trail d₁.workingDirectory
      ++ [folder.key d₁.workingDirectory] := by
    rw [← hfolder, Path.trail_entry isPlain_variablesFolder]
  have hbelow (rest : List String) :
      d₁.get? (base.key d₁.workingDirectory ++ [name] ++ rest) = none :=
    hd.none_below hnone rest
  -- The folder and the directory that it is in can be made, since neither is there.
  have hway : d₁.CanBeMade folder := by
    refine .inr ⟨?_, fun k hk bytes hfile => ?_⟩
    · rw [← hfolder, Path.last_entry isPlain_variablesFolder]
      exact fun h => by cases h
    · rw [htrail, Path.trail_entry hplain] at hk
      rcases List.mem_append.1 hk with hk | hk
      · rcases List.mem_append.1 hk with hk | hk
        · rw [hbase.open_trail k hk] at hfile
          cases hfile
        · rw [List.mem_singleton.1 hk, htop, hnone] at hfile
          cases hfile
      · rw [List.mem_singleton.1 hk, ← hfolder, Path.key_entry isPlain_variablesFolder, htop,
          hbelow] at hfile
        cases hfile
  have hfolderAbsolute : folder.isAbsolute = true := by
    rw [← hfolder, Path.isAbsolute_entry isPlain_variablesFolder, Path.isAbsolute_entry hplain,
      habsolute]
  refine Work.holds_bind (Work.holds_within (Work.holds_ofFile
    (((Files.holds_ensureDirectory_made hd (directory_start hfolderAbsolute _) hway).and
      ((Files.holds_ensureDirectory_alone hd).restrict fun _ _ _ _ h => Faultless.happens h)).mono
      (fun _ _ => trivial) ?_)))
  rintro _ d₂ ⟨⟨rfl, h₂, hopen₂⟩, -, hleads⟩
  have hfolders := tree_folders hplain hd hbase.open_trail hnone (hfolder ▸ h₂)
    (hfolder ▸ hleads (hfolder ▸ Path.text_entry_ne_empty isPlain_variablesFolder) rfl)
  have hat (rest : List String) :
      d₂.get? (base.key d₁.workingDirectory ++ [name] ++ rest) = folders rest :=
    congrFun hfolders rest
  -- Neither file is there yet.
  have hhome₂ := h₂.home
  rw [← hhome₂] at htrail hopen₂ htop hat
  have hopenTop : d₂.AreDirectories ((base.entry name).trail d₂.workingDirectory) :=
    fun k hk => hopen₂ k (htrail ▸ List.mem_append_left _ hk)
  refine Work.holds_bind (Work.holds_within (Work.holds_ofFile
    ((Files.holds_writeText_faultless h₂.sound isPlain_descriptionFile hopenTop ?_).mono
      (fun _ _ => trivial) ?_)))
  · rw [htop, hat]
    simp [folders, descriptionFile, variablesFolder]
  rintro _ d₃ ⟨rfl, h₃⟩
  have hhome₃ := h₃.home
  have hopen₃ : d₃.AreDirectories (folder.trail d₃.workingDirectory) := by
    rw [hhome₃]
    refine h₃.areDirectories (fun k hk heq => ?_) hopen₂
    have hdirectory := hopen₂ k hk
    rw [heq, htop, hat] at hdirectory
    cases hdirectory
  subst hfolder
  refine Work.holds_bind (Work.holds_within (Work.holds_ofFile
    ((Files.holds_writeText_faultless h₃.sound isPlain_variablesFile hopen₃ ?_).mono
      (fun _ _ => trivial) ?_)))
  · rw [hhome₃, Path.key_entry isPlain_variablesFolder, htop, List.append_assoc, h₃.eq ?_ id, hat]
    · simp [folders]
    · rw [htop, List.append_cancel_left_eq]
      simp
  · rintro _ d₄ ⟨rfl, -⟩
    exact Work.holds_pure ⟨_, rfl⟩

end Export

namespace Fixture

variable {s : Store} {home : Key} {d d' : Disk} {model trained : Model} {inputs : InputPair}
variable {spec : Spec}

/-! ## What is foretold -/

/-- What is done before anything is asked for: a model is trained and makes its predictions. -/
def rehearse (model : Model) (inputs : InputPair) (spec : Spec) : Attempt Model := do
  let trained ← Attempt.within (.training spec.name) (model.fit inputs.training spec.steps)
  let _ ← score trained inputs.training spec
  return trained

/-- What a trained model is exported with. -/
def describing (trained : Model) (inputs : InputPair) (spec : Spec) : Attempt Description :=
  Attempt.within (.exporting spec.name) (.ofData (trained.describe inputs.serving))

/-- What is reported of a model that has made its predictions. -/
def announce (trained : Model) (inputs : InputPair) (spec : Spec) (s : Store) : Attempt Report :=
  (describing trained inputs spec).map fun _ => reportOf trained inputs spec s

/-- What is reported of a build. -/
def foretold (model : Model) (inputs : InputPair) (spec : Spec) (s : Store) : Attempt Report := do
  announce (← rehearse model inputs spec) inputs spec s

theorem rehearse_eq_ok_iff : rehearse model inputs spec = .ok trained ↔
    model.fit inputs.training spec.steps = .ok trained ∧
      ∃ sheet, score trained inputs.training spec = .ok sheet := by
  constructor
  · intro h
    obtain ⟨fitted, hfit, h⟩ := Attempt.bind_eq_ok h
    obtain ⟨sheet, hscore, h⟩ := Attempt.bind_eq_ok h
    cases h
    exact ⟨Attempt.within_eq_ok hfit, sheet, hscore⟩
  · rintro ⟨hfit, sheet, hscore⟩
    rw [rehearse, hfit]
    show (do let _ ← score trained inputs.training spec; return trained) = _
    rw [hscore]
    rfl

/-- A trained model makes one text of predictions and one export. -/
theorem Makes.unique {bytes bytes' : ByteArray} {tree tree' : Tree}
    (h : Makes Model.IsExport trained inputs spec bytes tree)
    (h' : Makes Model.IsExport trained inputs spec bytes' tree') :
    bytes = bytes' ∧ tree = tree' := by
  obtain ⟨⟨sheet, hscore, rfl⟩, description, hdescribe, rfl⟩ := h
  obtain ⟨⟨sheet', hscore', rfl⟩, description', hdescribe', rfl⟩ := h'
  obtain rfl := Except.ok.inj (hscore.symm.trans hscore')
  obtain rfl := Except.ok.inj (hdescribe.symm.trans hdescribe')
  exact ⟨rfl, rfl⟩

/-! ## What is done -/

/-- Without faults a model is exported if it can be described. -/
theorem holds_exportInto_faultless {serving : ServingInputs} {name : String} {scratch : Path}
    (hd : d.Sound) (habsolute : scratch.isAbsolute = true) (hvacant : d.Vacant scratch) :
    Holds Faultless (fun _ => True) (exportInto trained serving name scratch).run d
      fun result _ => result.map (fun _ => ()) = (Attempt.within (.exporting name)
        (.ofData (trained.describe serving))).map fun _ => () := by
  refine Work.holds_bind (Work.holds_within ?_)
  show Holds Faultless _ (trained.exportTo scratch serving).run d _
  rw [Model.exportTo_eq]
  refine Work.holds_bind (Work.holds_ofAttempt ?_)
  cases hdescribe : trained.describe serving with
  | error error => rfl
  | ok description =>
    refine (((Artifact.holds_write_faultless hd habsolute hvacant).and
      ((Artifact.holds_write hd hvacant).restrict fun _ _ _ _ h => Faultless.happens h)).mono
      (fun _ _ => trivial) ?_)
    rintro _ d₁ ⟨⟨directory, rfl⟩, h₁, hwritten⟩
    obtain ⟨entry, hplain, rfl, htree⟩ := hwritten directory rfl
    have hopen : d₁.AreDirectories (scratch.trail d₁.workingDirectory) := by
      rw [h₁.home]
      refine h₁.areDirectories (fun k hk ⟨first, rest, hinside⟩ => ?_) hvacant.open_trail
      have hdirectory := hvacant.open_trail k hk
      rw [hinside, List.append_cons, hd.none_below (hvacant.empty first)] at hdirectory
      cases hdirectory
    have hfound : d₁.get? (scratch.key d₁.workingDirectory ++ [entry]) = some .directory := by
      rw [h₁.home]
      simpa [Disk.tree, Artifact.tree] using congrFun htree []
    have hstarts : (scratch.entry entry).startsWith scratch = true :=
      @Path.descend_startsWith scratch [entry] (List.forall_mem_singleton.2 hplain)
    simp only [hstarts, Bool.true_and]
    refine Work.holds_bind (Work.holds_ofAction (Files.holds_isDirectory_faultless hplain hopen
      trivial (fun _ => ?_) fun hother => absurd hfound hother))
    exact Work.holds_pure rfl

section Install

variable (hready : Ready s home spec.name) (hd : d.Sound) (hhome : d.workingDirectory = home)
include hready hd hhome

/-- Without faults an export is put in place, and then the staged predictions are. -/
theorem holds_persist_faultless {bytes : ByteArray} {entry middle : String} {names : List String}
    (hscratch : Path.IsPlain (scratchBeginning spec.name ++ middle))
    (hnames : ∀ n ∈ names, Path.IsPlain n) (hentry : Path.IsPlain entry)
    (hstaged : s.Staged home spec.name bytes
      ⟨s.sheetDirectory.entry entry, s.sheetPath spec.name⟩ d)
    (hsheets : d.AreDirectories (s.sheetDirectory.trail home))
    (hartifacts : d.AreDirectories (s.artifactDirectory.trail home))
    (hnone : d.get? (s.sheetKey home spec.name) = none)
    (hfound : d.get? (s.preparedKey home spec.name middle names) = some .directory) :
    Holds Faultless (fun _ => True)
      (persist trained inputs s spec ⟨s.sheetDirectory.entry entry, s.sheetPath spec.name⟩
        (s.preparedPath spec.name middle names)).run d
      fun result _ => result = .ok (reportOf trained inputs spec s) := by
  have hapart := hready.apart
  have hmovable : s.Movable home spec.name middle names (s.preparedPath spec.name middle names) d :=
    movable_of_found hd hhome rfl hartifacts hartifacts
      (fun k hk => hready.site.outside_changes hk) hscratch hnames hfound
  have hreplacing := (holds_replaceArtifact (fun _ _ _ _ h => Faultless.happens h) hready.site hd
    hhome hartifacts (prepared_descend hscratch hnames) (Path.descend_startsWith _ hnames))
  refine Work.holds_bind (((holds_replaceArtifact_absolute hready.site hnames hscratch hmovable
    hready.absolute).and hreplacing).mono (fun _ _ => trivial) ?_)
  rintro _ d₁ ⟨⟨rfl, -⟩, hreplaced, -⟩
  have h₁ := hreplaced.touches (prepared_descend hscratch hnames)
  have hsheet₁ : d₁.get? (s.sheetKey home spec.name) = none := by
    rw [Touches.sheet_eq hapart h₁ (by simp), hnone]
  refine Work.holds_bind ((holds_rename_faultless hready.plain hapart
    (h₁.home.trans hhome) hentry
    (h₁.areDirectories hapart (fun k hk => .inl hk) hsheets)
    (hstaged.kept hapart h₁ (by simp)) (by simp [hsheet₁])).mono (fun _ _ => trivial) ?_)
  rintro _ d₂ rfl
  exact Work.holds_pure rfl

/-- Without faults a model that can be described is installed. -/
theorem holds_install_faultless {sheet : PredictionSheet} {entry middle : String}
    (hscratch : Path.IsPlain (scratchBeginning spec.name ++ middle)) (hentry : Path.IsPlain entry)
    (hstaged : s.Staged home spec.name sheet.written.bytes
      ⟨s.sheetDirectory.entry entry, s.sheetPath spec.name⟩ d)
    (hsheets : d.AreDirectories (s.sheetDirectory.trail home))
    (hartifacts : d.AreDirectories (s.artifactDirectory.trail home))
    (hvacant : d.Vacant (s.artifactDirectory.entry (scratchBeginning spec.name ++ middle)))
    (hfree : d.get? (s.sheetKey home spec.name) ≠ some .directory) :
    Holds Faultless (fun _ => True)
      (install trained inputs s spec ⟨s.sheetDirectory.entry entry, s.sheetPath spec.name⟩
        (s.artifactDirectory.entry (scratchBeginning spec.name ++ middle))).run d
      fun result _ => result = announce trained inputs spec s := by
  have hapart := hready.apart
  have habsolute : (s.artifactDirectory.entry (scratchBeginning spec.name ++ middle)).isAbsolute
      = true := (Path.isAbsolute_entry hscratch).trans hready.absolute
  rw [install_eq]
  refine Work.holds_bind (((holds_exportInto_faultless hd habsolute hvacant).and
    ((holds_exportInto Model.lawful.toExports hscratch hd hhome hvacant).restrict
      fun _ _ _ _ h => Faultless.happens h)).mono (fun _ _ => trivial) ?_)
  rintro result d₁ ⟨hresult, h₁, hexported⟩
  replace hresult : result.map (fun _ => ()) = (describing trained inputs spec).map fun _ => () :=
    hresult
  rcases result with failure | directory
  · cases hdescribing : describing trained inputs spec with
    | ok description => rw [hdescribing] at hresult; cases hresult
    | error failure' =>
      rw [hdescribing] at hresult
      cases hresult
      rw [announce, hdescribing]
      rfl
  obtain ⟨names, hnames, rfl, hfound, -⟩ := hexported directory rfl
  have hannounced : announce trained inputs spec s = .ok (reportOf trained inputs spec s) := by
    cases hdescribing : describing trained inputs spec with
    | error failure => rw [hdescribing] at hresult; cases hresult
    | ok description => rw [announce, hdescribing]; rfl
  rw [hannounced]
  have hhome₁ : d₁.workingDirectory = home := h₁.home.trans hhome
  have hsheets₁ := h₁.areDirectories hapart (fun k hk => .inl hk) hsheets
  have hartifacts₁ := h₁.areDirectories hapart (fun k hk => .inr hk) hartifacts
  refine Work.holds_bind ((holds_discardSheet_faultless hready.plain hapart h₁.sound hhome₁
    hsheets₁.areClear (.inl hsheets₁) ?_).mono (fun _ _ => trivial) ?_)
  · rwa [Touches.sheet_eq hapart h₁ (by simp)]
  rintro _ d₂ ⟨rfl, h₂, hnone⟩
  refine holds_persist_faultless hready h₂.sound (h₂.home.trans hhome₁) hscratch hnames hentry
    ((hstaged.kept hapart h₁ (by simp)).kept hapart h₂ (by simp))
    (h₂.areDirectories hapart (fun k hk => .inl hk) hsheets₁)
    (h₂.areDirectories hapart (fun k hk => .inr hk) hartifacts₁) hnone ?_
  have howned : s.Owns home .hidden spec.name (s.preparedKey home spec.name middle names) := by
    simpa using (prepared_descend hscratch hnames : s.Prepared home spec.name _ _).owns []
  rwa [Touches.eq_own h₂ hapart (by simp) howned]

/-- Without faults a model that can be described is installed by way of a new scratch directory. -/
theorem holds_installVia_faultless {sheet : PredictionSheet} {entry : String}
    (hscore : score trained inputs.training spec = .ok sheet) (hentry : Path.IsPlain entry)
    (hstaged : s.Staged home spec.name sheet.written.bytes
      ⟨s.sheetDirectory.entry entry, s.sheetPath spec.name⟩ d)
    (hsheets : d.AreDirectories (s.sheetDirectory.trail home))
    (hway : d.CanBeMade s.artifactDirectory)
    (hfree : d.get? (s.sheetKey home spec.name) ≠ some .directory) :
    Holds Faultless (fun _ => True)
      (installVia trained inputs s spec ⟨s.sheetDirectory.entry entry, s.sheetPath spec.name⟩).run d
      fun result d' => result = announce trained inputs spec s ∧
        d'.AreDirectories (s.sheetDirectory.trail home) ∧
        d'.AreDirectories (s.artifactDirectory.trail home) := by
  have hapart := hready.apart
  refine Work.holds_bind ((((holds_newScratch_faultless hready.plain hapart hd hhome
    hready.absolute hway).and ((holds_newScratch hready.plain hd hhome).restrict
      fun _ _ _ _ h => Faultless.happens h)).mono (fun _ _ => trivial) ?_))
  rintro _ d₁ ⟨⟨scratch, rfl, hnew⟩, h₁, -⟩
  obtain ⟨middle, hplain, rfl, -⟩ := hnew.exists_middle
  have hvacant := hnew.vacant
  rw [absolute_of_isAbsolute hready.absolute] at hvacant ⊢
  have hhome₁ : d₁.workingDirectory = home := h₁.home.trans hhome
  have hsheets₁ := h₁.areDirectories hapart (fun k hk => .inl hk) hsheets
  have hstaged₁ := hstaged.kept hapart h₁ (by simp)
  have hfree₁ : d₁.get? (s.sheetKey home spec.name) ≠ some .directory := by
    rwa [Touches.sheet_eq hapart h₁ (by simp)]
  refine Work.holds_andThen (((holds_install_faultless hready h₁.sound hhome₁ hplain hentry
    hstaged₁ hsheets₁ hnew.open_trail hvacant hfree₁).and
    (holds_install (fun _ _ _ _ h => Faultless.happens h) hready Model.lawful.toExports hscore
      hplain h₁.sound (.refl h₁.sound) hhome₁ hstaged₁ hsheets₁ hnew.open_trail hvacant)).mono
    (fun _ _ => trivial) ?_)
  rintro result d₂ ⟨rfl, h₂⟩
  have htouches := h₂.building.touches
  have howned : s.Owns home .hidden spec.name
      ((s.artifactDirectory.entry (scratchBeginning spec.name ++ middle)).key home) := by
    rw [key_scratch hplain]
    exact owns_scratch middle
  refine ((holds_removeScratch htouches.sound (htouches.home.trans hhome₁) howned).restrict
    fun _ _ _ _ h => Faultless.happens h).mono (fun _ _ => trivial) fun _ d₃ h₃ => ⟨rfl, ?_, ?_⟩
  · exact h₃.areDirectories hapart (fun k hk => .inl hk)
      (htouches.areDirectories hapart (fun k hk => .inl hk) hsheets₁)
  · exact h₃.areDirectories hapart (fun k hk => .inr hk)
      (htouches.areDirectories hapart (fun k hk => .inr hk) hnew.open_trail)

end Install

/-! ## How a build goes -/

/-- How a build goes where no fault is met: it fails before it asks for anything, or it comes so far
that both directories of the store are there. -/
inductive Course (s : Store) (home : Key) (model : Model) (inputs : InputPair) (spec : Spec)
    (d : Disk) : Attempt Report → Disk → Prop
  | idle {failure : Failure} : rehearse model inputs spec = .error failure →
      Course s home model inputs spec d (.error failure) d
  | made {trained : Model} {d' : Disk} : rehearse model inputs spec = .ok trained →
      d'.AreDirectories (s.sheetDirectory.trail home) →
      d'.AreDirectories (s.artifactDirectory.trail home) →
      Course s home model inputs spec d (announce trained inputs spec s) d'

theorem Course.result_eq {result : Attempt Report}
    (h : Course s home model inputs spec d result d') :
    result = foretold model inputs spec s := by
  cases h with
  | idle hrehearse => rw [foretold, hrehearse]; rfl
  | made hrehearse => rw [foretold, hrehearse]; rfl

section Build

variable (hready : Ready s home spec.name) (hsheets : s.sheetDirectory.isAbsolute = true)
variable (husable : s.Usable home d) (hfree : d.get? (s.sheetKey home spec.name) ≠ some .directory)
include hready hsheets husable hfree

/-- Without faults all goes well with predictions once they are there. -/
theorem holds_finish_faultless {sheet : PredictionSheet}
    (hscore : score trained inputs.training spec = .ok sheet) :
    Holds Faultless (fun _ => True) (finish trained inputs spec s).run d fun result d' =>
      result = announce trained inputs spec s ∧
        d'.AreDirectories (s.sheetDirectory.trail home) ∧
        d'.AreDirectories (s.artifactDirectory.trail home) := by
  have hapart := hready.apart
  refine Work.holds_bind (Work.holds_ofAttempt ?_)
  rw [hscore]
  refine Work.holds_bind ((holds_stage_faultless hready.plain hapart husable.sound husable.home_eq
    hsheets husable.sheets).mono (fun _ _ => trivial) ?_)
  rintro _ d₁ ⟨h₁, hopen, entry, hentry, rfl, hstaged⟩
  have husable₁ := husable.kept hapart h₁
  have hfree₁ : d₁.get? (s.sheetKey home spec.name) ≠ some .directory := by
    rwa [Touches.sheet_eq hapart h₁ (by simp)]
  refine Work.holds_onFailure (((holds_installVia_faultless hready husable₁.sound husable₁.home_eq
    hscore hentry hstaged hopen husable₁.artifacts hfree₁).and
    ((holds_installVia (fun _ _ _ _ h => Faultless.happens h) hready Model.lawful.toExports hscore
      husable₁.sound (.refl husable₁.sound) husable₁.home_eq hstaged hopen))).mono
    (fun _ _ => trivial) ?_)
  rintro (failure | report) d₂ ⟨⟨hresult, hopen₂, hartifacts₂⟩, h₂⟩
  · have htouches := h₂.building.touches
    refine ((holds_discard htouches.sound (htouches.home.trans husable₁.home_eq)
      hstaged.owned).restrict fun _ _ _ _ h => Faultless.happens h).mono (fun _ _ => trivial)
      fun _ d₃ h₃ => ⟨hresult, ?_, ?_⟩
    · exact h₃.areDirectories hapart (fun k hk => .inl hk) hopen₂
    · exact h₃.areDirectories hapart (fun k hk => .inr hk) hartifacts₂
  · exact ⟨hresult, hopen₂, hartifacts₂⟩

theorem holds_build_faultless : Holds Faultless (fun _ => True) (build model inputs spec s).run d
    (Course s home model inputs spec d) := by
  rw [build_eq]
  refine Work.holds_bind (Work.holds_within (Work.holds_ofAttempt ?_))
  cases hfit : model.fit inputs.training spec.steps with
  | error failure =>
    refine .idle ?_
    rw [rehearse, hfit]
    rfl
  | ok trained =>
    cases hscore : score trained inputs.training spec with
    | error failure =>
      refine Work.holds_bind (Work.holds_ofAttempt ?_)
      rw [hscore]
      refine .idle ?_
      rw [rehearse, hfit]
      show (do let _ ← score trained inputs.training spec; return trained : Attempt Model) = _
      rw [hscore]
      rfl
    | ok sheet =>
      refine (holds_finish_faultless hready hsheets husable hfree hscore).mono (fun _ h => h) ?_
      rintro _ d' ⟨rfl, hopen, hartifacts⟩
      exact .made (rehearse_eq_ok_iff.2 ⟨hfit, sheet, hscore⟩) hopen hartifacts

/-- A build that fails where no fault is met leaves all that is visible of the fixture. -/
theorem untouched_of_build {failure : Failure}
    (hends : Ends Faultless (build model inputs spec s).run d (.error failure) d') :
    s.Touches home spec.name IsUnseen d d' := by
  have hcourse := (holds_build_faultless hready hsheets husable hfree).ends hends
  obtain ⟨-, -, hfailed⟩ := (holds_build (fun _ _ _ _ h => Faultless.happens h) Model.lawful hready
    husable.sound husable.home_eq).ends hends
  cases hfailed failure rfl with
  | untouched h => exact h
  | unreplaced _ hfails => exact absurd hfails (not_failsToReplace (fun _ _ _ _ h => h) hready)
  -- Where the new artifact is there, the model was described, and nothing else could be refused.
  | bare _ hbuilds =>
    obtain ⟨trained, hfit, ⟨sheet, hscore, -⟩, description, hdescribe, -⟩ := hbuilds
    have hrehearse : rehearse model inputs spec = .ok trained :=
      rehearse_eq_ok_iff.2 ⟨Action.done.inj hfit, sheet, hscore⟩
    have hforetold : foretold model inputs spec s = .ok (reportOf trained inputs spec s) := by
      rw [foretold, hrehearse]
      show announce trained inputs spec s = _
      rw [announce, describing, hdescribe]
      rfl
    cases hcourse.result_eq.trans hforetold

end Build

end Fixture
end Exemplar
