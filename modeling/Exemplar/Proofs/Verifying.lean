/-
Verifying what was built.

A build that succeeds leaves the export of the model that it has trained and the
predictions that the model makes, at the ends of paths that can be walked.  If the
model is finite, a verification of it loads the same model, makes the same
predictions, reads the predictions that were written, and reports the same.
-/
import Exemplar.Proofs.Fallible
import Exemplar.Proofs.Looking
import Exemplar.Proofs.Reloading
import Exemplar.Proofs.Traces

namespace Exemplar

open Exemplar.Action Disk Store

/-! ## Shorter paths -/

/-- One path is no longer than another, as a whole and name by name.  What is joined to the other
one is joined by a slash. -/
structure Path.Shorter (q p : Path) : Prop where
  text_ne : p.text ≠ ""
  slash : p.endsInSlash = false
  zero : '\x00' ∈ q.text.toList → '\x00' ∈ p.text.toList
  size : q.text.utf8ByteSize ≤ p.text.utf8ByteSize
  names : ∀ name ∈ q.segments, ∃ longer ∈ p.segments, name.utf8ByteSize ≤ longer.utf8ByteSize

/-- What is shorter than a path within the limits is within them. -/
theorem Disk.Fits.of_shorter {p q : Path} (h : Fits p) (hshorter : q.Shorter p) : Fits q where
  no_zero hzero := h.no_zero (hshorter.zero hzero)
  short := Nat.le_trans hshorter.size h.short
  names name hname := by
    obtain ⟨longer, hlonger, hle⟩ := hshorter.names name hname
    exact Nat.le_trans hle (h.names longer hlonger)

namespace Path

variable {p q base : Path} {name longer : String} {names : List String}

/-- A longer name makes a longer entry. -/
theorem shorter_entry (hname : IsPlain name) (hlonger : IsPlain longer)
    (hzero : '\x00' ∈ name.toList → '\x00' ∈ longer.toList)
    (hsize : name.utf8ByteSize ≤ longer.utf8ByteSize) :
    (base.entry name).Shorter (base.entry longer) := by
  refine ⟨text_entry_ne_empty hlonger, endsInSlash_entry hlonger, ?_, ?_, ?_⟩
  · rw [entry_eq hname, entry_eq hlonger]
    split
    · exact hzero
    · split <;> simp only [String.toList_append, List.mem_append] <;> tauto
  · rw [entry_eq hname, entry_eq hlonger]
    split
    · exact hsize
    · split <;> simp only [String.utf8ByteSize_append] <;> omega
  · rw [segments_entry hname, segments_entry hlonger]
    intro segment hsegment
    rcases List.mem_append.1 hsegment with hsegment | hsegment
    · exact ⟨segment, List.mem_append_left _ hsegment, Nat.le_refl _⟩
    · rw [List.mem_singleton.1 hsegment]
      exact ⟨longer, List.mem_append_right _ List.mem_cons_self, hsize⟩

theorem Shorter.text_entry (h : q.Shorter p) (hname : IsPlain name) :
    (p.entry name).text = p.text ++ "/" ++ name := by
  rw [entry_eq hname, if_neg h.text_ne, h.slash]
  rfl

/-- The same entry of a longer path is longer. -/
theorem Shorter.entry (h : q.Shorter p) (hname : IsPlain name) :
    (q.entry name).Shorter (p.entry name) := by
  have hzero := h.zero
  have hsize := h.size
  refine ⟨text_entry_ne_empty hname, endsInSlash_entry hname, ?_, ?_, ?_⟩
  · rw [h.text_entry hname, entry_eq hname]
    split
    · simp only [String.toList_append, List.mem_append]
      tauto
    · split <;> simp only [String.toList_append, List.mem_append] <;> tauto
  · rw [h.text_entry hname, entry_eq hname]
    split
    · simp only [String.utf8ByteSize_append]
      omega
    · split <;> simp only [String.utf8ByteSize_append] <;> omega
  · rw [segments_entry hname, segments_entry hname]
    intro segment hsegment
    rcases List.mem_append.1 hsegment with hsegment | hsegment
    · obtain ⟨longer, hlonger, hle⟩ := h.names segment hsegment
      exact ⟨longer, List.mem_append_left _ hlonger, hle⟩
    · exact ⟨segment, List.mem_append_right _ hsegment, Nat.le_refl _⟩

/-- What lies below a longer path is longer. -/
theorem Shorter.descend (h : q.Shorter p) (hnames : ∀ name ∈ names, IsPlain name) :
    q.Shorter (p.descend names) := by
  induction names generalizing p with
  | nil => exact h
  | cons name rest ih =>
    obtain ⟨hname, hrest⟩ := List.forall_mem_cons.1 hnames
    have htext := h.text_entry hname
    rw [descend_cons]
    refine ih ⟨text_entry_ne_empty hname, endsInSlash_entry hname, fun hzero => ?_, ?_,
      fun segment hsegment => ?_⟩ hrest
    · rw [htext]
      simp [h.zero hzero]
    · rw [htext]
      simp only [String.utf8ByteSize_append]
      exact Nat.le_trans h.size (by omega)
    · rw [segments_entry hname]
      obtain ⟨longer, hlonger, hle⟩ := h.names segment hsegment
      exact ⟨longer, List.mem_append_left _ hlonger, hle⟩

end Path

/-! ## What a build leaves -/

namespace Disk

variable {d : Disk} {path : Path} {bytes : ByteArray}

/-- The way to a directory in a directory. -/
theorem AreDirectories.entry {base : Path} {home : Key} {name : String} (hname : Path.IsPlain name)
    (h : d.AreDirectories (base.trail home))
    (hdirectory : d.get? (base.key home ++ [name]) = some .directory) :
    d.AreDirectories ((base.entry name).trail home) := by
  rw [Path.trail_entry hname, Path.key_entry hname]
  intro k hk
  rcases List.mem_append.1 hk with hk | hk
  · exact h k hk
  · rw [List.mem_singleton.1 hk]
    exact hdirectory

theorem fits_of_readFile (h : d.readFile path = .ok bytes) : Fits path := by
  rw [readFile] at h
  split at h
  · rename_i hfind
    obtain ⟨key, hkey, -⟩ := bind_eq_ok_iff.1 hfind
    exact fits_of_resolve hkey
  · cases h
  · cases h

end Disk

namespace Fixture

variable {s : Store} {home : Key} {d d' : Disk} {inputs : InputPair} {spec : Spec}
variable {model trained : Model} {report : Report}

/-- A fixture as a build leaves it that has trained a model: the export of the model and beside it
its predictions, both at the ends of paths that can be walked. -/
structure Complete (s : Store) (home : Key) (spec : Spec) (inputs : InputPair) (trained : Model)
    (d : Disk) : Prop where
  home_eq : d.workingDirectory = home
  installed : s.Installed home spec.name (Makes Model.IsExport trained inputs spec) d
  sheets : d.AreDirectories (s.sheetDirectory.trail home)
  artifacts : d.AreDirectories (s.artifactDirectory.trail home)
  sheet_fits : Fits (s.sheetPath spec.name)
  description_fits : Fits (Artifact.descriptionPath (s.artifactPath spec.name))
  variables_fits : Fits (Artifact.variablesPath (s.artifactPath spec.name))

/-- The paths in an artifact are shorter than those of its export. -/
theorem fits_of_records {name middle : String} {names : List String} {description : Description}
    {recorded : Variables} (hname : Path.IsPlain name)
    (hscratch : Path.IsPlain (scratchBeginning name ++ middle))
    (hnames : ∀ n ∈ names, Path.IsPlain n)
    (h : Artifact.Records d (s.preparedPath name middle names) description recorded) :
    Fits (Artifact.descriptionPath (s.artifactPath name)) ∧
      Fits (Artifact.variablesPath (s.artifactPath name)) := by
  have htop : (s.artifactPath name).Shorter (s.preparedPath name middle names) := by
    refine (Path.shorter_entry hname hscratch ?_ ?_).descend hnames
    · simp [scratchBeginning, hiddenBeginning]
      tauto
    · simp only [scratchBeginning, hiddenBeginning, String.utf8ByteSize_append]
      omega
  exact ⟨(fits_of_readFile h.description_text).of_shorter
      (htop.entry Artifact.isPlain_descriptionFile),
    (fits_of_readFile h.variables_text).of_shorter
      ((htop.entry Artifact.isPlain_variablesFolder).entry Artifact.isPlain_variablesFile)⟩

/-- Predictions are put in place at the end of a path that can be walked. -/
theorem holds_rename_fits (staged : StagedSheet) (d : Disk) :
    Holds Happens (fun _ => True) staged.rename.run d fun result _ =>
      ∀ path, result = .ok path → Fits staged.target := by
  refine Work.holds_bind (Work.holds_within (Work.holds_ofFile
    (holds_request trivial fun reply d' hreply => ?_)))
  rcases happens_rename hreply with ⟨rfl, hok⟩ | ⟨-, error, rfl, -⟩
  · exact Work.holds_pure fun _ _ => fits_of_rename hok
  · exact fun _ hok => by cases hok

/-- A build that succeeds has trained a model and leaves the fixture complete. -/
theorem complete_of_ends (hready : Ready s d.workingDirectory spec.name) (hd : d.Sound)
    (hends : Ends Happens (build model inputs spec s).run d (.ok report) d') :
    ∃ trained, model.fit inputs.training spec.steps = .ok trained ∧
      report = reportOf trained inputs spec s ∧
      Complete s d.workingDirectory spec inputs trained d' := by
  have hname := hready.plain
  have hapart := hready.apart
  have hR (r d reply d') (h : Happens r d reply d') : Happens r d reply d' := h
  have hM := Model.lawful
  obtain ⟨hbuilding, hsucceeded, -⟩ := (holds_build hR hM hready hd rfl).ends hends
  obtain ⟨trained, hfit, rfl, hinstalled⟩ := hsucceeded report rfl
  refine ⟨trained, Action.done.inj hfit, rfl, ?_⟩
  -- The run is taken apart.
  rw [build_eq] at hends
  obtain ⟨trained', d₀, hfit', hfinish⟩ := Work.ends_bind hends
  obtain ⟨-, rfl⟩ := Work.ends_ofAttempt (Work.ends_within hfit')
  obtain ⟨sheet, d₀, hscored, hrest⟩ := Work.ends_bind hfinish
  obtain ⟨hscore, rfl⟩ := Work.ends_ofAttempt hscored
  obtain ⟨staged, d₁, hstage, hrest⟩ := Work.ends_bind hrest
  replace hrest := Work.ends_onFailure hrest
  obtain ⟨scratch, d₂, hscratch, hrest'⟩ := Work.ends_bind hrest
  obtain ⟨d₆, hinstall, hremove⟩ := Work.ends_andThen hrest'
  -- Both directories are there once they were needed, and stay.
  obtain ⟨h₁, hstaged⟩ := (holds_stage hname hd rfl).ends hstage
  obtain ⟨hstaged, hsheets⟩ := hstaged staged rfl
  have h₁' := ((holds_installVia hR hready hM.toExports hscore h₁.sound (.refl h₁.sound) h₁.home
    hstaged hsheets).ends hrest).building.touches
  obtain ⟨h₂, hmade⟩ := (holds_newScratch hname h₁.sound h₁.home).ends hscratch
  obtain ⟨hartifacts, hvacant, middle, hplain, rfl⟩ := hmade scratch rfl
  rw [absolute_of_isAbsolute hready.absolute] at hvacant hinstall hremove
  have hhome₂ : d₂.workingDirectory = d.workingDirectory := h₂.home.trans h₁.home
  have h₂' := ((holds_install hR hready hM.toExports hscore hplain h₂.sound (.refl h₂.sound) hhome₂
    (hstaged.kept hapart h₂ (by simp)) (h₂.areDirectories hapart (fun k hk => .inl hk) hsheets)
    hartifacts hvacant).ends hinstall).building.touches
  have h₆ := (holds_removeScratch h₂'.sound (h₂'.home.trans hhome₂)
    (by rw [Path.key_entry hplain]
        exact owns_self (p := .hidden) (scratchName_hidden spec.name middle))).ends hremove
  -- The paths that were walked are longer than those that are left.
  rw [install_eq] at hinstall
  obtain ⟨directory, d₃, hexport, hrest⟩ := Work.ends_bind hinstall
  obtain ⟨found, d₄, hdiscard, hpersist⟩ := Work.ends_bind hrest
  obtain ⟨target, d₅, hreplace, hrest⟩ := Work.ends_bind hpersist
  obtain ⟨predictions, d₆', hcommit, -⟩ := Work.ends_bind hrest
  obtain ⟨-, hprepared⟩ :=
    (holds_exportInto hM.toExports hplain h₂.sound hhome₂ hvacant).ends hexport
  obtain ⟨names, hnames, rfl, -⟩ := hprepared directory rfl
  obtain ⟨description, -, hrecords⟩ := (trained'.holds_exportTo_records _ _ d₂).ends
    (ends_exportInto hR hexport).1 _ rfl
  obtain ⟨hdescription, hvariables⟩ := fits_of_records hname hplain hnames hrecords
  refine ⟨hbuilding.touches.home, hinstalled, ?_, ?_, ?_, hdescription, hvariables⟩
  · exact h₁'.areDirectories hapart (fun k hk => .inl hk) hsheets
  · exact h₆.areDirectories hapart (fun k hk => .inr hk)
      (h₂'.areDirectories hapart (fun k hk => .inr hk) hartifacts)
  · rw [← hstaged.target_eq]
    exact (holds_rename_fits staged d₅).ends hcommit predictions rfl

/-- A complete fixture is kept by what touches another one. -/
theorem Complete.kept {other : String} {parts : Part → Prop}
    (h : Complete s home spec inputs trained d) (hname : IsFixtureName spec.name)
    (hapart : s.Apart home spec.name) (hother : IsFixtureName other)
    (hotherApart : s.Apart home other) (hne : spec.name ≠ other)
    (htouches : s.Touches home other parts d d') : Complete s home spec inputs trained d' := by
  obtain ⟨bytes, hmakes, hsheet⟩ := h.installed
  have hsame {p : Part} {k : Key} (hk : s.Owns home p spec.name k) : d'.get? k = d.get? k :=
    htouches.eq hother hotherApart hname hapart (fun heq => absurd heq hne) hk
  have htree : d'.tree (s.artifactKey home spec.name) = d.tree (s.artifactKey home spec.name) :=
    funext fun rest => hsame (owns_artifactKey s home spec.name rest)
  exact ⟨htouches.home.trans h.home_eq,
    ⟨bytes, htree ▸ hmakes, (hsame (owns_sheetKey s home spec.name)).trans hsheet⟩,
    htouches.areDirectories hotherApart (fun k hk => .inl hk) h.sheets,
    htouches.areDirectories hotherApart (fun k hk => .inr hk) h.artifacts,
    h.sheet_fits, h.description_fits, h.variables_fits⟩

end Fixture

/-! ## What a verification finds -/

/-- What a model is described by fits the inputs that it is described for. -/
theorem Description.checkServing_of {estimator : String} {architecture : Architecture} {head : Head}
    {columns : List InputColumn} {hiddenUnits : List Nat} {steps : UInt64} {serving : ServingInputs}
    {description : Description}
    (h : of estimator architecture head columns hiddenUnits steps serving = .ok description) :
    description.checkServing serving = .ok () := by
  obtain ⟨⟨⟩, hcolumns, h⟩ := bind_eq_ok_iff.1 h
  cases h
  have hinputs : (callSignature head serving).inputs.mapValues (·.type) = serving.types := by
    cases head <;> simp [callSignature, Head.classCount?, ServingInputs.types, SortedMap.mapValues]
  simp [checkServing, hcolumns, servingSignature?, SortedMap.get?, hinputs, Bind.bind, Except.bind]

theorem Model.checkServing_of_describe {model : Model} {serving : ServingInputs}
    {description : Description} (h : model.describe serving = .ok description) :
    description.checkServing serving = .ok () := by
  cases model <;> exact Description.checkServing_of h

/-- The description of an export is read as it was made. -/
theorem Model.IsShaped.run_readDescription {model : Model} {serving : ServingInputs}
    {description : Description} {recorded : Variables} {d : Disk} {directory : Path}
    (h : model.IsShaped) (hdescribe : model.describe serving = .ok description)
    (hrecords : Artifact.Records d directory description recorded) :
    d.run (Artifact.readDescription directory).run = (.ok description, d) := by
  have hword := h.isWord_description hdescribe
  have htext : Json.IsText Json.deepest description.json := Description.isText_json hword
  obtain ⟨hok, hsame⟩ := answered_holds (Artifact.holds_readDocument (I := fun _ => True)
    (Q := fun result d' => result = .ok description ∧ d' = d) trivial
    hrecords.description_text htext.fits (htext.reread ▸ Description.ofJson?_json hword)
    ⟨rfl, rfl⟩)
  exact Prod.ext hok hsame

namespace Fixture

variable {s : Store} {d : Disk} {inputs : InputPair} {spec : Spec} {trained : Model}

theorem compareRecords_self (index : Nat) (records : List (List String)) :
    compareRecords index records records = .ok () := by
  induction records generalizing index with
  | nil => rfl
  | cons record rest ih => rw [compareRecords, if_pos rfl, ih]

/-- A sheet that is as it was written holds what is expected. -/
theorem compare_written (sheet : PredictionSheet) : compare sheet sheet.written = .ok () := by
  have hcount : sheet.written.rows.length = sheet.rowCount := by
    simp [PredictionSheet.written, PredictionSheet.records, PredictionSheet.rowCount]
  have hheader : sheet.written.header = sheet.header := rfl
  rw [compare, if_neg (not_not.2 hheader), if_neg (not_not.2 hcount)]
  exact compareRecords_self 0 _

section Complete

variable (h : Complete s d.workingDirectory spec inputs trained d) (hname : Path.IsPlain spec.name)
include h hname

/-- The texts of the artifact can be read where it stands. -/
theorem Complete.records : ∃ description, trained.describe inputs.serving = .ok description ∧
    d.find (s.artifactPath spec.name)
      = .ok (s.artifactKey d.workingDirectory spec.name, .directory) ∧
    Artifact.Records d (s.artifactPath spec.name) description trained.toVariables := by
  obtain ⟨bytes, ⟨-, description, hdescribe, htree⟩, -⟩ := h.installed
  have hat (rest : List String) : d.get? (s.artifactKey d.workingDirectory spec.name ++ rest)
      = Artifact.tree description trained.toVariables rest := congrFun htree rest
  have hkey : (s.artifactPath spec.name).key d.workingDirectory
      = s.artifactKey d.workingDirectory spec.name := key_artifactPath hname
  have hdirectory : d.get? (s.artifactKey d.workingDirectory spec.name) = some .directory := by
    simpa [Artifact.tree] using hat []
  have hopen : d.AreDirectories ((s.artifactPath spec.name).trail d.workingDirectory) :=
    h.artifacts.entry hname hdirectory
  have hfits : Fits (s.artifactPath spec.name) :=
    h.description_fits.of_shorter ((Path.shorter_entry hname hname id (Nat.le_refl _)).descend
      (List.forall_mem_singleton.2 Artifact.isPlain_descriptionFile))
  refine ⟨description, hdescribe, ?_, ?_, ?_⟩
  · rw [artifactPath] at hfits ⊢
    simp [find, Bind.bind, Except.bind, resolve_of_fits hname hfits h.artifacts, artifactKey]
      at hdirectory ⊢
    rw [hdirectory]
  · refine readFile_entry Artifact.isPlain_descriptionFile h.description_fits hopen ?_
    rw [hkey, hat, Artifact.tree, if_pos rfl]
  · refine readFile_entry Artifact.isPlain_variablesFile h.variables_fits
      (hopen.entry Artifact.isPlain_variablesFolder ?_) ?_
    · rw [hkey, hat]
      rfl
    · rw [Path.key_entry Artifact.isPlain_variablesFolder, hkey, List.append_assoc, hat]
      rfl

/-- The predictions can be read as they were written. -/
theorem Complete.reads {sheet : PredictionSheet}
    (hscore : score trained inputs.training spec = .ok sheet) :
    d.run (s.readSheet spec.name).run = (.ok sheet.written, d) := by
  obtain ⟨bytes, ⟨⟨sheet', hscore', rfl⟩, -⟩, hsheet⟩ := h.installed
  obtain rfl : sheet = sheet' := Except.ok.inj (hscore.symm.trans hscore')
  have hread : d.readFile (s.sheetPath spec.name) = .ok sheet.written.bytes :=
    readFile_entry (isPlain_sheet hname) h.sheet_fits h.sheets hsheet
  have hreply : d.run (Work.ofAction (Action.request (.read (s.sheetPath spec.name))) :
      Work (Except ReadError ByteArray)).run = (.ok (.ok sheet.written.bytes), d) := by
    rw [← hread]
    rfl
  rw [readSheet, Work.run_bind_ok hreply]
  dsimp only
  rw [sheet.read_written]
  rfl

/-- A complete fixture of a finite model is verified, and the report is that of the build. -/
theorem Complete.verifies (hshaped : trained.IsShaped) (hfinite : trained.IsFinite) :
    Work.told d (verify inputs spec s) = .ok (reportOf trained inputs spec s) := by
  obtain ⟨description, hdescribe, hfind, hrecords⟩ := h.records hname
  obtain ⟨bytes, ⟨⟨sheet, hscore, -⟩, -⟩, -⟩ := h.installed
  have hdirectory : d.run (Work.ofAction (Files.isDirectory (s.artifactPath spec.name)) :
      Work Bool).run = (.ok true, d) := by
    have hkind : (d.answer (.kindOf (s.artifactPath spec.name))).1 = some .directory := by
      rw [answer, hfind]
      rfl
    show (Except.ok (decide ((d.answer (.kindOf (s.artifactPath spec.name))).1 = _)), d) = _
    rw [hkind]
    rfl
  have hdescription := hshaped.run_readDescription hdescribe hrecords
  have hmatches : d.run (Work.within (.matchingDataset spec.name)
      (.ofAttempt (.ofData (description.checkServing inputs.serving)))).run = (.ok (), d) := by
    rw [Model.checkServing_of_describe hdescribe]
    rfl
  have hload := Work.run_within_ok (.reloading spec.name)
    (hshaped.load_of_isFinite hdescribe hrecords hfinite)
  have hscored : d.run (Work.ofAttempt (score trained inputs.training spec) :
      Work PredictionSheet).run = (.ok sheet, d) := by
    rw [hscore]
    rfl
  have hcompared : d.run (Work.within (.comparing spec.name)
      (.ofAttempt (.ofData (compare sheet sheet.written)))).run = (.ok (), d) := by
    rw [compare_written]
    rfl
  rw [Work.told, verify, Work.run_bind_ok hdirectory, Bool.not_true, if_neg Bool.false_ne_true,
    Work.run_bind_ok hdescription, Work.run_bind_ok hmatches, Work.run_bind_ok hload,
    Work.run_bind_ok hscored, Work.run_bind_ok (h.reads hname hscore), Work.run_bind_ok hcompared,
    (records_of_score hscore).count]
  rfl

end Complete

end Fixture
end Exemplar
