/-
Building a fixture on a disk on which every request can fail.

Training and predicting ask for nothing.  Predictions are staged and the model is
exported under hidden names, so neither what is visible of the fixture nor any
other fixture changes.  Then the old predictions go, the artifact is replaced, and
the new predictions come, in this order: whenever there are predictions, they are
the old ones beside the old artifact or the new ones beside the new.
-/
import Exemplar.Fixture
import Exemplar.Proofs.Exporting
import Exemplar.Proofs.Replacing

namespace Exemplar

open Exemplar.Action Disk

namespace Store

variable {s : Store} {home : Key} {name : String} {d d' d'' : Disk}

/-! ## What is visible of a fixture -/

/-- The predictions and the artifact of a fixture are of one making. -/
def Installed (s : Store) (home : Key) (name : String) (makes : ByteArray → Tree → Prop)
    (d : Disk) : Prop :=
  ∃ bytes, makes bytes (d.tree (s.artifactKey home name)) ∧
    d.get? (s.sheetKey home name) = some (.file bytes)

/-- While a fixture is built, its predictions are gone, or nothing visible has changed, or the
predictions and the artifact are of one making.  If the earlier artifact can always be put aside,
the artifact is the earlier one, or gone, or complete. -/
structure Building (R : System) (s : Store) (home : Key) (name : String)
    (makes : ByteArray → Tree → Prop) (d d' : Disk) : Prop where
  touches : s.Touches home name (fun _ => True) d d'
  sheet : d'.get? (s.sheetKey home name) = none ∨
    d'.get? (s.sheetKey home name) = d.get? (s.sheetKey home name) ∧
      d'.tree (s.artifactKey home name) = d.tree (s.artifactKey home name) ∨
    s.Installed home name makes d'
  artifact : PutsAside R s name →
    d'.tree (s.artifactKey home name) = d.tree (s.artifactKey home name) ∨
    d'.tree (s.artifactKey home name) = (fun _ => none) ∨
    ∃ bytes, makes bytes (d'.tree (s.artifactKey home name))

/-- The parts that are not seen. -/
def IsUnseen (p : Part) : Prop := p = .staged ∨ p = .hidden

section Building

variable {R : System} {makes : ByteArray → Tree → Prop}

theorem Building.refl (hd : d.Sound) : Building R s home name makes d d :=
  ⟨.refl hd, .inr (.inl ⟨rfl, rfl⟩), fun _ => .inl rfl⟩

theorem Installed.mono {makes' : ByteArray → Tree → Prop} (h : s.Installed home name makes d)
    (hmakes : ∀ bytes tree, makes bytes tree → makes' bytes tree) :
    s.Installed home name makes' d := by
  obtain ⟨bytes, hmade, hsheet⟩ := h
  exact ⟨bytes, hmakes _ _ hmade, hsheet⟩

theorem Building.mono {makes' : ByteArray → Tree → Prop} (h : Building R s home name makes d d')
    (hmakes : ∀ bytes tree, makes bytes tree → makes' bytes tree) :
    Building R s home name makes' d d' := by
  refine ⟨h.touches, ?_, fun haside => ?_⟩
  · rcases h.sheet with hnone | hsame | hinstalled
    · exact .inl hnone
    · exact .inr (.inl hsame)
    · exact .inr (.inr (hinstalled.mono hmakes))
  · rcases h.artifact haside with hsame | hnone | ⟨bytes, hmade⟩
    · exact .inl hsame
    · exact .inr (.inl hnone)
    · exact .inr (.inr ⟨bytes, hmakes _ _ hmade⟩)

section Unseen

variable {parts : Part → Prop} (hapart : s.Apart home name)
include hapart

theorem Touches.sheet_eq (h : s.Touches home name parts d d') (hparts : ¬ parts .sheet) :
    d'.get? (s.sheetKey home name) = d.get? (s.sheetKey home name) :=
  Touches.eq_own h hapart hparts (owns_sheetKey s home name)

theorem Touches.artifact_eq (h : s.Touches home name parts d d') (hparts : ¬ parts .artifact) :
    d'.tree (s.artifactKey home name) = d.tree (s.artifactKey home name) :=
  funext fun rest => Touches.eq_own h hapart hparts (owns_artifactKey s home name rest)

theorem Touches.installed (h : s.Touches home name parts d d') (hparts : ∀ p, parts p → IsUnseen p)
    (hinstalled : s.Installed home name makes d) : s.Installed home name makes d' := by
  obtain ⟨bytes, hmakes, hsheet⟩ := hinstalled
  have hnot (p : Part) (hp : ¬ IsUnseen p) : ¬ parts p := fun h => hp (hparts p h)
  refine ⟨bytes, ?_, ?_⟩
  · rwa [Touches.artifact_eq hapart h (hnot _ (by simp [IsUnseen]))]
  · rwa [Touches.sheet_eq hapart h (hnot _ (by simp [IsUnseen]))]

/-- What touches only what is not seen keeps all that is said of the build. -/
theorem Building.unseen (h : Building R s home name makes d d')
    (h' : s.Touches home name parts d' d'') (hparts : ∀ p, parts p → IsUnseen p) :
    Building R s home name makes d d'' := by
  have hnot (p : Part) (hp : ¬ IsUnseen p) : ¬ parts p := fun h => hp (hparts p h)
  have hsheet := Touches.sheet_eq hapart h' (hnot _ (by simp [IsUnseen]))
  have hartifact := Touches.artifact_eq hapart h' (hnot _ (by simp [IsUnseen]))
  refine ⟨h.touches.trans (h'.widen fun _ _ => trivial), ?_, ?_⟩
  · rw [hsheet, hartifact]
    rcases h.sheet with hnone | hsame | hinstalled
    · exact .inl hnone
    · exact .inr (.inl hsame)
    · exact .inr (.inr (Touches.installed hapart h' hparts hinstalled))
  · rw [hartifact]
    exact h.artifact

end Unseen

/-- What is said of a build stays true of one that goes on when there are no predictions. -/
theorem Building.follow (h : Building R s home name makes d d')
    (hnone : d'.get? (s.sheetKey home name) = none) (h' : Building R s home name makes d' d'') :
    Building R s home name makes d d'' := by
  refine ⟨h.touches.trans h'.touches, ?_, fun haside => ?_⟩
  · rcases h'.sheet with hgone | ⟨hsame, -⟩ | hinstalled
    · exact .inl hgone
    · exact .inl (hsame.trans hnone)
    · exact .inr (.inr hinstalled)
  · rcases h'.artifact haside with hsame | hgone | hmade
    · rw [hsame]
      exact h.artifact haside
    · exact .inr (.inl hgone)
    · exact .inr (.inr hmade)

/-! ## What a failure leaves -/

/-- Replacing the artifact by what was prepared in a scratch directory has failed. -/
def FailsToReplace (R : System) (s : Store) (home : Key) (name : String) (failure : Failure) :
    Prop :=
  ∃ middle names d d', Path.IsPlain (scratchBeginning name ++ middle) ∧
    (∀ n ∈ names, Path.IsPlain n) ∧
    s.Movable home name middle names (s.preparedPath name middle names) d ∧
    Ends R (s.replaceArtifact name (s.preparedPath name middle names)).run d (.error failure) d'

/-- After a failure nothing visible has changed, or the new artifact stands there and there are no
predictions.  The only other end is that the predictions are gone already when the artifact cannot
be replaced. -/
inductive Failed (R : System) (s : Store) (home : Key) (name : String)
    (makes : ByteArray → Tree → Prop) (d : Disk) (failure : Failure) (d' : Disk) : Prop
  | untouched : s.Touches home name IsUnseen d d' → Failed R s home name makes d failure d'
  | bare {bytes : ByteArray} : d'.get? (s.sheetKey home name) = none →
      makes bytes (d'.tree (s.artifactKey home name)) → Failed R s home name makes d failure d'
  | unreplaced : d'.get? (s.sheetKey home name) = none →
      s.FailsToReplace R home name failure → Failed R s home name makes d failure d'

variable {failure : Failure}

theorem Failed.mono {makes' : ByteArray → Tree → Prop}
    (h : Failed R s home name makes d failure d')
    (hmakes : ∀ bytes tree, makes bytes tree → makes' bytes tree) :
    Failed R s home name makes' d failure d' := by
  cases h with
  | untouched h => exact .untouched h
  | bare hsheet hmade => exact .bare hsheet (hmakes _ _ hmade)
  | unreplaced hsheet hfails => exact .unreplaced hsheet hfails

/-- What touches only what is not seen keeps how a failure has left the fixture. -/
theorem Failed.unseen {parts : Part → Prop} (hapart : s.Apart home name)
    (h : Failed R s home name makes d failure d') (h' : s.Touches home name parts d' d'')
    (hparts : ∀ p, parts p → IsUnseen p) : Failed R s home name makes d failure d'' := by
  have hnot (p : Part) (hp : ¬ IsUnseen p) : ¬ parts p := fun h => hp (hparts p h)
  have hsheet := Touches.sheet_eq hapart h' (hnot _ (by simp [IsUnseen]))
  have hartifact := Touches.artifact_eq hapart h' (hnot _ (by simp [IsUnseen]))
  cases h with
  | untouched h => exact .untouched (h.trans (h'.widen hparts))
  | bare hnone hmade => exact .bare (hsheet.trans hnone) (hartifact ▸ hmade)
  | unreplaced hnone hfails => exact .unreplaced (hsheet.trans hnone) hfails

end Building

end Store

namespace Fixture

variable {M : Type} [Estimator M] {IsExport : M → ServingInputs → Tree → Prop}
variable {R : System} {s : Store} {home : Key} {d d' : Disk} {inputs : InputPair} {spec : Spec}

open Store

/-- What a trained model makes of a fixture: the text of its predictions and its export. -/
def Makes (IsExport : M → ServingInputs → Tree → Prop) (trained : M) (inputs : InputPair)
    (spec : Spec) (bytes : ByteArray) (tree : Tree) : Prop :=
  (∃ sheet, score trained inputs.training spec = .ok sheet ∧ bytes = sheet.written.bytes) ∧
    IsExport trained inputs.serving tree

/-- The check of an export only looks.  What passes it is the directory that was answered: its path
starts with that of the scratch directory, and it leads to a directory. -/
theorem holds_exportCheck {I : Disk → Prop} (directory scratch : Path) (name : String)
    (hd : I d) : Holds Happens I (do
      if directory.startsWith scratch && (← Work.ofAction (Files.isDirectory directory)) then
        return directory
      else throw (.refusal (.strayExport name directory)) : Work Path).run d fun result d' =>
        d' = d ∧ ∀ accepted, result = .ok accepted →
          accepted = directory ∧ directory.startsWith scratch = true ∧ d.Leads directory := by
  have hrefused : d = d ∧ ∀ accepted : Path,
      (throw (.refusal (.strayExport name directory)) : Attempt Path) = .ok accepted →
        accepted = directory ∧ directory.startsWith scratch = true ∧ d.Leads directory :=
    ⟨rfl, fun _ hok => by cases hok⟩
  refine Work.holds_bind (Work.holds_ofAction (Files.holds_isDirectory hd (fun hleads => ?_) ?_))
  · dsimp only
    split
    · rename_i hstarts
      refine Work.holds_pure ⟨rfl, fun accepted hok => ⟨(Except.ok.inj hok).symm, ?_, hleads⟩⟩
      simpa using hstarts
    · exact Work.holds_throw hrefused
  · dsimp only
    rw [Bool.and_false]
    exact Work.holds_throw hrefused

/-- An export that is accepted is complete and lies in the scratch directory. -/
theorem holds_exportInto (hM : Estimator.Exports M IsExport) {trained : M}
    {serving : ServingInputs} {name middle : String}
    (hscratch : Path.IsPlain (scratchBeginning name ++ middle)) (hd : d.Sound)
    (hhome : d.workingDirectory = home)
    (hvacant : d.Vacant (s.artifactDirectory.entry (scratchBeginning name ++ middle))) :
    Holds Happens (s.Touches home name (· = .hidden) d)
      (exportInto trained serving name
        (s.artifactDirectory.entry (scratchBeginning name ++ middle))).run d fun result d' =>
        s.Touches home name (· = .hidden) d d' ∧ ∀ directory, result = .ok directory →
          ∃ names, (∀ n ∈ names, Path.IsPlain n) ∧ directory = s.preparedPath name middle names ∧
            d'.get? (s.preparedKey home name middle names) = some .directory ∧
            IsExport trained serving (d'.tree (s.preparedKey home name middle names)) := by
  have hkey : (s.artifactDirectory.entry (scratchBeginning name ++ middle)).key d.workingDirectory
      = s.artifactDirectory.key home ++ [scratchBeginning name ++ middle] := by
    rw [hhome, Path.key_entry hscratch]
  have hexported {d₁} (h : d.Confined (Inside ((s.artifactDirectory.entry
      (scratchBeginning name ++ middle)).key d.workingDirectory)) Nowhere d₁) :
      s.Touches home name (· = .hidden) d d₁ := by
    refine h.widen fun k hk => ⟨.hidden, rfl, ?_⟩
    obtain ⟨rest, rfl⟩ := hk.below
    rw [hkey]
    exact owns_entry (p := .hidden) (scratchName_hidden name middle) rest
  refine Work.holds_bind (Work.holds_within
    ((hM.holds_exportTo trained serving _ d hd hvacant).mono (fun _ h => hexported h) ?_))
  rintro (failure | directory) d₁ ⟨h₁, hcomplete⟩
  · exact ⟨hexported h₁, fun _ hok => by cases hok⟩
  refine (holds_exportCheck _ _ _ (hexported h₁)).mono (fun _ h => h) ?_
  rintro result _ ⟨rfl, hchecked⟩
  refine ⟨hexported h₁, fun accepted hok => ?_⟩
  obtain ⟨rfl, hstart, hleads⟩ := hchecked accepted hok
  obtain ⟨names, hnames, rfl, hexport⟩ := hcomplete accepted rfl hstart
  rw [hkey] at hexport
  refine ⟨names, hnames, rfl, ?_, hexport⟩
  rw [preparedKey, ← hkey, ← Path.key_descend hnames, ← h₁.home]
  exact hleads.directory

/-- What is needed of a store so that a fixture can be built in it. -/
structure Ready (s : Store) (home : Key) (name : String) : Prop where
  plain : Path.IsPlain name
  apart : s.Apart home name
  absolute : s.artifactDirectory.isAbsolute = true

theorem Ready.site {name : String} (h : Ready s home name) : s.Site home name :=
  ⟨h.plain, fun _ hk => ⟨h.apart .hidden _ (.inr hk), h.apart .artifact _ (.inr hk)⟩⟩

/-- How building a fixture ends. -/
structure Ending (R : System) (s : Store) (home : Key) (name : String)
    (makes : ByteArray → Tree → Prop) (report : Report) (d : Disk) (result : Attempt Report)
    (d' : Disk) : Prop where
  building : Building R s home name makes d d'
  succeeded : ∀ report', result = .ok report' → report' = report ∧ s.Installed home name makes d'
  failed : ∀ failure, result = .error failure → Failed R s home name makes d failure d'

section Ending

variable {name : String} {makes : ByteArray → Tree → Prop} {report : Report} {d'' : Disk}

theorem Ending.error {failure : Failure} (hbuilding : Building R s home name makes d d')
    (hfailed : Failed R s home name makes d failure d') :
    Ending R s home name makes report d (.error failure) d' :=
  ⟨hbuilding, fun _ hok => (by cases hok), fun _ herror => by cases herror; exact hfailed⟩

theorem Ending.untouched {failure : Failure} (hd : d.Sound) (hapart : s.Apart home name)
    (h : s.Touches home name IsUnseen d d') :
    Ending R s home name makes report d (.error failure) d' :=
  .error ((Building.refl hd).unseen hapart h fun _ hp => hp) (.untouched h)

theorem Ending.unseen {parts : Part → Prop} {result : Attempt Report} (hapart : s.Apart home name)
    (h : Ending R s home name makes report d result d') (h' : s.Touches home name parts d' d'')
    (hparts : ∀ p, parts p → IsUnseen p) : Ending R s home name makes report d result d'' := by
  refine ⟨h.building.unseen hapart h' hparts, fun report' hok => ?_, fun failure herror => ?_⟩
  · obtain ⟨hreport, hinstalled⟩ := h.succeeded report' hok
    exact ⟨hreport, Touches.installed hapart h' hparts hinstalled⟩
  · exact (h.failed failure herror).unseen hapart h' hparts

theorem Ending.mono {makes' : ByteArray → Tree → Prop} {result : Attempt Report}
    (h : Ending R s home name makes report d result d')
    (hmakes : ∀ bytes tree, makes bytes tree → makes' bytes tree) :
    Ending R s home name makes' report d result d' := by
  refine ⟨h.building.mono hmakes, fun report' hok => ?_, fun failure herror => ?_⟩
  · obtain ⟨hreport, hinstalled⟩ := h.succeeded report' hok
    exact ⟨hreport, hinstalled.mono hmakes⟩
  · exact (h.failed failure herror).mono hmakes

end Ending

/-- What a run reports that has trained a model. -/
def reportOf (trained : M) (inputs : InputPair) (spec : Spec) (s : Store) : Report :=
  ⟨spec.name, Estimator.name trained, inputs.training.rowCount, s.sheetPath spec.name,
    s.artifactPath spec.name⟩

/-- Putting the export and the predictions in place, with none there at the beginning: whatever was
there before the run, a failure has left as is said. -/
structure Persisted (R : System) (s : Store) (home : Key) (name : String) (bytes : ByteArray)
    (tree : Tree) (report : Report) (d : Disk) (result : Attempt Report) (d' : Disk) : Prop where
  building : Building R s home name (fun text made => text = bytes ∧ made = tree) d d'
  succeeded : ∀ report', result = .ok report' → report' = report ∧
    s.Installed home name (fun text made => text = bytes ∧ made = tree) d'
  failed : ∀ failure, result = .error failure → ∀ start,
    Failed R s home name (fun text made => text = bytes ∧ made = tree) start failure d'

theorem Persisted.error {name : String} {bytes : ByteArray} {tree : Tree} {report : Report}
    {failure : Failure}
    (hbuilding : Building R s home name (fun text made => text = bytes ∧ made = tree) d d')
    (hfailed : ∀ start,
      Failed R s home name (fun text made => text = bytes ∧ made = tree) start failure d') :
    Persisted R s home name bytes tree report d (.error failure) d' :=
  ⟨hbuilding, fun _ hok => (by cases hok), fun _ herror => by cases herror; exact hfailed⟩

/-- Puts an export in place, and then the staged predictions. -/
def persist (trained : M) (inputs : InputPair) (s : Store) (spec : Spec) (staged : StagedSheet)
    (directory : Path) : Work Report := do
  let artifact ← s.replaceArtifact spec.name directory
  let predictions ← staged.rename
  return ⟨spec.name, Estimator.name trained, inputs.training.rowCount, predictions, artifact⟩

theorem install_eq (trained : M) (inputs : InputPair) (s : Store) (spec : Spec)
    (staged : StagedSheet) (scratch : Path) :
    install trained inputs s spec staged scratch = (do
      let directory ← exportInto trained inputs.serving spec.name scratch
      let _ ← s.discardSheet spec.name
      persist trained inputs s spec staged directory) := rfl

section Install

variable (hR : ∀ r d reply d', R r d reply d' → Happens r d reply d')
variable (hready : Ready s home spec.name) {trained : M}
include hR hready

/-- The export is put in place while there are no predictions, and then the predictions are. -/
theorem holds_persist {staged : StagedSheet} {bytes : ByteArray} {middle : String}
    {names : List String} (hscratch : Path.IsPlain (scratchBeginning spec.name ++ middle))
    (hnames : ∀ n ∈ names, Path.IsPlain n) (hd : d.Sound) (hhome : d.workingDirectory = home)
    (hstaged : s.Staged home spec.name bytes staged d)
    (hopen : d.AreDirectories (s.artifactDirectory.trail home))
    (hnone : d.get? (s.sheetKey home spec.name) = none)
    (hfound : d.get? (s.preparedKey home spec.name middle names) = some .directory) :
    Holds R (Building R s home spec.name (fun text tree =>
        text = bytes ∧ tree = d.tree (s.preparedKey home spec.name middle names)) d)
      (persist trained inputs s spec staged (s.preparedPath spec.name middle names)).run d
      fun result d' => Persisted R s home spec.name bytes
        (d.tree (s.preparedKey home spec.name middle names)) (reportOf trained inputs spec s) d
        result d' := by
  have hname := hready.plain
  have hapart := hready.apart
  have hmovable : s.Movable home spec.name middle names (s.preparedPath spec.name middle names) d :=
    movable_of_found hd hhome rfl hopen hopen (fun k hk => hready.site.outside_changes hk) hscratch
      hnames hfound
  have hprepared : s.Prepared home spec.name _ _ := prepared_descend hscratch hnames
  generalize hσ : s.preparedKey home spec.name middle names = σ at hfound hprepared ⊢
  -- The artifact is replaced while there are no predictions.
  have hgone {d₁} (h₁ : Replacing R s home spec.name σ d d₁) :
      d₁.get? (s.sheetKey home spec.name) = none := by
    rw [Touches.sheet_eq hapart (h₁.touches hprepared) (by simp), hnone]
  have hreplacing {d₁} (h₁ : Replacing R s home spec.name σ d d₁) :
      Building R s home spec.name (fun text tree => text = bytes ∧ tree = d.tree σ) d d₁ := by
    refine ⟨(h₁.touches hprepared).widen fun _ _ => trivial, .inl (hgone h₁), fun haside => ?_⟩
    rcases h₁.whole haside with hsame | hvacant | hnew
    · exact .inl hsame
    · exact .inr (.inl hvacant)
    · exact .inr (.inr ⟨bytes, rfl, hnew⟩)
  refine Work.holds_bind (((holds_replaceArtifact hR hready.site hd hhome hopen
    (prepared_descend hscratch hnames) (Path.descend_startsWith _ hnames)).and
    (holds_ends _ d)).mono (fun _ h => hreplacing (hσ ▸ h.1)) ?_)
  rw [hσ]
  rintro (failure | target) d₁ ⟨⟨h₁, hinstalled⟩, hends⟩
  · exact .error (hreplacing h₁) fun _ =>
      .unreplaced (hgone h₁) ⟨_, _, _, _, hscratch, hnames, hmovable, hends⟩
  obtain ⟨rfl, hartifact₁⟩ := hinstalled target rfl
  have hstaged₁ := hstaged.kept hapart (h₁.touches hprepared) (by simp)
  -- The new predictions come.
  refine Work.holds_bind (((holds_commit hname hapart h₁.confined.sound
    (h₁.confined.home.trans hhome) hstaged₁).restrict hR).mono (fun _ h => h ▸ hreplacing h₁) ?_)
  rintro result d₂ ⟨h₂, hcommitted, hpath, hfailed⟩
  have hartifact₂ : d₂.tree (s.artifactKey home spec.name) = d.tree σ := by
    rw [Touches.artifact_eq hapart h₂ (by simp), hartifact₁]
  rcases result with failure | path
  · obtain rfl := hfailed failure rfl
    exact .error (hreplacing h₁) fun _ => .bare (hgone h₁) ⟨rfl, hartifact₂⟩
  · obtain ⟨rfl, hsheet⟩ := hpath path rfl
    have hboth : s.Installed home spec.name
        (fun text tree => text = bytes ∧ tree = d.tree σ) d₂ := ⟨bytes, ⟨rfl, hartifact₂⟩, hsheet⟩
    refine Work.holds_pure ⟨⟨(hreplacing h₁).touches.trans (h₂.widen fun _ _ => trivial),
      .inr (.inr hboth), fun _ => .inr (.inr ⟨bytes, rfl, hartifact₂⟩)⟩, fun report hok => ?_,
      fun _ herror => by cases herror⟩
    cases hok
    exact ⟨rfl, hboth⟩

variable (hM : Estimator.Exports M IsExport)
include hM

/-- Installing puts the export and the staged predictions of the model in place, in an order in
which they never stand beside anything else. -/
theorem holds_install {staged : StagedSheet} {sheet : PredictionSheet} {middle : String}
    {start : Disk} (hscore : score trained inputs.training spec = .ok sheet)
    (hscratch : Path.IsPlain (scratchBeginning spec.name ++ middle))
    (hstart : start.Sound) (h : s.Touches home spec.name IsUnseen start d)
    (hhome : d.workingDirectory = home)
    (hstaged : s.Staged home spec.name sheet.written.bytes staged d)
    (hsheets : d.AreDirectories (s.sheetDirectory.trail home))
    (hartifacts : d.AreDirectories (s.artifactDirectory.trail home))
    (hvacant : d.Vacant (s.artifactDirectory.entry (scratchBeginning spec.name ++ middle))) :
    Holds R (Building R s home spec.name (Makes IsExport trained inputs spec) start)
      (install trained inputs s spec staged
        (s.artifactDirectory.entry (scratchBeginning spec.name ++ middle))).run d
      (Ending R s home spec.name (Makes IsExport trained inputs spec)
        (reportOf trained inputs spec s) start) := by
  have hname := hready.plain
  have hapart := hready.apart
  have hunseen {d' : Disk} (h : s.Touches home spec.name IsUnseen start d') :
      Building R s home spec.name (Makes IsExport trained inputs spec) start d' :=
    (Building.refl hstart).unseen hapart h fun _ hp => hp
  have hhidden {d' : Disk} (h' : s.Touches home spec.name (· = .hidden) d d') :
      s.Touches home spec.name IsUnseen start d' :=
    h.trans (h'.widen fun _ hp => .inr hp)
  rw [install_eq]
  refine Work.holds_bind (((holds_exportInto hM hscratch h.sound hhome hvacant).restrict hR).mono
    (fun _ h => hunseen (hhidden h)) ?_)
  rintro (failure | directory) d₁ ⟨h₁, hexported⟩
  · exact .untouched hstart hapart (hhidden h₁)
  obtain ⟨names, hnames, rfl, hfound, hexport⟩ := hexported directory rfl
  have hhome₁ : d₁.workingDirectory = home := h₁.home.trans hhome
  have hunseen₁ := hhidden h₁
  -- The old predictions go.
  refine Work.holds_bind ((((holds_discardSheet hname h₁.sound hhome₁
    (h₁.areDirectories hapart (fun k hk => .inl hk) hsheets)).and
    (holds_discardSheet_kept s spec.name d₁)).restrict hR).mono
    (fun _ h => h.1 ▸ hunseen hunseen₁) ?_)
  rintro (failure | found) d₂ ⟨⟨h₂, hnone⟩, hkept⟩
  · rw [hkept failure rfl]
    exact .untouched hstart hapart hunseen₁
  replace hnone := hnone found rfl
  have hbuilding₂ :
      Building R s home spec.name (Makes IsExport trained inputs spec) start d₂ := by
    refine ⟨(hunseen₁.widen fun _ _ => trivial).trans (h₂.widen fun _ _ => trivial), .inl hnone,
      fun _ => .inl ?_⟩
    rw [Touches.artifact_eq hapart h₂ (by simp),
      Touches.artifact_eq hapart hunseen₁ (by simp [IsUnseen])]
  have hkept₂ : d₂.tree (s.preparedKey home spec.name middle names)
      = d₁.tree (s.preparedKey home spec.name middle names) :=
    funext fun rest => Touches.eq_own h₂ hapart (by simp)
      ((prepared_descend hscratch hnames : s.Prepared home spec.name _ _).owns rest)
  have hmakes (text tree) (hmade : text = sheet.written.bytes ∧
      tree = d₂.tree (s.preparedKey home spec.name middle names)) :
      Makes IsExport trained inputs spec text tree :=
    ⟨⟨sheet, hscore, hmade.1⟩, by rwa [hmade.2, hkept₂]⟩
  refine (holds_persist hR hready hscratch hnames h₂.sound (h₂.home.trans hhome₁)
    ((hstaged.kept hapart h₁ (by simp)).kept hapart h₂ (by simp)) ?_ hnone ?_).mono
    (fun _ h₃ => hbuilding₂.follow hnone (h₃.mono hmakes)) fun result d₃ h₃ => ?_
  · exact h₂.areDirectories hapart (fun k hk => .inr hk)
      (h₁.areDirectories hapart (fun k hk => .inr hk) hartifacts)
  · simpa [tree, hfound] using congrFun hkept₂ []
  · refine ⟨hbuilding₂.follow hnone (h₃.building.mono hmakes), fun report hok => ?_,
      fun failure herror => (h₃.failed failure herror start).mono hmakes⟩
    obtain ⟨hreport, hinstalled⟩ := h₃.succeeded report hok
    exact ⟨hreport, hinstalled.mono hmakes⟩

/-- The scratch directory is removed whatever came of the installation. -/
theorem holds_installVia {staged : StagedSheet} {sheet : PredictionSheet} {start : Disk}
    (hscore : score trained inputs.training spec = .ok sheet) (hstart : start.Sound)
    (h : s.Touches home spec.name IsUnseen start d) (hhome : d.workingDirectory = home)
    (hstaged : s.Staged home spec.name sheet.written.bytes staged d)
    (hsheets : d.AreDirectories (s.sheetDirectory.trail home)) :
    Holds R (Building R s home spec.name (Makes IsExport trained inputs spec) start)
      (installVia trained inputs s spec staged).run d
      (Ending R s home spec.name (Makes IsExport trained inputs spec)
        (reportOf trained inputs spec s) start) := by
  have hname := hready.plain
  have hapart := hready.apart
  have hunseen {d' : Disk} (h' : s.Touches home spec.name (· = .hidden) d d') :
      s.Touches home spec.name IsUnseen start d' :=
    h.trans (h'.widen fun _ hp => .inr hp)
  refine Work.holds_bind (((holds_newScratch hname h.sound hhome).restrict hR).mono
    (fun _ h => (Building.refl hstart).unseen hapart (hunseen h) fun _ hp => hp) ?_)
  rintro (failure | scratch) d₁ ⟨h₁, hscratch⟩
  · exact .untouched hstart hapart (hunseen h₁)
  obtain ⟨hartifacts, hvacant, middle, hplain, rfl⟩ := hscratch scratch rfl
  rw [absolute_of_isAbsolute hready.absolute] at hvacant ⊢
  refine Work.holds_andThen ((holds_install hR hready hM hscore hplain hstart (hunseen h₁)
    (h₁.home.trans hhome) (hstaged.kept hapart h₁ (by simp))
    (h₁.areDirectories hapart (fun k hk => .inl hk) hsheets) hartifacts hvacant).mono
    (fun _ h => h) ?_)
  intro result d₂ h₂
  have howned : s.Owns home .hidden spec.name
      ((s.artifactDirectory.entry (scratchBeginning spec.name ++ middle)).key home) := by
    rw [Path.key_entry hplain]
    exact owns_self (p := .hidden) (scratchName_hidden spec.name middle)
  have hhidden (p : Part) (hp : p = .hidden) : IsUnseen p := .inr hp
  have hhome₂ : d₂.workingDirectory = home :=
    (h₂.building.touches.home.trans h.home.symm).trans hhome
  exact ((holds_removeScratch h₂.building.touches.sound hhome₂ howned).restrict hR).mono
    (fun _ h₃ => h₂.building.unseen hapart h₃ hhidden) fun _ _ h₃ => h₂.unseen hapart h₃ hhidden

end Install

/-- What a run that builds a fixture makes of it: what the trained model makes. -/
def Builds (IsExport : M → ServingInputs → Tree → Prop) (model : M) (inputs : InputPair)
    (spec : Spec) (bytes : ByteArray) (tree : Tree) : Prop :=
  ∃ trained, Estimator.fit model inputs.training spec.steps = Work.ofAttempt (.ok trained) ∧
    Makes IsExport trained inputs spec bytes tree

/-- What is done with a model that was trained. -/
def finish (trained : M) (inputs : InputPair) (spec : Spec) (s : Store) : Work Report := do
  let sheet ← Work.ofAttempt (score trained inputs.training spec)
  let staged ← s.stage spec.name sheet
  Work.onFailure (installVia trained inputs s spec staged) staged.discard

theorem build_eq (model : M) (inputs : InputPair) (spec : Spec) (s : Store) :
    build model inputs spec s = (do
      let trained ← Work.within (.training spec.name)
        (Estimator.fit model inputs.training spec.steps)
      finish trained inputs spec s) := rfl

theorem holds_finish (hR : ∀ r d reply d', R r d reply d' → Happens r d reply d')
    (hM : Estimator.Exports M IsExport) {trained : M} (hready : Ready s home spec.name)
    (hd : d.Sound) (hhome : d.workingDirectory = home) :
    Holds R (Building R s home spec.name (Makes IsExport trained inputs spec) d)
      (finish trained inputs spec s).run d
      (Ending R s home spec.name (Makes IsExport trained inputs spec)
        (reportOf trained inputs spec s) d) := by
  have hname := hready.plain
  have hapart := hready.apart
  refine Work.holds_bind (Work.holds_ofAttempt ?_)
  cases hscore : score trained inputs.training spec with
  | error failure => exact .untouched hd hapart (.refl hd)
  | ok sheet =>
    have hstaged {d' : Disk} (h : s.Touches home spec.name (· = .staged) d d') :
        s.Touches home spec.name IsUnseen d d' := h.widen fun _ hp => .inl hp
    refine Work.holds_bind (((holds_stage hname hd hhome).restrict hR).mono
      (fun _ h => (Building.refl hd).unseen hapart h fun _ hp => .inl hp) ?_)
    rintro (failure | staged) d₁ ⟨h₁, hfile⟩
    · exact .untouched hd hapart (hstaged h₁)
    obtain ⟨hfile, hsheets⟩ := hfile staged rfl
    refine Work.holds_onFailure ((holds_installVia hR hready hM hscore hd (hstaged h₁)
      (h₁.home.trans hhome) hfile hsheets).mono (fun _ h => h) ?_)
    rintro (failure | report) d₂ h₂
    · have htouches := h₂.building.touches
      exact ((holds_discard htouches.sound (htouches.home.trans hhome) hfile.owned).restrict
        hR).mono (fun _ h₃ => h₂.building.unseen hapart h₃ fun _ hp => .inl hp)
        fun _ _ h₃ => h₂.unseen hapart h₃ fun _ hp => .inl hp
    · exact h₂

/-- Wherever building a fixture is cut off, its predictions are gone, or nothing visible has
changed, or the predictions and the artifact are those of this run; and they are if it succeeds. -/
theorem holds_build (hR : ∀ r d reply d', R r d reply d' → Happens r d reply d')
    (hM : Estimator.Lawful M IsExport) {model : M} (hready : Ready s home spec.name)
    (hd : d.Sound) (hhome : d.workingDirectory = home) :
    Holds R (Building R s home spec.name (Builds IsExport model inputs spec) d)
      (build model inputs spec s).run d fun result d' =>
        Building R s home spec.name (Builds IsExport model inputs spec) d d' ∧
          (∀ report, result = .ok report → ∃ trained,
            Estimator.fit model inputs.training spec.steps = Work.ofAttempt (.ok trained) ∧
            report = reportOf trained inputs spec s ∧
            s.Installed home spec.name (Makes IsExport trained inputs spec) d') ∧
          ∀ failure, result = .error failure →
            Failed R s home spec.name (Builds IsExport model inputs spec) d failure d' := by
  obtain ⟨outcome, hfit⟩ := hM.fit_quiet model inputs.training spec.steps
  rw [build_eq]
  refine Work.holds_bind (Work.holds_within ?_)
  rw [hfit]
  refine Work.holds_ofAttempt ?_
  rcases outcome with failure | trained
  · exact ⟨.refl hd, fun _ hok => (by cases hok), fun _ _ => .untouched (.refl hd)⟩
  have hbuilds (bytes tree) (hmakes : Makes IsExport trained inputs spec bytes tree) :
      Builds IsExport model inputs spec bytes tree := ⟨trained, hfit, hmakes⟩
  exact (holds_finish hR hM.toExports hready hd hhome).mono (fun _ h => h.mono hbuilds)
    fun result d' h => ⟨h.building.mono hbuilds,
      fun report hok => ⟨trained, rfl, h.succeeded report hok⟩, (h.mono hbuilds).failed⟩

end Fixture
end Exemplar
