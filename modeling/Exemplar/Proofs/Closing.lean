/-
How a run that succeeds closes.

The directory that an export has answered is checked by its path only: it must
start with that of the scratch directory, and it may lead up from there.  What is
installed is what stands in that directory then, wherever it is.  Leftovers of the
fixture are the exception, since an installation sweeps them away first.
-/
import Exemplar.Proofs.Refusing
import Exemplar.Proofs.Sessions

namespace Exemplar

open Exemplar.Action Disk Store

/-- An estimator that writes only inside the directory that an export is given.  It may answer
whatever it likes. -/
structure Estimator.Contained (M : Type) [Estimator M] : Prop where
  fit_still : ∀ (model : M) inputs steps (d : Disk), d.Sound →
    Holds Happens (fun _ => True) (Estimator.fit model inputs steps).run d fun _ d' => d' = d
  holds_exportTo : ∀ (model : M) serving base (d : Disk), d.Sound → d.Vacant base →
    Holds Happens (fun _ => True) (Estimator.exportTo model base serving).run d fun _ d' =>
      d.Confined (Inside (base.key d.workingDirectory)) Nowhere d'

theorem Estimator.Lawful.contained {M : Type} [Estimator M]
    {IsExport : M → ServingInputs → Tree → Prop} (h : Estimator.Lawful M IsExport) :
    Estimator.Contained M where
  fit_still model inputs steps d _ := by
    obtain ⟨outcome, hfit⟩ := h.fit_quiet model inputs steps
    rw [hfit]
    exact Work.holds_ofAttempt rfl
  holds_exportTo model serving base d hd hbase :=
    (h.holds_exportTo model serving base d hd hbase).mono (fun _ _ => trivial) fun _ _ h => h.1

namespace Fixture

variable {M : Type} [Estimator M] {R : System} {s : Store} {home : Key} {d d' : Disk}
variable {model : M} {inputs : InputPair} {spec : Spec} {report : Report}

/-! ## How an export is answered -/

/-- A run up to and with its export. -/
structure Exporting (R : System) (model : M) (inputs : InputPair) (spec : Spec) (s : Store)
    (d : Disk) (trained : M) (scratch directory : Path) (d' : Disk) : Prop where
  accepted : directory.startsWith scratch = true
  trains : Ends R (Estimator.fit model inputs.training spec.steps).run d (.ok trained) d
  exports : ∃ sheet staged d₁ d₂, score trained inputs.training spec = .ok sheet ∧
    Ends R (s.stage spec.name sheet).run d (.ok staged) d₁ ∧
    Ends R (s.newScratch spec.name).run d₁ (.ok scratch) d₂ ∧
    Ends R (Estimator.exportTo trained scratch inputs.serving).run d₂ (.ok directory) d'

/-- An export that is accepted is answered as it was made.  Its path starts with that of the scratch
directory and leads to a directory. -/
theorem ends_exportInto (hR : ∀ r d reply d', R r d reply d' → Happens r d reply d') {trained : M}
    {serving : ServingInputs} {name : String} {scratch directory : Path}
    (h : Ends R (exportInto trained serving name scratch).run d (.ok directory) d') :
    Ends R (Estimator.exportTo trained scratch serving).run d (.ok directory) d' ∧
      directory.startsWith scratch = true ∧ d'.Leads directory := by
  obtain ⟨exported, d₁, hexport, h⟩ := Work.ends_bind h
  have hchecked : Holds Happens (fun _ => True) _ d₁ _ := holds_exportCheck exported scratch name
    trivial
  obtain ⟨rfl, hok⟩ := (hchecked.restrict hR).ends h
  obtain ⟨rfl, hstarts, hleads⟩ := hok _ rfl
  exact ⟨Work.ends_within hexport, hstarts, hleads⟩

/-- What is answered as a path from the scratch directory is accepted wherever it leads, if it leads
to a directory: the check compares the components of the paths and follows none. -/
theorem ends_exportInto_join {trained : M} {serving : ServingInputs} {name : String}
    {scratch way : Path} {key : Key} (hscratch : scratch.isAbsolute = true)
    (hway : way.isAbsolute = false)
    (hexport : Ends Faultless (Estimator.exportTo trained scratch serving).run d
      (.ok (scratch.join way)) d')
    (hfound : d'.find (scratch.join way) = .ok (key, .directory)) :
    Ends Faultless (exportInto trained serving name scratch).run d (.ok (scratch.join way)) d' ∧
      key = Key.walk (scratch.key d'.workingDirectory) way.segments := by
  have hstarts := Path.startsWith_join hscratch hway
  constructor
  · have hkind : Faultless (.kindOf (scratch.join way)) d' (some .directory) d' := by
      refine ⟨⟨?_, rfl⟩, ?_⟩
      · rw [answer, hfound]
        rfl
      · rw [Disk.isFaultless, hfound]
        rfl
    refine Action.ends_bind.2 ⟨_, d', Action.ends_bind.2 ⟨_, d', hexport, .done⟩, ?_⟩
    refine Action.ends_bind.2 ⟨.ok true, d', Action.ends_bind.2 ⟨true, d', ?_, .done⟩, ?_⟩
    · exact .after hkind .done
    · show Ends Faultless (ite _ _ _ : Work Path).run d' _ d'
      rw [hstarts]
      exact .done
  · rw [(find_ok hfound).1, Path.key_join hscratch hway]

section Exporting

variable {trained : M} {scratch directory : Path}
variable (hR : ∀ r d reply d', R r d reply d' → Happens r d reply d')
variable (hname : Path.IsPlain spec.name) (hd : d.Sound)
variable (h : Exporting R model inputs spec s d trained scratch directory d')
include hR hname hd h

/-- A run stages its predictions and makes its scratch directory before it exports. -/
theorem Exporting.prepares : ∃ d₁ d₂, s.Touches d.workingDirectory spec.name (· = .staged) d d₁ ∧
    s.NewScratch d.workingDirectory spec.name scratch d₁ d₂ ∧
    Ends R (Estimator.exportTo trained scratch inputs.serving).run d₂ (.ok directory) d' := by
  obtain ⟨sheet, staged, d₁, d₂, -, hstage, hscratch, hexport⟩ := h.exports
  obtain ⟨h₁, -⟩ := ((holds_stage hname hd rfl).restrict hR).ends hstage
  exact ⟨d₁, d₂, h₁, (((holds_newScratch_alone hname h₁.sound h₁.home).restrict hR).ends
    hscratch).2 scratch rfl, hexport⟩

/-- The scratch directory of a run stands among the hidden entries of its fixture. -/
theorem Exporting.scratch_key : scratch.isAbsolute = true ∧ ∃ middle,
    scratch.key d.workingDirectory = s.artifactDirectory.key d.workingDirectory
      ++ [scratchBeginning spec.name ++ middle] := by
  obtain ⟨d₁, d₂, -, hnew, -⟩ := h.prepares hR hname hd
  obtain ⟨middle, hplain, heq, hkey⟩ := hnew.exists_middle
  refine ⟨?_, middle, hkey⟩
  rw [heq, Path.isAbsolute_entry hplain]
  exact isAbsolute_absolute ..

/-- What is answered without leading up lies in the scratch directory. -/
theorem Exporting.inside
    (hparent : .parent ∉ directory.components.drop scratch.components.length) :
    scratch.key d.workingDirectory <+: directory.key d.workingDirectory := by
  obtain ⟨names, hnames⟩ := Path.key_of_startsWith d.workingDirectory
    (h.scratch_key hR hname hd).1 h.accepted hparent
  rw [hnames]
  exact List.prefix_append ..

/-- A complete export is written below the scratch directory. -/
theorem Exporting.no_parent {IsExport : M → ServingInputs → Tree → Prop}
    (hM : Estimator.Exports M IsExport) :
    .parent ∉ directory.components.drop scratch.components.length := by
  obtain ⟨d₁, d₂, -, hnew, hexport⟩ := h.prepares hR hname hd
  obtain ⟨names, hnames, rfl, -⟩ := (((hM.holds_exportTo _ _ _ d₂ hnew.confined.sound
    hnew.vacant).restrict hR).ends hexport).2 directory rfl h.accepted
  rw [Path.components_descend hnames, List.drop_left]
  simp

/-- Until an export has answered, nothing that stood there has changed but staged predictions. -/
theorem Exporting.kept {k : Key} {entry : Entry} (hM : Estimator.Contained M)
    (hk : ¬ s.Owns d.workingDirectory .staged spec.name k) (hentry : d.get? k = some entry) :
    d'.get? k = some entry := by
  obtain ⟨d₁, d₂, h₁, hnew, hexport⟩ := h.prepares hR hname hd
  have hentry₁ : d₁.get? k = some entry := by
    refine Confined.eq_of_some h₁ ?_ hentry
    rintro ⟨p, rfl, howned⟩
    exact hk howned
  have hoff (rest : List String) : k ≠ scratch.key d.workingDirectory ++ rest := by
    intro heq
    rw [heq, h₁.sound.none_below hnew.none_before] at hentry₁
    cases hentry₁
  have hentry₂ : d₂.get? k = some entry :=
    hnew.confined.eq_of_some (by simpa using hoff []) hentry₁
  refine (((hM.holds_exportTo _ _ _ d₂ hnew.confined.sound hnew.vacant).restrict hR).ends
    hexport).eq_of_some ?_ hentry₂
  intro hinside
  obtain ⟨rest, hrest⟩ := hinside.below
  rw [hnew.confined.home, h₁.home] at hrest
  exact hoff rest hrest.symm

end Exporting

/-! ## How a run that succeeds closes -/

/-- What a run that succeeds does once its export has answered a directory. -/
structure Closing (R : System) (s : Store) (home : Key) (name : String) (bytes : ByteArray)
    (middle : String) (scratch directory : Path) (d d' : Disk) : Prop where
  sound : d.Sound
  home_eq : d.workingDirectory = home
  open_trail : d.AreDirectories (s.artifactDirectory.trail home)
  answered : d.get? (directory.key home) = some .directory
  scratch_key : scratch.key home
    = s.artifactDirectory.key home ++ [scratchBeginning name ++ middle]
  scratch_eq : s.artifactDirectory.isAbsolute = true →
    scratch = s.artifactDirectory.entry (scratchBeginning name ++ middle)
  closes : ∃ staged found target predictions d₁ d₂ d₃, s.Staged home name bytes staged d ∧
    Ends R (s.discardSheet name).run d (.ok found) d₁ ∧
    Ends R (s.replaceArtifact name directory).run d₁ (.ok target) d₂ ∧
    Ends R staged.rename.run d₂ (.ok predictions) d₃ ∧
    Ends R (removeScratch scratch) d₃ () d'

/-- A run that succeeds, taken apart where its export has answered. -/
theorem closing_of_ends (hR : ∀ r d reply d', R r d reply d' → Happens r d reply d')
    (hM : Estimator.Contained M) (hname : Path.IsPlain spec.name)
    (hapart : s.Apart d.workingDirectory spec.name) (hd : d.Sound)
    (hends : Ends R (build model inputs spec s).run d (.ok report) d') :
    ∃ trained sheet middle scratch directory d₁, score trained inputs.training spec = .ok sheet ∧
      Exporting R model inputs spec s d trained scratch directory d₁ ∧
      Closing R s d.workingDirectory spec.name sheet.written.bytes middle scratch directory
        d₁ d' := by
  rw [build_eq] at hends
  obtain ⟨trained, d₀, hfit, hfinish⟩ := Work.ends_bind hends
  replace hfit := Work.ends_within hfit
  obtain rfl : d = d₀ := (((hM.fit_still _ _ _ d hd).restrict hR).ends hfit).symm
  obtain ⟨sheet, d₀, hscored, hrest⟩ := Work.ends_bind hfinish
  obtain ⟨hscore, rfl⟩ := Work.ends_ofAttempt hscored
  obtain ⟨staged, d₁, hstage, hrest⟩ := Work.ends_bind hrest
  obtain ⟨scratch, d₂, hscratch, hrest⟩ := Work.ends_bind (Work.ends_onFailure hrest)
  obtain ⟨d₇, hinstall, hremove⟩ := Work.ends_andThen hrest
  rw [install_eq] at hinstall
  obtain ⟨directory, d₃, hexport, hrest⟩ := Work.ends_bind hinstall
  obtain ⟨hexport, hstarts, hleads⟩ := ends_exportInto hR hexport
  obtain ⟨found, d₄, hdiscard, hpersist⟩ := Work.ends_bind hrest
  obtain ⟨target, d₅, hreplace, hrest⟩ := Work.ends_bind hpersist
  obtain ⟨predictions, d₆, hcommit, hdone⟩ := Work.ends_bind hrest
  obtain ⟨-, rfl⟩ := ends_pure.1 hdone
  -- Until the export has answered, only hidden entries and staged predictions are touched.
  obtain ⟨h₁, hstaged⟩ := ((holds_stage hname hd rfl).restrict hR).ends hstage
  obtain ⟨hstaged, -⟩ := hstaged staged rfl
  have hnew := (((holds_newScratch_alone hname h₁.sound h₁.home).restrict hR).ends hscratch).2
    scratch rfl
  obtain ⟨middle, hplain, hscratch_eq, hkey⟩ := hnew.exists_middle
  have howned : s.Owns d.workingDirectory .hidden spec.name (scratch.key d.workingDirectory) := by
    rw [hkey]
    exact owns_self (p := .hidden) (scratchName_hidden spec.name middle)
  have h₂ : s.Touches d.workingDirectory spec.name (· = .hidden) d₁ d₂ :=
    Touches.of_owns hnew.confined (fun k hk => ⟨.hidden, rfl, hk ▸ howned⟩) fun k hk => .inr hk
  have hhome₂ : d₂.workingDirectory = d.workingDirectory := h₂.home.trans h₁.home
  have h₃ : s.Touches d.workingDirectory spec.name (· = .hidden) d₂ d₃ := by
    refine (((hM.holds_exportTo _ _ _ d₂ h₂.sound hnew.vacant).restrict hR).ends hexport).widen
      fun k hk => ⟨.hidden, rfl, ?_⟩
    obtain ⟨rest, rfl⟩ := hk.below
    rw [hhome₂]
    exact howned.below rest
  refine ⟨trained, sheet, middle, scratch, directory, d₃, hscore, ⟨hstarts, hfit, sheet, staged,
    d₁, d₂, hscore, hstage, hscratch, hexport⟩, h₃.sound, h₃.home.trans hhome₂, ?_, ?_, hkey,
    fun habsolute => ?_, staged, found, target, predictions, d₄, d₅, d₇, ?_, hdiscard, hreplace,
    hcommit, hremove⟩
  · exact h₃.areDirectories hapart (fun k hk => .inr hk) hnew.open_trail
  · rw [← hhome₂, ← h₃.home]
    exact hleads.directory
  · rw [hscratch_eq, absolute_of_isAbsolute habsolute]
  · exact (hstaged.kept hapart h₂ (by simp)).kept hapart h₃ (by simp)

/-- Staged predictions stand where an installation makes nothing. -/
theorem spared_of_owns {name : String} {key : Key} (hapart : s.Apart home name)
    (howned : s.Owns home .staged name key) :
    key ∉ s.artifactDirectory.trail home ∧ ¬ s.Changes home name key := by
  refine ⟨fun hk => hapart .staged _ (.inr hk) howned, ?_⟩
  rintro (hhidden | hartifact)
  · cases owns_own hapart howned hhidden
  · cases owns_own hapart howned hartifact

/-- An installation by a run that succeeds.  The old predictions were discarded before, and the new
ones were staged throughout. -/
structure Installs (s : Store) (home : Key) (name : String) (bytes : ByteArray) (directory : Path)
    (key : Key) (d d₁ d₂ : Disk) : Prop where
  discards : d.Confined (· = s.sheetKey home name) Nowhere d₁
  discards_file : d.get? (s.sheetKey home name) = some .directory → d₁ = d
  owned : s.Owns home .staged name key
  before : d₁.AtMost home key (.file bytes)
  replaces : ∃ target, Ends Happens (s.replaceArtifact name directory).run d₁ (.ok target) d₂
  after : d₂.get? key ≠ none

/-- Whatever is installed, the old predictions are discarded before it and the staged ones put in
place after it. -/
theorem Closing.installs {name : String} {bytes : ByteArray} {middle : String}
    {scratch directory : Path}
    (h : Closing R s home name bytes middle scratch directory d d')
    (hR : ∀ r d reply d', R r d reply d' → Happens r d reply d') (hname : Path.IsPlain name)
    (hapart : s.Apart home name) :
    ∃ key d₁ d₂, Installs s home name bytes directory key d d₁ d₂ ∧
      d'.tree (s.artifactKey home name) = d₂.tree (s.artifactKey home name) ∧
      d'.get? (s.sheetKey home name) = some (.file bytes) := by
  obtain ⟨staged, found, target, predictions, d₁, d₂, d₃, hstaged, hdiscard, hreplace, hcommit,
    hremove⟩ := h.closes
  replace hreplace := hreplace.widen hR
  have h₁ := ((holds_discardSheet_alone hname h.sound h.home_eq).restrict hR).ends hdiscard
  have htouches₁ : s.Touches home name (· = .sheet) d d₁ :=
    h₁.widen fun k hk => ⟨.sheet, rfl, hk ▸ owns_sheetKey s home name⟩
  have hstaged₁ := hstaged.kept hapart htouches₁ (by simp)
  have hbefore : d₁.AtMost home (staged.file.key home) (.file bytes) :=
    ⟨h₁.sound, h₁.home.trans h.home_eq, .inr hstaged₁.holds⟩
  -- What can be put in place after the installation was spared by it.
  obtain ⟨hway, haside⟩ := spared_of_owns hapart hstaged.owned
  have hafter := (keeps_replaceArtifact hname hway haside directory).ends hbefore hreplace
  have hfound : d₂.get? (staged.file.key home) ≠ none := by
    rw [← hafter.home_eq]
    exact ((holds_rename_found staged d₂).restrict hR).ends hcommit predictions rfl
  have hstaged₂ : s.Staged home name bytes staged d₂ :=
    ⟨hstaged.target_eq, hstaged.owned, hafter.nothing_else.resolve_left hfound⟩
  obtain ⟨h₃, -, hsheet, -⟩ :=
    ((holds_commit hname hapart hafter.sound hafter.home_eq hstaged₂).restrict hR).ends hcommit
  have h₄ := ((holds_removeScratch h₃.sound (h₃.home.trans hafter.home_eq) (by
    rw [h.scratch_key]
    exact owns_self (p := .hidden) (scratchName_hidden name middle))).restrict hR).ends hremove
  refine ⟨staged.file.key home, d₁, d₂, ⟨h₁, fun hdirectory => ?_, hstaged.owned, hbefore,
    ⟨target, hreplace⟩, hfound⟩, ?_, ?_⟩
  · exact ((holds_discardSheet_directory hname h.home_eq hdirectory).restrict hR).ends hdiscard
  · rw [Touches.artifact_eq hapart h₄ (by simp), Touches.artifact_eq hapart h₃ (by simp)]
  · rw [Touches.sheet_eq hapart h₄ (by simp)]
    exact (hsheet predictions rfl).2

section Installs

variable {name : String} {bytes : ByteArray} {directory : Path} {key : Key} {d₁ d₂ : Disk}
variable (h : Installs s home name bytes directory key d d₁ d₂)
variable (hready : Ready s home name)
variable (htrail : d.AreDirectories (s.artifactDirectory.trail home))
include h hready htrail

theorem Installs.open_trail : d₁.AreDirectories (s.artifactDirectory.trail home) := by
  refine h.discards.areDirectories (fun k hk hsheet => ?_) htrail
  exact hready.apart .sheet k (.inr hk) (hsheet ▸ owns_sheetKey s home name)

/-- What is installed from outside the hidden entries of the fixture has nothing to do with what an
installation changes: what stands in the place of the artifact or leads down to it is refused. -/
theorem Installs.unchanged (hhidden : ¬ s.Owns home .hidden name (directory.key home))
    (rest : List String) : ¬ s.Changes home name (directory.key home ++ rest) := by
  obtain ⟨hway, haside⟩ := spared_of_owns hready.apart h.owned
  obtain ⟨target, hreplace⟩ := h.replaces
  have hopen := h.open_trail hready htrail
  have hartifact := not_owns_of_replaceArtifact hready.plain hway haside h.before hready.site hopen
    hreplace
  have habove := not_above_of_replaceArtifact hready.plain hway haside h.before hready.site hopen
    hreplace
  have hbelow {p : Part} (hp : p.directory s home = s.artifactDirectory.key home)
      (hnot : ¬ s.Owns home p name (directory.key home)) :
      ¬ s.Owns home p name (directory.key home ++ rest) := by
    rintro ⟨entry, hentry, hpre⟩
    rcases List.prefix_or_prefix_of_prefix hpre (List.prefix_append _ _) with hpre | hpre
    · exact hnot ⟨entry, hentry, hpre⟩
    · rcases List.prefix_concat_iff.1 hpre with heq | hpre
      · exact hnot ⟨entry, hentry, heq ▸ List.prefix_refl _⟩
      · exact habove (hp ▸ hpre)
  rintro (howned | howned)
  · exact hbelow rfl hhidden howned
  · exact hbelow rfl hartifact howned

/-- Discarding the old predictions is nothing to a directory that can be installed: where it holds
them, it holds the staged ones too, and these would be gone with it. -/
theorem Installs.tree_discarded (hdirectory : d.get? (directory.key home) = some .directory) :
    d₁.tree (directory.key home) = d.tree (directory.key home) := by
  by_cases hpre : directory.key home <+: s.sheetKey home name
  · rcases List.prefix_concat_iff.1 hpre with heq | habove
    · rw [heq] at hdirectory
      rw [h.discards_file hdirectory]
    · obtain ⟨hway, haside⟩ := spared_of_owns hready.apart h.owned
      obtain ⟨target, hreplace⟩ := h.replaces
      have hgone := gone_of_replaceArtifact hready.plain hway haside h.before hready.site
        (h.open_trail hready htrail) hreplace
      obtain ⟨more, hmore⟩ := habove
      obtain ⟨entry, -, rest, hstaged⟩ := h.owned
      have hkey : directory.key home ++ (more ++ [entry] ++ rest) = key := by
        rw [← hstaged, Part.directory, ← hmore]
        simp only [List.append_assoc]
      exact absurd (hkey ▸ hgone _ (by simp)) h.after
  · refine h.discards.tree_eq (fun rest heq => hpre ?_) fun _ h => h
    rw [← heq]
    exact List.prefix_append ..

end Installs

/-- A directory that a run sweeps away before it installs it: one in a hidden entry of the fixture
that is not the scratch directory. -/
def InLeftover (s : Store) (home : Key) (name : String) (scratch directory : Path) : Prop :=
  s.Owns home .hidden name (directory.key home) ∧ ¬ scratch.key home <+: directory.key home

/-- What is installed is the directory that the export has answered, as it stood there. -/
theorem Closing.tree_eq {name : String} {bytes : ByteArray} {middle : String}
    {scratch directory : Path}
    (h : Closing R s home name bytes middle scratch directory d d')
    (hR : ∀ r d reply d', R r d reply d' → Happens r d reply d') (hready : Ready s home name)
    (hstarts : directory.startsWith scratch = true)
    (hleft : ¬ InLeftover s home name scratch directory) :
    d'.tree (s.artifactKey home name) = d.tree (directory.key home) := by
  obtain ⟨key, d₁, d₂, hinstalls, htree, -⟩ := h.installs hR hready.plain hready.apart
  obtain ⟨target, hreplace⟩ := hinstalls.replaces
  have hsound₁ := hinstalls.before.sound
  have hhome₁ := hinstalls.before.home_eq
  have hopen₁ := hinstalls.open_trail hready h.open_trail
  have hhappens (r : Request) (d reply d') (h : Happens r d reply d') : Happens r d reply d' := h
  rw [htree, ← hinstalls.tree_discarded hready h.open_trail h.answered]
  by_cases hinside : scratch.key home <+: directory.key home
  · -- A path that starts with that of the scratch directory keeps it from being swept.
    obtain ⟨names, hnames⟩ := hinside
    have hprepared : s.Prepared home name directory (s.preparedKey home name middle names) :=
      ⟨by rw [← hnames, h.scratch_key, preparedKey], middle, names, rfl⟩
    rw [h.scratch_eq hready.absolute] at hstarts
    rw [hprepared.key_eq]
    exact (((holds_replaceArtifact hhappens hready.site hsound₁ hhome₁ hopen₁ hprepared
      hstarts).ends hreplace).2 target rfl).2
  · have hhidden : ¬ s.Owns home .hidden name (directory.key home) := fun h => hleft ⟨h, hinside⟩
    have hunchanged := hinstalls.unchanged hready h.open_trail hhidden
    exact (((holds_replaceArtifact_of_source hhappens hready.site (Source.of_unchanged hunchanged)
      (fun rest hleft => hunchanged rest (.inl hleft.owns)) hsound₁ hhome₁ hopen₁).ends
        hreplace).2 target rfl).2

end Fixture
end Exemplar
