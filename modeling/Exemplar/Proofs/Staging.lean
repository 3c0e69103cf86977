/-
Scratch directories and staged predictions on a disk on which every request can
fail.

A scratch directory is new and empty.  Predictions are written to a hidden file
while the ones that are visible stay as they are.  Where staging succeeds the
file is complete, and where it is renamed it takes the place of what stood under
the final name.
-/
import Exemplar.Proofs.Exporting

namespace Exemplar

open Exemplar.Action Disk

namespace Store

variable {s : Store} {home : Key} {name : String} {d d' : Disk} {bytes : ByteArray}

/-! ## Scratch directories -/

theorem scratchName_hidden (name middle : String) :
    Part.hidden.Names name (scratchBeginning name ++ middle) := by
  simp [Part.Names, scratchBeginning, List.append_assoc]

/-- A new scratch directory stands where nothing was, and nothing else is made but directories on
the way to that of the artifacts. -/
structure NewScratch (s : Store) (home : Key) (name : String) (scratch : Path) (d d' : Disk) :
    Prop where
  open_trail : d'.AreDirectories (s.artifactDirectory.trail home)
  vacant : d'.Vacant scratch
  exists_middle : ∃ middle, Path.IsPlain (scratchBeginning name ++ middle) ∧
    scratch = (d'.absolute s.artifactDirectory).entry (scratchBeginning name ++ middle) ∧
    scratch.key home = s.artifactDirectory.key home ++ [scratchBeginning name ++ middle]
  none_before : d.get? (scratch.key home) = none
  outside : ∀ k ∈ (d'.absolute s.artifactDirectory).trail home, ¬ scratch.key home <+: k
  confined : d.Confined (· = scratch.key home) (· ∈ s.artifactDirectory.trail home) d'

theorem holds_newScratch_alone (hname : Path.IsPlain name) (hd : d.Sound)
    (hhome : d.workingDirectory = home) :
    Holds Happens (fun d' => s.Touches home name (· = .hidden) d d') (s.newScratch name).run d
      fun result d' => (∀ failure, result = .error failure →
          d.Confined Nowhere (· ∈ s.artifactDirectory.trail home) d') ∧
        ∀ scratch, result = .ok scratch → s.NewScratch home name scratch d d' := by
  subst hhome
  have hmade {d₁} (h : d.Confined Nowhere (· ∈ s.artifactDirectory.trail d.workingDirectory) d₁) :
      s.Touches d.workingDirectory name (· = .hidden) d d₁ :=
    Touches.of_owns h (fun _ hk => hk.elim) fun k hk => .inr hk
  refine Work.holds_bind (Work.holds_within (Work.holds_ofFile
    ((Files.holds_ensureDirectory_alone hd).mono (fun _ h => hmade h) ?_)))
  rintro (error | value) d₁ ⟨h₁, -⟩
  · exact ⟨fun _ _ => h₁, fun _ hok => by cases hok⟩
  have hhome₁ : d₁.workingDirectory = d.workingDirectory := h₁.home
  refine Work.holds_within (Work.holds_ofFile (holds_request (hmade h₁) fun reply d₂ hreply => ?_))
  have hslash : '/' ∉ (scratchBeginning name).toList := by
    simpa [scratchBeginning, hiddenBeginning] using hname.no_slash
  rcases happens_newDirectory hslash hreply with ⟨rfl, error, rfl⟩ | hnew
  · exact ⟨fun _ _ => h₁, fun _ hok => by cases hok⟩
  obtain ⟨middle, hplain, rfl, hopen, hnone, hconfined, htop⟩ := hnew.spec h₁.sound
  rw [String.append_empty] at hplain hnone hconfined htop ⊢
  have hkey : ((d₁.absolute s.artifactDirectory).entry (scratchBeginning name ++ middle)).key
      d.workingDirectory = s.artifactDirectory.key d.workingDirectory
        ++ [scratchBeginning name ++ middle] := by
    rw [Path.key_entry hplain, ← hhome₁, key_absolute h₁.sound.home]
  have hkey₁ : (d₁.absolute s.artifactDirectory).key d₁.workingDirectory
      ++ [scratchBeginning name ++ middle] = ((d₁.absolute s.artifactDirectory).entry
        (scratchBeginning name ++ middle)).key d.workingDirectory := by
    rw [hkey, key_absolute h₁.sound.home, hhome₁]
  rw [hkey₁] at hnone hconfined htop
  have hkept := hnew.open_trail h₁.sound
  have habsolute : d₂.absolute s.artifactDirectory = d₁.absolute s.artifactDirectory := by
    rw [absolute, absolute, hconfined.home]
  refine ⟨fun _ herror => (by cases herror), fun scratch hok => ?_⟩
  cases hok
  refine ⟨fun k hk => ?_, ⟨?_, fun entry => ?_⟩, ⟨middle, hplain, by rw [habsolute], hkey⟩, ?_, ?_,
    ?_⟩
  · rw [← hhome₁] at hk
    exact hkept k (mem_trail_absolute h₁.sound.home hk)
  · rw [hconfined.home, Path.trail_entry hplain]
    intro k hk
    rcases List.mem_append.1 hk with hk | hk
    · exact hkept k hk
    · rw [List.mem_singleton.1 hk, hhome₁]
      exact htop
  · rw [hconfined.home, hhome₁, hconfined.eq (by simp) (fun h => h), h₁.sound.none_below hnone]
  · rcases h₁.same _ (fun h => h) with heq | ⟨-, hnone', -⟩
    · exact heq ▸ hnone
    · exact hnone'
  · rintro k hk ⟨rest, rfl⟩
    rw [habsolute, ← hhome₁] at hk
    have hdirectory := hopen _ hk
    rw [hhome₁, h₁.sound.none_below hnone] at hdirectory
    cases hdirectory
  · exact (h₁.mono (fun _ hk => hk.elim) fun _ hk => .inl hk).trans (hconfined.widen fun _ hk => hk)

/-- A new scratch directory is an empty one in the directory of the artifacts.  Its path is
absolute. -/
theorem holds_newScratch (hname : Path.IsPlain name) (hd : d.Sound)
    (hhome : d.workingDirectory = home) :
    Holds Happens (s.Touches home name (· = .hidden) d) (s.newScratch name).run d
      fun result d' => s.Touches home name (· = .hidden) d d' ∧
        ∀ scratch, result = .ok scratch →
          d'.AreDirectories (s.artifactDirectory.trail home) ∧ d'.Vacant scratch ∧
            ∃ middle, Path.IsPlain (scratchBeginning name ++ middle) ∧
              scratch = (d'.absolute s.artifactDirectory).entry
                (scratchBeginning name ++ middle) := by
  refine (holds_newScratch_alone hname hd hhome).mono (fun _ h => h) fun result d' h => ?_
  rcases result with failure | scratch
  · refine ⟨Touches.of_owns (h.1 failure rfl) (fun _ hk => hk.elim) fun k hk => .inr hk,
      fun _ hok => by cases hok⟩
  · have hnew := h.2 scratch rfl
    obtain ⟨middle, hplain, hscratch, hkey⟩ := hnew.exists_middle
    refine ⟨Touches.of_owns hnew.confined (fun k hk => ⟨.hidden, rfl, ?_⟩) fun k hk => .inr hk,
      fun _ hok => ?_⟩
    · rw [hk, hkey]
      exact owns_self (p := .hidden) (scratchName_hidden name middle)
    · cases hok
      exact ⟨hnew.open_trail, hnew.vacant, middle, hplain, hscratch⟩

/-- Removing a scratch directory touches hidden entries only. -/
theorem holds_removeScratch {scratch : Path} (hd : d.Sound) (hhome : d.workingDirectory = home)
    (howned : s.Owns home .hidden name (scratch.key home)) :
    Holds Happens (s.Touches home name (· = .hidden) d) (removeScratch scratch) d fun _ d' =>
      s.Touches home name (· = .hidden) d d' := by
  have hremoved {d'} (h : d.Confined (scratch.key d.workingDirectory <+: ·) Nowhere d') :
      s.Touches home name (· = .hidden) d d' := by
    refine h.widen fun k hk => ⟨.hidden, rfl, ?_⟩
    obtain ⟨rest, rfl⟩ := hk
    rw [hhome]
    exact howned.below rest
  exact holds_bind.2 (((Files.holds_removeTree_alone hd).mono (fun _ h => hremoved h))
    fun _ _ h => hremoved h.1)

/-! ## Staged predictions -/

/-- Predictions in a hidden file of the fixture. -/
structure Staged (s : Store) (home : Key) (name : String) (bytes : ByteArray)
    (staged : StagedSheet) (d : Disk) : Prop where
  target_eq : staged.target = s.sheetPath name
  owned : s.Owns home .staged name (staged.file.key home)
  holds : d.get? (staged.file.key home) = some (.file bytes)

theorem Staged.kept {parts : Part → Prop} {staged : StagedSheet} (hapart : s.Apart home name)
    (hstaged : s.Staged home name bytes staged d)
    (h : s.Touches home name parts d d') (hparts : ¬ parts .staged) :
    s.Staged home name bytes staged d' :=
  ⟨hstaged.target_eq, hstaged.owned, by
    rw [Touches.eq_own h hapart hparts hstaged.owned, hstaged.holds]⟩

theorem owns_stagedEntry {middle : String} :
    s.Owns home .staged name (s.sheetDirectory.key home
      ++ [stagedBeginning name ++ middle ++ stagedEnding]) := by
  refine owns_self (p := .staged) ⟨?_, ?_⟩
  · simp [List.append_assoc]
  · rw [String.toList_append]
    exact List.suffix_append ..

/-- Removing the hidden file touches nothing else. -/
theorem holds_discard {staged : StagedSheet} (hd : d.Sound) (hhome : d.workingDirectory = home)
    (howned : s.Owns home .staged name (staged.file.key home)) :
    Holds Happens (s.Touches home name (· = .staged) d) staged.discard d fun _ d' =>
      s.Touches home name (· = .staged) d d' := by
  refine holds_bind.2 (holds_request (.refl hd) fun reply d' hreply => ?_)
  refine holds_pure (((happens_removeFile hreply).confined hd
    fun d' hd' => confined_removeFile hd hd').widen fun k hk => ⟨.staged, rfl, ?_⟩)
  rwa [hk, hhome]

/-- Writing to the hidden file touches nothing else. -/
theorem touches_write {path : Path} {content : ByteArray} {reply : Except FileError Unit}
    (hd : d.Sound) (hhome : d.workingDirectory = home)
    (howned : s.Owns home .staged name (path.key home))
    (h : Happens (.write path content) d reply d') : s.Touches home name (· = .staged) d d' := by
  have hwritten {part} (hok : d.write path part = .ok d') :
      s.Touches home name (· = .staged) d d' := by
    refine (confined_write hd hok).widen fun k hk => ⟨.staged, rfl, ?_⟩
    rwa [hk, hhome]
  rcases happens_write h with ⟨-, hok⟩ | ⟨-, rfl | ⟨part, hok⟩⟩
  · exact hwritten hok
  · exact .refl hd
  · exact hwritten hok

/-- Where the predictions cannot be written as a whole, the hidden file is removed. -/
theorem holds_fill (staged : StagedSheet) {content : ByteArray}
    (hd : d.Sound) (hhome : d.workingDirectory = home)
    (howned : s.Owns home .staged name (staged.file.key home))
    (haside : staged.file.key home ∉ s.sheetDirectory.trail home)
    (htrail : d.AreDirectories (s.sheetDirectory.trail home))
    (htarget : staged.target = s.sheetPath name) :
    Holds Happens (s.Touches home name (· = .staged) d)
      (Work.onFailure (Work.within (.serializing name)
        (.ofFile (Action.request (.write staged.file content)))) staged.discard).run d
      fun result d' => s.Touches home name (· = .staged) d d' ∧
        (result = .ok () → s.Staged home name content staged d' ∧
          d'.AreDirectories (s.sheetDirectory.trail home)) := by
  refine Work.holds_onFailure (Work.holds_within (Work.holds_ofFile
    (holds_request (.refl hd) fun reply d' hreply => ?_)))
  have h : s.Touches home name (· = .staged) d d' := touches_write hd hhome howned hreply
  rcases reply with error | value
  · refine (holds_discard h.sound (h.home.trans hhome) howned).mono (fun _ h' => h.trans h')
      fun _ _ h' => ?_
    exact ⟨h.trans h', fun hok => by cases hok⟩
  · rcases happens_write hreply with ⟨-, hok⟩ | ⟨⟨_, herror⟩, -⟩
    · refine ⟨h, fun _ => ⟨⟨htarget, howned, by rw [get?_write hok, hhome, if_pos rfl]⟩, ?_⟩⟩
      refine (confined_write hd hok).areDirectories (fun k hk heq => haside ?_) htrail
      rwa [heq, hhome] at hk
    · cases herror

/-- Staging touches hidden files only, and where it succeeds the file is complete. -/
theorem holds_stage {sheet : PredictionSheet} (hname : Path.IsPlain name) (hd : d.Sound)
    (hhome : d.workingDirectory = home) :
    Holds Happens (s.Touches home name (· = .staged) d) (s.stage name sheet).run d
      fun result d' => s.Touches home name (· = .staged) d d' ∧
        ∀ staged, result = .ok staged →
          s.Staged home name sheet.written.bytes staged d' ∧
            d'.AreDirectories (s.sheetDirectory.trail home) := by
  have htrail (k : Key) (hk : k ∈ s.sheetDirectory.trail home) : s.OnTheWay home k := .inl hk
  have hmade {d₁} (h : d.Confined Nowhere (· ∈ s.sheetDirectory.trail d.workingDirectory) d₁) :
      s.Touches home name (· = .staged) d d₁ :=
    Touches.of_owns h (fun _ hk => hk.elim) fun k hk => htrail k (hhome ▸ hk)
  refine Work.holds_bind (Work.holds_within (Work.holds_ofFile
    ((Files.holds_ensureDirectory_alone hd).mono (fun _ h => hmade h) ?_)))
  rintro (error | value) d₁ ⟨h₁, -⟩
  · exact ⟨hmade h₁, fun _ hok => by cases hok⟩
  replace h₁ := hmade h₁
  refine Work.holds_bind (Work.holds_ofAction ((holds_sweep h₁ ?_).mono (fun _ h => h) ?_))
  · intro entry hentry hstale rest
    rw [hhome]
    exact ⟨.staged, rfl, owns_entry (p := .staged) ((isStaged_entry _ hentry).1 hstale) rest⟩
  intro _ d₂ h₂
  have hhome₂ : d₂.workingDirectory = home := h₂.home.trans hhome
  refine Work.holds_bind (Work.holds_within (Work.holds_ofFile
    (holds_request h₂ fun reply d₃ hreply => ?_)))
  rcases happens_newFile (slash_staged hname) (by decide) hreply with
    ⟨rfl, error, rfl⟩ | hnew
  · exact ⟨h₂, fun _ hok => by cases hok⟩
  obtain ⟨middle, hplain, rfl, -, -, hconfined, hempty⟩ := hnew.spec h₂.sound
  have hkey : (d₂.absolute s.sheetDirectory).key d₂.workingDirectory
      = s.sheetDirectory.key home := by
    rw [key_absolute h₂.sound.home, hhome₂]
  have hfile : ((d₂.absolute s.sheetDirectory).entry
      (stagedBeginning name ++ middle ++ stagedEnding)).key home
        = s.sheetDirectory.key home ++ [stagedBeginning name ++ middle ++ stagedEnding] := by
    rw [Path.key_entry hplain, key_absolute h₂.sound.home, hhome₂]
  have howned : s.Owns home .staged name (((d₂.absolute s.sheetDirectory).entry
      (stagedBeginning name ++ middle ++ stagedEnding)).key home) := by
    rw [hfile]
    exact owns_stagedEntry
  have hcreated : s.Touches home name (· = .staged) d₂ d₃ := by
    refine hconfined.widen fun k hk => ⟨.staged, rfl, ?_⟩
    rw [hk, hkey]
    exact owns_stagedEntry
  have hway : d₃.AreDirectories (s.sheetDirectory.trail home) := by
    intro k hk
    rw [← hhome₂] at hk
    exact hnew.open_trail h₂.sound k (mem_trail_absolute h₂.sound.home hk)
  -- The file is none of the directories on the way.
  have haside : ((d₂.absolute s.sheetDirectory).entry
      (stagedBeginning name ++ middle ++ stagedEnding)).key home
        ∉ s.sheetDirectory.trail home := by
    intro hmem
    rw [hfile] at hmem
    rw [hkey, hway _ hmem] at hempty
    cases hempty
  generalize (d₂.absolute s.sheetDirectory).entry
    (stagedBeginning name ++ middle ++ stagedEnding) = file at howned haside
  refine Work.holds_bind ((holds_fill ⟨file, s.sheetPath name⟩
    (h₂.trans hcreated).sound (hcreated.home.trans hhome₂) howned haside hway rfl).mono
    (fun _ h => (h₂.trans hcreated).trans h) ?_)
  rintro (failure | value) d₄ ⟨h₄, hstaged⟩
  · exact ⟨(h₂.trans hcreated).trans h₄, fun _ hok => by cases hok⟩
  · refine Work.holds_pure ⟨(h₂.trans hcreated).trans h₄, fun staged hok => ?_⟩
    cases hok
    exact hstaged rfl

/-- Discarding that fails changes nothing. -/
theorem holds_discardSheet_kept (s : Store) (name : String) (d : Disk) :
    Holds Happens (· = d) (s.discardSheet name).run d fun result d' =>
      ∀ failure, result = .error failure → d' = d := by
  refine Work.holds_bind (Work.holds_ofAction (holds_request rfl fun reply d' hreply => ?_))
  dsimp only
  split
  · exact fun _ herror => by cases herror
  · exact fun _ herror => by cases herror
  · intro _ _
    rcases happens_removeFile hreply with ⟨hok, -⟩ | ⟨heq, -⟩
    · cases hok
    · exact heq

/-- Discarding changes nothing but what stands under the final name. -/
theorem holds_discardSheet_alone (hname : Path.IsPlain name) (hd : d.Sound)
    (hhome : d.workingDirectory = home) :
    Holds Happens (· = d) (s.discardSheet name).run d fun _ d' =>
      d.Confined (· = s.sheetKey home name) Nowhere d' := by
  refine Work.holds_bind (Work.holds_ofAction (holds_request rfl fun reply d' hreply => ?_))
  have hconfined : d.Confined (· = s.sheetKey home name) Nowhere d' := by
    rw [← key_sheetPath hname, ← hhome]
    exact (happens_removeFile hreply).confined hd fun d' hd' => confined_removeFile hd hd'
  dsimp only
  split
  · exact hconfined
  · exact hconfined
  · exact hconfined

/-- Discarding removes no directory. -/
theorem holds_discardSheet_directory (hname : Path.IsPlain name) (hhome : d.workingDirectory = home)
    (hdirectory : d.get? (s.sheetKey home name) = some .directory) :
    Holds Happens (· = d) (s.discardSheet name).run d fun _ d' => d' = d := by
  refine Work.holds_bind (Work.holds_ofAction (holds_request rfl fun reply d' hreply => ?_))
  have hkept : d' = d := by
    rcases happens_removeFile hreply with ⟨-, hok⟩ | ⟨heq, -⟩
    · obtain ⟨parent, last, bytes, hnames, hfile, -⟩ := removeFile_ok hok
      rw [← hnames.key_eq, hhome, key_sheetPath hname, hdirectory] at hfile
      cases hfile
    · exact heq
  dsimp only
  split
  · exact hkept
  · exact hkept
  · exact hkept

/-- Where discarding succeeds, there are no predictions under the final name. -/
theorem holds_discardSheet (hname : Path.IsPlain name) (hd : d.Sound)
    (hhome : d.workingDirectory = home)
    (htrail : d.AreDirectories (s.sheetDirectory.trail home)) :
    Holds Happens (· = d) (s.discardSheet name).run d fun result d' =>
      s.Touches home name (· = .sheet) d d' ∧
        ∀ found, result = .ok found → d'.get? (s.sheetKey home name) = none := by
  have hkey : (s.sheetPath name).key d.workingDirectory = s.sheetKey home name := by
    rw [hhome, key_sheetPath hname]
  refine Work.holds_bind (Work.holds_ofAction (holds_request rfl fun reply d' hreply => ?_))
  have hsettles := happens_removeFile hreply
  have htouches : s.Touches home name (· = .sheet) d d' := by
    refine (hsettles.confined hd fun d' hd' => confined_removeFile hd hd').widen
      fun k hk => ⟨.sheet, rfl, ?_⟩
    rw [hk, hkey]
    exact owns_sheetKey s home name
  have hremoved (hreply : reply = .ok () ∨ reply = .error .notFound) :
      d'.get? (s.sheetKey home name) = none := by
    rcases hreply with hok | hnotFound
    · obtain ⟨parent, last, bytes, hnames, -, rfl⟩ := removeFile_ok (hsettles.ok hok)
      rw [← hkey, hnames.key_eq, get?_erase (by simp), if_pos rfl]
    · obtain ⟨rfl, hmissing⟩ := hsettles.notFound hnotFound
      rw [← hkey]
      refine removeFile_notFound (Path.text_entry_ne_empty (isPlain_sheet hname)) ?_ hmissing
      rw [sheetPath, parentTrail_entry (isPlain_sheet hname), hhome]
      exact htrail
  dsimp only
  split
  · exact ⟨htouches, fun _ _ => hremoved (.inl rfl)⟩
  · exact ⟨htouches, fun _ _ => hremoved (.inr rfl)⟩
  · exact ⟨htouches, fun _ hok => by cases hok⟩

/-- Predictions that are put in place were found where they had been staged. -/
theorem holds_rename_found (staged : StagedSheet) (d : Disk) :
    Holds Happens (fun _ => True) staged.rename.run d fun result _ =>
      ∀ path, result = .ok path → d.get? (staged.file.key d.workingDirectory) ≠ none := by
  refine Work.holds_bind (Work.holds_within (Work.holds_ofFile
    (holds_request trivial fun reply d' hreply => ?_)))
  rcases happens_rename hreply with ⟨rfl, hok⟩ | ⟨-, error, rfl, -⟩
  · refine Work.holds_pure fun _ _ => ?_
    rcases rename_ok hok with ⟨-, -, hfound⟩ | ⟨old, parent, name, hmoves⟩
    · exact hfound
    · rw [hmoves.old_eq]
      exact hmoves.found
  · exact fun _ hok => by cases hok

/-- Committing puts the staged predictions under the final name, or changes nothing. -/
theorem holds_commit {staged : StagedSheet} (hname : Path.IsPlain name)
    (hapart : s.Apart home name) (hd : d.Sound) (hhome : d.workingDirectory = home)
    (hstaged : s.Staged home name bytes staged d) :
    Holds Happens (· = d) staged.rename.run d fun result d' =>
      s.Touches home name (fun p => p = .staged ∨ p = .sheet) d d' ∧
        (d' = d ∨ d'.get? (s.sheetKey home name) = some (.file bytes)) ∧
          (∀ path, result = .ok path → path = s.sheetPath name ∧
            d'.get? (s.sheetKey home name) = some (.file bytes)) ∧
          ∀ failure, result = .error failure → d' = d := by
  have hsource : staged.file.key d.workingDirectory = staged.file.key home := by rw [hhome]
  have htarget : staged.target.key d.workingDirectory = s.sheetKey home name := by
    rw [hhome, hstaged.target_eq, key_sheetPath hname]
  have hne : staged.file.key home ≠ s.sheetKey home name := by
    intro heq
    have howns := owns_sheetKey s home name
    rw [← heq] at howns
    exact absurd (owns_own hapart hstaged.owned howns) (by simp)
  refine Work.holds_bind (Work.holds_within (Work.holds_ofFile (holds_rename (fun _ _ _ _ h => h)
    hd hsource htarget hne rfl ?_ ?_)))
  · intro d' hconfined hmoved _ _
    have hsheet : d'.get? (s.sheetKey home name) = some (.file bytes) := by
      have := congrFun hmoved []
      simpa [tree, hstaged.holds] using this
    refine Work.holds_pure ⟨hconfined.widen fun k hk => ?_, .inr hsheet, fun path hok => ?_,
      fun _ herror => by cases herror⟩
    · rcases hk with ⟨rest, rfl⟩ | ⟨rest, rfl⟩
      · exact ⟨.staged, .inl rfl, hstaged.owned.below rest⟩
      · exact ⟨.sheet, .inr rfl, (owns_sheetKey s home name).below rest⟩
    · cases hok
      exact ⟨hstaged.target_eq, hsheet⟩
  · exact fun error _ => ⟨.refl hd, .inl rfl, fun _ hok => (by cases hok), fun _ _ => rfl⟩

end Store
end Exemplar
