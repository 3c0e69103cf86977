/-
What a store answers where no fault is met.

Predictions are staged, committed, discarded and read, and artifacts are prepared and installed, as
long as no file is in the way to the directories of the store and what stands under the final names
is of the right kind.  Each operation has one statement: what it answers, what it has put in place,
and which entries of the fixture it touches.
-/
import Exemplar.Proofs.Succeeding
import Exemplar.Proofs.Replacing
import Exemplar.Proofs.Sheets

namespace Exemplar
namespace Store

open Exemplar.Action Disk Files

variable {s : Store} {home : Key} {name entry : String} {d d' : Disk} {bytes : ByteArray}

theorem Apart.site (hapart : s.Apart home name) (hname : Path.IsPlain name) : s.Site home name :=
  ⟨hname, fun _ hk => ⟨hapart .hidden _ (.inr hk), hapart .artifact _ (.inr hk)⟩⟩

/-! ## Predictions -/

/-- Without faults predictions are staged to a new file beside their place, unless the way to their
directory leads through an entry of that kind. -/
theorem holds_stage_open (sheet : PredictionSheet) (hname : Path.IsPlain name) (hd : d.Sound)
    (hhome : d.workingDirectory = home)
    (hstart : d.get? (s.sheetDirectory.start home) = some .directory)
    (hway : d.CanBeMade s.sheetDirectory)
    (haside : ∀ k ∈ s.sheetDirectory.trail home, ¬ s.Owns home .staged name k) :
    Holds Faultless (fun _ => True) (s.stage name sheet).run d fun result d' =>
      ∃ entry, Path.IsPlain entry ∧
        result = .ok ⟨(d'.absolute s.sheetDirectory).entry entry, s.sheetPath name⟩ ∧
        d.Confined (s.Within home name (· = .staged)) (· ∈ s.sheetDirectory.trail home) d' := by
  subst hhome
  refine Work.holds_bind (Work.holds_within (Work.holds_ofFile
    ((holds_ensureDirectory_made hd hstart hway).mono (fun _ _ => trivial) ?_)))
  rintro result d₁ ⟨rfl, h₁, hopen₁⟩
  have hsweep : Holds Happens (d₁.Confined (s.Within d.workingDirectory name (· = .staged)) Nowhere)
      (sweep s.sheetDirectory (isStaged name)) d₁ fun _ d₂ =>
        d₁.Confined (s.Within d.workingDirectory name (· = .staged)) Nowhere d₂ := by
    refine holds_sweep (.refl h₁.sound) fun entry hentry hstale rest => ?_
    rw [h₁.home]
    exact ⟨.staged, rfl, owns_entry (p := .staged) ((isStaged_entry _ hentry).1 hstale) rest⟩
  refine Work.holds_bind (Work.holds_ofAction ((hsweep.restrict
    fun _ _ _ _ h => Faultless.happens h).mono (fun _ _ => trivial) ?_))
  intro _ d₂ h₂
  have hhome₂ : d₂.workingDirectory = d.workingDirectory := h₂.home.trans h₁.home
  have hopen₂ : d₂.AreDirectories (s.sheetDirectory.trail d₂.workingDirectory) := by
    rw [hhome₂]
    exact h₂.areDirectories (fun k hk ⟨p, hp, howns⟩ => haside k hk (hp ▸ howns)) hopen₁
  have habsolute₂ : d₂.AreDirectories
      ((d₂.absolute s.sheetDirectory).trail d₂.workingDirectory) :=
    h₂.sound.areDirectories_absolute hopen₂
  refine Work.holds_bind (Work.holds_within (Work.holds_ofFile
    (holds_request trivial fun reply d₃ hanswer => ?_)))
  have hnew := happens_newFile (slash_staged hname) (by decide) hanswer.happens
  obtain ⟨⟨hreply, -⟩, hfine⟩ := hanswer
  obtain ⟨path, hpath⟩ := newEntry_open (slash_staged hname) (by decide) habsolute₂ hfine
  rw [answer, hpath] at hreply
  rcases hnew with ⟨-, error, rfl⟩ | hnew
  · cases hreply
  obtain ⟨middle, hplain, rfl, -, -, h₃, hmade₃⟩ := hnew.spec h₂.sound
  have howned₃ : s.Owns d.workingDirectory .staged name
      ((d₂.absolute s.sheetDirectory).key d₂.workingDirectory
        ++ [stagedBeginning name ++ middle ++ stagedEnding]) := by
    rw [key_absolute h₂.sound.home, hhome₂]
    exact owns_stagedEntry
  have hopen₃ : d₃.AreDirectories ((d₂.absolute s.sheetDirectory).trail d₃.workingDirectory) := by
    rw [h₃.home]
    exact hnew.open_trail h₂.sound
  have hmade : d.Confined (s.Within d.workingDirectory name (· = .staged))
      (· ∈ s.sheetDirectory.trail d.workingDirectory) d₃ :=
    ((h₁.mono (fun _ hk => hk.elim) fun _ hk => .inl hk).trans
      (h₂.widen fun _ hk => hk)).trans (h₃.widen fun k hk => ⟨.staged, rfl, hk ▸ howned₃⟩)
  refine Work.holds_bind (Work.holds_onFailure (Work.holds_within (Work.holds_ofFile
    (holds_request trivial fun reply d₄ hanswer => ?_))))
  obtain ⟨⟨hreply, hd₄⟩, hfine⟩ := hanswer
  obtain ⟨d₅, hwrite⟩ := write_entry hplain hopen₃ (by rw [h₃.home, hmade₃]; simp) hfine
  rw [answer, hwrite] at hreply hd₄
  obtain rfl : reply = .ok () := hreply
  obtain rfl : d₄ = d₅ := hd₄
  have h₄ := confined_write h₃.sound hwrite
  refine Work.holds_pure ⟨_, hplain, ?_, hmade.trans (h₄.widen fun k hk => ⟨.staged, rfl, ?_⟩)⟩
  · have habsolute : d₄.absolute s.sheetDirectory = d₂.absolute s.sheetDirectory := by
      rw [absolute, absolute, h₄.home, h₃.home]
    rw [habsolute]
  · rwa [hk, h₃.home, Path.key_entry hplain]

/-- Without faults a staged file is renamed to its place. -/
theorem holds_rename_open {base : Path} (hname : Path.IsPlain name) (hentry : Path.IsPlain entry)
    (hhome : d.workingDirectory = home) (hkey : base.key home = s.sheetDirectory.key home)
    (hbase : d.AreDirectories (base.trail home))
    (hopen : d.AreDirectories (s.sheetDirectory.trail home))
    (hfile : d.get? (s.sheetDirectory.key home ++ [entry]) = some (.file bytes))
    (hne : entry ≠ name ++ ".csv") (hfree : d.get? (s.sheetKey home name) ≠ some .directory) :
    Holds Faultless (fun _ => True)
      (StagedSheet.rename ⟨base.entry entry, s.sheetPath name⟩).run d
      fun result _ => result = .ok (s.sheetPath name) := by
  subst hhome
  refine Work.holds_bind (Work.holds_within (Work.holds_ofFile
    (holds_request trivial fun reply d' hanswer => ?_)))
  obtain ⟨⟨hreply, -⟩, hfine⟩ := hanswer
  have hsibling {m n : String} (hne : m ≠ n) :
      ¬ s.sheetDirectory.key d.workingDirectory ++ [m]
        <+: s.sheetDirectory.key d.workingDirectory ++ [n] :=
    fun hpre => hne (sibling_iff.1 (hpre.trans (List.prefix_append _ [])))
  rw [← hkey] at hfile
  have hreplaceable : d.replaceable (Entry.file bytes).kind
      (s.sheetDirectory.key d.workingDirectory ++ [name ++ ".csv"]) = .ok () :=
    replaceable_file hfree
  obtain ⟨d'', hrename⟩ := rename_entry_over hentry (isPlain_sheet hname) hbase hopen hfile
    hreplaceable (by rw [hkey]; exact hsibling hne) (by rw [hkey]; exact hsibling hne.symm) hfine
  rw [answer, sheetPath, hrename] at hreply
  obtain rfl : reply = .ok () := hreply
  exact Work.holds_pure rfl

section Sheets

variable (hname : Path.IsPlain name) (hapart : s.Apart home name) (hd : d.Sound)
variable (hhome : d.workingDirectory = home)
include hname hapart hd hhome

/-- Without faults predictions are staged to a new file beside their place. -/
theorem holds_stage_faultless {sheet : PredictionSheet}
    (habsolute : s.sheetDirectory.isAbsolute = true) (hway : d.CanBeMade s.sheetDirectory) :
    Holds Faultless (s.Touches home name (· = .staged) d) (s.stage name sheet).run d
      fun result d' => s.Touches home name (· = .staged) d d' ∧
        d'.AreDirectories (s.sheetDirectory.trail home) ∧
        ∃ entry, Path.IsPlain entry ∧
          result = .ok ⟨s.sheetDirectory.entry entry, s.sheetPath name⟩ ∧
          s.Staged home name sheet.written.bytes ⟨s.sheetDirectory.entry entry, s.sheetPath name⟩
            d' := by
  have hok := holds_stage_open sheet hname hd hhome (directory_start habsolute _) hway
    fun k hk => hapart .staged k (.inl hk)
  refine (hok.and ((holds_stage hname hd hhome).restrict
    fun _ _ _ _ h => Faultless.happens h)).mono (fun _ h => h.2) ?_
  rintro _ d' ⟨⟨entry, hentry, rfl, -⟩, htouches, hstaged⟩
  rw [absolute_of_isAbsolute habsolute] at hstaged ⊢
  obtain ⟨hstaged, hopen⟩ := hstaged _ rfl
  exact ⟨htouches, hopen, entry, hentry, rfl, hstaged⟩

omit hd in
/-- Without faults staged predictions are renamed to their place. -/
theorem holds_rename_faultless (hentry : Path.IsPlain entry)
    (hopen : d.AreDirectories (s.sheetDirectory.trail home))
    (hstaged : s.Staged home name bytes ⟨s.sheetDirectory.entry entry, s.sheetPath name⟩ d)
    (hfree : d.get? (s.sheetKey home name) ≠ some .directory) :
    Holds Faultless (fun _ => True)
      (StagedSheet.rename ⟨s.sheetDirectory.entry entry, s.sheetPath name⟩).run d
      fun result _ => result = .ok (s.sheetPath name) := by
  have hfile := hstaged.holds
  have howned := hstaged.owned
  rw [Path.key_entry hentry] at hfile howned
  refine holds_rename_open hname hentry hhome rfl hopen hopen hfile (fun heq => ?_) hfree
  rw [heq] at howned
  exact absurd (owns_own hapart howned (owns_sheetKey s home name)) (by simp)

/-- Without faults staged predictions take the place of earlier ones. -/
theorem holds_commit_faultless (hentry : Path.IsPlain entry)
    (hopen : d.AreDirectories (s.sheetDirectory.trail home))
    (hstaged : s.Staged home name bytes ⟨s.sheetDirectory.entry entry, s.sheetPath name⟩ d)
    (hfree : d.get? (s.sheetKey home name) ≠ some .directory) :
    Holds Faultless (· = d)
      (StagedSheet.commit ⟨s.sheetDirectory.entry entry, s.sheetPath name⟩).run d fun result d' =>
        result = .ok (s.sheetPath name) ∧
          s.Touches home name (fun p => p = .staged ∨ p = .sheet) d d' ∧
          d'.get? (s.sheetKey home name) = some (.file bytes) := by
  have hok := holds_rename_faultless hname hapart hhome hentry hopen hstaged hfree
  refine Work.holds_onFailure ((hok.and ((holds_commit hname hapart hd hhome hstaged).restrict
    fun _ _ _ _ h => Faultless.happens h)).mono (fun _ h => h.2) ?_)
  rintro _ d' ⟨rfl, htouches, -, hcommitted, -⟩
  exact ⟨rfl, htouches, (hcommitted _ rfl).2⟩

/-- Without faults predictions are discarded if there are any. -/
theorem holds_discardSheet_faultless (hclear : d.AreClear (s.sheetDirectory.trail home))
    (hway : d.AreDirectories (s.sheetDirectory.trail home) ∨ d.get? (s.sheetKey home name) = none)
    (hfree : d.get? (s.sheetKey home name) ≠ some .directory) :
    Holds Faultless (· = d) (s.discardSheet name).run d fun result d' =>
      result = .ok (d.get? (s.sheetKey home name)).isSome ∧
        s.Touches home name (· = .sheet) d d' ∧ d'.get? (s.sheetKey home name) = none := by
  subst hhome
  have hplain := isPlain_sheet hname
  refine Work.holds_bind (Work.holds_ofAction (holds_request rfl fun reply d' hanswer => ?_))
  obtain ⟨⟨hreply, hd'⟩, hfine⟩ := hanswer
  rcases hsheet : d.get? (s.sheetKey d.workingDirectory name) with _ | _ | bytes
  · have hmissing := removeFile_entry_missing hplain hclear hsheet hfine
    rw [answer, sheetPath, hmissing] at hreply hd'
    obtain rfl : d' = d := hd'
    rw [hreply]
    exact ⟨rfl, .refl hd, hsheet⟩
  · exact absurd hsheet hfree
  · have hopen := hway.resolve_right (by simp [hsheet])
    have hremoved := removeFile_entry hplain hopen hsheet hfine
    have hconfined := confined_removeFile hd hremoved
    rw [answer, sheetPath, hremoved] at hreply hd'
    obtain rfl : d' = d.erase (s.sheetKey d.workingDirectory name) := hd'
    rw [hreply]
    refine ⟨rfl, hconfined.widen fun k hk => ⟨.sheet, rfl, ?_⟩, ?_⟩
    · rw [hk, Path.key_entry hplain]
      exact owns_sheetKey s _ name
    · rw [get?_erase (by simp [sheetKey]), if_pos rfl]

end Sheets

/-- What is read of the predictions of a fixture: those that are there, as far as they can be
parsed, or that there are none. -/
def reading (s : Store) (name : String) : Option ByteArray → Attempt Csv.Sheet
  | none => .error ((Failure.csv (.file .notFound)).within (.opening (s.sheetPath name)))
  | some bytes =>
    match Csv.read bytes.toList with
    | .ok sheet => .ok sheet
    | .error fault =>
      .error ((Failure.csv fault.error).within (readingRecordOf (s.sheetPath name) fault.record))

/-- Without faults predictions are read as they are on the disk. -/
theorem holds_readSheet_faultless (hname : Path.IsPlain name) (hhome : d.workingDirectory = home)
    (hclear : d.AreClear (s.sheetDirectory.trail home))
    (hway : d.AreDirectories (s.sheetDirectory.trail home) ∨ d.get? (s.sheetKey home name) = none)
    {content : Option ByteArray}
    (hcontent : d.get? (s.sheetKey home name) = content.map .file) :
    Holds Faultless (· = d) (s.readSheet name).run d fun result d' =>
      result = s.reading name content ∧ d' = d := by
  subst hhome
  have hplain := isPlain_sheet hname
  refine Work.holds_bind (Work.holds_ofAction (holds_request rfl fun reply d' hanswer => ?_))
  obtain ⟨⟨hreply, hd'⟩, hfine⟩ := hanswer
  obtain rfl : d' = d := hd'
  rcases content with _ | bytes
  · have hmissing := find_entry_missing hplain hclear hcontent hfine
    rw [answer, readFile, sheetPath, hmissing] at hreply
    rw [hreply]
    exact ⟨rfl, rfl⟩
  · have hopen := hway.resolve_right (by simp [hcontent])
    have hfind := find_entry hplain hopen hfine
    rw [← sheetKey, hcontent] at hfind
    rw [answer, readFile, sheetPath, hfind] at hreply
    obtain rfl : reply = .ok bytes := hreply
    cases hparse : Csv.read bytes.toList with
    | ok sheet =>
      simp only [reading, hparse]
      exact ⟨rfl, rfl⟩
    | error fault =>
      simp only [reading, hparse]
      exact ⟨rfl, rfl⟩

/-! ## Artifacts -/

/-- Without faults a scratch directory is made. -/
theorem holds_newScratch_faultless (hname : Path.IsPlain name) (hapart : s.Apart home name)
    (hd : d.Sound) (hhome : d.workingDirectory = home)
    (habsolute : s.artifactDirectory.isAbsolute = true) (hway : d.CanBeMade s.artifactDirectory) :
    Holds Faultless (s.Touches home name (· = .hidden) d) (s.newScratch name).run d
      fun result d' => ∃ scratch, result = .ok scratch ∧ s.NewScratch home name scratch d d' := by
  subst hhome
  have happens (r d reply d') (h : Faultless r d reply d') : Happens r d reply d' := h.happens
  have hok : Holds Faultless (fun _ => True) (s.newScratch name).run d
      fun result _ => ∃ scratch, result = .ok scratch := by
    refine Work.holds_bind (Work.holds_within (Work.holds_ofFile
      ((holds_ensureDirectory_made hd (directory_start habsolute _) hway).mono
        (fun _ _ => trivial) ?_)))
    rintro result d₁ ⟨rfl, h₁, hopen₁⟩
    refine Work.holds_within (Work.holds_ofFile (holds_request trivial fun reply d₂ hanswer => ?_))
    have hslash : '/' ∉ (scratchBeginning name).toList := by
      simpa [scratchBeginning, hiddenBeginning] using hname.no_slash
    obtain ⟨⟨hreply, -⟩, hfine⟩ := hanswer
    obtain ⟨path, hpath⟩ := newEntry_open hslash (by simp)
      (by rwa [absolute_of_isAbsolute habsolute, h₁.home]) hfine
    rw [answer] at hreply
    rw [scratchBeginning] at hpath
    rw [hreply, hpath]
    exact ⟨path, rfl⟩
  refine (hok.and ((holds_newScratch_alone hname hd rfl).restrict happens)).mono
    (fun _ h => h.2) ?_
  rintro _ d' ⟨⟨scratch, rfl⟩, -, hnew⟩
  exact ⟨scratch, rfl, hnew _ rfl⟩

end Store
end Exemplar
