/-
What a store has under a name, and what each operation makes of it.

Under a name there are predictions or none and an artifact or none, and beside them predictions that
are staged and a scratch directory may be held.  An operation is asked for under one name.  Where no
fault is met it succeeds, what the name has afterwards follows from what it had before, and of all
that is on the disk only the parts of that name that the operation is about are touched.
-/
import Exemplar.Proofs.Answering

namespace Exemplar
namespace Store

open Exemplar.Action Disk

/-- What a store has under one name. -/
structure Shelf where
  /-- The text of the predictions. -/
  sheet : Option ByteArray := none
  artifact : Option Tree := none
  /-- The text of the predictions that are staged. -/
  staged : Option ByteArray := none
  /-- What is in the scratch directory that is held. -/
  scratch : Option Tree := none

/-- What a store is asked for under one name. -/
inductive Operation where
  | stage (sheet : PredictionSheet)
  | commit
  | drop
  | write (sheet : PredictionSheet)
  | discard
  | read
  | prepare
  /-- The holder of the scratch directory works in it and leaves this there. -/
  | fill (tree : Tree)
  /-- What is at these names below the scratch directory is installed, and the rest removed. -/
  | install (names : List String)
  | release

/-- What is answered to the one who asks. -/
inductive Answer where
  | done (result : Attempt Unit)
  | path (result : Attempt Path)
  | found (result : Attempt Bool)
  | sheet (result : Attempt Csv.Sheet)

/-- An empty directory. -/
def emptyTree : Tree
  | [] => some .directory
  | _ => none

namespace Operation

/-- What there is under the name after an operation. -/
def after (f : Shelf) : Operation → Shelf
  | stage sheet => { f with staged := some sheet.written.bytes }
  | commit => { f with sheet := f.staged, staged := none }
  | drop => { f with staged := none }
  | write sheet => { f with sheet := some sheet.written.bytes }
  | discard => { f with sheet := none }
  | read => f
  | prepare => { f with scratch := some emptyTree }
  | fill tree => { f with scratch := some tree }
  | install names =>
    { f with artifact := f.scratch.map fun tree rest => tree (names ++ rest), scratch := none }
  | release => { f with scratch := none }

def answer (s : Store) (name : String) (f : Shelf) : Operation → Answer
  | stage _ | drop | prepare | fill _ | release => .done (.ok ())
  | commit | write _ => .path (.ok (s.sheetPath name))
  | install _ => .path (.ok (s.artifactPath name))
  | discard => .found (.ok f.sheet.isSome)
  | read => .sheet (s.reading name f.sheet)

/-- The parts of the fixture that an operation touches. -/
def parts : Operation → Part → Prop
  | stage _ | drop => (· = .staged)
  | commit | write _ => fun p => p = .staged ∨ p = .sheet
  | discard => (· = .sheet)
  | read => fun _ => False
  | prepare | fill _ | release => (· = .hidden)
  | install _ => fun p => p = .hidden ∨ p = .artifact

end Operation

/-- The handles that are held under one name. -/
structure Handles where
  staged : Option StagedSheet := none
  scratch : Option Path := none

/-- How an operation is carried out where no fault is met.  There is one staged sheet and one
scratch directory under a name at a time. -/
inductive Performs (s : Store) (name : String) :
    Disk → Handles → Operation → Answer → Disk → Handles → Prop
  | stage {d d' : Disk} {held : Handles} {sheet : PredictionSheet} {result : Attempt StagedSheet} :
      held.staged = none → Ends Faultless (s.stage name sheet).run d result d' →
        Performs s name d held (.stage sheet) (.done (result.map fun _ => ())) d'
          { held with staged := result.toOption }
  | commit {d d' : Disk} {held : Handles} {staged : StagedSheet} {result : Attempt Path} :
      held.staged = some staged → Ends Faultless staged.commit.run d result d' →
        Performs s name d held .commit (.path result) d' { held with staged := none }
  | drop {d d' : Disk} {held : Handles} {staged : StagedSheet} :
      held.staged = some staged → Ends Faultless staged.discard d () d' →
        Performs s name d held .drop (.done (.ok ())) d' { held with staged := none }
  | write {d d' : Disk} {held : Handles} {sheet : PredictionSheet} {result : Attempt Path} :
      held.staged = none → Ends Faultless (s.writeSheet name sheet).run d result d' →
        Performs s name d held (.write sheet) (.path result) d' held
  | discard {d d' : Disk} {held : Handles} {result : Attempt Bool} :
      Ends Faultless (s.discardSheet name).run d result d' →
        Performs s name d held .discard (.found result) d' held
  | read {d d' : Disk} {held : Handles} {result : Attempt Csv.Sheet} :
      Ends Faultless (s.readSheet name).run d result d' →
        Performs s name d held .read (.sheet result) d' held
  | prepare {d d' : Disk} {held : Handles} {result : Attempt Path} :
      held.scratch = none → Ends Faultless (s.newScratch name).run d result d' →
        Performs s name d held .prepare (.done (result.map fun _ => ())) d'
          { held with scratch := result.toOption }
  | fill {d d' : Disk} {held : Handles} {scratch : Path} :
      held.scratch = some scratch →
      d.Confined (scratch.key d.workingDirectory <+: ·) Nowhere d' →
        Performs s name d held (.fill (d'.tree (scratch.key d.workingDirectory)))
          (.done (.ok ())) d' held
  | install {d d' : Disk} {held : Handles} {scratch : Path} {names : List String}
      {result : Attempt Path} :
      held.scratch = some scratch → (∀ n ∈ names, Path.IsPlain n) →
      d.get? ((scratch.descend names).key d.workingDirectory) = some .directory →
      Ends Faultless (Work.andThen (s.replaceArtifact name (scratch.descend names))
        (removeScratch scratch)).run d result d' →
        Performs s name d held (.install names) (.path result) d' { held with scratch := none }
  | release {d d' : Disk} {held : Handles} {scratch : Path} :
      held.scratch = some scratch → Ends Faultless (removeScratch scratch) d () d' →
        Performs s name d held .release (.done (.ok ())) d' { held with scratch := none }

variable {s : Store} {home : Key} {m n name : String} {d d' : Disk} {parts : Part → Prop}

/-! ## What is on the disk -/

/-- The predictions that are on the disk, in a directory to which the way is open. -/
inductive ShowsSheet (s : Store) (home : Key) (name : String) (d : Disk) : Option ByteArray → Prop
  | missing : d.get? (s.sheetKey home name) = none → ShowsSheet s home name d none
  | there {bytes : ByteArray} : d.get? (s.sheetKey home name) = some (.file bytes) →
      d.AreDirectories (s.sheetDirectory.trail home) → ShowsSheet s home name d (some bytes)

/-- The artifact that is on the disk. -/
inductive ShowsArtifact (s : Store) (home : Key) (name : String) (d : Disk) : Option Tree → Prop
  | missing : d.get? (s.artifactKey home name) = none → ShowsArtifact s home name d none
  | there : d.get? (s.artifactKey home name) = some .directory →
      ShowsArtifact s home name d (some (d.tree (s.artifactKey home name)))

/-- The predictions that are in the file that is held. -/
inductive HoldsStaged (s : Store) (home : Key) (name : String) (d : Disk) :
    Option ByteArray → Option StagedSheet → Prop
  | free : HoldsStaged s home name d none none
  | held {bytes : ByteArray} {entry : String} : Path.IsPlain entry →
      d.AreDirectories (s.sheetDirectory.trail home) →
      s.Staged home name bytes ⟨s.sheetDirectory.entry entry, s.sheetPath name⟩ d →
        HoldsStaged s home name d (some bytes)
          (some ⟨s.sheetDirectory.entry entry, s.sheetPath name⟩)

/-- What is in the scratch directory that is held. -/
inductive HoldsScratch (s : Store) (home : Key) (name : String) (d : Disk) :
    Option Tree → Option Path → Prop
  | free : HoldsScratch s home name d none none
  | held {middle : String} : Path.IsPlain (scratchBeginning name ++ middle) →
      d.AreDirectories (s.artifactDirectory.trail home) →
        HoldsScratch s home name d (some (d.tree (s.preparedKey home name middle [])))
          (some (s.artifactDirectory.entry (scratchBeginning name ++ middle)))

/-- A disk has under a name what it is said to have. -/
structure Carries (s : Store) (home : Key) (name : String) (f : Shelf) (held : Handles) (d : Disk) :
    Prop where
  sheet : s.ShowsSheet home name d f.sheet
  artifact : s.ShowsArtifact home name d f.artifact
  staged : s.HoldsStaged home name d f.staged held.staged
  scratch : s.HoldsScratch home name d f.scratch held.scratch

/-- A disk on which both directories of a store are there or can be made. -/
structure Usable (s : Store) (home : Key) (d : Disk) : Prop where
  sound : d.Sound
  home_eq : d.workingDirectory = home
  sheets : d.CanBeMade s.sheetDirectory
  artifacts : d.CanBeMade s.artifactDirectory

theorem ShowsSheet.get? {sheet : Option ByteArray} (h : s.ShowsSheet home name d sheet) :
    d.get? (s.sheetKey home name) = sheet.map .file := by
  cases h with
  | missing hnone => exact hnone
  | there hfile => exact hfile

theorem ShowsSheet.ne_directory {sheet : Option ByteArray} (h : s.ShowsSheet home name d sheet) :
    d.get? (s.sheetKey home name) ≠ some .directory := by
  rw [h.get?]
  cases sheet <;> simp

theorem ShowsSheet.way {sheet : Option ByteArray} (h : s.ShowsSheet home name d sheet) :
    d.AreDirectories (s.sheetDirectory.trail home) ∨ d.get? (s.sheetKey home name) = none := by
  cases h with
  | missing hnone => exact .inr hnone
  | there hfile hopen => exact .inl hopen

theorem ShowsArtifact.tree {artifact : Option Tree} (hd : d.Sound)
    (h : s.ShowsArtifact home name d artifact) :
    d.tree (s.artifactKey home name) = artifact.getD fun _ => none := by
  cases h with
  | missing hnone => exact hd.tree_of_none hnone
  | there => rfl

theorem key_scratch {middle : String} (hplain : Path.IsPlain (scratchBeginning name ++ middle)) :
    (s.artifactDirectory.entry (scratchBeginning name ++ middle)).key home
      = s.preparedKey home name middle [] := by
  rw [Path.key_entry hplain, preparedKey, List.append_nil]

theorem owns_scratch (middle : String) :
    s.Owns home .hidden name (s.preparedKey home name middle []) := by
  rw [preparedKey, List.append_nil]
  exact owns_self (p := .hidden) (scratchName_hidden name middle)

/-! ## What is kept -/

section Kept

variable (hn : IsFixtureName n) (hna : s.Apart home n) (hm : IsFixtureName m)
variable (hma : s.Apart home m) (h : s.Touches home n parts d d')
include hna h

theorem Usable.kept (husable : s.Usable home d) : s.Usable home d' := by
  obtain ⟨hsound, rfl, hsheets, hartifacts⟩ := husable
  have hmade {path : Path} (hway : ∀ k ∈ path.trail d.workingDirectory,
      s.OnTheWay d.workingDirectory k) (hpath : d.CanBeMade path) : d'.CanBeMade path := by
    rw [CanBeMade, h.home]
    refine hpath.imp (h.areDirectories hna hway) fun hclear => ⟨hclear.1, ?_⟩
    exact Confined.areClear h (fun k hk ⟨p, _, howns⟩ => hna p k (hway k hk) howns) hclear.2
  exact ⟨h.sound, h.home, hmade (fun _ hk => .inl hk) hsheets,
    hmade (fun _ hk => .inr hk) hartifacts⟩

include hn hm hma

theorem ShowsSheet.kept {sheet : Option ByteArray} (hother : m = n → ¬ parts .sheet)
    (hsheet : s.ShowsSheet home m d sheet) : s.ShowsSheet home m d' sheet := by
  have hsame := h.eq hn hna hm hma hother (owns_sheetKey s home m)
  cases hsheet with
  | missing hnone => exact .missing (hsame.trans hnone)
  | there hfile hopen =>
    exact .there (hsame.trans hfile) (h.areDirectories hna (fun _ hk => .inl hk) hopen)

theorem ShowsArtifact.kept {artifact : Option Tree} (hother : m = n → ¬ parts .artifact)
    (hartifact : s.ShowsArtifact home m d artifact) : s.ShowsArtifact home m d' artifact := by
  have hsame : d'.tree (s.artifactKey home m) = d.tree (s.artifactKey home m) :=
    funext fun rest => h.eq hn hna hm hma hother (owns_artifactKey s home m rest)
  have htop : d'.get? (s.artifactKey home m) = d.get? (s.artifactKey home m) := by
    simpa [Disk.tree] using congrFun hsame []
  cases hartifact with
  | missing hnone => exact .missing (htop.trans hnone)
  | there hdirectory => exact hsame ▸ .there (htop.trans hdirectory)

theorem HoldsStaged.kept {bytes : Option ByteArray} {staged : Option StagedSheet}
    (hother : m = n → ¬ parts .staged) (hstaged : s.HoldsStaged home m d bytes staged) :
    s.HoldsStaged home m d' bytes staged := by
  cases hstaged with
  | free => exact .free
  | held hentry hopen hholds =>
    refine .held hentry (h.areDirectories hna (fun _ hk => .inl hk) hopen)
      ⟨rfl, hholds.owned, ?_⟩
    rw [h.eq hn hna hm hma hother hholds.owned, hholds.holds]

theorem HoldsScratch.kept {tree : Option Tree} {scratch : Option Path}
    (hother : m = n → ¬ parts .hidden) (hscratch : s.HoldsScratch home m d tree scratch) :
    s.HoldsScratch home m d' tree scratch := by
  cases hscratch with
  | free => exact .free
  | @held middle hplain hopen =>
    have hsame : d'.tree (s.preparedKey home m middle [])
        = d.tree (s.preparedKey home m middle []) :=
      funext fun rest => h.eq hn hna hm hma hother ((owns_scratch middle).below rest)
    exact hsame ▸ .held hplain (h.areDirectories hna (fun _ hk => .inr hk) hopen)

/-- What stands under a name is kept if no part of it is touched. -/
theorem Carries.kept {f : Shelf} {held : Handles} (hother : ∀ p, m = n → ¬ parts p)
    (hcarries : s.Carries home m f held d) : s.Carries home m f held d' :=
  ⟨hcarries.sheet.kept hn hna hm hma h (hother _),
    hcarries.artifact.kept hn hna hm hma h (hother _),
    hcarries.staged.kept hn hna hm hma h (hother _),
    hcarries.scratch.kept hn hna hm hma h (hother _)⟩

end Kept

/-! ## What each operation does -/

/-- An operation has answered as it should and left what it should, and nothing else is touched. -/
structure Done (s : Store) (home : Key) (name : String) (f : Shelf) (operation : Operation)
    (d : Disk) (answer : Answer) (d' : Disk) (held' : Handles) : Prop where
  answer_eq : answer = operation.answer s name f
  touches : s.Touches home name operation.parts d d'
  carries : s.Carries home name (operation.after f) held' d'

section Operations

variable {f : Shelf} {held : Handles}
variable (hname : IsFixtureName name) (hapart : s.Apart home name) (husable : s.Usable home d)
variable (hcarries : s.Carries home name f held d)
include hname hapart husable hcarries

theorem done_stage {sheet : PredictionSheet} {result : Attempt StagedSheet}
    (habsolute : s.sheetDirectory.isAbsolute = true)
    (hends : Ends Faultless (s.stage name sheet).run d result d') :
    s.Done home name f (.stage sheet) d (.done (result.map fun _ => ())) d'
      { held with staged := result.toOption } := by
  obtain ⟨htouches, hopen, entry, hentry, rfl, hstaged⟩ := (holds_stage_faultless hname.isPlain
    hapart husable.sound husable.home_eq habsolute husable.sheets).ends hends
  refine ⟨rfl, htouches, ?_, ?_, .held hentry hopen hstaged, ?_⟩
  · exact hcarries.sheet.kept hname hapart hname hapart htouches fun _ => by simp
  · exact hcarries.artifact.kept hname hapart hname hapart htouches fun _ => by simp
  · exact hcarries.scratch.kept hname hapart hname hapart htouches fun _ => by simp

theorem done_commit {staged : StagedSheet} {result : Attempt Path}
    (hheld : held.staged = some staged) (hends : Ends Faultless staged.commit.run d result d') :
    s.Done home name f .commit d (.path result) d' { held with staged := none } := by
  have hholds := hcarries.staged
  rw [hheld] at hholds
  obtain ⟨sheet, artifact, staged, scratch⟩ := f
  cases hholds with
  | held hentry hopen hstaged =>
    obtain ⟨rfl, htouches, hsheet⟩ := (holds_commit_faultless hname.isPlain hapart husable.sound
      husable.home_eq hentry hopen hstaged hcarries.sheet.ne_directory).ends hends
    refine ⟨rfl, htouches, .there hsheet ?_, ?_, .free, ?_⟩
    · exact htouches.areDirectories hapart (fun _ hk => .inl hk) hopen
    · exact hcarries.artifact.kept hname hapart hname hapart htouches fun _ => by simp
    · exact hcarries.scratch.kept hname hapart hname hapart htouches fun _ => by simp

theorem done_drop {staged : StagedSheet} (hheld : held.staged = some staged)
    (hends : Ends Faultless staged.discard d () d') :
    s.Done home name f .drop d (.done (.ok ())) d' { held with staged := none } := by
  have hholds := hcarries.staged
  rw [hheld] at hholds
  obtain ⟨sheet, artifact, staged, scratch⟩ := f
  cases hholds with
  | held hentry hopen hstaged =>
    have htouches : s.Touches home name (· = .staged) d d' :=
      ((holds_discard husable.sound husable.home_eq hstaged.owned).restrict
        fun _ _ _ _ h => Faultless.happens h).ends hends
    refine ⟨rfl, htouches, ?_, ?_, .free, ?_⟩
    · exact hcarries.sheet.kept hname hapart hname hapart htouches fun _ => by simp
    · exact hcarries.artifact.kept hname hapart hname hapart htouches fun _ => by simp
    · exact hcarries.scratch.kept hname hapart hname hapart htouches fun _ => by simp

/-- Writing predictions is staging them and committing what is staged. -/
theorem done_write {sheet : PredictionSheet} {result : Attempt Path}
    (habsolute : s.sheetDirectory.isAbsolute = true) (hheld : held.staged = none)
    (hends : Ends Faultless (s.writeSheet name sheet).run d result d') :
    s.Done home name f (.write sheet) d (.path result) d' held := by
  obtain ⟨staged, d₁, hstage, hcommit⟩ := Action.ends_bind.1 hends
  have hstaged := done_stage hname hapart husable hcarries habsolute hstage
  have husable₁ := husable.kept hapart hstaged.touches
  obtain ⟨-, -, entry, -, rfl, -⟩ := (holds_stage_faultless hname.isPlain hapart husable.sound
    husable.home_eq habsolute husable.sheets).ends hstage
  have hcommitted := done_commit hname hapart husable₁ hstaged.carries rfl hcommit
  refine ⟨hcommitted.answer_eq, ?_, ?_⟩
  · exact (hstaged.touches.widen fun _ hp => .inl hp).trans hcommitted.touches
  · have hfree := hcarries.staged
    rw [hheld] at hfree
    obtain ⟨sheet, artifact, bytes, scratch⟩ := f
    cases hfree
    obtain ⟨held, scratch⟩ := held
    cases hheld
    exact hcommitted.carries

theorem done_discard {result : Attempt Bool}
    (hends : Ends Faultless (s.discardSheet name).run d result d') :
    s.Done home name f .discard d (.found result) d' held := by
  obtain ⟨rfl, htouches, hnone⟩ := (holds_discardSheet_faultless hname.isPlain hapart husable.sound
    husable.home_eq (husable.home_eq ▸ husable.sheets.areClear) hcarries.sheet.way
    hcarries.sheet.ne_directory).ends hends
  refine ⟨?_, htouches, .missing hnone, ?_, ?_, ?_⟩
  · rw [hcarries.sheet.get?, Option.isSome_map]
    rfl
  · exact hcarries.artifact.kept hname hapart hname hapart htouches fun _ => by simp
  · exact hcarries.staged.kept hname hapart hname hapart htouches fun _ => by simp
  · exact hcarries.scratch.kept hname hapart hname hapart htouches fun _ => by simp

omit hapart in
theorem done_read {result : Attempt Csv.Sheet}
    (hends : Ends Faultless (s.readSheet name).run d result d') :
    s.Done home name f .read d (.sheet result) d' held := by
  obtain ⟨rfl, rfl⟩ := (holds_readSheet_faultless hname.isPlain husable.home_eq
    (husable.home_eq ▸ husable.sheets.areClear) hcarries.sheet.way hcarries.sheet.get?).ends hends
  exact ⟨rfl, .refl husable.sound, hcarries⟩

theorem done_prepare {result : Attempt Path} (habsolute : s.artifactDirectory.isAbsolute = true)
    (hends : Ends Faultless (s.newScratch name).run d result d') :
    s.Done home name f .prepare d (.done (result.map fun _ => ())) d'
      { held with scratch := result.toOption } := by
  obtain ⟨scratch, rfl, hnew⟩ := (holds_newScratch_faultless hname.isPlain hapart husable.sound
    husable.home_eq habsolute husable.artifacts).ends hends
  obtain ⟨middle, hplain, rfl, hkey⟩ := hnew.exists_middle
  rw [absolute_of_isAbsolute habsolute] at hnew hkey ⊢
  rw [key_scratch hplain] at hkey
  have hconfined := hnew.confined
  rw [key_scratch hplain] at hconfined
  have htouches : s.Touches home name (· = .hidden) d d' :=
    Touches.of_owns hconfined (fun k hk => ⟨.hidden, rfl, hk ▸ owns_scratch middle⟩)
      fun k hk => .inr hk
  have hhome : d'.workingDirectory = home := htouches.home.trans husable.home_eq
  have htree : d'.tree (s.preparedKey home name middle []) = emptyTree := by
    rw [← key_scratch hplain, ← hhome]
    funext rest
    cases rest with
    | nil =>
      rw [Disk.tree, List.append_nil]
      exact hnew.vacant.open_trail _ (Path.key_mem_trail _ _)
    | cons entry rest =>
      have hnone := htouches.sound.none_below (hnew.vacant.empty entry) rest
      rwa [List.append_assoc] at hnone
  refine ⟨rfl, htouches, ?_, ?_, ?_, ?_⟩
  · exact hcarries.sheet.kept hname hapart hname hapart htouches fun _ => by simp
  · exact hcarries.artifact.kept hname hapart hname hapart htouches fun _ => by simp
  · exact hcarries.staged.kept hname hapart hname hapart htouches fun _ => by simp
  · show s.HoldsScratch home name d' (some emptyTree) (some _)
    rw [← htree]
    exact .held hplain hnew.open_trail

theorem done_fill {scratch : Path} (hheld : held.scratch = some scratch)
    (hfilled : d.Confined (scratch.key d.workingDirectory <+: ·) Nowhere d') :
    s.Done home name f (.fill (d'.tree (scratch.key d.workingDirectory))) d (.done (.ok ())) d'
      held := by
  have hholds := hcarries.scratch
  rw [hheld] at hholds
  generalize hbytes : f.scratch = tree at hholds
  cases hholds with
  | @held middle hplain hopen =>
    rw [husable.home_eq, key_scratch hplain] at hfilled
    rw [husable.home_eq, key_scratch hplain]
    have htouches : s.Touches home name (· = .hidden) d d' := by
      refine hfilled.widen fun k hk => ⟨.hidden, rfl, ?_⟩
      obtain ⟨rest, rfl⟩ := hk
      exact (owns_scratch middle).below rest
    refine ⟨rfl, htouches, ?_, ?_, ?_, ?_⟩
    · exact hcarries.sheet.kept hname hapart hname hapart htouches fun _ => by simp
    · exact hcarries.artifact.kept hname hapart hname hapart htouches fun _ => by simp
    · exact hcarries.staged.kept hname hapart hname hapart htouches fun _ => by simp
    · rw [hheld]
      exact .held hplain (htouches.areDirectories hapart (fun _ hk => .inr hk) hopen)

theorem done_release {scratch : Path} (hheld : held.scratch = some scratch)
    (hends : Ends Faultless (removeScratch scratch) d () d') :
    s.Done home name f .release d (.done (.ok ())) d' { held with scratch := none } := by
  have hholds := hcarries.scratch
  rw [hheld] at hholds
  generalize hbytes : f.scratch = tree at hholds
  cases hholds with
  | @held middle hplain hopen =>
    have htouches : s.Touches home name (· = .hidden) d d' :=
      ((holds_removeScratch husable.sound husable.home_eq
        (key_scratch hplain ▸ owns_scratch middle)).restrict
          fun _ _ _ _ h => Faultless.happens h).ends hends
    refine ⟨rfl, htouches, ?_, ?_, ?_, .free⟩
    · exact hcarries.sheet.kept hname hapart hname hapart htouches fun _ => by simp
    · exact hcarries.artifact.kept hname hapart hname hapart htouches fun _ => by simp
    · exact hcarries.staged.kept hname hapart hname hapart htouches fun _ => by simp

/-- What is installed is what is at the given names below the scratch directory, as it is. -/
theorem done_install {scratch : Path} {names : List String} {result : Attempt Path}
    (habsolute : s.artifactDirectory.isAbsolute = true) (hheld : held.scratch = some scratch)
    (hnames : ∀ n ∈ names, Path.IsPlain n)
    (hfound : d.get? ((scratch.descend names).key d.workingDirectory) = some .directory)
    (hends : Ends Faultless (Work.andThen (s.replaceArtifact name (scratch.descend names))
      (removeScratch scratch)).run d result d') :
    s.Done home name f (.install names) d (.path result) d' { held with scratch := none } := by
  have hholds := hcarries.scratch
  rw [hheld] at hholds
  obtain ⟨sheet, artifact, bytes, tree⟩ := f
  cases hholds with
  | @held middle hplain hopen =>
    obtain ⟨result₁, d₁, hreplace, hrest⟩ := Action.ends_bind.1 hends
    obtain ⟨_, d₂, hremove, hdone⟩ := Action.ends_bind.1 hrest
    obtain ⟨rfl, rfl⟩ := ends_pure.1 hdone
    have happens (r d reply d') (h : Faultless r d reply d') : Happens r d reply d' := h.happens
    have hsite := hapart.site hname.isPlain
    rw [husable.home_eq, Path.key_descend hnames, Path.key_entry hplain, ← preparedKey] at hfound
    have hmovable := movable_of_found husable.sound husable.home_eq rfl hopen hopen
      (fun k hk => hsite.outside_changes hk) hplain hnames hfound
    obtain ⟨rfl, htree⟩ := (holds_replaceArtifact_absolute hsite hnames hplain hmovable
      habsolute).ends hreplace
    have hprepared : s.Prepared home name _ _ := prepared_descend hplain hnames
    have hreplaced := ((holds_replaceArtifact happens hsite husable.sound husable.home_eq hopen
      hprepared (Path.descend_startsWith _ hnames)).ends hreplace).1.touches hprepared
    have husable₁ := husable.kept hapart hreplaced
    have hremoved : s.Touches home name (· = .hidden) d₁ d' :=
      ((holds_removeScratch husable₁.sound husable₁.home_eq
        (key_scratch hplain ▸ owns_scratch middle)).restrict happens).ends hremove
    have htouches := hreplaced.trans (hremoved.widen fun _ hp => .inl hp)
    have hinstalled : s.ShowsArtifact home name d₁
        (some (d.tree (s.preparedKey home name middle names))) := by
      rw [← htree]
      refine .there ?_
      rw [← List.append_nil (s.artifactKey home name), ← Disk.tree, htree, Disk.tree,
        List.append_nil, hfound]
    have hbelow : d.tree (s.preparedKey home name middle names)
        = fun rest => d.tree (s.preparedKey home name middle []) (names ++ rest) := by
      funext rest
      simp only [Disk.tree, preparedKey, List.append_nil, List.append_assoc]
    refine ⟨rfl, htouches, ?_, ?_, ?_, .free⟩
    · exact hcarries.sheet.kept hname hapart hname hapart htouches fun _ => by simp
    · rw [hbelow] at hinstalled
      exact hinstalled.kept hname hapart hname hapart hremoved fun _ => by simp
    · exact hcarries.staged.kept hname hapart hname hapart htouches fun _ => by simp

end Operations

/-- Every operation does what it is for. -/
theorem Performs.done {f : Shelf} {held held' : Handles} {operation : Operation} {answer : Answer}
    (hsheets : s.sheetDirectory.isAbsolute = true)
    (hartifacts : s.artifactDirectory.isAbsolute = true) (hname : IsFixtureName name)
    (hapart : s.Apart home name) (husable : s.Usable home d)
    (hcarries : s.Carries home name f held d)
    (h : s.Performs name d held operation answer d' held') :
    s.Done home name f operation d answer d' held' := by
  cases h with
  | stage _ hends => exact done_stage hname hapart husable hcarries hsheets hends
  | commit hheld hends => exact done_commit hname hapart husable hcarries hheld hends
  | drop hheld hends => exact done_drop hname hapart husable hcarries hheld hends
  | write hheld hends => exact done_write hname hapart husable hcarries hsheets hheld hends
  | discard hends => exact done_discard hname hapart husable hcarries hends
  | read hends => exact done_read hname husable hcarries hends
  | prepare _ hends => exact done_prepare hname hapart husable hcarries hartifacts hends
  | fill hheld hfilled => exact done_fill hname hapart husable hcarries hheld hfilled
  | install hheld hnames hfound hends =>
    exact done_install hname hapart husable hcarries hartifacts hheld hnames hfound hends
  | release hheld hends => exact done_release hname hapart husable hcarries hheld hends

end Store
end Exemplar
