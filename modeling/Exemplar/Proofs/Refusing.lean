/-
What an installation refuses.

An installation that succeeds has moved a directory to its place, at which there
was nothing then.  So it has installed nothing that stood in that place before,
and nothing that leads down to it: such a directory cannot be renamed into
itself, and a copy of it finds itself and goes on until paths are too long.  And
what was below the directory that was moved is there no more.
-/
import Exemplar.Proofs.Sparing

namespace Exemplar

open Exemplar.Action Disk

/-! ## Runs that keep a property -/

theorem Action.Keeps.ends {α : Type} {I : Disk → Prop} {program : Action α} {value : α}
    {d d' : Disk} (h : Keeps I program) (hd : I d) (hends : Ends Happens program d value d') :
    I d' := (h d hd).ends hends

/-- A loop that succeeds has gone through each of its elements. -/
theorem Work.ends_forM {α : Type} {I : Disk → Prop} {xs : List α} {pass : α → Work PUnit}
    {x : α} {d d' : Disk} (h : Ends Happens (xs.forM pass).run d (.ok ⟨⟩) d') (hd : I d)
    (hkeeps : ∀ y ∈ xs, Keeps I (pass y).run) (hx : x ∈ xs) :
    ∃ d₁ d₂, I d₁ ∧ Ends Happens (pass x).run d₁ (.ok ⟨⟩) d₂ := by
  induction xs generalizing d with
  | nil => cases hx
  | cons y rest ih =>
    obtain ⟨hy, hrest⟩ := List.forall_mem_cons.1 hkeeps
    obtain ⟨_, d₁, hfirst, hmore⟩ := Work.ends_bind h
    rcases List.mem_cons.1 hx with rfl | hx
    · exact ⟨d, d₁, hd, hfirst⟩
    · exact ih hmore (hy.ends hd hfirst) hrest hx

/-- What is done next counts only where the work before it can end. -/
theorem Work.ends_bind_congr {α β : Type} {R : System} {work : Work α} {next next' : α → Work β}
    {d d' : Disk} {result : Attempt β}
    (h : ∀ value d₁, Ends R work.run d (.ok value) d₁ →
      (Ends R (next value).run d₁ result d' ↔ Ends R (next' value).run d₁ result d')) :
    Ends R (work >>= next).run d result d' ↔ Ends R (work >>= next').run d result d' := by
  have hrest (middle : Attempt α) (d₁ : Disk) (hwork : Ends R work.run d middle d₁) :
      Ends R (ExceptT.bindCont next middle) d₁ result d' ↔
        Ends R (ExceptT.bindCont next' middle) d₁ result d' := by
    cases middle with
    | error failure => rfl
    | ok value => exact h value d₁ hwork
  constructor
  · intro hends
    obtain ⟨middle, d₁, hwork, hnext⟩ := Action.ends_bind.1 hends
    exact Action.ends_bind.2 ⟨middle, d₁, hwork, (hrest middle d₁ hwork).1 hnext⟩
  · intro hends
    obtain ⟨middle, d₁, hwork, hnext⟩ := Action.ends_bind.1 hends
    exact Action.ends_bind.2 ⟨middle, d₁, hwork, (hrest middle d₁ hwork).2 hnext⟩

theorem Work.ends_forM_congr {α : Type} {I : Disk → Prop} {xs : List α}
    {pass pass' : α → Work PUnit} {d d' : Disk} {result : Attempt PUnit} (hd : I d)
    (hkeeps : ∀ x ∈ xs, Keeps I (pass x).run)
    (h : ∀ x ∈ xs, ∀ d, I d → ∀ result d',
      Ends Happens (pass x).run d result d' ↔ Ends Happens (pass' x).run d result d') :
    Ends Happens (xs.forM pass).run d result d' ↔ Ends Happens (xs.forM pass').run d result d' := by
  induction xs generalizing d with
  | nil => rfl
  | cons x rest ih =>
    obtain ⟨hx, hrest⟩ := List.forall_mem_cons.1 hkeeps
    obtain ⟨hsame, hsames⟩ := List.forall_mem_cons.1 h
    have hfirst : Ends Happens ((x :: rest).forM pass).run d result d' ↔
        Ends Happens (pass x >>= fun _ => rest.forM pass').run d result d' :=
      Work.ends_bind_congr fun _ d₁ hpass => ih (hx.ends hd hpass) hrest hsames
    rw [hfirst]
    constructor
    · intro hends
      obtain ⟨middle, d₁, hpass, hmore⟩ := Action.ends_bind.1 hends
      exact Action.ends_bind.2 ⟨middle, d₁, (hsame d hd middle d₁).1 hpass, hmore⟩
    · intro hends
      obtain ⟨middle, d₁, hpass, hmore⟩ := Action.ends_bind.1 hends
      exact Action.ends_bind.2 ⟨middle, d₁, (hsame d hd middle d₁).2 hpass, hmore⟩

theorem Disk.shrinks_of_ends {α : Type} {program : Action α} {value : α} {d d' : Disk}
    (hasks : Asks Request.MakesNothing program) (h : Ends Happens program d value d') :
    d.Shrinks d' := by
  have hshrinks : Holds Happens d.Shrinks program d fun _ d' => d.Shrinks d' :=
    holds_asks hasks (.refl d) fun _ _ _ _ hr hd hreply => hd.trans (happens_shrinks hr hreply)
  exact hshrinks.ends h

theorem Disk.Shrinks.none {d d' : Disk} {k : Key} (h : d.Shrinks d') (hnone : d.get? k = none) :
    d'.get? k = none := by
  rcases h k with h | h
  · exact h
  · exact h.trans hnone

/-! ## Removing -/

namespace Files

variable {d d' : Disk} {path top : Path}

/-- An entry is gone where removing it succeeds. -/
theorem holds_removeEntry_gone (hd : d.Sound) (kind : Kind) :
    Holds Happens (fun _ => True) (removeEntry path kind) d fun result d' =>
      d'.Sound ∧ d'.workingDirectory = d.workingDirectory ∧
        (result = .ok () → d'.get? (path.key d.workingDirectory) = none) := by
  cases kind with
  | directory =>
    refine holds_request trivial fun reply d' hreply => ?_
    have hsettles := happens_removeDirectory hreply
    have h' := hsettles.confined hd fun _ hok => confined_removeDirectory hd hok
    refine ⟨h'.sound, h'.home, fun hok => ?_⟩
    obtain ⟨parent, name, hname, -, -, rfl⟩ := removeDirectory_ok (hsettles.ok hok)
    rw [hname.key_eq, get?_erase (by simp), if_pos rfl]
  | file =>
    refine holds_request trivial fun reply d' hreply => ?_
    have hsettles := happens_removeFile hreply
    have h' := hsettles.confined hd fun _ hok => confined_removeFile hd hok
    refine ⟨h'.sound, h'.home, fun hok => ?_⟩
    obtain ⟨parent, name, bytes, hname, -, rfl⟩ := removeFile_ok (hsettles.ok hok)
    rw [hname.key_eq, get?_erase (by simp), if_pos rfl]

/-- Entries that are removed one by one are gone. -/
theorem gone_of_removeEntries {below : List (List String × Kind)} (hd : d.Sound)
    (hplain : ∀ e ∈ below, ∀ n ∈ e.1, Path.IsPlain n)
    (h : Ends Happens (removeEntries top below) d (.ok ()) d') :
    ∀ e ∈ below, d'.get? (top.key d.workingDirectory ++ e.1) = none := by
  induction below generalizing d with
  | nil => simp
  | cons e rest ih =>
    obtain ⟨names, kind⟩ := e
    obtain ⟨hnames, hrest⟩ := List.forall_mem_cons.1 hplain
    obtain ⟨result, d₁, hone, hmore⟩ := ends_bind.1 h
    obtain ⟨hsound, hhome, hgone⟩ := (holds_removeEntry_gone hd kind).ends hone
    rw [Path.key_descend hnames] at hgone
    rcases result with error | value
    · cases hmore
    refine List.forall_mem_cons.2 ⟨?_, ?_⟩
    · exact (shrinks_of_ends (asks_removeEntries top rest) hmore).none (hgone rfl)
    · rw [← hhome]
      exact ih hsound hrest hmore

/-- What is emptied has nothing below it. -/
theorem gone_of_empty {k : Key} (hd : d.Sound) (hk : ∀ n ∈ k, Path.IsPlain n)
    (h : Ends Happens (empty (pathOf k)) d (.ok ()) d') :
    ∀ rest, rest ≠ [] → d'.get? (k ++ rest) = none := by
  obtain ⟨walked, d₁, hwalked, hremoved⟩ := ends_bind.1 h
  obtain ⟨rfl, hwalk⟩ := happens_walk (ends_request.1 hwalked)
  cases walked with
  | error error => cases hremoved
  | ok below =>
    obtain ⟨-, hlists⟩ := walk_ok hd (hwalk below rfl)
    have hgone := gone_of_removeEntries hd (fun e he n hn => ?_) hremoved
    swap
    · obtain ⟨-, entry, hentry, -⟩ := (hlists.mem_iff e.1 e.2).1 (List.mem_reverse.1 he)
      exact hd.plain_of_get? (by rw [hentry]; simp) n (List.mem_append_right _ hn)
    rw [key_pathOf hk] at hlists hgone
    intro rest hne
    cases hentry : d₁.get? (k ++ rest) with
    | none => exact (shrinks_of_ends (asks_removeEntries _ _) hremoved).none hentry
    | some entry =>
      have hmem := (hlists.mem_iff rest entry.kind).2 ⟨hne, entry, hentry, rfl⟩
      exact hgone (rest, entry.kind) (List.mem_reverse.2 hmem)

/-- Where removing succeeds, there was a directory, and nothing is left below it. -/
theorem gone_of_removeTree (hd : d.Sound) (h : Ends Happens (removeTree path) d (.ok ()) d') :
    d.get? (path.key d.workingDirectory) = some .directory ∧
      ∀ rest, rest ≠ [] → d'.get? (path.key d.workingDirectory ++ rest) = none := by
  obtain ⟨found, d₁, hlocated, hrest⟩ := ends_bind.1 h
  obtain ⟨rfl, hlocate⟩ := happens_locate (ends_request.1 hlocated)
  cases found with
  | error error => cases hrest
  | ok top =>
    obtain ⟨hleads, rfl⟩ := locate_ok (hlocate top rfl)
    refine ⟨hleads.directory, fun rest hne => ?_⟩
    obtain ⟨emptied, d₂, hempty, hlast⟩ := ends_bind.1 hrest
    cases emptied with
    | error error => cases hlast
    | ok value =>
      have hasks : Asks Request.MakesNothing (removeEmptied path) := by
        refine asks_bind (asks_request trivial) fun result => ?_
        split <;> exact asks_pure _
      have hplain := hd.plain_of_get? (by rw [hleads.directory]; simp)
      exact (shrinks_of_ends hasks hlast).none (gone_of_empty hd hplain hempty rest hne)

end Files

/-! ## Copying -/

namespace Store

variable {s : Store} {home key : Key} {name : String} {entry : Entry} {d d' : Disk}
variable {source target prepared : Path}

/-- The entries of a directory are told by names that can be appended to a path. -/
theorem shows_of_entries {path : Path} {found : List (String × Kind)} (hd : d.Sound)
    (h : Ends Happens (Files.entries path) d (.ok found) d') :
    d' = d ∧ d.Shows (path.key d.workingDirectory) found ∧ ∀ e ∈ found, Path.IsPlain e.1 := by
  have htold : Holds Happens (fun _ => True) (Files.entries path) d fun result d' =>
      d' = d ∧ ∀ found, result = .ok found → d.Shows (path.key d.workingDirectory) found := by
    refine Files.holds_entries hd trivial (fun _ _ hshows => ⟨rfl, fun _ hok => ?_⟩)
      fun _ => ⟨rfl, fun _ hok => by cases hok⟩
    cases hok
    exact hshows
  obtain ⟨heq, hshows⟩ := htold.ends h
  refine ⟨heq, hshows found rfl, fun e he => ?_⟩
  obtain ⟨entry, hentry, -⟩ := (hshows found rfl e.1 e.2).1 he
  exact hd.plain_of_get? (by rw [hentry]; simp) e.1 (by simp)

theorem leads_of_copyEntry (hd : d.Sound) (hne : target.text ≠ "")
    (h : Ends Happens (copyEntry source target .directory).run d (.ok ⟨⟩) d') :
    d.Confined Nowhere (· ∈ target.trail d.workingDirectory) d' ∧ d'.Leads target := by
  obtain ⟨h', hleads⟩ := (Files.holds_ensureDirectory_alone hd).ends
    (Work.ends_ofFile (Work.ends_within h))
  exact ⟨h', hleads hne rfl⟩

theorem directory_of_copyEntry (hd : d.AtMost home key entry) (hne : target.text ≠ "")
    (h : Ends Happens (copyEntry source target .directory).run d (.ok ⟨⟩) d') :
    d.Confined Nowhere (· ∈ target.trail home) d' ∧
      d'.get? (target.key home) = some .directory := by
  obtain ⟨h', hleads⟩ := leads_of_copyEntry hd.sound hne h
  have hdirectory := hleads.directory
  rw [h'.home, hd.home_eq] at hdirectory
  rw [hd.home_eq] at h'
  exact ⟨h', hdirectory⟩

theorem keeps_sound_copyEntry (source target : Path) (kind : Kind) :
    Keeps Sound (copyEntry source target kind).run := by
  cases kind with
  | directory =>
    exact Work.keeps_within (Work.keeps_ofFile (keeps_sound
      (Files.asks_makeDirectories (fun _ _ => trivial) fun _ _ _ => trivial)))
  | file =>
    refine Work.keeps_within (Work.keeps_ofFile (keeps_sound
      (asks_bind (asks_request trivial) fun found => ?_)))
    cases found with
    | error error => exact asks_pure _
    | ok bytes => exact asks_request trivial

theorem keeps_sound_copyBelow (levels : Nat) (source target : Path) :
    Keeps Sound (copyBelow levels source target).run := by
  induction levels generalizing source target with
  | zero => exact Work.keeps_within (keeps_pure _)
  | succ levels ih =>
    refine Work.keeps_bind (Work.keeps_within (Work.keeps_ofFile (keeps_sound
      (asks_bind (asks_request trivial) fun _ => asks_pure _)))) fun found => ?_
    refine Work.keeps_forM fun e _ => Work.keeps_bind (keeps_sound_copyEntry _ _ _) fun _ => ?_
    split
    · exact ih _ _
    · exact keeps_pure _

/-- A copy does not run out of levels: each of them makes the path longer, and one that is too long
is refused by the system. -/
theorem ends_copyBelow_succ (levels : Nat) {result : Attempt Unit} (hfits : Fits target)
    (hlevels : longestPath < target.text.utf8ByteSize + levels) (hd : d.Sound) :
    Ends Happens (copyBelow levels source target).run d result d' ↔
      Ends Happens (copyBelow (levels + 1) source target).run d result d' := by
  induction levels generalizing source target d d' result with
  | zero => exact absurd hfits.short (by omega)
  | succ levels ih =>
    refine Work.ends_bind_congr fun found d₁ hentries => ?_
    obtain ⟨rfl, -, hplain⟩ := shows_of_entries hd (Work.ends_ofFile (Work.ends_within hentries))
    refine Work.ends_forM_congr hd (fun e he => ?_) fun e he d₂ hd₂ result d' => ?_
    · refine Work.keeps_bind (keeps_sound_copyEntry _ _ _) fun _ => ?_
      split
      · exact keeps_sound_copyBelow _ _ _
      · exact keeps_pure _
    obtain ⟨n, kind⟩ := e
    refine Work.ends_bind_congr fun _ d₃ hmade => ?_
    cases kind with
    | file => rfl
    | directory =>
      have hn := hplain _ he
      obtain ⟨h₃, hleads⟩ := leads_of_copyEntry hd₂ (Path.text_entry_ne_empty hn) hmade
      have hlonger : target.text.utf8ByteSize < (target.entry n).text.utf8ByteSize :=
        Path.size_lt_entry hn
      exact ih hleads.fits (by omega) h₃.sound

/-- What a copy does, it does with any more levels. -/
theorem ends_copyTree_iff (more : Nat) {result : Attempt Unit} (hne : target.text ≠ "")
    (hd : d.Sound) :
    Ends Happens (copyTree source target).run d result d' ↔
      Ends Happens (do
        copyEntry source target .directory
        copyBelow (mostLevels + more) source target : Work Unit).run d result d' := by
  refine Work.ends_bind_congr fun _ d₁ hmade => ?_
  obtain ⟨h₁, hleads⟩ := leads_of_copyEntry hd hne hmade
  induction more with
  | zero => rfl
  | succ more ih =>
    rw [ih]
    refine ends_copyBelow_succ _ hleads.fits ?_ h₁.sound
    simp only [mostLevels, longestPath]
    omega

/-- A copy of a directory to a place below it does not succeed: where it goes down, it is again the
copy of a directory to a place below it. -/
theorem not_ends_copyBelow (levels : Nat) (way : List String) (hway : way ≠ [])
    (htarget : target.key home = source.key home ++ way) (haside : key ∉ target.trail home)
    (hbelow : ¬ target.key home <+: key) (hd : d.AtMost home key entry)
    (hfound : d.get? (target.key home) = some .directory) :
    ¬ Ends Happens (copyBelow levels source target).run d (.ok ⟨⟩) d' := by
  induction levels generalizing source target way d d' with
  | zero =>
    intro h
    cases Work.ends_within h
  | succ levels ih =>
    intro h
    obtain ⟨found, d₁, hentries, hloop⟩ := Work.ends_bind h
    obtain ⟨rfl, hshows, hplain⟩ :=
      shows_of_entries hd.sound (Work.ends_ofFile (Work.ends_within hentries))
    rw [hd.home_eq] at hshows
    obtain ⟨first, rest, rfl⟩ := List.exists_cons_of_ne_nil hway
    have hfirst : d₁.get? (source.key home ++ [first]) = some .directory := by
      rw [htarget, List.append_cons] at hfound
      by_cases hrest : rest = []
      · rwa [hrest, List.append_nil] at hfound
      · exact hd.sound.directory_above hrest (by rw [hfound]; simp)
    have hmem : (first, Kind.directory) ∈ found := (hshows _ _).2 ⟨_, hfirst, rfl⟩
    have hkeeps (e : String × Kind) (he : e ∈ found) : Keeps (AtMost home key entry) (do
        copyEntry (source.entry e.1) (target.entry e.1) e.2
        if e.2 = .directory then
          copyBelow levels (source.entry e.1) (target.entry e.1) : Work Unit).run := by
      obtain ⟨haside, hbelow⟩ := not_mem_trail_entry (hplain e he) haside hbelow
      refine Work.keeps_bind (keeps_copyEntry haside e.2) fun _ => ?_
      split
      · exact keeps_copyBelow _ haside hbelow
      · exact keeps_pure _
    obtain ⟨d₂, d₃, hd₂, hpass⟩ := Work.ends_forM hloop hd hkeeps hmem
    -- The copy has made the next place to copy to, below the next place to copy from.
    obtain ⟨haside, hbelow⟩ := not_mem_trail_entry (hplain _ hmem) haside hbelow
    obtain ⟨_, d₄, hmade, hdeeper⟩ := Work.ends_bind hpass
    have hd₄ := (keeps_copyEntry haside _).ends hd₂ hmade
    have hdirectory :=
      (directory_of_copyEntry hd₂ (Path.text_entry_ne_empty (hplain _ hmem)) hmade).2
    refine ih (rest ++ [first]) (by simp) ?_ haside hbelow hd₄ hdirectory hdeeper
    rw [Path.key_entry (hplain _ hmem), Path.key_entry (hplain _ hmem), htarget]
    simp

/-! ## Moving into place -/

theorem shrinks_of_clear {path : Path} (h : Ends Happens (clear path).run d (.ok ⟨⟩) d') :
    d.Shrinks d' := by
  obtain ⟨found, d₁, hasked, hcleared⟩ := Work.ends_bind h
  have hlooked := shrinks_of_ends (Files.asks_pathExists path) (Work.ends_ofAction hasked)
  cases found with
  | false =>
    obtain ⟨-, rfl⟩ := ends_pure.1 hcleared
    exact hlooked
  | true =>
    exact hlooked.trans (shrinks_of_ends (Files.asks_removeTree path)
      (Work.ends_ofFile (Work.ends_within hcleared)))

/-- Whatever the number of the process is, it completes the name of a neighbour. -/
theorem neighbour_of_ends {purpose : String} {path : Path}
    (h : Ends Happens (Work.ofAction (s.neighbour name purpose)).run d (.ok path) d') :
    d' = d ∧ ∃ process, path = s.artifactDirectory.entry (neighbourName name purpose process) := by
  obtain ⟨process, d₁, hnumber, hdone⟩ := ends_bind.1 (Work.ends_ofAction h)
  obtain rfl := happens_processNumber (ends_request.1 hnumber)
  obtain ⟨rfl, rfl⟩ := ends_pure.1 hdone
  exact ⟨rfl, process, rfl⟩

theorem renamed_of_ends (h : Ends Happens (.request (.rename source target)) d (.ok ()) d') :
    d.rename source target = .ok d' :=
  (happens_rename (ends_request.1 h)).ok rfl

/-- How a directory is moved that cannot be renamed: what it is copied to is renamed, and then it is
removed itself. -/
structure MovesByCopy (s : Store) (home key : Key) (name : String) (entry : Entry) (source : Path)
    (staging : Path) (d₁ d₂ d₃ d' : Disk) : Prop where
  before : d₁.AtMost home key entry
  copies : Ends Happens (copyTree source staging).run d₁ (.ok ⟨⟩) d₂
  renames : d₂.rename staging (s.artifactPath name) = .ok d₃
  after : d₃.AtMost home key entry
  removes : Ends Happens (Files.removeTree source) d₃ (.ok ()) d'

section Installation

variable (hname : Path.IsPlain name) (hway : key ∉ s.artifactDirectory.trail home)
variable (haside : ¬ s.Changes home name key) (hd : d.AtMost home key entry)
include hname hway haside hd

theorem moves_of_copyIntoPlace
    (h : Ends Happens (s.copyIntoPlace name source (s.artifactPath name)).run d (.ok ⟨⟩) d') :
    ∃ process d₁ d₂ d₃, d.Shrinks d₁ ∧ s.MovesByCopy home key name entry source
      (s.artifactDirectory.entry (neighbourName name "staging" process)) d₁ d₂ d₃ d' := by
  obtain ⟨staging, d₀, hasked, hrest⟩ := Work.ends_bind h
  obtain ⟨rfl, process, rfl⟩ := neighbour_of_ends hasked
  obtain ⟨_, d₁, hcleared, hrest⟩ := Work.ends_bind hrest
  obtain ⟨_, d₂, hcopied, hrest⟩ := Work.ends_bind hrest
  obtain ⟨_, d₃, hrenamed, hremoved⟩ := Work.ends_bind hrest
  replace hrenamed := Work.ends_ofFile (Work.ends_within hrenamed)
  obtain ⟨htrail, hstaging⟩ :=
    not_mem_trail_neighbour hname hway haside "staging" (by decide) process
  have hd₁ := (keeps_clear _).ends hd hcleared
  have hd₂ := (keeps_copyTree htrail hstaging).ends hd₁ hcopied
  exact ⟨process, d₁, d₂, d₃, shrinks_of_clear hcleared, hd₁, hcopied, renamed_of_ends hrenamed,
    (keeps_rename haside (changes_artifactPath hname)).ends hd₂ hrenamed,
    Work.ends_ofFile (Work.ends_within hremoved)⟩

/-- What is moved to its place is renamed, or copied and renamed there. -/
theorem moves_of_moveIntoPlace
    (h : Ends Happens (s.moveIntoPlace name source (s.artifactPath name)).run d (.ok ⟨⟩) d') :
    d.rename source (s.artifactPath name) = .ok d' ∨
      ∃ process d₁ d₂ d₃, d.Shrinks d₁ ∧ s.MovesByCopy home key name entry source
        (s.artifactDirectory.entry (neighbourName name "staging" process)) d₁ d₂ d₃ d' := by
  obtain ⟨renamed, d₁, hrenamed, hrest⟩ := Work.ends_bind h
  replace hrenamed := Work.ends_ofAction hrenamed
  cases renamed with
  | ok value =>
    obtain ⟨-, rfl⟩ := ends_pure.1 hrest
    exact .inl (renamed_of_ends hrenamed)
  | error error =>
    rcases happens_rename (ends_request.1 hrenamed) with ⟨herror, -⟩ | ⟨rfl, -⟩
    · cases herror
    · exact .inr (moves_of_copyIntoPlace hname hway haside hd hrest)

theorem fits_of_moveIntoPlace
    (h : Ends Happens (s.moveIntoPlace name source (s.artifactPath name)).run d (.ok ⟨⟩) d') :
    Fits (s.artifactPath name) := by
  rcases moves_of_moveIntoPlace hname hway haside hd h with
    hrenamed | ⟨_, _, _, _, -, hmoves⟩
  · exact fits_of_rename hrenamed
  · exact fits_of_rename hmoves.renames

/-- Nothing is left below a directory that was moved. -/
theorem gone_of_moveIntoPlace (hne : source.key home ≠ s.artifactKey home name)
    (h : Ends Happens (s.moveIntoPlace name source (s.artifactPath name)).run d (.ok ⟨⟩) d') :
    ∀ rest, rest ≠ [] → d'.get? (source.key home ++ rest) = none := by
  rcases moves_of_moveIntoPlace hname hway haside hd h with
    hrenamed | ⟨_, _, _, d₃, -, hmoves⟩
  · intro rest _
    have hleft := (rename_tree hd.sound hrenamed (by rwa [hd.home_eq, key_artifactPath hname])).2
    rw [hd.home_eq] at hleft
    exact congrFun hleft rest
  · have hgone := (Files.gone_of_removeTree hmoves.after.sound hmoves.removes).2
    rwa [hmoves.after.home_eq] at hgone

/-- A directory that leads down to the place is not moved there: it cannot be renamed into itself,
and a copy of it would hold the copy. -/
theorem not_ends_moveIntoPlace_above
    (habove : source.key home <+: s.artifactDirectory.key home) :
    ¬ Ends Happens (s.moveIntoPlace name source (s.artifactPath name)).run d (.ok ⟨⟩) d' := by
  intro h
  rcases moves_of_moveIntoPlace hname hway haside hd h with
    hrenamed | ⟨process, d₁, d₂, d₃, -, hmoves⟩
  · have hbelow :
        source.key d.workingDirectory <+: (s.artifactPath name).key d.workingDirectory := by
      rw [hd.home_eq, key_artifactPath hname]
      exact habove.trans (List.prefix_append ..)
    rcases rename_ok hrenamed with ⟨heq, -⟩ | ⟨old, parent, last, hmoved⟩
    · rw [hd.home_eq, key_artifactPath hname] at heq
      have hlength := (heq ▸ habove).length_le
      rw [artifactKey, List.length_append, List.length_singleton] at hlength
      omega
    · apply hmoved.not_above
      rwa [← hmoved.old_eq, ← hmoved.names.key_eq]
  · have hplain := isPlain_neighbour hname "staging" (by decide) process
    obtain ⟨htrail, hstaging⟩ :=
      not_mem_trail_neighbour hname hway haside "staging" (by decide) process
    obtain ⟨_, d₀, hmade, hcopied⟩ := Work.ends_bind hmoves.copies
    have hdirectory :=
      (directory_of_copyEntry hmoves.before (Path.text_entry_ne_empty hplain) hmade).2
    obtain ⟨more, hmore⟩ := habove
    refine not_ends_copyBelow _ (more ++ [neighbourName name "staging" process]) (by simp) ?_ htrail
      hstaging ((keeps_copyEntry htrail _).ends hmoves.before hmade) hdirectory hcopied
    rw [Path.key_entry hplain, ← hmore, List.append_assoc]

/-- What stood in the place itself and is gone is not moved there. -/
theorem not_ends_moveIntoPlace_missing (hsite : s.Site home name)
    (howned : s.Owns home .artifact name (source.key home))
    (hmissing : d.get? (source.key home) = none) :
    ¬ Ends Happens (s.moveIntoPlace name source (s.artifactPath name)).run d (.ok ⟨⟩) d' := by
  intro h
  rcases moves_of_moveIntoPlace hname hway haside hd h with
    hrenamed | ⟨process, d₁, d₂, d₃, hshrinks, hmoves⟩
  · rw [← hd.home_eq] at hmissing
    rcases rename_ok hrenamed with ⟨-, -, hfound⟩ | ⟨old, parent, last, hmoved⟩
    · exact hfound hmissing
    · exact hmoved.found (hmoved.old_eq ▸ hmissing)
  · have hplain := isPlain_neighbour hname "staging" (by decide) process
    have houtside : source.key home ∉ (s.artifactDirectory.entry
        (neighbourName name "staging" process)).trail home := by
      rw [Path.trail_entry hplain, List.mem_append, List.mem_singleton, not_or]
      refine ⟨fun hk => hsite.outside_changes hk (.inr howned), fun heq => ?_⟩
      obtain ⟨entry, rfl, hpre⟩ := howned
      rw [heq, Path.key_entry hplain] at hpre
      have hpre' := hpre.trans (List.prefix_append _ ([] : List String))
      exact hidden_ne (names_neighbour entry "staging" process) (sibling_iff.1 hpre').symm
    obtain ⟨_, d₀, hmade, hcopied⟩ := Work.ends_bind hmoves.copies
    have hkept :=
      (directory_of_copyEntry hmoves.before (Path.text_entry_ne_empty hplain) hmade).1
    have hnone : d₀.get? (source.key d₀.workingDirectory) = none := by
      rw [hkept.home, hmoves.before.home_eq, hkept.eq (fun h => h) houtside]
      exact hshrinks.none hmissing
    exact ((holds_copyBelow_missing _ hkept.sound (by rw [hnone]; simp)).ends hcopied).2 rfl

/-! ## Replacing -/

omit hway in
/-- Where an earlier artifact is replaced, it is out of the way when the new one is moved, and what
is moved is only removed from later. -/
theorem moved_of_replaceExisting (hsite : s.Site home name)
    (h : Ends Happens (s.replaceExisting name source (s.artifactPath name)).run d (.ok ⟨⟩) d') :
    ∃ d₁ d₂, d₁.AtMost home key entry ∧ d₁.get? (s.artifactKey home name) = none ∧
      Ends Happens (s.moveIntoPlace name source (s.artifactPath name)).run d₁ (.ok ⟨⟩) d₂ ∧
      d₂.Shrinks d' := by
  obtain ⟨aside, d₀, hasked, hreplaced⟩ := Work.ends_bind h
  obtain ⟨rfl, process, rfl⟩ := neighbour_of_ends hasked
  obtain ⟨_, d₁, hcleared, hreplaced⟩ := Work.ends_bind hreplaced
  have hd₁ := (keeps_clear _).ends hd hcleared
  have hplain := isPlain_neighbour hname "replaced" (by decide) process
  obtain ⟨renamed, d₂, hrenamed, hswapped⟩ := Work.ends_bind hreplaced
  replace hrenamed := Work.ends_ofAction hrenamed
  cases renamed with
  | ok value =>
    have hd₂ := (keeps_rename haside
      (changes_neighbour hname "replaced" (by decide) process)).ends hd₁ hrenamed
    have hleft := (rename_tree hd₁.sound (renamed_of_ends hrenamed) ?_).2
    swap
    · rw [hd₁.home_eq, key_artifactPath hname, Path.key_entry hplain]
      exact (asideKey_ne_artifactKey process).symm
    obtain ⟨_, d₃, hmoved, hremoved⟩ := Work.ends_bind hswapped
    obtain ⟨_, d₄, hremoved, hdone⟩ := ends_bind.1 (Work.ends_ofAction hremoved)
    obtain ⟨-, rfl⟩ := ends_pure.1 hdone
    refine ⟨d₂, d₃, hd₂, ?_, Work.ends_onFailure hmoved,
      shrinks_of_ends (Files.asks_removeTree _) hremoved⟩
    have hnone := congrFun hleft []
    rwa [tree, hd₁.home_eq, key_artifactPath hname, List.append_nil] at hnone
  | error error =>
    rcases happens_rename (ends_request.1 hrenamed) with ⟨herror, -⟩ | ⟨rfl, -⟩
    · cases herror
    obtain ⟨_, d₃, hremoved, hmoved⟩ := Work.ends_bind hswapped
    replace hremoved := Work.ends_ofFile (Work.ends_within hremoved)
    have hgone := ((Files.holds_removeTree_alone hd₁.sound).ends hremoved).2
    rw [hd₁.home_eq, key_artifactPath hname] at hgone
    refine ⟨d₃, d', (keeps_makesNothing (Files.asks_removeTree _)).ends hd₁ hremoved,
      hgone (fun k hk hpre => ?_) rfl, hmoved, .refl d'⟩
    rw [artifactPath, parentTrail_entry hname, hd₁.home_eq] at hk
    exact (hsite.outside k hk).2 ⟨name, rfl, hpre⟩

/-- An installation that succeeds has moved the directory to its place, at which there was nothing
then, and has only removed things since. -/
theorem moved_of_replaceArtifact {target : Path} (hsite : s.Site home name)
    (htrail : d.AreDirectories (s.artifactDirectory.trail home))
    (h : Ends Happens (s.replaceArtifact name source).run d (.ok target) d') :
    ∃ d₁ d₂, d₁.AtMost home key entry ∧
      (Fits (s.artifactPath name) → d₁.get? (s.artifactKey home name) = none) ∧
      Ends Happens (s.moveIntoPlace name source (s.artifactPath name)).run d₁ (.ok ⟨⟩) d₂ ∧
      d₂.Shrinks d' := by
  obtain ⟨_, d₁, hmade, hrest⟩ := Work.ends_bind h
  replace hmade := Work.ends_ofFile (Work.ends_within hmade)
  have hd₁ := (Files.keeps_ensureDirectory hway).ends hd hmade
  have hopen₁ : d₁.AreDirectories (s.artifactDirectory.trail home) := by
    have hconfined := ((Files.holds_ensureDirectory_alone hd.sound).ends hmade).1
    exact hconfined.areDirectories (fun _ _ h => h) htrail
  obtain ⟨_, d₂, hswept, hrest⟩ := Work.ends_bind hrest
  replace hswept := Work.ends_ofAction hswept
  have hd₂ := (keeps_makesNothing (asks_sweep _ _)).ends hd₁ hswept
  have hopen₂ : d₂.AreDirectories (s.artifactDirectory.trail home) := by
    have hconfined : d₁.Confined (s.Leftover home name source) Nowhere d₂ := by
      refine (holds_sweep (.refl hd₁.sound) fun entry hentry hstale rest => ?_).ends hswept
      rw [hd₁.home_eq]
      exact ⟨entry, hentry, hstale, List.prefix_append ..⟩
    exact hconfined.areDirectories (fun k hk hleft => (hsite.outside k hk).1 hleft.owns) hopen₁
  obtain ⟨found, d₃, hasked, hrest⟩ := Work.ends_bind hrest
  have hlooked : Holds Happens (fun _ => True) (Files.pathExists (s.artifactPath name)) d₂
      fun found d₃ => d₃ = d₂ ∧
        (found = false → ∀ e, d₂.find (s.artifactPath name) ≠ .ok e) :=
    Files.holds_pathExists trivial ⟨rfl, fun hfalse => by cases hfalse⟩
      fun hnone => ⟨rfl, fun _ => hnone⟩
  replace hlooked := hlooked.ends (Work.ends_ofAction hasked)
  obtain ⟨rfl, hnone⟩ := hlooked
  cases found with
  | true =>
    obtain ⟨_, d₄, hinstalled, hdone⟩ := Work.ends_bind hrest
    obtain ⟨-, rfl⟩ := ends_pure.1 hdone
    obtain ⟨d₅, d₆, hd₅, hvacant, hmoved⟩ :=
      moved_of_replaceExisting hname haside hd₂ hsite hinstalled
    exact ⟨d₅, d₆, hd₅, fun _ => hvacant, hmoved⟩
  | false =>
    obtain ⟨_, d₄, hinstalled, hdone⟩ := Work.ends_bind hrest
    obtain ⟨-, rfl⟩ := ends_pure.1 hdone
    refine ⟨d₃, d', hd₂, ?_, hinstalled, .refl d'⟩
    rw [← hd₂.home_eq] at hopen₂ ⊢
    exact none_of_find_entry hname hopen₂ (hnone rfl)

section Refusals

variable {target : Path} (hsite : s.Site home name)
variable (htrail : d.AreDirectories (s.artifactDirectory.trail home))
variable (h : Ends Happens (s.replaceArtifact name source).run d (.ok target) d')
include hsite htrail h

/-- What stands in the place of the artifact, or in it, is not installed. -/
theorem not_owns_of_replaceArtifact : ¬ s.Owns home .artifact name (source.key home) := by
  intro howned
  obtain ⟨d₁, d₂, hd₁, hvacant, hmoved, -⟩ :=
    moved_of_replaceArtifact hname hway haside hd hsite htrail h
  have hnone := hvacant (fits_of_moveIntoPlace hname hway haside hd₁ hmoved)
  refine not_ends_moveIntoPlace_missing hname hway haside hd₁ hsite howned ?_ hmoved
  obtain ⟨entry, rfl, rest, hrest⟩ := howned
  rw [← hrest]
  exact hd₁.sound.none_below hnone rest

/-- What leads down to the place of the artifact is not installed. -/
theorem not_above_of_replaceArtifact :
    ¬ source.key home <+: s.artifactDirectory.key home := by
  intro habove
  obtain ⟨d₁, d₂, hd₁, -, hmoved, -⟩ :=
    moved_of_replaceArtifact hname hway haside hd hsite htrail h
  exact not_ends_moveIntoPlace_above hname hway haside hd₁ habove hmoved

/-- What was below a directory that is installed is there no more. -/
theorem gone_of_replaceArtifact :
    ∀ rest, rest ≠ [] → d'.get? (source.key home ++ rest) = none := by
  obtain ⟨d₁, d₂, hd₁, -, hmoved, hshrinks⟩ :=
    moved_of_replaceArtifact hname hway haside hd hsite htrail h
  intro rest hrest
  refine hshrinks.none (gone_of_moveIntoPlace hname hway haside hd₁ (fun heq => ?_) hmoved rest
    hrest)
  apply not_owns_of_replaceArtifact hname hway haside hd hsite htrail h
  rw [heq]
  exact owns_self (p := .artifact) rfl

end Refusals

end Installation

end Store
end Exemplar
