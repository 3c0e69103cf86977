/-
What an installation spares.

An installation makes the directories on the way to the artifacts and, beside
them, what belongs to the artifact of its fixture.  All else it can only take
away, whichever path it is told to install from and whichever requests fail.  So
what stands anywhere else is gone afterwards or as it was.
-/
import Exemplar.Proofs.Cleaning

namespace Exemplar

open Exemplar.Action

/-! ## Programs that keep a property -/

namespace Action

variable {α β : Type} {P Q : Request → Prop} {I : Disk → Prop}

theorem Asks.mono {program : Action α} (h : Asks P program) (hPQ : ∀ r, P r → Q r) :
    Asks Q program := by
  induction program with
  | done value => trivial
  | ask r next ih => exact ⟨hPQ r h.1, fun reply => ih reply (h.2 reply)⟩

/-- Every request of the program keeps the property of the disk, whatever has come of those before
it. -/
def Keeps (I : Disk → Prop) (program : Action α) : Prop :=
  ∀ d, I d → Holds Disk.Happens I program d fun _ d' => I d'

theorem keeps_bind {program : Action α} {next : α → Action β} (h : Keeps I program)
    (hnext : ∀ value, Keeps I (next value)) : Keeps I (program >>= next) := by
  intro d hd
  apply holds_bind.2
  exact (h d hd).mono (fun _ h => h) fun value d' hd' => hnext value d' hd'

theorem keeps_pure (value : α) : Keeps I (pure value) := fun _ hd => hd

end Action

namespace Work

variable {α β : Type} {I : Disk → Prop} {work : Work α}

theorem keeps_bind {next : α → Work β} (h : Keeps I work.run)
    (hnext : ∀ value, Keeps I (next value).run) : Keeps I (work >>= next).run := by
  apply Action.keeps_bind h
  intro result
  cases result with
  | error failure => exact keeps_pure _
  | ok value => exact hnext value

theorem keeps_within {activity : Activity} (h : Keeps I work.run) :
    Keeps I (Work.within activity work).run :=
  Action.keeps_bind h fun _ => keeps_pure _

theorem keeps_ofAction {program : Action α} (h : Keeps I program) :
    Keeps I (Work.ofAction program).run :=
  Action.keeps_bind h fun _ => keeps_pure _

theorem keeps_ofFile {program : Action (Except FileError α)} (h : Keeps I program) :
    Keeps I (Work.ofFile program).run :=
  Action.keeps_bind h fun _ => keeps_pure _

theorem keeps_onFailure {closing : Action Unit} (h : Keeps I work.run)
    (hclosing : Keeps I closing) : Keeps I (Work.onFailure work closing).run := by
  apply Action.keeps_bind h
  intro result
  cases result with
  | error failure => exact Action.keeps_bind hclosing fun _ => keeps_pure _
  | ok value => exact keeps_pure _

theorem keeps_forM {xs : List α} {pass : α → Work PUnit} (h : ∀ x ∈ xs, Keeps I (pass x).run) :
    Keeps I (xs.forM pass).run := by
  induction xs with
  | nil => exact keeps_pure _
  | cons x rest ih =>
    obtain ⟨hx, hrest⟩ := List.forall_mem_cons.1 h
    exact keeps_bind hx fun _ => ih hrest

end Work

/-! ## Requests -/

/-- The requests that put nothing under a key. -/
def Request.Spares (home key : Key) : Request → Prop
  | .makeDirectory path | .write path _ => path.key home ≠ key
  | .rename _ target => ¬ target.key home <+: key
  | r => r.MakesNothing

theorem Request.MakesNothing.spares {home key : Key} {r : Request} (h : r.MakesNothing) :
    r.Spares home key := by
  cases r with
  | makeDirectory | write | rename => exact h.elim
  | _ => exact h

/-- The requests that act on what they name. -/
def Request.IsNamed : Request → Prop
  | .newFile .. | .newDirectory .. => False
  | _ => True

theorem Request.MakesNothing.isNamed {r : Request} (h : r.MakesNothing) : r.IsNamed := by
  cases r with
  | newFile | newDirectory => exact h.elim
  | _ => trivial

namespace Disk

variable {d d' : Disk} {home key : Key} {entry : Entry} {change grow : Key → Prop}

/-- Nothing else stands under a key than the entry that was there. -/
structure AtMost (home key : Key) (entry : Entry) (d : Disk) : Prop where
  sound : d.Sound
  home_eq : d.workingDirectory = home
  nothing_else : d.get? key = none ∨ d.get? key = some entry

theorem AtMost.trans (h : d.AtMost home key entry) (h' : d.Confined change grow d')
    (hkey : d'.get? key = none ∨ d'.get? key = d.get? key) : d'.AtMost home key entry := by
  refine ⟨h'.sound, h'.home.trans h.home_eq, ?_⟩
  rcases hkey with hnone | heq
  · exact .inl hnone
  · rw [heq]
    exact h.nothing_else

/-- A renaming puts nothing anywhere but at and below its target. -/
theorem get?_of_rename {source target : Path} (hd : d.Sound) (h : d.rename source target = .ok d')
    (hkey : ¬ target.key d.workingDirectory <+: key) :
    d'.get? key = none ∨ d'.get? key = d.get? key := by
  rcases rename_ok h with ⟨-, rfl, -⟩ | ⟨old, parent, name, hmoves⟩
  · exact .inr rfl
  by_cases hold : old <+: key
  · obtain ⟨rest, rfl⟩ := hold
    exact .inl (hmoves.get?_source hd rest)
  · rw [hmoves.names.key_eq] at hkey
    exact .inr ((hmoves.confined hd).eq (not_or.2 ⟨hold, hkey⟩) fun h => h)

/-- Whatever comes of a request that acts on what it names, it changes only some keys. -/
theorem exists_confined {r : Request} {reply : r.Reply} (hr : r.IsNamed) (hd : d.Sound)
    (h : Happens r d reply d') : ∃ change grow, d.Confined change grow d' := by
  have hsame (heq : d' = d) : ∃ change grow, d.Confined change grow d' := by
    rw [heq]
    exact ⟨Nowhere, Nowhere, .refl hd⟩
  cases r with
  | kindOf => exact hsame (happens_kindOf h).1
  | list => exact hsame (happens_list h).1
  | walk => exact hsame (happens_walk h).1
  | locate => exact hsame (happens_locate h).1
  | read => exact hsame (happens_read h).1
  | clock => exact hsame (happens_clock h)
  | processNumber => exact hsame (happens_processNumber h)
  | removeFile =>
    exact ⟨_, _, (happens_removeFile h).confined hd fun _ hok => confined_removeFile hd hok⟩
  | removeDirectory =>
    exact ⟨_, _, (happens_removeDirectory h).confined hd
      fun _ hok => confined_removeDirectory hd hok⟩
  | makeDirectory =>
    exact ⟨_, _, (happens_makeDirectory h).confined hd
      fun _ hok => (Files.makeDirectory_leads hd hok).1⟩
  | rename => exact ⟨_, _, (happens_rename h).confined hd fun _ hok => confined_rename hd hok⟩
  | write =>
    rcases happens_write h with ⟨-, hok⟩ | ⟨-, heq | ⟨part, hok⟩⟩
    · exact ⟨_, _, confined_write hd hok⟩
    · exact hsame heq
    · exact ⟨_, _, confined_write hd hok⟩
  | newFile | newDirectory => exact hr.elim

theorem AtMost.step {r : Request} {reply : r.Reply} (h : d.AtMost home key entry)
    (hr : r.Spares home key) (hreply : Happens r d reply d') : d'.AtMost home key entry := by
  have hnothing (hr : r.MakesNothing) : d'.AtMost home key entry := by
    obtain ⟨change, grow, hconfined⟩ := exists_confined hr.isNamed h.sound hreply
    exact h.trans hconfined (happens_shrinks hr hreply key)
  cases r with
  | makeDirectory path =>
    have hconfined := (happens_makeDirectory hreply).confined h.sound
      fun _ hok => (Files.makeDirectory_leads h.sound hok).1
    rw [h.home_eq] at hconfined
    exact h.trans hconfined (.inr (hconfined.eq (fun h => h) (Ne.symm hr)))
  | write path bytes =>
    have hwritten {part : ByteArray} (hok : d.write path part = .ok d') :
        d'.AtMost home key entry := by
      have hconfined := confined_write h.sound hok
      rw [h.home_eq] at hconfined
      exact h.trans hconfined (.inr (hconfined.eq (Ne.symm hr) fun h => h))
    rcases happens_write hreply with ⟨-, hok⟩ | ⟨-, heq | ⟨part, hok⟩⟩
    · exact hwritten hok
    · exact heq ▸ h
    · exact hwritten hok
  | rename source target =>
    rcases happens_rename hreply with ⟨-, hok⟩ | ⟨heq, -⟩
    · refine h.trans (confined_rename h.sound hok) (get?_of_rename h.sound hok ?_)
      rw [h.home_eq]
      exact hr
    · exact heq ▸ h
  | _ => exact hnothing hr

theorem keeps_asks {α : Type} {program : Action α} (h : Asks (Request.Spares home key) program) :
    Keeps (AtMost home key entry) program :=
  fun _ hd => holds_asks h hd fun _ _ _ _ hr hd hreply => hd.step hr hreply

theorem keeps_sound {α : Type} {program : Action α} (h : Asks Request.IsNamed program) :
    Keeps Sound program := by
  refine fun _ hd => holds_asks h hd fun _ _ _ _ hr hd hreply => ?_
  obtain ⟨change, grow, hconfined⟩ := exists_confined hr hd hreply
  exact hconfined.sound

/-- Programs that only look and remove. -/
theorem keeps_makesNothing {α : Type} {program : Action α}
    (h : Asks Request.MakesNothing program) : Keeps (AtMost home key entry) program :=
  keeps_asks (h.mono fun _ hr => hr.spares)

end Disk

/-! ## Operations -/

namespace Files

open Disk

variable {home key : Key} {entry : Entry} {path : Path}

theorem asks_pathExists (path : Path) : Asks Request.MakesNothing (pathExists path) :=
  asks_bind (asks_request trivial) fun _ => asks_pure _

theorem asks_orIfDirectory {P : Request → Prop} (hP : P (.kindOf path))
    (result : Except FileError Unit) : Asks P (makeDirectories.orIfDirectory path result) := by
  cases result with
  | ok value => exact asks_pure _
  | error error =>
    refine asks_bind (asks_bind (asks_request hP) fun _ => asks_pure _) fun found => ?_
    split
    · exact asks_pure _
    · exact asks_pure _

theorem asks_makeDirectories {P : Request → Prop} {paths : List Path}
    (hP : ∀ p ∈ paths, P (.kindOf p)) (h : ∀ p ∈ paths, p.text ≠ "" → P (.makeDirectory p)) :
    Asks P (makeDirectories paths) := by
  induction paths with
  | nil => exact asks_pure _
  | cons p above ih =>
    obtain ⟨hp, habove⟩ := List.forall_mem_cons.1 h
    obtain ⟨hask, hasks⟩ := List.forall_mem_cons.1 hP
    rw [makeDirectories]
    by_cases hempty : p.text = ""
    · rw [if_pos hempty]
      exact asks_pure _
    rw [if_neg hempty]
    refine asks_bind (asks_request (hp hempty)) fun made => ?_
    split
    · exact asks_pure _
    · refine asks_bind (ih hasks habove) fun result => ?_
      split
      · exact asks_pure _
      · exact asks_bind (asks_request (hp hempty)) fun _ => asks_orIfDirectory hask _
    · exact asks_orIfDirectory hask _

theorem keeps_ensureDirectory (hway : key ∉ path.trail home) :
    Keeps (AtMost home key entry) (ensureDirectory path) := by
  refine keeps_asks (asks_makeDirectories (fun _ _ => trivial) fun p hp hne heq => hway ?_)
  rw [← heq]
  exact Path.trail_upwards hp hne (Path.key_mem_trail _ _)

end Files

namespace Store

open Disk

variable {s : Store} {home key : Key} {name : String} {entry : Entry}

theorem keeps_clear (path : Path) : Keeps (AtMost home key entry) (clear path).run := by
  refine Work.keeps_bind (Work.keeps_ofAction
    (keeps_makesNothing (Files.asks_pathExists path))) fun found => ?_
  split
  · exact Work.keeps_within (Work.keeps_ofFile (keeps_makesNothing (Files.asks_removeTree path)))
  · exact keeps_pure _

theorem keeps_copyEntry {source target : Path} (hway : key ∉ target.trail home) (kind : Kind) :
    Keeps (AtMost home key entry) (copyEntry source target kind).run := by
  cases kind with
  | directory =>
    exact Work.keeps_within (Work.keeps_ofFile (Files.keeps_ensureDirectory hway))
  | file =>
    refine Work.keeps_within (Work.keeps_ofFile (keeps_asks
      (asks_bind (asks_request trivial) fun found => ?_)))
    cases found with
    | error error => exact asks_pure _
    | ok bytes =>
      apply asks_request
      show target.key home ≠ key
      intro heq
      exact hway (heq ▸ Path.key_mem_trail _ _)

/-- Where a copy goes down, it gets no nearer to a key that it leaves aside. -/
theorem not_mem_trail_entry {target : Path} {n : String} (hn : Path.IsPlain n)
    (hway : key ∉ target.trail home) (hbelow : ¬ target.key home <+: key) :
    key ∉ (target.entry n).trail home ∧ ¬ (target.entry n).key home <+: key := by
  have hnot : ¬ (target.entry n).key home <+: key := by
    rw [Path.key_entry hn]
    exact fun hpre => hbelow ((List.prefix_append ..).trans hpre)
  refine ⟨?_, hnot⟩
  rw [Path.trail_entry hn, List.mem_append, List.mem_singleton, not_or]
  exact ⟨hway, fun heq => hnot (heq ▸ List.prefix_refl _)⟩

/-- A copy goes down by names that it has been told. -/
theorem keeps_copyBelow (levels : Nat) {source target : Path} (hway : key ∉ target.trail home)
    (hbelow : ¬ target.key home <+: key) :
    Keeps (AtMost home key entry) (copyBelow levels source target).run := by
  induction levels generalizing source target with
  | zero => exact Work.keeps_within (keeps_pure _)
  | succ levels ih =>
    intro d hd
    refine Work.holds_bind (Work.holds_within (Work.holds_ofFile (Files.holds_entries hd.sound hd
      (fun found _ hshows => ?_) fun _ => hd)))
    refine Work.keeps_forM (fun e he => ?_) d hd
    obtain ⟨found, hfound, -⟩ := (hshows e.1 e.2).1 he
    have hplain : Path.IsPlain e.1 :=
      hd.sound.plain_of_get? (by rw [hfound]; simp) e.1 (by simp)
    obtain ⟨hway, hbelow⟩ := not_mem_trail_entry hplain hway hbelow
    refine Work.keeps_bind (keeps_copyEntry hway e.2) fun _ => ?_
    split
    · exact ih hway hbelow
    · exact keeps_pure _

theorem keeps_copyTree {source target : Path} (hway : key ∉ target.trail home)
    (hbelow : ¬ target.key home <+: key) :
    Keeps (AtMost home key entry) (copyTree source target).run :=
  Work.keeps_bind (keeps_copyEntry hway _) fun _ => keeps_copyBelow _ hway hbelow

/-- Whatever the number of the process is, it only completes the name of a hidden neighbour. -/
theorem keeps_neighbour {α : Type} {purpose : String} {next : Path → Work α}
    (h : ∀ process, Keeps (AtMost home key entry)
      (next (s.artifactDirectory.entry (neighbourName name purpose process))).run) :
    Keeps (AtMost home key entry) (Work.ofAction (s.neighbour name purpose) >>= next).run := by
  intro d hd
  refine Work.holds_bind (Work.holds_ofAction (holds_bind.2
    (holds_request hd fun process d' hreply => ?_)))
  rw [happens_processNumber hreply]
  exact h process d hd

section Installation

variable (hname : Path.IsPlain name) (hway : key ∉ s.artifactDirectory.trail home)
variable (haside : ¬ s.Changes home name key)

theorem changes_neighbour (hname : Path.IsPlain name) (purpose : String)
    (hpurpose : '/' ∉ purpose.toList) (process : Nat) :
    s.Changes home name
      ((s.artifactDirectory.entry (neighbourName name purpose process)).key home) := by
  rw [Path.key_entry (isPlain_neighbour hname purpose hpurpose process)]
  exact changes_neighbourKey s home name purpose process

theorem changes_artifactPath (hname : Path.IsPlain name) :
    s.Changes home name ((s.artifactPath name).key home) := by
  rw [key_artifactPath hname]
  exact changes_artifactKey s home name

include haside

/-- What an installation may change has nothing below it that it may not. -/
theorem not_below_changes {path : Path} (h : s.Changes home name (path.key home)) :
    ¬ path.key home <+: key := fun hpre => haside (h.of_prefix hpre)

theorem keeps_rename {source target : Path} (h : s.Changes home name (target.key home)) :
    Keeps (AtMost home key entry) (.request (.rename source target)) := by
  apply keeps_asks
  apply asks_request
  exact not_below_changes haside h

include hname hway

/-- The way to a neighbour of the artifact leaves the key aside. -/
theorem not_mem_trail_neighbour (purpose : String) (hpurpose : '/' ∉ purpose.toList)
    (process : Nat) :
    key ∉ (s.artifactDirectory.entry (neighbourName name purpose process)).trail home ∧
      ¬ (s.artifactDirectory.entry (neighbourName name purpose process)).key home <+: key := by
  have hnot := not_below_changes haside (changes_neighbour hname purpose hpurpose process)
  refine ⟨?_, hnot⟩
  rw [Path.trail_entry (isPlain_neighbour hname purpose hpurpose process), List.mem_append,
    List.mem_singleton, not_or]
  exact ⟨hway, fun heq => hnot (heq ▸ List.prefix_refl _)⟩

theorem keeps_copyIntoPlace (source : Path) : Keeps (AtMost home key entry)
    (s.copyIntoPlace name source (s.artifactPath name)).run := by
  refine keeps_neighbour fun process => ?_
  obtain ⟨htrail, hstaging⟩ :=
    not_mem_trail_neighbour hname hway haside "staging" (by decide) process
  refine Work.keeps_bind (keeps_clear _) fun _ => ?_
  refine Work.keeps_bind (keeps_copyTree htrail hstaging) fun _ => ?_
  refine Work.keeps_bind (Work.keeps_within (Work.keeps_ofFile
    (keeps_rename haside (changes_artifactPath hname)))) fun _ => ?_
  exact Work.keeps_within (Work.keeps_ofFile (keeps_makesNothing (Files.asks_removeTree source)))

theorem keeps_moveIntoPlace (source : Path) : Keeps (AtMost home key entry)
    (s.moveIntoPlace name source (s.artifactPath name)).run := by
  refine Work.keeps_bind (Work.keeps_ofAction
    (keeps_rename haside (changes_artifactPath hname))) fun renamed => ?_
  cases renamed with
  | ok value => exact keeps_pure _
  | error error => exact keeps_copyIntoPlace hname hway haside source

theorem keeps_swapIn (prepared aside : Path) : Keeps (AtMost home key entry)
    (s.swapIn name prepared (s.artifactPath name) aside).run := by
  refine Work.keeps_bind (Work.keeps_onFailure
    (keeps_moveIntoPlace hname hway haside prepared) ?_) fun _ => ?_
  · exact Action.keeps_bind (keeps_rename haside (changes_artifactPath hname)) fun _ => keeps_pure _
  · exact Work.keeps_ofAction (Action.keeps_bind
      (keeps_makesNothing (Files.asks_removeTree aside)) fun _ => keeps_pure _)

theorem keeps_replaceExisting (prepared : Path) : Keeps (AtMost home key entry)
    (s.replaceExisting name prepared (s.artifactPath name)).run := by
  refine keeps_neighbour fun process => ?_
  refine Work.keeps_bind (keeps_clear _) fun _ => ?_
  refine Work.keeps_bind (Work.keeps_ofAction (keeps_rename haside
    (changes_neighbour hname "replaced" (by decide) process))) fun renamed => ?_
  cases renamed with
  | ok value => exact keeps_swapIn hname hway haside prepared _
  | error error =>
    refine Work.keeps_bind (Work.keeps_within (Work.keeps_ofFile
      (keeps_makesNothing (Files.asks_removeTree _)))) fun _ => ?_
    exact keeps_moveIntoPlace hname hway haside prepared

/-- Whatever it is told to install, an installation puts nothing but directories on the way to the
artifacts anywhere but under the artifact and its hidden neighbours. -/
theorem keeps_replaceArtifact (prepared : Path) :
    Keeps (AtMost home key entry) (s.replaceArtifact name prepared).run := by
  refine Work.keeps_bind (Work.keeps_within (Work.keeps_ofFile
    (Files.keeps_ensureDirectory hway))) fun _ => ?_
  refine Work.keeps_bind (Work.keeps_ofAction (keeps_makesNothing (asks_sweep _ _))) fun _ => ?_
  refine Work.keeps_bind (Work.keeps_ofAction
    (keeps_makesNothing (Files.asks_pathExists _))) fun found => ?_
  cases found with
  | false =>
    exact Work.keeps_bind (keeps_moveIntoPlace hname hway haside prepared) fun _ => keeps_pure _
  | true =>
    exact Work.keeps_bind (keeps_replaceExisting hname hway haside prepared) fun _ => keeps_pure _

end Installation

end Store
end Exemplar
