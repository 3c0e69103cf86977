/-
What is left of the temporary entries of a run.

A sweep makes nothing, a hidden file of predictions is removed where it is not
put in place, and a scratch directory is removed in any case.  So on a system
that meets no fault in removing hidden entries, a run that fails before anything
is put in place leaves the disk as it was, but that it may have swept away stale
predictions and made the two directories of the store.
-/
import Exemplar.Proofs.Building

namespace Exemplar

namespace Action

variable {α β : Type} {P : Request → Prop} {R : System} {I : Disk → Prop} {d : Disk}

/-- All requests of a program, whatever the replies are. -/
def Asks (P : Request → Prop) : Action α → Prop
  | .done _ => True
  | .ask r next => P r ∧ ∀ reply, Asks P (next reply)

theorem asks_bind {program : Action α} {next : α → Action β} (h : Asks P program)
    (hnext : ∀ value, Asks P (next value)) : Asks P (program >>= next) := by
  show Asks P (program.bind next)
  induction program with
  | done value => exact hnext value
  | ask r rest ih => exact ⟨h.1, fun reply => ih reply (h.2 reply)⟩

theorem asks_request {r : Request} (h : P r) : Asks P (.request r) := ⟨h, fun _ => trivial⟩

theorem asks_pure (value : α) : Asks P (pure value) := trivial

theorem asks_forM {xs : List α} {pass : α → Action PUnit} (h : ∀ x, Asks P (pass x)) :
    Asks P (xs.forM pass) := by
  induction xs with
  | nil => trivial
  | cons x rest ih => exact asks_bind (h x) fun _ => ih

/-- What all of its requests keep, a program keeps. -/
theorem holds_asks {program : Action α} (h : Asks P program) (hd : I d)
    (hstep : ∀ r d reply d', P r → I d → R r d reply d' → I d') :
    Holds R I program d fun _ d' => I d' := by
  induction program generalizing d with
  | done value => exact hd
  | ask r next ih =>
    exact ⟨hd, fun reply d' hr => ih reply (h.2 reply) (hstep r d reply d' h.1 hd hr)⟩

end Action

/-! ## Nothing is made -/

/-- The requests that look or remove. -/
def Request.MakesNothing : Request → Prop
  | .kindOf _ | .list _ | .walk _ | .locate _ | .read _ | .removeFile _ | .removeDirectory _
  | .clock | .processNumber => True
  | _ => False

namespace Disk

open Exemplar.Action

variable {d d' : Disk}

/-- Every entry is gone or as it was. -/
def Shrinks (d d' : Disk) : Prop := ∀ k, d'.get? k = none ∨ d'.get? k = d.get? k

theorem Shrinks.refl (d : Disk) : d.Shrinks d := fun _ => .inr rfl

theorem Shrinks.trans {d'' : Disk} (h : d.Shrinks d') (h' : d'.Shrinks d'') : d.Shrinks d'' := by
  intro k
  rcases h' k with hnone | heq
  · exact .inl hnone
  · exact heq ▸ h k

theorem shrinks_erase {key : Key} (hne : key ≠ []) : d.Shrinks (d.erase key) := by
  intro k
  rw [get?_erase hne]
  split
  · exact .inl rfl
  · exact .inr rfl

theorem happens_shrinks {r : Request} {reply : r.Reply} (hr : r.MakesNothing)
    (h : Happens r d reply d') : d.Shrinks d' := by
  cases r with
  | kindOf => exact (happens_kindOf h).1 ▸ .refl d
  | list => exact (happens_list h).1 ▸ .refl d
  | walk => exact (happens_walk h).1 ▸ .refl d
  | locate => exact (happens_locate h).1 ▸ .refl d
  | read => exact (happens_read h).1 ▸ .refl d
  | clock => exact happens_clock h ▸ .refl d
  | processNumber => exact happens_processNumber h ▸ .refl d
  | removeFile path =>
    rcases happens_removeFile h with ⟨-, hok⟩ | ⟨rfl, -⟩
    · obtain ⟨parent, name, bytes, -, -, rfl⟩ := removeFile_ok hok
      exact shrinks_erase (by simp)
    · exact .refl _
  | removeDirectory path =>
    rcases happens_removeDirectory h with ⟨-, hok⟩ | ⟨rfl, -⟩
    · obtain ⟨parent, name, -, -, -, rfl⟩ := removeDirectory_ok hok
      exact shrinks_erase (by simp)
    · exact .refl _
  | _ => exact hr.elim

end Disk

namespace Files

open Exemplar.Action

theorem asks_removeEntries (top : Path) (below : List (List String × Kind)) :
    Asks Request.MakesNothing (removeEntries top below) := by
  induction below with
  | nil => exact asks_pure _
  | cons entry rest ih =>
    obtain ⟨names, kind⟩ := entry
    refine asks_bind (by cases kind <;> exact asks_request trivial) fun result => ?_
    cases result with
    | error error => exact asks_pure _
    | ok value => exact ih

theorem asks_removeTree (path : Path) : Asks Request.MakesNothing (removeTree path) := by
  refine asks_bind (asks_request trivial) fun found => ?_
  cases found with
  | error error => exact asks_pure _
  | ok top =>
    refine asks_bind (asks_bind (asks_request trivial) fun below => ?_) fun emptied => ?_
    · cases below with
      | error error => exact asks_pure _
      | ok below => exact asks_removeEntries _ _
    · cases emptied with
      | error error => exact asks_pure _
      | ok value =>
        refine asks_bind (asks_request trivial) fun result => ?_
        split <;> exact asks_pure _

end Files

namespace Store

open Exemplar.Action Disk

variable {R : System} {s : Store} {home : Key} {name : String} {d d' d'' : Disk}
variable {temporary temporary' : Key → Prop}

theorem asks_sweep (directory : Path) (stale : Path → Bool) :
    Asks Request.MakesNothing (sweep directory stale) := by
  refine asks_bind (asks_request trivial) fun names => ?_
  cases names with
  | error error => exact asks_pure _
  | ok names =>
    refine asks_forM fun path => asks_bind (asks_bind ?_ fun isDirectory => ?_) fun _ => asks_pure _
    · exact asks_bind (asks_request trivial) fun _ => asks_pure _
    · cases isDirectory
      · exact asks_request trivial
      · exact Files.asks_removeTree path

/-! ## What is left -/

/-- But for some keys the disk is as it was, only that stale predictions of the fixture may be gone
and directories on the way to those of the store may have been made. -/
structure Undisturbed (s : Store) (home : Key) (name : String) (temporary : Key → Prop)
    (d d' : Disk) : Prop where
  sound : d'.Sound
  home_eq : d'.workingDirectory = d.workingDirectory
  kept : ∀ k, ¬ temporary k → d'.get? k = d.get? k ∨
    (s.Owns home .staged name k ∧ d'.get? k = none) ∨
    (s.OnTheWay home k ∧ d.get? k = none ∧ d'.get? k = some .directory)

theorem Undisturbed.refl (hd : d.Sound) : s.Undisturbed home name temporary d d :=
  ⟨hd, rfl, fun _ _ => .inl rfl⟩

theorem undisturbed_of_confined (h : d.Confined temporary (s.OnTheWay home) d') :
    s.Undisturbed home name temporary d d' :=
  ⟨h.sound, h.home, fun k hk => (h.same k hk).imp_right .inr⟩

/-- A sweep of stale predictions. -/
theorem undisturbed_of_shrinks {parts : Part → Prop} (hparts : ∀ p, parts p → p = .staged)
    (h : d.Confined (s.Within home name parts) Nowhere d') (hshrinks : d.Shrinks d') :
    s.Undisturbed home name temporary d d' := by
  refine ⟨h.sound, h.home, fun k _ => ?_⟩
  by_cases hk : s.Within home name parts k
  · obtain ⟨p, hp, howned⟩ := hk
    rw [hparts p hp] at howned
    rcases hshrinks k with hnone | heq
    · exact .inr (.inl ⟨howned, hnone⟩)
    · exact .inl heq
  · exact .inl (h.eq hk fun h => h)

theorem Undisturbed.trans (hapart : ∀ k, s.OnTheWay home k → ¬ s.Owns home .staged name k)
    (h : s.Undisturbed home name temporary d d') (h' : s.Undisturbed home name temporary d' d'') :
    s.Undisturbed home name temporary d d'' := by
  refine ⟨h'.sound, h'.home_eq.trans h.home_eq, fun k hk => ?_⟩
  rcases h'.kept k hk with heq | hswept | ⟨hway, hnone, hmade⟩
  · rw [heq]
    exact h.kept k hk
  · exact .inr (.inl hswept)
  · rcases h.kept k hk with heq | ⟨howned, -⟩ | ⟨-, -, hmade'⟩
    · exact .inr (.inr ⟨hway, heq ▸ hnone, hmade⟩)
    · exact absurd howned (hapart k hway)
    · rw [hmade'] at hnone
      cases hnone

theorem Undisturbed.widen (h : s.Undisturbed home name temporary d d')
    (htemporary : ∀ k, temporary k → temporary' k) :
    s.Undisturbed home name temporary' d d' :=
  ⟨h.sound, h.home_eq, fun k hk => h.kept k fun hk' => hk (htemporary k hk')⟩

/-- Temporary entries that are gone leave nothing behind. -/
theorem Undisturbed.forget (h : s.Undisturbed home name temporary d d')
    (hgone : ∀ k, temporary k → d'.get? k = none ∧ (d.get? k = none ∨ s.Owns home .staged name k)) :
    s.Undisturbed home name Nowhere d d' := by
  refine ⟨h.sound, h.home_eq, fun k _ => ?_⟩
  by_cases hk : temporary k
  · obtain ⟨hnone, hbefore | howned⟩ := hgone k hk
    · exact .inl (hnone.trans hbefore.symm)
    · exact .inr (.inl ⟨howned, hnone⟩)
  · exact h.kept k hk

/-! ## Removing what a run has made -/

/-- A system that meets no fault in removing the hidden entries of a fixture. -/
structure Cleans (R : System) (s : Store) (home : Key) (name : String) : Prop where
  happens : ∀ r d reply d', R r d reply d' → Happens r d reply d'
  clears : ∀ p k, p = .staged ∨ p = .hidden → s.Owns home p name k → Files.Clears R k

/-- What was made at and below a key is gone with it. -/
theorem confined_of_gone {key : Key} {grow : Key → Prop} (hd : d.Sound)
    (h : d.Confined (key <+: ·) grow d') (hbefore : d.get? key = none)
    (hafter : d'.get? key = none) : d.Confined Nowhere grow d' := by
  refine ⟨h.sound, h.home, fun k _ => ?_⟩
  by_cases hk : key <+: k
  · obtain ⟨rest, rfl⟩ := hk
    exact .inl ((h.sound.none_below hafter rest).trans (hd.none_below hbefore rest).symm)
  · exact h.same k hk

/-- A hidden file of predictions that the run has made. -/
structure Held (s : Store) (home : Key) (name : String) (file : Path) (d d' : Disk) : Prop where
  undisturbed : s.Undisturbed home name (· = file.key home) d d'
  owned : s.Owns home .staged name (file.key home)
  exists_entry : ∃ base entry, Path.IsPlain entry ∧ file = Path.entry base entry ∧
    d'.AreDirectories (base.trail home)
  found : ∃ bytes, d'.get? (file.key home) = some (.file bytes)

theorem Held.grow {file : Path} (hapart : ∀ k, s.OnTheWay home k → ¬ s.Owns home .staged name k)
    (h : s.Held home name file d d') (hgrown : d'.Confined Nowhere (s.OnTheWay home) d'') :
    s.Held home name file d d'' := by
  obtain ⟨base, entry, hentry, hfile, hopen⟩ := h.exists_entry
  obtain ⟨bytes, hbytes⟩ := h.found
  refine ⟨h.undisturbed.trans hapart
    (undisturbed_of_confined (hgrown.mono (fun _ hk => hk.elim) fun _ hk => .inl hk)), h.owned,
    ⟨base, entry, hentry, hfile, hgrown.areDirectories (fun _ _ h => h) hopen⟩, bytes,
    hgrown.eq_of_some (fun h => h) hbytes⟩

/-- A hidden file that is discarded leaves nothing behind. -/
theorem holds_discard_clean (staged : StagedSheet) (hR : Cleans R s home name)
    (hapart : ∀ k, s.OnTheWay home k → ¬ s.Owns home .staged name k)
    (hhome : d.workingDirectory = home) (h : s.Held home name staged.file d d') :
    Holds R (fun _ => True) staged.discard d' fun _ d'' =>
      s.Undisturbed home name Nowhere d d'' := by
  obtain ⟨base, entry, hentry, hfile, hopen⟩ := h.exists_entry
  obtain ⟨bytes, hbytes⟩ := h.found
  have hhome' : d'.workingDirectory = home := h.undisturbed.home_eq.trans hhome
  subst hhome'
  have hkey : staged.file.key d'.workingDirectory = base.key d'.workingDirectory ++ [entry] := by
    rw [hfile, Path.key_entry hentry]
  refine holds_bind.2 (holds_request trivial fun reply d'' hreply => holds_pure ?_)
  obtain ⟨⟨-, hd''⟩, hfine⟩ :=
    (hR.clears .staged _ (.inl rfl) h.owned).answers hreply (List.prefix_refl _)
  have hremoved :
      d'.removeFile staged.file = .ok (d'.erase (staged.file.key d'.workingDirectory)) := by
    rw [hkey, hfile]
    exact removeFile_entry hentry hopen (hkey ▸ hbytes) (hfile ▸ hfine)
  rw [answer, hremoved] at hd''
  obtain rfl : d'' = d'.erase (staged.file.key d'.workingDirectory) := hd''
  refine (h.undisturbed.trans hapart (undisturbed_of_confined
    ((confined_removeFile h.undisturbed.sound hremoved).mono (fun _ hk => hk)
      fun _ hk => hk.elim))).forget fun k hk => ?_
  rw [hk, get?_erase (by simp [hkey]), if_pos rfl]
  exact ⟨rfl, .inr h.owned⟩

/-- A new hidden file of predictions. -/
theorem held_of_makesNew {reply : Except FileError Path}
    (hapart : ∀ k, s.OnTheWay home k → ¬ s.Owns home .staged name k)
    (hhome : d.workingDirectory = home) (h : s.Undisturbed home name Nowhere d d')
    (hnew : d'.MakesNew s.sheetDirectory (stagedBeginning name) stagedEnding (.file .empty) reply
      d'') : ∃ file, reply = .ok file ∧ s.Held home name file d d'' := by
  obtain ⟨middle, hplain, rfl, -, -, hconfined, hempty⟩ := hnew.spec h.sound
  have hhome' : d'.workingDirectory = home := h.home_eq.trans hhome
  subst hhome'
  have hkey : ((d'.absolute s.sheetDirectory).entry
      (stagedBeginning name ++ middle ++ stagedEnding)).key d'.workingDirectory
        = (d'.absolute s.sheetDirectory).key d'.workingDirectory
          ++ [stagedBeginning name ++ middle ++ stagedEnding] := Path.key_entry hplain
  rw [← hkey] at hconfined hempty
  refine ⟨_, rfl, ⟨?_, ?_, ⟨_, _, hplain, rfl, ?_⟩, _, hempty⟩⟩
  · exact (h.widen fun _ hk => hk.elim).trans hapart
      (undisturbed_of_confined (hconfined.mono (fun _ hk => hk) fun _ hk => hk.elim))
  · rw [hkey, key_absolute h.sound.home]
    exact owns_stagedEntry
  · exact hnew.open_trail h.sound

/-- Whatever is written to the hidden file, it stays there. -/
theorem Held.write {file : Path} {content : ByteArray} {reply : Except FileError Unit}
    (hapart : ∀ k, s.OnTheWay home k → ¬ s.Owns home .staged name k)
    (hhome : d.workingDirectory = home) (h : s.Held home name file d d')
    (hwrite : Happens (.write file content) d' reply d'') : s.Held home name file d d'' := by
  have hhome' : d'.workingDirectory = home := h.undisturbed.home_eq.trans hhome
  subst hhome'
  have hwritten {part} (hok : d'.write file part = .ok d'') :
      s.Held d'.workingDirectory name file d d'' := by
    have hconfined := confined_write h.undisturbed.sound hok
    obtain ⟨base, entry, hentry, hfile, hopen⟩ := h.exists_entry
    obtain ⟨bytes, hbytes⟩ := h.found
    refine ⟨h.undisturbed.trans hapart (undisturbed_of_confined
      (hconfined.mono (fun _ hk => hk) fun _ hk => hk.elim)), h.owned,
      ⟨base, entry, hentry, hfile, ?_⟩, part, by rw [get?_write hok, if_pos rfl]⟩
    refine hconfined.areDirectories (fun k hk heq => ?_) hopen
    rw [heq] at hk
    rw [hopen _ hk] at hbytes
    cases hbytes
  rcases happens_write hwrite with ⟨-, hok⟩ | ⟨-, rfl | ⟨part, hok⟩⟩
  · exact hwritten hok
  · exact h
  · exact hwritten hok

/-- Sweeping away stale predictions disturbs nothing else. -/
theorem holds_sweepStaged (hd : d.Sound) (hhome : d.workingDirectory = home) :
    Holds Happens (fun _ => True) (sweep s.sheetDirectory (isStaged name)) d fun _ d' =>
      s.Undisturbed home name Nowhere d d' := by
  have hswept : Holds Happens (d.Confined (s.Within home name (· = .staged)) Nowhere)
      (sweep s.sheetDirectory (isStaged name)) d fun _ d' =>
        d.Confined (s.Within home name (· = .staged)) Nowhere d' := by
    refine holds_sweep (.refl hd) fun entry hentry hstale rest => ?_
    rw [hhome]
    exact ⟨.staged, rfl, owns_entry (p := .staged) ((isStaged_entry _ hentry).1 hstale) rest⟩
  have hshrinks : Holds Happens d.Shrinks (sweep s.sheetDirectory (isStaged name)) d fun _ d' =>
      d.Shrinks d' :=
    holds_asks (asks_sweep _ _) (.refl d) fun _ _ _ _ hr hd hreply =>
      hd.trans (happens_shrinks hr hreply)
  exact (hswept.and hshrinks).mono (fun _ _ => trivial) fun _ _ h =>
    undisturbed_of_shrinks (fun _ hp => hp) h.1 h.2

/-- Staging that fails leaves nothing behind. -/
theorem holds_stage_clean {sheet : PredictionSheet} (hR : Cleans R s home name)
    (hname : Path.IsPlain name)
    (hapart : ∀ k, s.OnTheWay home k → ¬ s.Owns home .staged name k) (hd : d.Sound)
    (hhome : d.workingDirectory = home) :
    Holds R (fun _ => True) (s.stage name sheet).run d fun result d' =>
      (∀ failure, result = .error failure → s.Undisturbed home name Nowhere d d') ∧
        ∀ staged, result = .ok staged → s.Held home name staged.file d d' := by
  have hmade {d₁} (h : d.Confined Nowhere (· ∈ s.sheetDirectory.trail d.workingDirectory) d₁) :
      s.Undisturbed home name Nowhere d d₁ :=
    undisturbed_of_confined (h.mono (fun _ h => h) fun _ hk => .inl (.inl (hhome ▸ hk)))
  refine Work.holds_bind (Work.holds_within (Work.holds_ofFile
    (((Files.holds_ensureDirectory_alone hd).restrict hR.happens).mono (fun _ _ => trivial) ?_)))
  rintro (error | value) d₁ ⟨h₁, -⟩
  · exact ⟨fun _ _ => hmade h₁, fun _ hok => by cases hok⟩
  replace h₁ := hmade h₁
  refine Work.holds_bind (Work.holds_ofAction (((holds_sweepStaged h₁.sound
    (h₁.home_eq.trans hhome)).restrict hR.happens).mono (fun _ _ => trivial) fun _ d₂ h₂ => ?_))
  replace h₂ := h₁.trans hapart h₂
  refine Work.holds_bind (Work.holds_within (Work.holds_ofFile
    (holds_request trivial fun reply d₃ hreply => ?_)))
  rcases happens_newFile (slash_staged hname) (by decide) (hR.happens _ _ _ _ hreply) with
    ⟨rfl, error, rfl⟩ | hnew
  · exact ⟨fun _ _ => h₂, fun _ hok => by cases hok⟩
  obtain ⟨file, rfl, h₃⟩ := held_of_makesNew hapart hhome h₂ hnew
  refine Work.holds_bind (Work.holds_onFailure (Work.holds_within (Work.holds_ofFile
    (holds_request trivial fun written d₄ hwritten => ?_))))
  have h₄ := h₃.write hapart hhome (hR.happens _ _ _ _ hwritten)
  rcases written with error | value
  · refine (holds_discard_clean ⟨file, s.sheetPath name⟩ hR hapart hhome h₄).mono
      (fun _ h => h) fun _ d₅ h₅ => ?_
    exact ⟨fun _ _ => h₅, fun _ hok => by cases hok⟩
  · refine Work.holds_pure ⟨fun _ herror => (by cases herror), fun staged hok => ?_⟩
    cases hok
    exact h₄

/-- Nothing is left of a scratch directory in which something was written. -/
theorem holds_removeScratch_clean {scratch : Path} (hR : Cleans R s home name) (hd : d.Sound)
    (hhome : d.workingDirectory = home) (hnew : s.NewScratch home name scratch d d')
    (h : d'.Confined (Inside (scratch.key home)) Nowhere d'') :
    Holds R (fun _ => True) (removeScratch scratch) d'' fun _ d₃ =>
      d.Confined Nowhere (s.OnTheWay home) d₃ := by
  obtain ⟨middle, hplain, hscratch, hkey⟩ := hnew.exists_middle
  have hhome₁ : d'.workingDirectory = home := hnew.confined.home.trans hhome
  have hhome₂ : d''.workingDirectory = home := h.home.trans hhome₁
  have hvacant := hnew.vacant
  have howned : s.Owns home .hidden name (scratch.key home) := by
    rw [hkey]
    exact owns_self (p := .hidden) (scratchName_hidden name middle)
  -- Only what is inside has changed, and there was nothing inside.
  have hopen : d''.AreDirectories (scratch.trail home) := by
    have htrail := hvacant.open_trail
    rw [hhome₁] at htrail
    refine h.areDirectories (fun k hk hinside => ?_) htrail
    obtain ⟨first, rest, rfl⟩ := hinside
    have hnone := hvacant.empty first
    rw [hhome₁] at hnone
    have hdirectory := htrail _ hk
    rw [← List.singleton_append, ← List.append_assoc, hnew.confined.sound.none_below hnone]
      at hdirectory
    cases hdirectory
  have hall : d.Confined (scratch.key home <+: ·) (s.OnTheWay home) d'' :=
    (hnew.confined.mono (fun _ hk => hk ▸ List.prefix_refl _) fun _ hk => .inl (.inr hk)).trans
      (h.widen fun _ hk => hk.below)
  have hremoved : Holds R (fun _ => True) (Files.removeTree
      ((d'.absolute s.artifactDirectory).entry (scratchBeginning name ++ middle))) d''
      fun result d₃ => result = .ok () ∧ d₃.get? (scratch.key home) = none := by
    refine Files.holds_removeTree_clears (hR.clears .hidden _ (.inr rfl) howned) ?_ h.sound hplain
      ?_ ?_ (hopen _ (Path.key_mem_trail _ _))
    · rw [hhome₂, ← Path.key_entry hplain, ← hscratch]
    · rw [hhome₂]
      rw [hscratch, Path.trail_entry hplain] at hopen
      exact fun k hk => hopen k (List.mem_append_left _ hk)
    · rw [hhome₂]
      exact hnew.outside
  rw [← hscratch] at hremoved
  refine holds_bind.2 ((hremoved.and ((Files.holds_removeTree_alone h.sound).restrict
    hR.happens)).mono (fun _ _ => trivial) ?_)
  rintro _ d₃ ⟨⟨-, hgone⟩, hconfined, -⟩
  refine holds_pure (confined_of_gone hd (hall.trans (hconfined.widen fun k hk => ?_))
    hnew.none_before hgone)
  rwa [hhome₂] at hk

end Store
end Exemplar
