/-
A store as two maps from names, one to predictions and one to artifacts.

Operations are asked for under any names and in any order, and what stands on the disk afterwards
under a name is what a map would hold: the last predictions that were put there and not discarded,
and the last artifact that was installed, with nothing of earlier ones.  No operation changes
anything of another name, be it visible or hidden.  Hidden entries of earlier runs may lie about,
and the system chooses the names of new ones.
-/
import Exemplar.Proofs.Shelves
import Exemplar.Proofs.Sessions

namespace Exemplar

/-- The content of a file. -/
def Entry.bytes? : Entry → Option ByteArray
  | .file bytes => some bytes
  | .directory => none

namespace Disk

/-- A disk with the same entries, which names new ones in another way. -/
def renumbered (d : Disk) (serial process : Nat) : Disk :=
  { d with serial := serial, processNumber := process }

/-- A directory that is there, or that is not there and can be made. -/
def Offers (d : Disk) (path : Path) : Prop :=
  d.AreDirectories (path.trail d.workingDirectory) ∨
    d.CanBeMade path ∧ d.get? (path.key d.workingDirectory) = none

theorem Offers.canBeMade {d : Disk} {path : Path} (h : d.Offers path) : d.CanBeMade path :=
  h.elim .inl (·.1)

end Disk

namespace Store

open Exemplar.Action Disk

/-- What there is under each name after an operation under one. -/
def performed (shelves : String → Shelf) (call : String × Operation) : String → Shelf :=
  Function.update shelves call.1 (call.2.after (shelves call.1))

/-- What is answered to operations, one after the other. -/
def answers (s : Store) (shelves : String → Shelf) : List (String × Operation) → List Answer
  | [] => []
  | call :: calls =>
    call.2.answer s call.1 (shelves call.1) :: s.answers (performed shelves call) calls

/-- Operations are carried out one after the other, each by any process. -/
inductive Serves (s : Store) : Disk → (String → Handles) → List (String × Operation) → List Answer →
    Disk → (String → Handles) → Prop
  | done {d : Disk} {held : String → Handles} : Serves s d held [] [] d held
  | next {d d₁ d' : Disk} {held held' : String → Handles} {name : String} {operation : Operation}
      {calls : List (String × Operation)} {answer : Answer} {answers : List Answer} {own : Handles}
      (serial process : Nat) :
      s.Performs name (d.renumbered serial process) (held name) operation answer d₁ own →
        Serves s d₁ (Function.update held name own) calls answers d' held' →
          Serves s d held ((name, operation) :: calls) (answer :: answers) d' held'

/-- A disk on which a store can be used: its directories are given by absolute paths and are there
or can be made, and what stands under the final names is of the right kind. -/
structure Suits (s : Store) (d : Disk) : Prop where
  sound : d.Sound
  sheets_absolute : s.sheetDirectory.isAbsolute = true
  artifacts_absolute : s.artifactDirectory.isAbsolute = true
  sheets : d.Offers s.sheetDirectory
  artifacts : d.Offers s.artifactDirectory
  sheet_kind : ∀ name, IsFixtureName name →
    d.get? (s.sheetKey d.workingDirectory name) ≠ some .directory
  artifact_kind : ∀ name, IsFixtureName name → ∀ bytes,
    d.get? (s.artifactKey d.workingDirectory name) ≠ some (.file bytes)

/-- What stands on a disk under each name. -/
def shelves (s : Store) (d : Disk) (name : String) : Shelf where
  sheet := (d.get? (s.sheetKey d.workingDirectory name)).bind Entry.bytes?
  artifact := (d.get? (s.artifactKey d.workingDirectory name)).map fun _ =>
    d.tree (s.artifactKey d.workingDirectory name)

variable {s : Store} {home : Key} {name : String} {d d' : Disk} {held held' : String → Handles}
variable {shelves : String → Shelf} {calls : List (String × Operation)} {answered : List Answer}
variable {operation : Operation} {answer : Answer} {own : Handles} {serial process : Nat}

/-- The system may go on naming new entries as before. -/
theorem Serves.cons {d₁ : Disk}
    (h : s.Performs name d (held name) operation answer d₁ own)
    (hrest : s.Serves d₁ (Function.update held name own) calls answered d' held') :
    s.Serves d held ((name, operation) :: calls) (answer :: answered) d' held' :=
  .next d.serial d.processNumber h hrest

/-! ## Under all names -/

/-- A disk has under every name what it is said to have, and the store can be used on it. -/
structure Shows (s : Store) (home : Key) (shelves : String → Shelf) (held : String → Handles)
    (d : Disk) : Prop where
  usable : s.Usable home d
  carries : ∀ name, IsFixtureName name → s.Carries home name (shelves name) (held name) d

theorem Suits.shows (h : s.Suits d) :
    s.Shows d.workingDirectory (s.shelves d) (fun _ => {}) d := by
  refine ⟨⟨h.sound, rfl, h.sheets.canBeMade, h.artifacts.canBeMade⟩,
    fun name hname => ⟨?_, ?_, .free, .free⟩⟩
  · rw [Store.shelves]
    rcases hsheet : d.get? (s.sheetKey d.workingDirectory name) with _ | _ | bytes
    · exact .missing hsheet
    · exact absurd hsheet (h.sheet_kind name hname)
    · refine .there hsheet (h.sheets.resolve_right fun hnone => ?_)
      rw [sheetKey, h.sound.none_below hnone.2] at hsheet
      cases hsheet
  · rw [Store.shelves]
    rcases hartifact : d.get? (s.artifactKey d.workingDirectory name) with _ | _ | bytes
    · exact .missing hartifact
    · exact .there hartifact
    · exact absurd hartifact (h.artifact_kind name hname bytes)

theorem touches_renumbered {parts : Part → Prop} (hd : d.Sound) :
    s.Touches home name parts d (d.renumbered serial process) :=
  ⟨⟨hd.distinct, hd.ne_root, hd.plain, hd.parent, hd.home⟩, rfl, fun _ _ => .inl rfl⟩

section Step

variable (hsheets : s.sheetDirectory.isAbsolute = true)
variable (hartifacts : s.artifactDirectory.isAbsolute = true)
variable (hapart : ∀ name, IsFixtureName name → s.Apart home name)
include hapart

theorem Shows.renumbered (h : s.Shows home shelves held d) (serial process : Nat) :
    s.Shows home shelves held (d.renumbered serial process) := by
  have htouches (name : String) :
      s.Touches home name (fun _ => False) d (d.renumbered serial process) :=
    touches_renumbered h.usable.sound
  refine ⟨h.usable.kept (hapart "A" (by decide)) (htouches "A"), fun name hname => ?_⟩
  exact (h.carries name hname).kept hname (hapart name hname) hname (hapart name hname)
    (htouches name) fun _ _ h => h

include hsheets hartifacts

/-- An operation under one name is one step of the maps, and touches only parts of that name. -/
theorem Shows.step (h : s.Shows home shelves held d) (hname : IsFixtureName name)
    (hperforms : s.Performs name (d.renumbered serial process) (held name) operation answer d'
      own) :
    answer = operation.answer s name (shelves name) ∧
      s.Touches home name operation.parts d d' ∧
      s.Shows home (performed shelves (name, operation)) (Function.update held name own) d' := by
  have hrenumbered := h.renumbered hapart serial process
  have hdone := hperforms.done hsheets hartifacts hname (hapart name hname) hrenumbered.usable
    (hrenumbered.carries name hname)
  refine ⟨hdone.answer_eq, (touches_renumbered h.usable.sound).trans hdone.touches,
    hrenumbered.usable.kept (hapart name hname) hdone.touches, fun other hother => ?_⟩
  by_cases heq : other = name
  · subst heq
    rw [performed, Function.update_self, Function.update_self]
    exact hdone.carries
  · rw [performed, Function.update_of_ne heq, Function.update_of_ne heq]
    exact (hrenumbered.carries other hother).kept hname (hapart name hname) hother
      (hapart other hother) hdone.touches fun _ h => absurd h heq

/-- A run is a run of the maps. -/
theorem Serves.shows (hserves : s.Serves d held calls answered d' held') :
    ∀ {shelves : String → Shelf}, s.Shows home shelves held d →
      (∀ call ∈ calls, IsFixtureName call.1) →
        answered = s.answers shelves calls ∧
          s.Shows home (calls.foldl performed shelves) held' d' ∧
          d.Confined (fun k => ∃ call ∈ calls, s.Within home call.1 call.2.parts k)
            (s.OnTheWay home) d' := by
  induction hserves with
  | done =>
    intro shelves h _
    exact ⟨rfl, h, .refl h.usable.sound⟩
  | next serial process hperforms _ ih =>
    intro shelves h hcalls
    obtain ⟨hname, hrest⟩ := List.forall_mem_cons.1 hcalls
    obtain ⟨rfl, htouches, hshows⟩ := h.step hsheets hartifacts hapart hname hperforms
    obtain ⟨rfl, hshows, hconfined⟩ := ih hshows hrest
    refine ⟨rfl, hshows, Confined.trans (Confined.mono htouches ?_ fun _ hk => .inl hk)
      (hconfined.mono ?_ fun _ hk => .inl hk)⟩
    · exact fun k hk => ⟨_, List.mem_cons_self, hk⟩
    · rintro k ⟨call, hcall, hk⟩
      exact ⟨call, List.mem_cons_of_mem _ hcall, hk⟩

end Step

/-- Whatever is asked of a store whose directories are not reached through an entry of a fixture,
what stands under the names is what the maps hold, and the answers are those that the maps give.
Nothing else on the disk has changed, except that directories on the way may have been made.  No
further operation changes anything of another name. -/
theorem refines_two_maps (hsuits : s.Suits d)
    (hapart : ∀ name, IsFixtureName name → s.Apart d.workingDirectory name)
    (hcalls : ∀ call ∈ calls, IsFixtureName call.1)
    (hserves : s.Serves d (fun _ => {}) calls answered d' held') :
    answered = s.answers (s.shelves d) calls ∧
    (∀ name, IsFixtureName name →
      d'.get? (s.sheetKey d.workingDirectory name)
        = (calls.foldl performed (s.shelves d) name).sheet.map .file ∧
      d'.tree (s.artifactKey d.workingDirectory name)
        = (calls.foldl performed (s.shelves d) name).artifact.getD fun _ => none) ∧
    (∀ k, (∀ call ∈ calls, ∀ p, ¬ s.Owns d.workingDirectory p call.1 k) →
      ¬ s.OnTheWay d.workingDirectory k → d'.get? k = d.get? k) ∧
    ∀ name operation serial process answer d'' own, IsFixtureName name →
      s.Performs name (d'.renumbered serial process) (held' name) operation answer d'' own →
        ∀ other, IsFixtureName other → other ≠ name → ∀ p k, s.Owns d.workingDirectory p other k →
          d''.get? k = d'.get? k := by
  obtain ⟨hanswered, hshows, hconfined⟩ := hserves.shows hsuits.sheets_absolute
    hsuits.artifacts_absolute hapart hsuits.shows hcalls
  refine ⟨hanswered, fun name hname => ?_, fun k hk hway => ?_, ?_⟩
  · have hcarries := hshows.carries name hname
    exact ⟨hcarries.sheet.get?, hcarries.artifact.tree hshows.usable.sound⟩
  · refine hconfined.eq ?_ hway
    rintro ⟨call, hcall, p, -, howns⟩
    exact hk call hcall p howns
  · intro name operation serial process answer d'' own hname hperforms other hother hne p k howns
    obtain ⟨-, htouches, -⟩ := hshows.step hsuits.sheets_absolute hsuits.artifacts_absolute
      hapart hname hperforms
    exact htouches.eq hname (hapart name hname) hother (hapart other hother)
      (fun h => absurd h hne) howns

/-! ## Small runs -/

/-- Predictions and artifacts in one directory. -/
def sharedStore : Store := ⟨⟨"/c"⟩, ⟨"/c"⟩⟩

/-- A directory in which a run for a fixture was cut off while it replaced the artifact. -/
def interrupted : Disk := (({} : Disk).run (Files.ensureDirectory ⟨"/c/.A.replaced-0"⟩)).2

theorem trail_interrupted :
    (Path.mk "/c/.A.replaced-0").trail [] = [[], ["c"], ["c", ".A.replaced-0"]] := rfl

theorem confined_interrupted :
    ({} : Disk).Confined Nowhere (· ∈ [[], ["c"], ["c", ".A.replaced-0"]]) interrupted ∧
      interrupted.AreDirectories [[], ["c"], ["c", ".A.replaced-0"]] := by
  have hholds : Holds Happens _ (Files.ensureDirectory ⟨"/c/.A.replaced-0"⟩) {} _ :=
    Files.holds_ensureDirectory_alone Fixture.sound_empty
  obtain ⟨hconfined, hleads⟩ := happens_run hholds
  have hopen := (hleads (by decide) rfl).open_trail
  rw [hconfined.home] at hopen
  exact trail_interrupted ▸ ⟨hconfined, hopen⟩

theorem interrupted_none {entry : String} (h : entry ≠ ".A.replaced-0") :
    interrupted.get? ["c", entry] = none :=
  confined_interrupted.1.eq (fun h => h) (by simpa using h)

theorem trail_shared : (Path.mk "/c").trail [] = [[], ["c"]] := rfl

theorem shared_apart (name : String) : sharedStore.Apart interrupted.workingDirectory name := by
  rw [confined_interrupted.1.home]
  rintro p k hway ⟨entry, -, hpre⟩
  have hdirectory : p.directory sharedStore [] = ["c"] := by
    cases p <;> rfl
  have hlength := hpre.length_le
  rw [hdirectory] at hlength
  rw [OnTheWay, sharedStore, trail_shared, or_self] at hway
  rcases List.mem_cons.1 hway with rfl | hk
  · simp at hlength
  · rw [List.mem_singleton.1 hk] at hlength
    simp at hlength

theorem suits_interrupted : sharedStore.Suits interrupted := by
  have hhome : interrupted.workingDirectory = [] := confined_interrupted.1.home
  have hopen : interrupted.AreDirectories ((Path.mk "/c").trail interrupted.workingDirectory) := by
    rw [hhome, trail_shared]
    exact fun k hk => confined_interrupted.2 k (List.mem_append_left [_] hk)
  have hA : IsFixtureName "A" := by decide
  have hvisible (p : Part) {name entry : String} (hname : IsFixtureName name)
      (hentry : p.Names name entry) (hp : p ≠ .hidden) : interrupted.get? ["c", entry] = none := by
    refine interrupted_none ?_
    rintro rfl
    have hhidden : Part.hidden.Names "A" ".A.replaced-0" := by decide
    exact hp (Part.names_unique hname hA hentry hhidden).1
  have hsheet (name : String) (hname : IsFixtureName name) :
      interrupted.get? (sharedStore.sheetKey [] name) = none :=
    hvisible .sheet hname rfl (by decide)
  have hartifact (name : String) (hname : IsFixtureName name) :
      interrupted.get? (sharedStore.artifactKey [] name) = none :=
    hvisible .artifact hname rfl (by decide)
  refine ⟨confined_interrupted.1.sound, rfl, rfl, .inl hopen, .inl hopen, ?_, ?_⟩
  · intro name hname
    rw [hhome, hsheet name hname]
    simp
  · intro name hname bytes
    rw [hhome, hartifact name hname]
    simp

/-- One prediction. -/
def oneRow : PredictionSheet := .pointOnly [.int 7]

/-- While the predictions of one fixture are staged, the artifact of another is prepared and
installed. -/
theorem served_interleaved : ∃ tree answered d held,
    sharedStore.Serves interrupted (fun _ => {}) [("AB", .prepare), ("A", .stage oneRow),
      ("AB", .fill tree), ("AB", .install ["2"]), ("A", .commit)] answered d held ∧
        (tree ["2", "weights"]).isSome = true := by
  let scratch : Path := ⟨"/c/.AB.scratch-000000"⟩
  let staged : StagedSheet := ⟨⟨"/c/.A-000001.csv.tmp"⟩, ⟨"/c/A.csv"⟩⟩
  let d₁ := (interrupted.run (sharedStore.newScratch "AB").run).2
  let d₂ := (d₁.run (sharedStore.stage "A" oneRow).run).2
  let d₃ := filled d₂ scratch
  let d₄ := (d₃.run (Work.andThen (sharedStore.replaceArtifact "AB" (scratch.descend ["2"]))
    (removeScratch scratch)).run).2
  have h₁ : Ends Faultless (sharedStore.newScratch "AB").run interrupted (.ok scratch) d₁ :=
    ends_of_run_and (by decide +kernel)
  have h₂ : Ends Faultless (sharedStore.stage "A" oneRow).run d₁ (.ok staged) d₂ :=
    ends_of_run_and (by decide +kernel)
  have h₄ : Ends Faultless (Work.andThen (sharedStore.replaceArtifact "AB" (scratch.descend ["2"]))
      (removeScratch scratch)).run d₃ (.ok ⟨"/c/AB"⟩) d₄ :=
    ends_of_run_and (by decide +kernel)
  have h₅ : Ends Faultless staged.commit.run d₄ (.ok ⟨"/c/A.csv"⟩) (d₄.run staged.commit.run).2 :=
    ends_of_run_and (by decide +kernel)
  have hbegun : sharedStore.Serves interrupted (fun _ => {}) [("AB", .prepare),
      ("A", .stage oneRow)] _ d₂ _ :=
    .cons (.prepare rfl h₁) (.cons (.stage rfl h₂) .done)
  have hsound : d₂.Sound := (hbegun.shows rfl rfl (fun name _ => shared_apart name)
    suits_interrupted.shows (by decide)).2.1.usable.sound
  have h₃ : sharedStore.Performs "AB" d₂ ⟨none, some scratch⟩ _ _ d₃ _ :=
    .fill rfl (confined_filled hsound scratch)
  have hcommit : sharedStore.Performs "A" d₄ ⟨some staged, none⟩ _ _ _ _ := .commit rfl h₅
  exact ⟨_, _, _, _, .cons (.prepare rfl h₁) (.cons (.stage rfl h₂) (.cons h₃ (.cons
    (.install rfl (by decide) (by decide +kernel) h₄) (.cons hcommit .done)))),
    by decide +kernel⟩

/-- Each fixture has what was asked for under its name. -/
theorem refines_two_maps_interleaved : ∃ tree answered d held,
    sharedStore.Serves interrupted (fun _ => {}) [("AB", .prepare), ("A", .stage oneRow),
      ("AB", .fill tree), ("AB", .install ["2"]), ("A", .commit)] answered d held ∧
    (tree ["2", "weights"]).isSome = true ∧
    d.get? (sharedStore.sheetKey interrupted.workingDirectory "A")
      = some (.file oneRow.written.bytes) ∧
    d.tree (sharedStore.artifactKey interrupted.workingDirectory "AB")
      = fun rest => tree (["2"] ++ rest) := by
  obtain ⟨tree, answered, d, held, hserves, htree⟩ := served_interleaved
  have hA : IsFixtureName "A" := by decide
  have hAB : IsFixtureName "AB" := by decide
  obtain ⟨-, hshown, -, -⟩ := refines_two_maps suits_interrupted (fun name _ => shared_apart name)
    (by simp [hA, hAB]) hserves
  exact ⟨tree, answered, d, held, hserves, htree, (hshown "A" hA).1, (hshown "AB" hAB).2⟩

/-- The directory of the predictions is reached through an entry of the one of the artifacts. -/
def throughStore : Store := ⟨⟨"/m/A/../../c"⟩, ⟨"/m"⟩⟩

/-- Whether a directory of the store lies at or below the predictions or the artifact of a
fixture. -/
def LiesInFixture (s : Store) (home : Key) : Prop :=
  ∃ name p, IsFixtureName name ∧ (p = .sheet ∨ p = .artifact) ∧
    (s.Owns home p name (s.sheetDirectory.key home) ∨
      s.Owns home p name (s.artifactDirectory.key home))

theorem suits_empty (hsheets : s.sheetDirectory.isAbsolute = true)
    (hartifacts : s.artifactDirectory.isAbsolute = true)
    (hsheetsLast : s.sheetDirectory.last ≠ .here) (hsheetsKey : s.sheetDirectory.key [] ≠ [])
    (hartifactsLast : s.artifactDirectory.last ≠ .here)
    (hartifactsKey : s.artifactDirectory.key [] ≠ []) : s.Suits {} := by
  have hnone {k : Key} (hk : k ≠ []) : ({} : Disk).get? k = none := by simp [get?, hk]
  have hclear (keys : List Key) : ({} : Disk).AreClear keys := by
    intro k _ bytes hfile
    by_cases hk : k = [] <;> simp [get?, hk] at hfile
  exact ⟨Fixture.sound_empty, hsheets, hartifacts,
    .inr ⟨.inr ⟨hsheetsLast, hclear _⟩, hnone hsheetsKey⟩,
    .inr ⟨.inr ⟨hartifactsLast, hclear _⟩, hnone hartifactsKey⟩,
    fun name _ => by rw [hnone (by simp [sheetKey])]; simp,
    fun name _ bytes => by rw [hnone (by simp [artifactKey])]; simp⟩

theorem not_liesInFixture_nested : ¬ nestedStore.LiesInFixture [] := by
  have hsheets : nestedStore.sheetDirectory.key [] = ["c"] := rfl
  have hartifacts : nestedStore.artifactDirectory.key [] = ["c", ".A-.csv.tmp"] := rfl
  have hstaged : Part.staged.Names "A" ".A-.csv.tmp" := by decide
  rintro ⟨name, p, hname, rfl | rfl, ⟨entry, hentry, hpre⟩ | ⟨entry, hentry, hpre⟩⟩
  all_goals simp only [Part.directory, hsheets, hartifacts] at hpre
  · simpa using hpre.length_le
  · have heq : entry = ".A-.csv.tmp" := by simpa using hpre
    subst heq
    exact absurd (Part.names_unique hname (by decide) hentry hstaged).1 (by decide)
  · simpa using hpre.length_le
  · simpa using hpre.length_le

theorem not_liesInFixture_through : ¬ throughStore.LiesInFixture [] := by
  have hsheets : throughStore.sheetDirectory.key [] = ["c"] := rfl
  have hartifacts : throughStore.artifactDirectory.key [] = ["m"] := rfl
  rintro ⟨name, p, -, rfl | rfl, ⟨entry, -, hpre⟩ | ⟨entry, -, hpre⟩⟩
  all_goals
    simp only [Part.directory, hsheets, hartifacts] at hpre
    simpa using hpre.length_le

theorem served_nested : ∃ tree answered d held,
    nestedStore.Serves {} (fun _ => {}) [("B", .prepare), ("B", .fill tree),
      ("B", .install ["2"]), ("A", .write oneRow)] answered d held ∧
    (tree ["2"]).isSome = true ∧
    (d.get? (nestedStore.artifactKey [] "B")).isNone = true := by
  let scratch : Path := ⟨"/c/.A-.csv.tmp/.B.scratch-000000"⟩
  let d₁ := (({} : Disk).run (nestedStore.newScratch "B").run).2
  let d₂ := filled d₁ scratch
  let d₃ := (d₂.run (Work.andThen (nestedStore.replaceArtifact "B" (scratch.descend ["2"]))
    (removeScratch scratch)).run).2
  let d₄ := (d₃.run (nestedStore.writeSheet "A" oneRow).run).2
  have h₁ : Ends Faultless (nestedStore.newScratch "B").run {} (.ok scratch) d₁ :=
    ends_of_run_and (by decide +kernel)
  have h₃ : Ends Faultless (Work.andThen (nestedStore.replaceArtifact "B"
      (scratch.descend ["2"])) (removeScratch scratch)).run d₂ (.ok ⟨"/c/.A-.csv.tmp/B"⟩) d₃ :=
    ends_of_run_and (by decide +kernel)
  have h₄ : Ends Faultless (nestedStore.writeSheet "A" oneRow).run d₃ (.ok ⟨"/c/A.csv"⟩)
      d₄ := ends_of_run_and (by decide +kernel)
  have hholds : Holds Happens _ (nestedStore.newScratch "B").run {} _ :=
    holds_newScratch (by decide) Fixture.sound_empty rfl
  have hsound : d₁.Sound := (happens_run hholds).1.sound
  have h₂ : nestedStore.Performs "B" d₁ ⟨none, some scratch⟩ _ _ d₂ _ :=
    .fill rfl (confined_filled hsound scratch)
  exact ⟨_, _, d₄, _, .cons (.prepare rfl h₁) (.cons h₂ (.cons
    (.install rfl (by decide) (by decide +kernel) h₃)
    (.cons (.write rfl h₄) .done))), by decide +kernel, by decide +kernel⟩

theorem served_through : ∃ answered d held,
    throughStore.Serves {} (fun _ => {}) [("B", .write oneRow)] answered d held ∧
      (d.get? (throughStore.artifactKey [] "A")).isSome = true := by
  have h : Ends Faultless (throughStore.writeSheet "B" oneRow).run {} (.ok ⟨"/m/A/../../c/B.csv"⟩)
      (({} : Disk).run (throughStore.writeSheet "B" oneRow).run).2 :=
    ends_of_run_and (by decide +kernel)
  exact ⟨_, _, _, .cons (.write rfl h) .done, by decide +kernel⟩

/-- It is not enough that neither directory lies at or below the predictions or the artifact of a
fixture.  If one lies at a name like that of staged predictions, the artifacts in it are swept away
with them, and if one is reached through an entry of a fixture, that entry is made. -/
theorem maps_need_directories_apart :
    (nestedStore.Suits {} ∧ ¬ nestedStore.LiesInFixture [] ∧
      ∃ tree answered d held, nestedStore.Serves {} (fun _ => {}) [("B", .prepare),
        ("B", .fill tree), ("B", .install ["2"]), ("A", .write oneRow)] answered d held ∧
        d.tree (nestedStore.artifactKey [] "B") ≠
          (([("B", .prepare), ("B", .fill tree), ("B", .install ["2"]), ("A", .write oneRow)].foldl
            performed (nestedStore.shelves {})) "B").artifact.getD fun _ => none) ∧
    throughStore.Suits {} ∧ ¬ throughStore.LiesInFixture [] ∧
      ∃ answered d held,
        throughStore.Serves {} (fun _ => {}) [("B", .write oneRow)] answered d held ∧
        d.tree (throughStore.artifactKey [] "A") ≠
          (([("B", .write oneRow)].foldl performed (throughStore.shelves {})) "A").artifact.getD
            fun _ => none := by
  constructor
  · obtain ⟨tree, answered, d, held, hserves, hsome, hnone⟩ := served_nested
    refine ⟨suits_empty rfl rfl (by decide) (by decide) (by decide) (by decide),
      not_liesInFixture_nested, tree, answered, d, held, hserves, fun heq => ?_⟩
    have htop : d.get? (nestedStore.artifactKey [] "B" ++ []) = tree ["2"] :=
      congrFun heq []
    rw [List.append_nil, Option.isNone_iff_eq_none.1 hnone] at htop
    rw [← htop] at hsome
    cases hsome
  · obtain ⟨answered, d, held, hserves, hsome⟩ := served_through
    refine ⟨suits_empty rfl rfl (by decide) (by decide) (by decide) (by decide),
      not_liesInFixture_through, answered, d, held, hserves, fun heq => ?_⟩
    have htop : d.get? (throughStore.artifactKey [] "A" ++ []) = none := congrFun heq []
    rw [List.append_nil] at htop
    rw [htop] at hsome
    cases hsome

end Store
end Exemplar
