/-
Building again, and building among others.

A fixture is trained from its dataset alone, and a build replaces all that an earlier one has left
of it.  So its files depend neither on what else is selected nor on what was built before, as long
as no two paths meet: the directories and the datasets must not be reached through anything that is
kept of a fixture, or a sweep for one fixture takes along what belongs to another.  A dataset must
also not be reached through a directory that is yet to be made, because then it can be read only
after another fixture was built.  And no fixture may crash, since that ends the whole batch.
-/
import Exemplar.Proofs.Agreement
import Exemplar.Proofs.Concluding
import Exemplar.Proofs.Foretelling

namespace Exemplar

open Exemplar.Action Disk Store

/-! ## Directories from the root -/

namespace Path

variable {path : Path} {home : Key}

theorem start_of_isAbsolute (h : path.isAbsolute = true) (home : Key) : path.start home = [] :=
  if_pos h

theorem key_of_isAbsolute (h : path.isAbsolute = true) (home : Key) :
    path.key home = path.key [] := by
  rw [key, key, start_of_isAbsolute h, start_of_isAbsolute h]

theorem trail_of_isAbsolute (h : path.isAbsolute = true) (home : Key) :
    path.trail home = path.trail [] := by
  rw [trail, trail, start_of_isAbsolute h, start_of_isAbsolute h]

end Path

namespace Store

variable {s : Store} {home : Key} {name : String} {p : Part} {k : Key}
variable (hsheets : s.sheetDirectory.isAbsolute = true)
variable (hartifacts : s.artifactDirectory.isAbsolute = true)
include hsheets hartifacts

/-- What is given from the root does not depend on the working directory. -/
theorem owns_absolute (home : Key) : s.Owns home = s.Owns [] := by
  funext p name k
  have hdirectory : p.directory s home = p.directory s [] := by
    cases p
    · exact Path.key_of_isAbsolute hsheets home
    · exact Path.key_of_isAbsolute hsheets home
    · exact Path.key_of_isAbsolute hartifacts home
    · exact Path.key_of_isAbsolute hartifacts home
  rw [Owns, Owns, hdirectory]

theorem avoids_absolute {path : Path} (hpath : path.isAbsolute = true) (home : Key) :
    s.Avoids home name path ↔ s.Avoids [] name path := by
  rw [Avoids, Avoids, Path.trail_of_isAbsolute hpath, owns_absolute hsheets hartifacts home]

omit hartifacts in
theorem sheetKey_absolute (home : Key) (name : String) :
    s.sheetKey home name = s.sheetKey [] name := by
  rw [sheetKey, sheetKey, Path.key_of_isAbsolute hsheets]

omit hsheets in
theorem artifactKey_absolute (home : Key) (name : String) :
    s.artifactKey home name = s.artifactKey [] name := by
  rw [artifactKey, artifactKey, Path.key_of_isAbsolute hartifacts]

end Store

/-- The same disk at another time, seen by another process: the clock, the number of the process and
the next names of temporary entries are others. -/
def Disk.later (d : Disk) (seconds process serial : Nat) : Disk :=
  { d with seconds := seconds, processNumber := process, serial := serial }

theorem Disk.Sound.later {d : Disk} (hd : d.Sound) (seconds process serial : Nat) :
    (d.later seconds process serial).Sound :=
  ⟨hd.distinct, hd.ne_root, hd.plain, hd.parent, hd.home⟩

namespace Catalog

variable {c : Catalog} {home : Key} {d d' d'' : Disk} {p : Planned} {planned : List Planned}
variable {selection : List String} {outcomes : List Outcome} {report : Fixture.Report}

/-- A valid catalog whose directories are given from the root, where neither the directories nor the
datasets lie at, lie below or are reached through anything that is kept of a planned fixture. -/
structure IsSafe (c : Catalog) : Prop where
  valid : c.validate = .ok ()
  absolute : c.sheetDirectory.isAbsolute = true
  directories : c.Accommodates [] c.plan
  datasets : ∀ p ∈ c.plan, ∀ q ∈ c.plan,
    c.store.Avoids [] q.name (c.sheetDirectory.entry p.dataset.file)

/-- A disk as builds have left it, one after the other, at first one on which all fixtures of the
catalog can be built.  Each build was one of any selection, by any process at any time, any of its
requests may have failed, and it may have been cut off. -/
inductive LeftByBuilds (c : Catalog) : Disk → Prop
  | start {d : Disk} : Hosts c.store d.workingDirectory c.plan d → LeftByBuilds c d
  | later {d : Disk} (seconds process serial : Nat) : LeftByBuilds c d →
      LeftByBuilds c (d.later seconds process serial)
  | build {d d' : Disk} {selection : List String} {planned : List Planned} {policy : Policy} :
      LeftByBuilds c d → select c.plan selection = .ok planned →
      Visits Happens (buildAll c.source c.store policy planned).run d d' → LeftByBuilds c d'

/-- The dataset of a fixture can be read alike. -/
def SameDataset (c : Catalog) (p : Planned) (d d' : Disk) : Prop :=
  ∀ bytes, d'.readFile (c.sheetDirectory.entry p.dataset.file) = .ok bytes ↔
    d.readFile (c.sheetDirectory.entry p.dataset.file) = .ok bytes

/-- A build of some selection that keeps going, on a disk as builds have left it, comes to its end
without a fault. -/
structure Finishes (c : Catalog) (planned : List Planned) (d : Disk) (outcomes : List Outcome)
    (d' : Disk) : Prop where
  left : c.LeftByBuilds d
  selected : ∃ selection, select c.plan selection = .ok planned
  ends : Ends Faultless (c.buildSelected planned).run d (.ok outcomes) d'

/-- The predictions and the artifact of a fixture are there and the same. -/
def SameFiles (c : Catalog) (name : String) (d d' : Disk) : Prop :=
  ∃ bytes, d.get? (c.store.sheetKey [] name) = some (.file bytes) ∧
    d'.get? (c.store.sheetKey [] name) = some (.file bytes) ∧
    d.get? (c.store.artifactKey [] name) = some .directory ∧
    d'.tree (c.store.artifactKey [] name) = d.tree (c.store.artifactKey [] name)

/-! ## What builds keep -/

/-- Datasets are read at any time alike. -/
theorem prepares_later {directory : Path} {dataset : Dataset} {ready : Prepared} (hd : d.Sound)
    (seconds process serial : Nat) :
    Prepares directory dataset ready (d.later seconds process serial) ↔
      Prepares directory dataset ready d := by
  have hconfined : d.Confined Nowhere Nowhere (d.later seconds process serial) :=
    ⟨hd.later seconds process serial, rfl, fun _ _ => .inl rfl⟩
  exact Prepares.congr fun _ => hconfined.readFile_iff hd (fun _ _ h => h.elim) fun _ _ h => h

theorem IsSafe.coexist (hsafe : c.IsSafe) (home : Key)
    (hselect : select c.plan selection = .ok planned) : Coexist c.store home planned := by
  have htogether := areTogether_select hsafe.valid hselect
  have hsubset := (select_sublist hselect).subset
  have havoids {path : Path} (hpath : path.isAbsolute = true) (name : String) :
      c.store.Avoids home name path ↔ c.store.Avoids [] name path :=
    avoids_absolute (s := c.store) hsafe.absolute hsafe.directories.absolute hpath home
  refine ⟨htogether, fun p hp => ?_, fun p hp q hq => ?_⟩
  · have haccommodates : c.Accommodates home c.plan :=
      ⟨hsafe.directories.absolute,
        fun p hp => (havoids hsafe.absolute _).2 (hsafe.directories.sheets p hp),
        fun p hp => (havoids hsafe.directories.absolute _).2 (hsafe.directories.artifacts p hp)⟩
    exact haccommodates.ready (hsubset hp) (htogether.names p hp)
  · exact (havoids (Path.isAbsolute_join hsafe.absolute _) _).2
      (hsafe.datasets p (hsubset hp) q (hsubset hq))

theorem Hosts.later {s : Store} (h : Hosts s home planned d) (seconds process serial : Nat) :
    Hosts s home planned (d.later seconds process serial) where
  usable := ⟨h.usable.sound.later seconds process serial, h.usable.home_eq, h.usable.sheets,
    h.usable.artifacts⟩
  free := h.free
  settled := h.settled

theorem LeftByBuilds.hosts (h : c.LeftByBuilds d) (hsafe : c.IsSafe) :
    Hosts c.store d.workingDirectory c.plan d := by
  induction h with
  | start h => exact h
  | later seconds process serial _ ih => exact ih.later seconds process serial
  | @build d d' selection planned policy _ hselect hvisits ih =>
    have hsubset := (select_sublist hselect).subset
    have hcoexist := hsafe.coexist d.workingDirectory (rfl : select c.plan [] = .ok c.plan)
    have hkeeps : Holds Happens (Hosts c.store d.workingDirectory c.plan)
        (buildAll c.source c.store policy planned).run d
        fun _ d' => Hosts c.store d.workingDirectory c.plan d' := by
      refine holds_runAll (fun p _ d₁ h₁ => ?_) (fun p hp ready d₁ h₁ => ?_) ih
      · exact ((looks_prepare (fun _ => Table.looks_load _) p.dataset).still d₁).mono
          (fun _ h => h ▸ h₁) fun _ _ h => h ▸ h₁
      · exact h₁.holds_build hcoexist (hsubset hp) ready
    have hhosts := hkeeps.visits (fun _ _ h => h) hvisits
    rwa [hhosts.usable.home_eq]

theorem Finishes.left_after (h : c.Finishes planned d outcomes d') : c.LeftByBuilds d' := by
  obtain ⟨selection, hselect⟩ := h.selected
  exact .build h.left hselect (h.ends.widen fun _ _ _ _ h => Faultless.happens h).visits

theorem went_of_buildAll (hsafe : c.IsSafe) (hselect : select c.plan selection = .ok planned)
    (hhosts : Hosts c.store d.workingDirectory c.plan d) {result : Attempt (List Outcome)}
    (hends : Ends Faultless (c.buildSelected planned).run d result d') :
    Went c.store d.workingDirectory planned d result d' :=
  went_of_runAll (hsafe.coexist _ hselect) hsafe.absolute
    (hhosts.of_subset (select_sublist hselect).subset) (fun _ _ h => by cases h) hends

section Finishes

variable (h : c.Finishes planned d outcomes d') (hsafe : c.IsSafe)
include h hsafe

theorem Finishes.coexist : Coexist c.store d.workingDirectory planned := by
  obtain ⟨selection, hselect⟩ := h.selected
  exact hsafe.coexist _ hselect

theorem Finishes.hosts : Hosts c.store d.workingDirectory planned d := by
  obtain ⟨selection, hselect⟩ := h.selected
  exact (h.left.hosts hsafe).of_subset (select_sublist hselect).subset

theorem Finishes.went : Went c.store d.workingDirectory planned d (.ok outcomes) d' := by
  obtain ⟨selection, hselect⟩ := h.selected
  exact went_of_buildAll hsafe hselect (h.left.hosts hsafe) h.ends

/-- A finished build leaves the datasets as they were. -/
theorem Finishes.prepares_iff (hp : p ∈ planned) (ready : Prepared) :
    Prepares c.store.sheetDirectory p.dataset ready d' ↔
      Prepares c.store.sheetDirectory p.dataset ready d := by
  have hconfined : d.Confined (fun k => ∃ q ∈ planned, ∃ part,
      c.store.Owns d.workingDirectory part q.name k) (c.store.OnTheWay d.workingDirectory) d' := by
    refine (h.went hsafe).confined.mono ?_ fun k hk => .inl hk.1
    rintro k ⟨q, hq, part, howns, -⟩
    exact ⟨q, hq, part, howns⟩
  exact (h.hosts hsafe).prepares_iff (h.coexist hsafe) hp hconfined (fun _ hk => hk) fun _ hk => hk

/-- A fixture that is reported is built. -/
theorem Finishes.built (hp : p ∈ planned) (hname : report.name = p.name)
    (hreport : .succeeded report ∈ outcomes) :
    ∃ ready trained, Built c.store d.workingDirectory p report ready trained d' := by
  have hcoexist := h.coexist hsafe
  obtain ⟨q, hq, ready, trained, hbuilt⟩ := built_of_runAll hcoexist (h.hosts hsafe).usable.sound
    rfl (fun _ _ h => by cases h) (h.ends.widen fun _ _ _ _ h => Faultless.happens h) report hreport
  obtain rfl : q = p := by
    refine List.inj_on_of_nodup_map hcoexist.together.distinct hq hp (Eq.trans ?_ hname)
    rw [hbuilt.reported]
    rfl
  exact ⟨ready, trained, hbuilt⟩

end Finishes

/-- What is built of a fixture from one prepared dataset is the same. -/
theorem Built.sameFiles (hsafe : c.IsSafe) {home₁ home₂ : Key} {d₁ d₂ : Disk} {ready : Prepared}
    {trained₁ trained₂ : Model} {report₁ report₂ : Fixture.Report}
    (h₁ : Built c.store home₁ p report₁ ready trained₁ d₁)
    (h₂ : Built c.store home₂ p report₂ ready trained₂ d₂) : c.SameFiles p.name d₁ d₂ := by
  obtain ⟨model, hmodel, hfit₁⟩ := h₁.trains
  obtain ⟨model', hmodel', hfit₂⟩ := h₂.trains
  obtain rfl := Except.ok.inj (hmodel.symm.trans hmodel')
  obtain rfl := Except.ok.inj (hfit₁.symm.trans hfit₂)
  obtain ⟨bytes, hmakes₁, hsheet₁⟩ := h₁.complete.installed
  obtain ⟨bytes', hmakes₂, hsheet₂⟩ := h₂.complete.installed
  obtain ⟨rfl, htree⟩ := hmakes₁.unique hmakes₂
  have hsheet (home : Key) : c.store.sheetKey home p.spec.name = c.store.sheetKey [] p.spec.name :=
    sheetKey_absolute (s := c.store) hsafe.absolute home p.spec.name
  have hartifact (home : Key) :
      c.store.artifactKey home p.spec.name = c.store.artifactKey [] p.spec.name :=
    artifactKey_absolute (s := c.store) hsafe.directories.absolute home p.spec.name
  show c.SameFiles p.spec.name d₁ d₂
  rw [hartifact home₁] at hmakes₁
  rw [hartifact home₁, hartifact home₂] at htree
  refine ⟨bytes, hsheet home₁ ▸ hsheet₁, hsheet home₂ ▸ hsheet₂, ?_, htree.symm⟩
  obtain ⟨-, description, -, hexport⟩ := hmakes₁
  have htop : d₁.get? (c.store.artifactKey [] p.spec.name ++ []) = some .directory :=
    congrFun hexport []
  rwa [List.append_nil] at htop

/-- Two finished builds of a fixture make the same files from the same dataset. -/
theorem Finishes.sameFiles (hsafe : c.IsSafe) {planned₁ planned₂ : List Planned}
    {d₁ d₂ d₁' d₂' : Disk} {outcomes₁ outcomes₂ : List Outcome}
    (h₁ : c.Finishes planned₁ d₁ outcomes₁ d₁') (h₂ : c.Finishes planned₂ d₂ outcomes₂ d₂')
    (hsame : ∀ ready, Prepares c.store.sheetDirectory p.dataset ready d₂ ↔
      Prepares c.store.sheetDirectory p.dataset ready d₁)
    (hp₁ : p ∈ planned₁) (hp₂ : p ∈ planned₂) (hname : report.name = p.name)
    (hreport₁ : .succeeded report ∈ outcomes₁) (hreport₂ : .succeeded report ∈ outcomes₂) :
    c.SameFiles p.name d₁' d₂' := by
  obtain ⟨ready, trained₁, hbuilt₁⟩ := h₁.built hsafe hp₁ hname hreport₁
  obtain ⟨ready', trained₂, hbuilt₂⟩ := h₂.built hsafe hp₂ hname hreport₂
  have hprepares := (h₁.prepares_iff hsafe hp₁ _).1 hbuilt₁.prepares
  have hprepares' := (hsame ready').1 ((h₂.prepares_iff hsafe hp₂ _).1 hbuilt₂.prepares)
  obtain rfl := hprepares.unique hprepares'
  exact hbuilt₁.sameFiles hsafe hbuilt₂

/-! ## Building again -/

/-- Where predictions and the artifact are the same, so is all that is seen of the fixture. -/
theorem SameFiles.get?_eq {name : String} {part : Part} {k : Key} (h : c.SameFiles name d d')
    (hd : d.Sound) (hd' : d'.Sound) (howns : c.store.Owns [] part name k)
    (hseen : ¬ IsUnseen part) : d'.get? k = d.get? k := by
  obtain ⟨bytes, hsheet, hsheet', -, htree⟩ := h
  obtain ⟨entry, hentry, rest, rfl⟩ := howns
  cases part with
  | staged => exact absurd (.inl rfl) hseen
  | hidden => exact absurd (.inr rfl) hseen
  | artifact =>
    cases (hentry : entry = name)
    exact congrFun htree rest
  | sheet =>
    cases (hentry : entry = name ++ ".csv")
    show d'.get? (c.store.sheetKey [] name ++ rest) = d.get? (c.store.sheetKey [] name ++ rest)
    by_cases hrest : rest = []
    · rw [hrest, List.append_nil, hsheet, hsheet']
    · rw [hd.none_below_file hsheet hrest, hd'.none_below_file hsheet' hrest]

section Again

variable (h : c.Finishes planned d outcomes d') (hsafe : c.IsSafe) {seconds process serial : Nat}
include h hsafe

theorem Finishes.prepares_again (hp : p ∈ planned) (ready : Prepared) :
    Prepares c.store.sheetDirectory p.dataset ready (d'.later seconds process serial) ↔
      Prepares c.store.sheetDirectory p.dataset ready d :=
  (prepares_later (h.went hsafe).confined.sound ..).trans (h.prepares_iff hsafe hp ready)

/-- A finished build can be done again, and is then finished again. -/
theorem Finishes.again {result : Attempt (List Outcome)}
    (hends : Ends Faultless (c.buildSelected planned).run (d'.later seconds process serial) result
      d'') :
    ∃ outcomes', result = .ok outcomes' ∧
      c.Finishes planned (d'.later seconds process serial) outcomes' d'' := by
  obtain ⟨selection, hselect⟩ := h.selected
  have hleft : c.LeftByBuilds (d'.later seconds process serial) := h.left_after.later _ _ _
  have hwent' := went_of_buildAll hsafe hselect (hleft.hosts hsafe) hends
  have hcalm := (h.went hsafe).ends.1 ⟨outcomes, rfl⟩
  obtain ⟨outcomes', rfl⟩ := hwent'.ends.2 fun p hp =>
    mt (p.crashes_congr (h.prepares_again hsafe hp)).1 (hcalm p hp)
  exact ⟨outcomes', rfl, hleft, ⟨selection, hselect⟩, hends⟩

/-- The second of two builds changes nothing that is seen. -/
theorem Finishes.unchanged {outcomes' : List Outcome}
    (h' : c.Finishes planned (d'.later seconds process serial) outcomes' d'') {k : Key}
    (hk : ∀ p ∈ planned, ∀ part, IsUnseen part → ¬ c.store.Owns [] part p.name k) :
    d''.get? k = d'.get? k := by
  have hwent := h.went hsafe
  have hwent' := h'.went hsafe
  have hsame {p : Planned} (hp : p ∈ planned) (ready : Prepared) :
      Prepares c.store.sheetDirectory p.dataset ready (d'.later seconds process serial) ↔
        Prepares c.store.sheetDirectory p.dataset ready d := h.prepares_again hsafe hp ready
  by_cases hbuilt : ∃ p ∈ planned, ∃ part report, c.store.Owns [] part p.name k ∧
      p.Yields c.store (d'.later seconds process serial) report
  -- What is built again is built as before.
  · obtain ⟨p, hp, part, report, howns, hyields⟩ := hbuilt
    have hname := hyields.name_eq
    have hreport' := (hwent'.succeeds _ rfl report).2 ⟨p, hp, hyields⟩
    have hreport := (hwent.succeeds _ rfl report).2 ⟨p, hp, (p.yields_congr (hsame hp)).1 hyields⟩
    have hfiles := h.sameFiles hsafe h' (hsame hp) hp hp hname hreport hreport'
    exact hfiles.get?_eq hwent.confined.sound hwent'.confined.sound howns fun hunseen =>
      hk p hp part hunseen howns
  -- Anything else is left alone, and the directories have all been made.
  · have hkept : ¬ ∃ p ∈ planned, ∃ part, c.store.Owns d'.workingDirectory part p.name k ∧
        (IsUnseen part ∨ ∃ report, p.Yields c.store (d'.later seconds process serial) report) := by
      rintro ⟨p, hp, part, howns, hseen⟩
      rw [owns_absolute (s := c.store) hsafe.absolute hsafe.directories.absolute] at howns
      rcases hseen with hunseen | ⟨report, hyields⟩
      · exact hk p hp part hunseen howns
      · exact hbuilt ⟨p, hp, part, report, howns, hyields⟩
    rcases hwent'.confined.same k hkept with heq | ⟨⟨hway, p, hp, hstirs⟩, hnone, -⟩
    · exact heq
    · obtain ⟨hsheets, hartifacts⟩ :=
        hwent.opens _ rfl ⟨p, hp, (p.stirs_congr (hsame hp)).1 hstirs⟩
      have hhome : (d'.later seconds process serial).workingDirectory = d.workingDirectory :=
        hwent.confined.home
      rw [hhome] at hway
      have hdirectory : d'.get? k = some .directory := hway.elim (hsheets k) (hartifacts k)
      cases hdirectory.symm.trans hnone

end Again

/-! ## Independence -/

/-- What is built of a fixture does not depend on what else is built.  Two builds keep going and
come to their ends without a fault.  They are of any two selections that have the fixture in common,
on disks as any earlier builds have left them, and both disks hold the dataset of the fixture.  Then
either both report of it the same, and its predictions and its artifact are the same after both, or
neither reports that it was built.  And a build that is done again, at whatever time, comes to its
end, reports the same fixtures and changes nothing that is seen. -/
theorem builds_are_independent (hsafe : c.IsSafe) :
    (∀ planned₁ planned₂ d₁ d₂ outcomes₁ outcomes₂ d₁' d₂',
      c.Finishes planned₁ d₁ outcomes₁ d₁' → c.Finishes planned₂ d₂ outcomes₂ d₂' →
      ∀ p ∈ planned₁, p ∈ planned₂ → c.SameDataset p d₁ d₂ →
      ∀ report : Fixture.Report, report.name = p.name →
        (.succeeded report ∈ outcomes₁ ↔ .succeeded report ∈ outcomes₂) ∧
        (.succeeded report ∈ outcomes₁ → c.SameFiles p.name d₁' d₂')) ∧
    ∀ planned d outcomes d' seconds process serial result d'',
      c.Finishes planned d outcomes d' →
      Ends Faultless (c.buildSelected planned).run (d'.later seconds process serial) result d'' →
      (∃ outcomes', result = .ok outcomes' ∧
        ∀ report, .succeeded report ∈ outcomes' ↔ .succeeded report ∈ outcomes) ∧
      ∀ k, (∀ p ∈ planned, ∀ part, IsUnseen part → ¬ c.store.Owns [] part p.name k) →
        d''.get? k = d'.get? k := by
  refine ⟨?_, ?_⟩
  · intro planned₁ planned₂ d₁ d₂ outcomes₁ outcomes₂ d₁' d₂' h₁ h₂ p hp₁ hp₂ hsame report hname
    have hprepares (ready : Prepared) : Prepares c.store.sheetDirectory p.dataset ready d₂ ↔
        Prepares c.store.sheetDirectory p.dataset ready d₁ := Prepares.congr hsame
    have hiff : .succeeded report ∈ outcomes₁ ↔ .succeeded report ∈ outcomes₂ := by
      rw [(h₁.went hsafe).succeeded_iff (h₁.coexist hsafe).together.distinct hp₁ hname,
        (h₂.went hsafe).succeeded_iff (h₂.coexist hsafe).together.distinct hp₂ hname,
        p.yields_congr hprepares]
    exact ⟨hiff, fun hreport =>
      h₁.sameFiles hsafe h₂ hprepares hp₁ hp₂ hname hreport (hiff.1 hreport)⟩
  · intro planned d outcomes d' seconds process serial result d'' h hends
    obtain ⟨outcomes', rfl, h'⟩ := h.again hsafe hends
    refine ⟨⟨outcomes', rfl, fun report => ?_⟩, fun k hk => h.unchanged hsafe h' hk⟩
    rw [(h.went hsafe).succeeds _ rfl, (h'.went hsafe).succeeds _ rfl]
    exact exists_congr fun p => and_congr_right fun hp => p.yields_congr (h.prepares_again hsafe hp)

/-- Two datasets beside each other, the second in a file that is given by its path from there. -/
def shelf (file : String) : Catalog :=
  let dataset (name file : String) : Dataset :=
    ⟨name, file, ⟨["x"], [], "y", .numeric⟩, 0, [linearChoice]⟩
  ⟨⟨"/c"⟩, ⟨"/m"⟩, [dataset "A" "a.csv", dataset "B" file]⟩

/-- The catalog is safe, can be built on a disk with both datasets, and the artifact of its second
fixture is seen. -/
theorem shelf_planned : (shelf "b.csv").IsSafe ∧ (shelf "b.csv").LeftByBuilds twoSheets ∧
    ∀ p ∈ (shelf "b.csv").plan.drop 1, ∀ part ∈ [Part.staged, Part.hidden],
      ¬ (shelf "b.csv").store.Owns [] part p.name ["m", "LinearRegressionB"] :=
  ⟨⟨rfl, rfl, ⟨rfl, by decide +kernel, by decide +kernel⟩, by decide +kernel⟩,
    .start
      { usable := ⟨sound_twoSheets, rfl, by decide +kernel, by decide +kernel⟩
        free := by decide +kernel
        settled := by decide +kernel },
    by decide +kernel⟩

/-- What is planned of the second dataset. -/
theorem exists_upper : ∃ p ∈ (shelf "b.csv").plan.drop 1, p.name = "LinearRegressionB" ∧
    (shelf "b.csv").sheetDirectory.entry p.dataset.file = ⟨"/c/b.csv"⟩ :=
  ⟨_, List.mem_cons_self, rfl, rfl⟩

/-- What a build reports of a fixture of `shelf`. -/
def shelfReport (name : String) : Fixture.Report := ⟨name, "LinearRegressor", 1,
  ⟨"/c/" ++ name ++ ".csv"⟩, ⟨"/m/" ++ name⟩⟩

/-- Builds only what is planned of the second dataset. -/
def buildUpper : Work (List Outcome) :=
  (shelf "b.csv").buildSelected ((shelf "b.csv").plan.drop 1)

/-- A disk on which the second fixture was built alone, at a later time. -/
def stocked : Disk := (twoSheets.run buildUpper.run).2.later 1 2 0

theorem stocked_built :
    ((twoSheets.run buildUpper.run).1
        = .ok [.succeeded (shelfReport "LinearRegressionB")] ∧
      buildUpper.run.isFaultless twoSheets = true ∧
      twoSheets.readFile ⟨"/c/b.csv"⟩ = .ok "x,y\n1.0,2.0\n".toUTF8) ∧
    (stocked.readFile ⟨"/c/b.csv"⟩ = .ok "x,y\n1.0,2.0\n".toUTF8 ∧
      (stocked.run buildUpper.run).1
        = .ok [.succeeded (shelfReport "LinearRegressionB")] ∧
      buildUpper.run.isFaultless stocked = true) ∧
    (stocked.run (shelf "b.csv").buildPlan.run).1 = .ok
        [.succeeded (shelfReport "LinearRegressionA"),
          .succeeded (shelfReport "LinearRegressionB")] ∧
      (shelf "b.csv").buildPlan.run.isFaultless stocked = true := by decide +kernel

/-- A fixture is built alone, and then among others and again. -/
theorem builds_are_independent_of_another : ∃ chosen p outcomes outcomes' d d' d'',
    (shelf "b.csv").Finishes chosen twoSheets outcomes d ∧
    ((shelf "b.csv").Finishes (shelf "b.csv").plan (d.later 1 2 0) outcomes' d' ∧
      p ∈ chosen ∧ p ∈ (shelf "b.csv").plan ∧
      .succeeded (shelfReport "LinearRegressionB") ∈ outcomes ∧
      .succeeded (shelfReport "LinearRegressionB") ∈ outcomes' ∧
      (shelf "b.csv").SameFiles p.name d d') ∧
    Ends Faultless ((shelf "b.csv").buildSelected chosen).run (d.later 1 2 0) (.ok outcomes) d'' ∧
      d''.get? ["m", "LinearRegressionB"] = d.get? ["m", "LinearRegressionB"] := by
  obtain ⟨⟨hreported, hfaultless, hread⟩, ⟨hread', hreported', hfaultless'⟩, hwhole,
    hfaultless''⟩ := stocked_built
  obtain ⟨hsafe, hleft, hseen⟩ := shelf_planned
  have hfirst : (shelf "b.csv").Finishes ((shelf "b.csv").plan.drop 1) twoSheets _ _ :=
    ⟨hleft, ⟨["LinearRegressionB"], rfl⟩, ends_of_run hfaultless hreported⟩
  have hsecond : (shelf "b.csv").Finishes (shelf "b.csv").plan stocked _ _ :=
    ⟨hfirst.left_after.later 1 2 0, ⟨[], rfl⟩, ends_of_run hfaultless'' hwhole⟩
  have hthird : Ends Faultless ((shelf "b.csv").buildSelected ((shelf "b.csv").plan.drop 1)).run
      stocked _ _ := ends_of_run hfaultless' hreported'
  obtain ⟨p, hp, hname, hfile⟩ := exists_upper
  have hp' : p ∈ (shelf "b.csv").plan := List.mem_of_mem_drop hp
  have hsame : (shelf "b.csv").SameDataset p twoSheets stocked := by
    intro bytes
    rw [hfile, hread, hread']
  obtain ⟨hindependent, hagain⟩ := builds_are_independent hsafe
  obtain ⟨hiff, hfiles⟩ := hindependent _ _ _ _ _ _ _ _ hfirst hsecond p hp hp' hsame
    (shelfReport "LinearRegressionB") hname.symm
  have hreport : .succeeded (shelfReport "LinearRegressionB")
      ∈ [Outcome.succeeded (shelfReport "LinearRegressionB")] := List.mem_singleton_self _
  obtain ⟨-, hunchanged⟩ := hagain _ _ _ _ 1 2 0 _ _ hfirst hthird
  refine ⟨_, p, _, _, _, _, _, hfirst, ⟨hsecond, hp, hp', hreport, hiff.1 hreport, hfiles hreport⟩,
    hthird, hunchanged _ fun p hp part hpart => ?_⟩
  exact hseen p hp part (by rcases hpart with rfl | rfl <;> simp)

/-! ## Dependence -/

theorem IsSafe.seemsSafe (h : c.IsSafe) : c.SeemsSafe where
  valid := h.valid
  absolute := h.directories.absolute
  directories p hp part _ :=
    ⟨h.directories.sheets p hp _ (Path.key_mem_trail _ _) part (Part.mem_all part),
      h.directories.artifacts p hp _ (Path.key_mem_trail _ _) part (Part.mem_all part)⟩
  datasets := h.datasets

/-- Two selections with a fixture in common are built, each on its disk and without meeting a fault.
One reports that the fixture was built.  The other does not, or leaves another artifact. -/
def Differs (c : Catalog) (d₁ d₂ : Disk) (name : String) : Prop :=
  ∃ selection₁ selection₂ planned₁ planned₂ outcomes₁ result₂ d₁' d₂',
    select c.plan selection₁ = .ok planned₁ ∧ select c.plan selection₂ = .ok planned₂ ∧
    (∃ p ∈ planned₁, p ∈ planned₂ ∧ p.name = name ∧ c.SameDataset p d₁ d₂) ∧
    Ends Faultless (c.buildSelected planned₁).run d₁ (.ok outcomes₁) d₁' ∧
    Ends Faultless (c.buildSelected planned₂).run d₂ result₂ d₂' ∧
    ∃ report, report.name = name ∧ .succeeded report ∈ outcomes₁ ∧
      ∀ outcomes₂, result₂ = .ok outcomes₂ → .succeeded report ∈ outcomes₂ →
        d₂'.tree (c.store.artifactKey [] name) ≠ d₁'.tree (c.store.artifactKey [] name)

/-- The path of the second dataset climbs out of the directory of the artifacts. -/
def climbing : Catalog := shelf "../m/../c/b.csv"

/-- A disk with both datasets, where a directory stands in the place of the predictions. -/
def littered : Disk := twoSheets.put ["c", "LinearRegressionB.csv"] .directory

/-- How the builds go by which fixtures are seen to depend on others, and that their catalogs seem
safe. -/
theorem dependent_built :
    (climbing.SeemsSafe ∧ vats.SeemsSafe) ∧
    ((twoSheets.run climbing.buildPlan.run).1
        = .ok [.succeeded (shelfReport "LinearRegressionA"),
            .succeeded (shelfReport "LinearRegressionB")] ∧
      climbing.buildPlan.run.isFaultless twoSheets = true ∧
      (climbing.buildSelected (climbing.plan.drop 1)).run.isFaultless twoSheets = true ∧
      ((twoSheets.run (climbing.buildSelected (climbing.plan.drop 1)).run).1.toOption.any
        (·.all Outcome.isFailure)) = true) ∧
    ((select vats.plan ["LinearRegressionWine"] = .ok (vats.plan.drop 1) ∧
        ∃ p ∈ vats.plan.drop 1, p.name = "LinearRegressionWine") ∧
      ((cellar "wine.csv").run (vats.buildSelected (vats.plan.drop 1)).run).1
        = .ok [.succeeded wineReport] ∧
      (vats.buildSelected (vats.plan.drop 1)).run.isFaultless (cellar "wine.csv") = true ∧
      ((cellar "wine.csv").run (vats.buildSelected vats.plan).run).1 = .error .crash ∧
      (vats.buildSelected vats.plan).run.isFaultless (cellar "wine.csv") = true) ∧
    littered.readFile ⟨"/c/b.csv"⟩ = .ok "x,y\n1.0,2.0\n".toUTF8 ∧
      buildUpper.run.isFaultless littered = true ∧
      ((littered.run buildUpper.run).1.toOption.any (·.all Outcome.isFailure)) = true :=
  ⟨⟨⟨rfl, rfl, by decide +kernel, by decide +kernel⟩,
    ⟨rfl, rfl, by decide +kernel, by decide +kernel⟩⟩, by decide +kernel⟩

/-- The artifact of the first fixture is swept for the second. -/
theorem differs_tangled : tangled.Differs twoSheets twoSheets "LinearRegressionB" := by
  obtain ⟨⟨hreported, hfaultless, hdirectory⟩, ⟨-, hfaultless'⟩, hnone, -⟩ := tangled_built
  obtain ⟨p, hp, hname⟩ : ∃ p ∈ tangled.plan.take 1, p.name = "LinearRegressionB" :=
    ⟨_, List.mem_cons_self, rfl⟩
  refine ⟨["LinearRegressionB"], [], tangled.plan.take 1, tangled.plan, _, _, _, _, rfl, rfl,
    ⟨p, hp, List.mem_of_mem_take hp, hname, fun _ => Iff.rfl⟩, ends_of_run hfaultless hreported,
    ends_faultless hfaultless', tangledReport "LinearRegressionB", rfl, List.mem_singleton_self _,
    fun _ _ _ htree => ?_⟩
  have htop := congrFun htree []
  rw [tree, tree, List.append_nil, hdirectory] at htop
  cases htop.symm.trans hnone

/-- A dataset is read only after another fixture has been built. -/
theorem differs_climbing : climbing.Differs twoSheets twoSheets "LinearRegressionB" := by
  obtain ⟨-, ⟨hreported, hfaultless, hfaultless', hfails⟩, -⟩ := dependent_built
  obtain ⟨p, hp, hname⟩ : ∃ p ∈ climbing.plan.drop 1, p.name = "LinearRegressionB" :=
    ⟨_, List.mem_cons_self, rfl⟩
  refine ⟨[], ["LinearRegressionB"], climbing.plan, climbing.plan.drop 1, _, _, _, _, rfl, rfl,
    ⟨p, List.mem_of_mem_drop hp, hp, hname, fun _ => Iff.rfl⟩, ends_of_run hfaultless hreported,
    ends_faultless hfaultless', shelfReport "LinearRegressionB", rfl,
    List.mem_cons_of_mem _ (List.mem_singleton_self _), fun outcomes houtcomes hreport => ?_⟩
  rw [houtcomes] at hfails
  cases List.all_eq_true.1 hfails _ hreport

/-- A fixture is built alone, and not after one that crashes. -/
theorem differs_vats :
    vats.Differs (cellar "wine.csv") (cellar "wine.csv") "LinearRegressionWine" := by
  obtain ⟨-, -, ⟨⟨hselect, p, hp, hname⟩, hreported, hfaultless, hcrashes, hfaultless'⟩, -⟩ :=
    dependent_built
  refine ⟨["LinearRegressionWine"], [], vats.plan.drop 1, vats.plan, _, _, _, _, hselect, rfl,
    ⟨p, hp, List.mem_of_mem_drop hp, hname, fun _ => Iff.rfl⟩, ends_of_run hfaultless hreported,
    ends_of_run hfaultless' hcrashes, wineReport, rfl, List.mem_singleton_self _,
    fun _ houtcomes => ?_⟩
  cases houtcomes

/-- A fixture is not built where a directory stands in its way. -/
theorem differs_shelf : (shelf "b.csv").Differs twoSheets littered "LinearRegressionB" := by
  obtain ⟨⟨hreported, hfaultless, hread⟩, -⟩ := stocked_built
  obtain ⟨-, -, -, hread', hfaultless', hfails⟩ := dependent_built
  obtain ⟨p, hp, hname, hfile⟩ := exists_upper
  have hsame : (shelf "b.csv").SameDataset p twoSheets littered := by
    intro bytes
    rw [hfile, hread, hread']
  refine ⟨["LinearRegressionB"], ["LinearRegressionB"], (shelf "b.csv").plan.drop 1,
    (shelf "b.csv").plan.drop 1, _, _, _, _, rfl, rfl, ⟨p, hp, hp, hname, hsame⟩,
    ends_of_run hfaultless hreported, ends_faultless hfaultless', shelfReport "LinearRegressionB",
    rfl, List.mem_singleton_self _, fun outcomes houtcomes hreport => ?_⟩
  replace houtcomes : (littered.run buildUpper.run).1 = .ok outcomes := houtcomes
  rw [houtcomes] at hfails
  cases List.all_eq_true.1 hfails _ hreport

/-- It is not enough that neither directory lies at or below the predictions or the artifact of a
fixture, and that no dataset is reached through what is kept of one.  If the directory of the
artifacts has a name like that of staged predictions, a sweep for one fixture takes along the
artifact of another.  A dataset that is reached through this directory is read only after it was
made for another fixture.  After a fixture that crashes no other is built.  And where a directory
stands in the place of predictions, the fixture is not built at all. -/
theorem builds_depend :
    (tangled.SeemsSafe ∧ tangled.sheetDirectory.isAbsolute = true ∧
      tangled.Differs twoSheets twoSheets "LinearRegressionB") ∧
    (climbing.SeemsSafe ∧ climbing.sheetDirectory.isAbsolute = true ∧
      climbing.Differs twoSheets twoSheets "LinearRegressionB") ∧
    (vats.SeemsSafe ∧ vats.sheetDirectory.isAbsolute = true ∧
      vats.Differs (cellar "wine.csv") (cellar "wine.csv") "LinearRegressionWine") ∧
    ((shelf "b.csv").SeemsSafe ∧ (shelf "b.csv").sheetDirectory.isAbsolute = true ∧
      (shelf "b.csv").Differs twoSheets littered "LinearRegressionB") ∧
    twoSheets.Sound ∧ (cellar "wine.csv").Sound ∧ littered.Sound := by
  obtain ⟨⟨hclimbing, hvats⟩, -⟩ := dependent_built
  have hlittered : littered.Sound :=
    @Sound.put _ ["c"] _ sound_twoSheets "LinearRegressionB.csv" (by decide) rfl fun _ => rfl
  exact ⟨⟨seemsSafe_tangled, rfl, differs_tangled⟩, ⟨hclimbing, rfl, differs_climbing⟩,
    ⟨hvats, rfl, differs_vats⟩, ⟨shelf_planned.1.seemsSafe, rfl, differs_shelf⟩, sound_twoSheets,
    sound_cellar (by decide), hlittered⟩

end Catalog

end Exemplar
