/-
How a batch of builds goes where no fault is met.

What is reported of a fixture follows from its dataset, and the dataset can be read after the other
builds if and only if it could be read before them: no path to a dataset leads through what is kept
of a fixture, and none climbs out of a directory that is yet to be made.  So what a batch reports is
foretold when it starts, fixture by fixture, and of a fixture that is not built it changes nothing
that is seen.
-/
import Exemplar.Proofs.Crashing
import Exemplar.Proofs.Lasting
import Exemplar.Proofs.Producing

namespace Exemplar

open Exemplar.Action Disk Store

namespace Disk

variable {d d' : Disk} {path : Path} {key : Key} {bytes : ByteArray} {change grow : Key → Prop}

/-- A path whose end does not depend on whether more directories are made: where it leads through
one of them, that one is there already, or what the path leads to lies below it. -/
def IsSettled (grow : Key → Prop) (path : Path) (d : Disk) : Prop :=
  ∀ k ∈ path.trail d.workingDirectory, grow k →
    d.get? k = some .directory ∨ k <+: path.key d.workingDirectory

instance (s : Store) (home : Key) (path : Path) (d : Disk) :
    Decidable (IsSettled (s.OnTheWay home) path d) :=
  inferInstanceAs (Decidable (∀ k ∈ path.trail d.workingDirectory, _ ∨ _ → _ ∨ _))

/-- What can be read at the end of such a path was there before. -/
theorem Confined.readFile_before (h : d.Confined change grow d') (hd : d.Sound)
    (hsettles : IsSettled grow path d) (htrail : ∀ k ∈ path.trail d.workingDirectory, ¬ change k)
    (hread : d'.readFile path = .ok bytes) : d.readFile path = .ok bytes := by
  obtain ⟨key, hfind⟩ := readFile_eq_ok_iff.1 hread
  obtain ⟨hresolve, hslash⟩ := resolve_of_find hfind
  obtain ⟨rfl, hentry, hopen⟩ := find_ok hfind
  rw [h.home] at hentry hresolve
  -- The file is no directory that was made, so neither is what it lies below.
  have hfile : d.get? (path.key d.workingDirectory) = some (.file bytes) := by
    rcases h.same _ (htrail _ (Path.key_mem_trail _ _)) with heq | ⟨-, -, hdirectory⟩
    · exact heq.symm.trans hentry
    · rw [hentry] at hdirectory
      cases hdirectory
  have hsame (k : Key) (hk : k ∈ path.trail d.workingDirectory) : d'.get? k = d.get? k := by
    rcases h.same k (htrail k hk) with heq | ⟨hgrow, hnone, -⟩
    · exact heq
    · exfalso
      rcases hsettles k hk hgrow with hdirectory | ⟨rest, hrest⟩
      · rw [hnone] at hdirectory
        cases hdirectory
      · rw [← hrest, hd.none_below hnone] at hfile
        cases hfile
  refine readFile_eq_ok_iff.2 ⟨path.key d.workingDirectory,
    find_of_resolve (resolve_of_open hresolve h.home.symm fun k hk => ?_) hfile hslash⟩
  rw [← hsame k (h.home ▸ mem_trail_of_mem_parentTrail hk)]
  exact hopen k hk

theorem Confined.readFile_iff (h : d.Confined change grow d') (hd : d.Sound)
    (hsettles : IsSettled grow path d) (htrail : ∀ k ∈ path.trail d.workingDirectory, ¬ change k) :
    d'.readFile path = .ok bytes ↔ d.readFile path = .ok bytes :=
  ⟨h.readFile_before hd hsettles htrail, fun hread => h.readFile hread htrail⟩

end Disk

namespace Catalog

variable {s : Store} {home : Key} {d d' d'' : Disk} {p : Planned} {planned rest : List Planned}
variable {ready : Prepared} {report : Fixture.Report} {outcome : Outcome}

/-! ## What is foretold of a fixture -/

namespace Planned

/-- The model that is trained for a fixture, if it makes its predictions. -/
def rehearse (p : Planned) (ready : Prepared) : Attempt Model := do
  let model ← Model.build p.choice.architecture p.dataset.task ready.encodings
    p.choice.hiddenUnits p.choice.seed
  Fixture.rehearse model ready.inputs p.spec

/-- What is reported of a fixture, given its prepared dataset. -/
def foretold (s : Store) (p : Planned) (ready : Prepared) : Attempt Fixture.Report := do
  Fixture.announce (← p.rehearse ready) ready.inputs p.spec s

/-- A fixture can be built from what is on a disk, and this is reported of it. -/
def Yields (s : Store) (d : Disk) (p : Planned) (report : Fixture.Report) : Prop :=
  ∃ ready, Prepares s.sheetDirectory p.dataset ready d ∧ p.foretold s ready = .ok report

/-- There are predictions for a fixture, so that more is asked for than its dataset. -/
def Stirs (s : Store) (d : Disk) (p : Planned) : Prop :=
  ∃ ready trained, Prepares s.sheetDirectory p.dataset ready d ∧ p.rehearse ready = .ok trained

/-- A build of a fixture crashes. -/
def Crashes (s : Store) (d : Disk) (p : Planned) : Prop :=
  ∃ ready, Prepares s.sheetDirectory p.dataset ready d ∧ p.foretold s ready = .error .crash

section Congr

variable (h : ∀ ready, Prepares s.sheetDirectory p.dataset ready d' ↔
  Prepares s.sheetDirectory p.dataset ready d)
include h

theorem yields_congr : p.Yields s d' report ↔ p.Yields s d report :=
  exists_congr fun ready => and_congr_left fun _ => h ready

theorem stirs_congr : p.Stirs s d' ↔ p.Stirs s d :=
  exists_congr fun ready => exists_congr fun _ => and_congr_left fun _ => h ready

theorem crashes_congr : p.Crashes s d' ↔ p.Crashes s d :=
  exists_congr fun ready => and_congr_left fun _ => h ready

end Congr

theorem name_of_foretold (h : p.foretold s ready = .ok report) : report.name = p.name := by
  obtain ⟨trained, -, h⟩ := Attempt.bind_eq_ok h
  obtain ⟨description, -, rfl⟩ := Attempt.map_eq_ok h
  rfl

theorem Yields.name_eq (h : p.Yields s d report) : report.name = p.name := by
  obtain ⟨ready, -, hforetold⟩ := h
  exact name_of_foretold hforetold

end Planned

/-- Where a dataset is read as it is elsewhere, it is prepared as it is there. -/
theorem Prepares.congr {directory : Path} {dataset : Dataset}
    (h : ∀ bytes, d'.readFile (directory.entry dataset.file) = .ok bytes ↔
      d.readFile (directory.entry dataset.file) = .ok bytes) :
    Prepares directory dataset ready d' ↔ Prepares directory dataset ready d := by
  constructor
  · rintro ⟨bytes, table, hread, htable⟩
    exact ⟨bytes, table, (h bytes).1 hread, htable⟩
  · rintro ⟨bytes, table, hread, htable⟩
    exact ⟨bytes, table, (h bytes).2 hread, htable⟩

/-! ## Where fixtures are built -/

/-- A disk on which fixtures can be built: the directories of the store are there or can be made, no
directory stands in the place of predictions, and it makes no difference to the datasets whether the
directories have been made yet. -/
structure Hosts (s : Store) (home : Key) (planned : List Planned) (d : Disk) : Prop where
  usable : s.Usable home d
  free : ∀ p ∈ planned, d.get? (s.sheetKey home p.name) ≠ some .directory
  settled : ∀ p ∈ planned,
    IsSettled (s.OnTheWay home) (s.sheetDirectory.entry p.dataset.file) d

theorem Hosts.of_subset {chosen : List Planned} (h : Hosts s home planned d)
    (hsubset : chosen ⊆ planned) : Hosts s home chosen d where
  usable := h.usable
  free p hp := h.free p (hsubset hp)
  settled p hp := h.settled p (hsubset hp)

section Coexist

variable (hcoexist : Coexist s home planned)
include hcoexist

/-- What is touched of one fixture makes no difference to another. -/
theorem Hosts.kept {parts : Part → Prop} (h : Hosts s home planned d) (hp : p ∈ planned)
    (htouches : s.Touches home p.name parts d d')
    (hfree : d'.get? (s.sheetKey home p.name) ≠ some .directory) : Hosts s home planned d' where
  usable := h.usable.kept (hcoexist.ready p hp).apart htouches
  free q hq := by
    by_cases hname : q.name = p.name
    · rwa [hname]
    · rw [htouches.eq (hcoexist.together.names p hp) (hcoexist.ready p hp).apart
        (hcoexist.together.names q hq) (hcoexist.ready q hq).apart (fun h => absurd h hname)
        (owns_sheetKey s home q.name)]
      exact h.free q hq
  settled q hq k hk hway := by
    rw [htouches.home] at hk ⊢
    refine (h.settled q hq k hk hway).imp_left fun hdirectory => ?_
    have hdirectories : d'.AreDirectories [k] :=
      htouches.areDirectories (hcoexist.ready p hp).apart (List.forall_mem_singleton.2 hway)
        (List.forall_mem_singleton.2 hdirectory)
    exact hdirectories k List.mem_cons_self

/-- Wherever a build is cut off, and whichever requests fail, builds can go on. -/
theorem Hosts.holds_build (h : Hosts s home planned d) (hp : p ∈ planned) (ready : Prepared) :
    Holds Happens (Hosts s home planned) (p.build s ready).run d
      fun _ d' => Hosts s home planned d' := by
  have hready : Fixture.Ready s home p.spec.name := hcoexist.ready p hp
  have hbuilding {makes : ByteArray → Tree → Prop} {d' : Disk}
      (hbuilding : Building Happens s home p.spec.name makes d d') : Hosts s home planned d' := by
    refine h.kept hcoexist hp hbuilding.touches ?_
    rcases hbuilding.sheet with hnone | ⟨hsame, -⟩ | ⟨bytes, -, hfile⟩
    · exact fun heq => by cases hnone.symm.trans heq
    · exact fun heq => h.free p hp (hsame.symm.trans heq)
    · exact fun heq => by cases hfile.symm.trans heq
  refine Work.holds_bind (Work.holds_ofAttempt ?_)
  cases Model.build p.choice.architecture p.dataset.task ready.encodings p.choice.hiddenUnits
      p.choice.seed with
  | error failure => exact h
  | ok model =>
    exact (Fixture.holds_build (fun _ _ _ _ h => h) Model.lawful hready h.usable.sound
      h.usable.home_eq).mono (fun _ h => hbuilding h) fun _ _ h => hbuilding h.1

/-- Datasets are prepared as before, whatever has become of the fixtures. -/
theorem Hosts.prepares_iff {change grow : Key → Prop} (h : Hosts s home planned d)
    (hp : p ∈ planned) (hconfined : d.Confined change grow d')
    (hchange : ∀ k, change k → ∃ q ∈ planned, ∃ part, s.Owns home part q.name k)
    (hgrow : ∀ k, grow k → s.OnTheWay home k) :
    Prepares s.sheetDirectory p.dataset ready d' ↔ Prepares s.sheetDirectory p.dataset ready d := by
  refine Prepares.congr fun bytes => hconfined.readFile_iff h.usable.sound
    (fun k hk hk' => h.settled p hp k hk (hgrow k hk')) fun k hk hk' => ?_
  obtain ⟨q, hq, part, howns⟩ := hchange k hk'
  rw [h.usable.home_eq] at hk
  exact hcoexist.datasets p hp q hq k hk part (Part.mem_all part) howns

end Coexist

/-! ## How a batch goes -/

/-- How a batch of builds goes that keeps going and meets no fault.

* It comes to its end unless one of the fixtures crashes.
* What succeeds is what can be built from the datasets.
* Of a fixture that is not built it changes only what is not seen.
* Directories are made only if there are predictions for one of the fixtures, and then both are
  there at the end. -/
structure Went (s : Store) (home : Key) (planned : List Planned) (d : Disk)
    (result : Attempt (List Outcome)) (d' : Disk) : Prop where
  ends : (∃ outcomes, result = .ok outcomes) ↔ ∀ p ∈ planned, ¬ p.Crashes s d
  succeeds : ∀ outcomes, result = .ok outcomes → ∀ report,
    .succeeded report ∈ outcomes ↔ ∃ p ∈ planned, p.Yields s d report
  confined : d.Confined
    (fun k => ∃ p ∈ planned, ∃ part, s.Owns home part p.name k ∧
      (IsUnseen part ∨ ∃ report, p.Yields s d report))
    (fun k => s.OnTheWay home k ∧ ∃ p ∈ planned, p.Stirs s d) d'
  opens : ∀ outcomes, result = .ok outcomes → (∃ p ∈ planned, p.Stirs s d) →
    d'.AreDirectories (s.sheetDirectory.trail home) ∧
      d'.AreDirectories (s.artifactDirectory.trail home)

namespace Went

theorem nil (hd : d.Sound) : Went s home [] d (.ok []) d where
  ends := iff_of_true ⟨[], rfl⟩ fun _ h => by cases h
  succeeds outcomes houtcomes report := by
    cases houtcomes
    exact iff_of_false (fun h => by cases h) fun ⟨_, h, _⟩ => by cases h
  confined := .refl hd
  opens _ _ h := by
    obtain ⟨_, h, -⟩ := h
    cases h

/-- A batch goes on after a fixture that did not end it. -/
theorem cons {d₁ : Disk} {result : Attempt (List Outcome)}
    (hapart : ∀ q ∈ rest, s.Apart home q.name)
    (hsame : ∀ q ∈ rest, ∀ ready, Prepares s.sheetDirectory q.dataset ready d₁ ↔
      Prepares s.sheetDirectory q.dataset ready d)
    (hone : Went s home [p] d (.ok [outcome]) d₁) (hrest : Went s home rest d₁ result d') :
    Went s home (p :: rest) d (result.map (outcome :: ·)) d' := by
  have hyields (q : Planned) (hq : q ∈ rest) (report : Fixture.Report) :
      q.Yields s d₁ report ↔ q.Yields s d report := q.yields_congr (hsame q hq)
  have hstirs (q : Planned) (hq : q ∈ rest) : q.Stirs s d₁ ↔ q.Stirs s d :=
    q.stirs_congr (hsame q hq)
  have hcrashes (q : Planned) (hq : q ∈ rest) : q.Crashes s d₁ ↔ q.Crashes s d :=
    q.crashes_congr (hsame q hq)
  refine ⟨?_, fun outcomes houtcomes report => ?_, ?_, fun outcomes houtcomes hsome => ?_⟩
  · have hfirst := hone.ends.1 ⟨_, rfl⟩ p (List.mem_singleton_self p)
    have hmap : (∃ outcomes, result.map (outcome :: ·) = .ok outcomes) ↔
        ∃ outcomes, result = .ok outcomes := by
      cases result with
      | error failure => exact iff_of_false (fun ⟨_, h⟩ => by cases h) fun ⟨_, h⟩ => by cases h
      | ok outcomes => exact iff_of_true ⟨_, rfl⟩ ⟨_, rfl⟩
    rw [hmap, hrest.ends, List.forall_mem_cons]
    exact ⟨fun h => ⟨hfirst, fun q hq => mt (hcrashes q hq).2 (h q hq)⟩,
      fun h q hq => mt (hcrashes q hq).1 (h.2 q hq)⟩
  · obtain ⟨more, rfl, rfl⟩ := Attempt.map_eq_ok houtcomes
    have hfirst : .succeeded report = outcome ↔ p.Yields s d report := by
      simpa using hone.succeeds _ rfl report
    rw [List.mem_cons, hfirst, hrest.succeeds more rfl report, List.exists_mem_cons_iff]
    exact or_congr_right (exists_congr fun q => and_congr_right fun hq => hyields q hq report)
  · refine Confined.trans (hone.confined.mono ?_ ?_) (hrest.confined.mono ?_ ?_)
    · rintro k ⟨q, hq, hk⟩
      exact ⟨q, List.mem_cons.2 (.inl (List.mem_singleton.1 hq)), hk⟩
    · rintro k ⟨hway, q, hq, hstirs⟩
      exact .inl ⟨hway, q, List.mem_cons.2 (.inl (List.mem_singleton.1 hq)), hstirs⟩
    · rintro k ⟨q, hq, part, howns, hseen⟩
      refine ⟨q, List.mem_cons_of_mem _ hq, part, howns, hseen.imp_right ?_⟩
      exact fun ⟨report, h⟩ => ⟨report, (hyields q hq report).1 h⟩
    · rintro k ⟨hway, q, hq, h⟩
      exact .inl ⟨hway, q, List.mem_cons_of_mem _ hq, (hstirs q hq).1 h⟩
  · obtain ⟨more, rfl, rfl⟩ := Attempt.map_eq_ok houtcomes
    have hkept {keys : List Key} (hkeys : ∀ k ∈ keys, s.OnTheWay home k) :
        d₁.AreDirectories keys → d'.AreDirectories keys :=
      hrest.confined.areDirectories fun k hk ⟨q, hq, part, howns, _⟩ =>
        hapart q hq part k (hkeys k hk) howns
    obtain ⟨q, hq, hq'⟩ := hsome
    rcases List.mem_cons.1 hq with rfl | hq
    · obtain ⟨hsheets, hartifacts⟩ := hone.opens _ rfl ⟨q, List.mem_singleton_self q, hq'⟩
      exact ⟨hkept (fun k hk => .inl hk) hsheets, hkept (fun k hk => .inr hk) hartifacts⟩
    · exact hrest.opens more rfl ⟨q, hq, (hstirs q hq).2 hq'⟩

/-- Of a fixture is reported what can be built of it. -/
theorem succeeded_iff {outcomes : List Outcome} (h : Went s home planned d (.ok outcomes) d')
    (hdistinct : (planned.map (·.name)).Nodup) (hp : p ∈ planned) (hname : report.name = p.name) :
    .succeeded report ∈ outcomes ↔ p.Yields s d report := by
  rw [h.succeeds outcomes rfl report]
  constructor
  · rintro ⟨q, hq, hyields⟩
    obtain rfl : q = p :=
      List.inj_on_of_nodup_map hdistinct hq hp (hyields.name_eq.symm.trans hname)
    exact hyields
  · exact fun hyields => ⟨p, hp, hyields⟩

/-- A batch ends with the fixture that ends it. -/
theorem stop {failure : Failure} (hone : Went s home [p] d (.error failure) d') :
    Went s home (p :: rest) d (.error failure) d' := by
  refine ⟨iff_of_false (fun ⟨_, h⟩ => (by cases h)) fun h => ?_, fun _ h => (by cases h), ?_,
    fun _ h => (by cases h)⟩
  · have hcrashes : ¬ ∀ q ∈ [p], ¬ q.Crashes s d := mt hone.ends.2 fun ⟨_, h⟩ => by cases h
    refine hcrashes fun q hq => h q ?_
    rw [List.mem_singleton.1 hq]
    exact List.mem_cons_self
  · refine hone.confined.mono ?_ ?_
    · rintro k ⟨q, hq, hk⟩
      exact ⟨q, List.mem_cons.2 (.inl (List.mem_singleton.1 hq)), hk⟩
    · rintro k ⟨hway, q, hq, hstirs⟩
      exact .inl ⟨hway, q, List.mem_cons.2 (.inl (List.mem_singleton.1 hq)), hstirs⟩

end Went

/-! ## One fixture -/

namespace Planned

/-- How a build of a planned fixture goes where no fault is met. -/
inductive Course (s : Store) (home : Key) (p : Planned) (ready : Prepared) (d : Disk) :
    Attempt Fixture.Report → Disk → Prop
  | idle {failure : Failure} : p.rehearse ready = .error failure →
      Course s home p ready d (.error failure) d
  | made {trained : Model} {d' : Disk} : p.rehearse ready = .ok trained →
      d'.AreDirectories (s.sheetDirectory.trail home) →
      d'.AreDirectories (s.artifactDirectory.trail home) →
      Course s home p ready d (Fixture.announce trained ready.inputs p.spec s) d'

theorem Course.result_eq {result : Attempt Fixture.Report}
    (h : p.Course s home ready d result d') : result = p.foretold s ready := by
  cases h with
  | idle hrehearse => rw [foretold, hrehearse]; rfl
  | made hrehearse => rw [foretold, hrehearse]; rfl

/-- A planned fixture is built as is foretold, and one that is not built is left as it is seen. -/
theorem course_of_build (hready : Fixture.Ready s home p.name)
    (hsheets : s.sheetDirectory.isAbsolute = true) (husable : s.Usable home d)
    (hfree : d.get? (s.sheetKey home p.name) ≠ some .directory) {result : Attempt Fixture.Report}
    (hends : Ends Faultless (p.build s ready).run d result d') :
    p.Course s home ready d result d' ∧
      ∀ failure, result = .error failure → s.Touches home p.name IsUnseen d d' := by
  have hready' : Fixture.Ready s home p.spec.name := hready
  obtain ⟨attempt, d₀, hfirst, hbuild⟩ := ends_bind.1 hends
  obtain ⟨rfl, rfl⟩ := ends_pure.1 hfirst
  cases hmodel : Model.build p.choice.architecture p.dataset.task ready.encodings
      p.choice.hiddenUnits p.choice.seed with
  | error failure =>
    rw [hmodel] at hbuild
    obtain ⟨rfl, rfl⟩ := ends_pure.1 hbuild
    refine ⟨.idle ?_, fun _ _ => .refl husable.sound⟩
    rw [rehearse, hmodel]
    rfl
  | ok model =>
    rw [hmodel] at hbuild
    have hbuild : Ends Faultless (Fixture.build model ready.inputs p.spec s).run d₀ result d' :=
      hbuild
    have hrehearse : p.rehearse ready = Fixture.rehearse model ready.inputs p.spec := by
      rw [rehearse, hmodel]
      rfl
    refine ⟨?_, ?_⟩
    · cases (Fixture.holds_build_faultless hready' hsheets husable hfree).ends hbuild with
      | idle h => exact .idle (hrehearse.trans h)
      | made h hopen hartifacts => exact .made (hrehearse.trans h) hopen hartifacts
    · rintro failure rfl
      exact Fixture.untouched_of_build hready' hsheets husable hfree hbuild

end Planned

theorem Prepares.unique {directory : Path} {dataset : Dataset} {ready' : Prepared}
    (h : Prepares directory dataset ready d) (h' : Prepares directory dataset ready' d) :
    ready = ready' :=
  Except.ok.inj (h.told.symm.trans h'.told)

/-- What comes of preparing a dataset. -/
structure Attempted (s : Store) (d : Disk) (dataset : Dataset) (result : Attempt Prepared) :
    Prop where
  ne_crash : result ≠ .error .crash
  ok_iff : ∀ ready, result = .ok ready ↔ Prepares s.sheetDirectory dataset ready d

theorem attempted_of_prepare {dataset : Dataset} {result : Attempt Prepared}
    (hends : Ends Faultless (prepare (Table.inDirectory s.sheetDirectory) dataset).run d result
      d') :
    d' = d ∧ Attempted s d dataset result := by
  obtain ⟨rfl, hprepares⟩ := (holds_prepare s.sheetDirectory dataset d).ends
    (hends.widen fun _ _ _ _ h => Faultless.happens h)
  have htold : Work.told d' (prepare (Table.inDirectory s.sheetDirectory) dataset) = result :=
    congrArg Prod.fst (run_of_ends (hends.widen fun _ _ _ _ h => h.1))
  refine ⟨rfl, htold ▸ told_prepare_ne_crash _ _ _, fun ready => ⟨hprepares ready, fun h => ?_⟩⟩
  exact htold.symm.trans h.told

/-- The dataset of a fixture is prepared, or taken from before if it is the same. -/
theorem attempted_of_prepared {last : Option (Nat × Attempt Prepared)}
    {found : Attempt (Attempt Prepared)}
    (hlast : ∀ position result, last = some (position, result) → position = p.position →
      Attempted s d p.dataset result)
    (hends : Ends Faultless (prepared (Table.inDirectory s.sheetDirectory) last p : Work _).run d
      found d') :
    d' = d ∧ ∃ result, found = .ok result ∧ Attempted s d p.dataset result := by
  have hfresh (h : Ends Faultless (Work.outcome (prepare (Table.inDirectory s.sheetDirectory)
      p.dataset) : Work _).run d found d') :
      d' = d ∧ ∃ result, found = .ok result ∧ Attempted s d p.dataset result := by
    obtain ⟨result, d₁, hprepare, hdone⟩ := ends_bind.1 h
    obtain ⟨rfl, rfl⟩ := ends_pure.1 hdone
    obtain ⟨rfl, hattempted⟩ := attempted_of_prepare hprepare
    exact ⟨rfl, result, rfl, hattempted⟩
  rcases last with _ | ⟨position, result⟩
  · exact hfresh hends
  · rw [prepared] at hends
    split at hends
    · rename_i hposition
      obtain ⟨rfl, rfl⟩ := ends_pure.1 hends
      exact ⟨rfl, result, rfl, hlast position result rfl hposition⟩
    · exact hfresh hends

/-- A fixture whose dataset cannot be prepared. -/
theorem Went.unprepared {failure : Failure} (hd : d.Sound)
    (hnone : ∀ ready, ¬ Prepares s.sheetDirectory p.dataset ready d) :
    Went s home [p] d (.ok [.failed p.name failure]) d where
  ends := by
    refine iff_of_true ⟨_, rfl⟩ fun q hq ⟨ready, hprepares, _⟩ => ?_
    rw [List.mem_singleton.1 hq] at hprepares
    exact hnone ready hprepares
  succeeds outcomes houtcomes report := by
    cases houtcomes
    refine iff_of_false (by simp) fun ⟨q, hq, ready, hprepares, _⟩ => ?_
    rw [List.mem_singleton.1 hq] at hprepares
    exact hnone ready hprepares
  confined := .refl hd
  opens outcomes _ hsome := by
    obtain ⟨q, hq, ready, _, hprepares, _⟩ := hsome
    rw [List.mem_singleton.1 hq] at hprepares
    exact absurd hprepares (hnone ready)

/-- A fixture whose dataset is prepared. -/
theorem Went.prepared {result : Attempt Fixture.Report} (hd : d.Sound)
    (hprepares : Prepares s.sheetDirectory p.dataset ready d)
    (hcourse : p.Course s home ready d result d')
    (htouches : s.Touches home p.name (fun _ => True) d d')
    (hfails : ∀ failure, result = .error failure → s.Touches home p.name IsUnseen d d') :
    Went s home [p] d ((settle .keepGoing p result).map fun outcome => [outcome]) d' := by
  have hresult := hcourse.result_eq
  have hyields (report : Fixture.Report) : p.Yields s d report ↔ result = .ok report := by
    rw [hresult]
    refine ⟨fun ⟨_, hprepares', h⟩ => ?_, fun h => ⟨ready, hprepares, h⟩⟩
    rwa [hprepares'.unique hprepares] at h
  have hcrashes : p.Crashes s d ↔ result = .error .crash := by
    rw [hresult]
    refine ⟨fun ⟨_, hprepares', h⟩ => ?_, fun h => ⟨ready, hprepares, h⟩⟩
    rwa [hprepares'.unique hprepares] at h
  refine ⟨?_, ?_, ?_, ?_⟩
  · simp only [List.mem_singleton, forall_eq, hcrashes]
    rcases result with (_ | _) | report
    · exact iff_of_true ⟨_, rfl⟩ fun h => by cases h
    · exact iff_of_false (fun ⟨_, h⟩ => by cases h) fun h => h rfl
    · exact iff_of_true ⟨_, rfl⟩ fun h => by cases h
  · intro outcomes houtcomes report
    simp only [List.mem_singleton, exists_eq_left, hyields]
    rcases result with (_ | _) | found
    · cases houtcomes
      simp
    · cases houtcomes
    · cases houtcomes
      simp [eq_comm]
  · have hchanged : d' = d ∨ p.Stirs s d := by
      cases hcourse with
      | idle => exact .inl rfl
      | made hrehearse => exact .inr ⟨ready, _, hprepares, hrehearse⟩
    rcases hchanged with rfl | hstirs
    · exact .refl hd
    have hgrow (k : Key) (hk : s.OnTheWay home k) :
        s.OnTheWay home k ∧ ∃ q ∈ [p], q.Stirs s d := ⟨hk, p, List.mem_singleton_self p, hstirs⟩
    cases result with
    | error failure =>
      refine (hfails failure rfl).mono (fun k ⟨part, hseen, howns⟩ => ?_) fun k hk =>
        .inl (hgrow k hk)
      exact ⟨p, List.mem_singleton_self p, part, howns, .inl hseen⟩
    | ok report =>
      refine htouches.mono (fun k ⟨part, _, howns⟩ => ?_) fun k hk => .inl (hgrow k hk)
      exact ⟨p, List.mem_singleton_self p, part, howns, .inr ⟨report, (hyields report).2 rfl⟩⟩
  · rintro outcomes - ⟨q, hq, _, trained, hprepares', hrehearse⟩
    rw [List.mem_singleton.1 hq] at hprepares' hrehearse
    rw [hprepares'.unique hprepares] at hrehearse
    cases hcourse with
    | idle hfailed => cases hrehearse.symm.trans hfailed
    | made _ hopen hartifacts => exact ⟨hopen, hartifacts⟩

/-! ## A whole batch -/

/-- What was prepared last is what would be prepared again. -/
def KeptOf (s : Store) (d : Disk) (last : Option (Nat × Attempt Prepared))
    (planned : List Planned) : Prop :=
  ∀ position result, last = some (position, result) →
    ∀ p ∈ planned, position = p.position → Attempted s d p.dataset result

theorem went_of_runAll {last : Option (Nat × Attempt Prepared)} {result : Attempt (List Outcome)}
    (hcoexist : Coexist s home planned) (hsheets : s.sheetDirectory.isAbsolute = true)
    (hhosts : Hosts s home planned d) (hlast : KeptOf s d last planned)
    (hends : Ends Faultless (runAll (Table.inDirectory s.sheetDirectory) .keepGoing
      (Planned.build s) last planned).run d result d') :
    Went s home planned d result d' := by
  induction planned generalizing last d result with
  | nil =>
    obtain ⟨rfl, rfl⟩ := ends_pure.1 hends
    exact .nil hhosts.usable.sound
  | cons p rest ih =>
    have hp : p ∈ p :: rest := List.mem_cons_self
    have hd := hhosts.usable.sound
    rw [runAll] at hends
    obtain ⟨found, d₁, hprepared, hends⟩ := ends_bind.1 hends
    obtain ⟨rfl, prepared, rfl, hattempted⟩ := attempted_of_prepared
      (fun position result h => hlast position result h p hp) hprepared
    obtain ⟨one, d₂, hone, hends⟩ := ends_bind.1 hends
    have hwent : Went s home [p] d₁ (one.map fun outcome => [outcome]) d₂ ∧
        Hosts s home (p :: rest) d₂ := by
      cases prepared with
      | error failure =>
        obtain ⟨rfl, rfl⟩ := ends_pure.1 hone
        refine ⟨?_, hhosts⟩
        cases failure with
        | crash => exact absurd rfl hattempted.ne_crash
        | during activities cause =>
          exact .unprepared hd fun ready h => by cases (hattempted.ok_iff ready).2 h
      | ok ready =>
        obtain ⟨outcome, d₃, hbuilt, hsettled⟩ := ends_bind.1 hone
        obtain ⟨built, d₄, hbuild, hdone⟩ := ends_bind.1 hbuilt
        obtain ⟨rfl, rfl⟩ := ends_pure.1 hdone
        obtain ⟨rfl, rfl⟩ := ends_pure.1 hsettled
        have hready := hcoexist.ready p hp
        have hhappens := hbuild.widen fun _ _ _ _ h => Faultless.happens h
        obtain ⟨hcourse, hfails⟩ := p.course_of_build hready hsheets hhosts.usable
          (hhosts.free p hp) hbuild
        have htouches := (p.holds_build hready hd hhosts.usable.home_eq ready).ends hhappens
        exact ⟨.prepared hd ((hattempted.ok_iff ready).1 rfl) hcourse htouches hfails,
          (hhosts.holds_build hcoexist hp ready).ends hhappens⟩
    obtain ⟨hwent, hhosts₂⟩ := hwent
    cases one with
    | error failure =>
      obtain ⟨rfl, rfl⟩ := ends_pure.1 hends
      exact hwent.stop
    | ok outcome =>
      obtain ⟨more, d₃, hmore, hdone⟩ := ends_bind.1 hends
      have hresult : result = more.map (outcome :: ·) ∧ d' = d₃ := by
        cases more with
        | error failure => exact ends_pure.1 hdone
        | ok outcomes => exact ends_pure.1 hdone
      obtain ⟨rfl, rfl⟩ := hresult
      have hsame (q : Planned) (hq : q ∈ p :: rest) (ready : Prepared) :
          Prepares s.sheetDirectory q.dataset ready d₂ ↔
            Prepares s.sheetDirectory q.dataset ready d₁ := by
        refine hhosts.prepares_iff hcoexist hq hwent.confined ?_ fun k hk => hk.1
        rintro k ⟨q, hq, part, howns, -⟩
        exact ⟨q, List.mem_cons.2 (.inl (List.mem_singleton.1 hq)), part, howns⟩
      have hlast₂ : KeptOf s d₂ (some (p.position, prepared)) rest := by
        intro position result heq q hq hposition
        cases heq
        have hq' : q ∈ p :: rest := List.mem_cons_of_mem _ hq
        rw [← hcoexist.together.datasets p hp q hq' hposition]
        exact ⟨hattempted.ne_crash, fun ready =>
          (hattempted.ok_iff ready).trans (hsame p hp ready).symm⟩
      have hrest := ih hcoexist.tail (hhosts₂.of_subset (List.subset_cons_self p rest)) hlast₂ hmore
      have hapart (q : Planned) (hq : q ∈ rest) : s.Apart home q.name :=
        (hcoexist.ready q (List.mem_cons_of_mem _ hq)).apart
      exact hwent.cons hapart (fun q hq => hsame q (List.mem_cons_of_mem _ hq)) hrest

end Catalog

end Exemplar
