/-
Programs that only look.

A program that asks for nothing but what is on the disk leaves the disk as it is,
and what it answers is told by the disk alone.  Verification is of this kind, so a
batch that verifies fixtures does with each what would be done with it alone: it
does not matter in which order they come, nor that a dataset is prepared once for
several of them.
-/
import Exemplar.Catalog.Batch
import Exemplar.Proofs.Cleaning
import Exemplar.Proofs.Shapes

namespace Exemplar

open Exemplar.Action

/-- The requests that only look. -/
def Request.Looks : Request → Prop
  | .kindOf _ | .list _ | .walk _ | .locate _ | .read _ | .clock | .processNumber => True
  | _ => False

variable {α β : Type} {d : Disk}

/-- A disk is as it was after a request that only looks. -/
theorem Disk.answer_of_looks {r : Request} (h : r.Looks) (d : Disk) : (d.answer r).2 = d := by
  cases r <;> first | rfl | exact h.elim

theorem Disk.run_of_looks {program : Action α} (h : Asks Request.Looks program) (d : Disk) :
    (d.run program).2 = d := by
  induction program with
  | done value => rfl
  | ask r next ih =>
    show ((d.answer r).2.run (next (d.answer r).1)).2 = d
    rw [Disk.answer_of_looks h.1]
    exact ih _ (h.2 _)

/-- A request that only looks changes nothing even if it fails. -/
theorem Disk.happens_of_looks {r : Request} {reply : r.Reply} {d' : Disk} (hr : r.Looks)
    (h : Disk.Happens r d reply d') : d' = d := by
  cases r with
  | kindOf path => exact (Disk.happens_kindOf h).1
  | list path => exact (Disk.happens_list h).1
  | walk path => exact (Disk.happens_walk h).1
  | locate path => exact (Disk.happens_locate h).1
  | read path => exact (Disk.happens_read h).1
  | clock => exact Disk.happens_clock h
  | processNumber => exact Disk.happens_processNumber h
  | _ => exact hr.elim

/-! ## Work that only looks -/

namespace Work

/-- Work that asks only for what is on the disk. -/
def Looks (work : Work α) : Prop := Asks Request.Looks work.run

/-- What a disk tells the work. -/
def told (d : Disk) (work : Work α) : Attempt α := (d.run work.run).1

variable {work : Work α} {next : α → Work β}

theorem Looks.run (h : work.Looks) (d : Disk) : d.run work.run = (work.told d, d) :=
  Prod.ext rfl (Disk.run_of_looks h d)

theorem looks_throw (failure : Failure) : (throw failure : Work α).Looks := trivial

theorem looks_ofAttempt (attempt : Attempt α) : Looks (Work.ofAttempt attempt : Work α) := trivial

theorem looks_bind (h : work.Looks) (hnext : ∀ value, (next value).Looks) :
    (work >>= next).Looks := by
  refine asks_bind h fun result => ?_
  cases result with
  | ok value => exact hnext value
  | error failure => trivial

theorem looks_within {activity : Activity} (h : work.Looks) :
    (Work.within activity work).Looks := asks_bind h fun _ => trivial

theorem looks_ofAction {program : Action α} (h : Asks Request.Looks program) :
    (Work.ofAction program).Looks := asks_bind h fun _ => trivial

theorem looks_ofFile {program : Action (Except FileError α)} (h : Asks Request.Looks program) :
    (Work.ofFile program).Looks := asks_bind h fun _ => trivial

theorem run_within_ok (activity : Activity) {value : α} {d' : Disk}
    (h : d.run work.run = (.ok value, d')) :
    d.run (Work.within activity work).run = (.ok value, d') := by
  rw [Disk.run] at h
  show (work.run.bind _).run Disk.answer d = _
  rw [run_bind, h]
  rfl

/-- Work that only looks leaves the disk alone, whichever requests fail. -/
theorem Looks.still (h : work.Looks) (d : Disk) :
    Holds Disk.Happens (· = d) work.run d fun _ d' => d' = d :=
  holds_asks h rfl fun _ _ _ _ hr hd happens => (Disk.happens_of_looks hr happens).trans hd

/-- What comes of work is told as a value. -/
theorem run_outcome (h : work.Looks) (d : Disk) :
    d.run (Work.outcome work : Work (Attempt α)).run = (.ok (work.told d), d) := by
  have hrun := h.run d
  rw [Disk.run] at hrun
  show (work.run.bind _).run Disk.answer d = _
  rw [run_bind, hrun]
  rfl

theorem run_bind_ok {value : α} {d' : Disk} (h : d.run work.run = (.ok value, d')) :
    d.run (work >>= next).run = d'.run (next value).run := by
  rw [Disk.run] at h
  show (work.run.bind _).run Disk.answer d = _
  rw [run_bind, h]
  rfl

theorem run_bind_error {failure : Failure} {d' : Disk} (h : d.run work.run = (.error failure, d')) :
    d.run (work >>= next).run = (.error failure, d') := by
  rw [Disk.run] at h
  show (work.run.bind _).run Disk.answer d = _
  rw [run_bind, h]
  rfl

theorem told_bind_of_ok (h : work.Looks) {a : α} (hwork : told d work = .ok a) :
    told d (work >>= next) = told d (next a) := by
  have hrun := h.run d
  rw [hwork] at hrun
  rw [told, run_bind_ok hrun]
  rfl

theorem told_bind_of_error (h : work.Looks) {failure : Failure}
    (hwork : told d work = .error failure) : told d (work >>= next) = .error failure := by
  have hrun := h.run d
  rw [hwork] at hrun
  rw [told, run_bind_error hrun]

/-- One after the other, each is told what the disk tells it alone. -/
theorem told_bind_eq_ok_iff (h : work.Looks) {b : β} : told d (work >>= next) = .ok b ↔
    ∃ a, told d work = .ok a ∧ told d (next a) = .ok b := by
  cases hwork : told d work with
  | error failure =>
    rw [told_bind_of_error h hwork]
    exact ⟨fun hb => (by cases hb), fun hb => (by cases hb.choose_spec.1)⟩
  | ok a =>
    rw [told_bind_of_ok h hwork]
    exact ⟨fun hb => ⟨a, rfl, hb⟩, fun ⟨a', ha, hb⟩ => Except.ok.inj ha ▸ hb⟩

theorem told_within (d : Disk) (activity : Activity) (work : Work α) :
    told d (Work.within activity work) = Attempt.within activity (told d work) := by
  show (Action.run Disk.answer (work.run.bind _) d).1 = _
  rw [run_bind]
  rfl

theorem told_within_eq_ok_iff {activity : Activity} {a : α} :
    told d (Work.within activity work) = .ok a ↔ told d work = .ok a := by
  rw [told_within]
  exact ⟨Attempt.within_eq_ok, fun hok => by rw [hok]; rfl⟩

theorem told_ofFile (d : Disk) (program : Action (Except FileError α)) :
    told d (Work.ofFile program) = Attempt.ofFile (d.run program).1 := by
  show (Action.run Disk.answer (program.bind _) d).1 = _
  rw [run_bind]
  rfl

end Work

/-! ## What verification asks for -/

namespace Files

theorem looks_kindOf (path : Path) : Asks Request.Looks (kindOf path) := asks_request trivial

theorem looks_isDirectory (path : Path) : Asks Request.Looks (isDirectory path) :=
  asks_bind (looks_kindOf path) fun _ => trivial

theorem looks_readText (path : Path) : Asks Request.Looks (readText path) := by
  refine asks_bind (asks_request trivial) fun reply => ?_
  cases reply with
  | error error => trivial
  | ok bytes => dsimp only; split <;> trivial

end Files

theorem Artifact.looks_readDocument (path : Path) (ofJson? : Json → Option α)
    (misfit : String → Json.Misfit) : (readDocument path ofJson? misfit).Looks := by
  refine Work.looks_bind (Work.looks_within (Work.looks_ofFile (Files.looks_readText path)))
    fun text => ?_
  split <;> trivial

theorem Model.looks_load (directory : Path) : (Model.load directory).Looks := by
  refine Work.looks_bind (Artifact.looks_readDocument _ _ _) fun description => ?_
  dsimp only
  split
  · exact Work.looks_throw _
  refine Work.looks_bind (Artifact.looks_readDocument _ _ _) fun recorded => ?_
  refine Work.looks_bind (Work.looks_ofAttempt _) fun model => ?_
  split <;> trivial

theorem Store.looks_readSheet (s : Store) (name : String) : (s.readSheet name).Looks := by
  refine Work.looks_bind (Work.looks_ofAction (asks_request trivial)) fun reply => ?_
  split
  · exact Work.looks_throw _
  · exact Work.looks_throw _
  · split <;> trivial

theorem Table.looks_load (path : Path) : (Table.load path).Looks := by
  refine asks_bind (asks_request trivial) fun reply => ?_
  split <;> trivial

theorem Fixture.looks_verify (inputs : InputPair) (spec : Spec) (s : Store) :
    (verify inputs spec s).Looks := by
  refine Work.looks_bind (Work.looks_ofAction (Files.looks_isDirectory _)) fun found => ?_
  dsimp only
  split
  · exact Work.looks_throw _
  refine Work.looks_bind (Artifact.looks_readDocument _ _ _) fun description => ?_
  refine Work.looks_bind (Work.looks_within (Work.looks_ofAttempt _)) fun _ => ?_
  refine Work.looks_bind (Work.looks_within (Model.looks_load _)) fun model => ?_
  refine Work.looks_bind (Work.looks_ofAttempt _) fun expected => ?_
  refine Work.looks_bind (Store.looks_readSheet s spec.name) fun stored => ?_
  exact Work.looks_bind (Work.looks_within (Work.looks_ofAttempt _)) fun _ => trivial

/-! ## Batches -/

namespace Catalog

theorem Planned.looks_verify (s : Store) (p : Planned) (ready : Prepared) :
    (p.verify s ready).Looks := by
  refine Work.looks_bind (Fixture.looks_verify _ _ s) fun report => ?_
  refine Work.looks_bind (Work.looks_ofAttempt _) fun expected => ?_
  dsimp only
  split <;> trivial

variable {source : String → Work Table} {policy : Policy}
variable {act : Planned → Prepared → Work Fixture.Report}

theorem looks_prepare (hsource : ∀ file, (source file).Looks) (d : Dataset) :
    Work.Looks (prepare source d) :=
  Work.looks_bind (hsource _) fun _ => Work.looks_ofAttempt _

/-- What becomes of a fixture, given its prepared dataset and what can be seen on the disk. -/
def settled (policy : Policy) (act : Planned → Prepared → Work Fixture.Report) (d : Disk)
    (p : Planned) : Attempt Prepared → Attempt Outcome
  | .ok ready => settle policy p ((act p ready).told d)
  | .error failure => settleUnprepared policy p failure

/-- What becomes of a fixture by itself. -/
def single (source : String → Work Table) (policy : Policy)
    (act : Planned → Prepared → Work Fixture.Report) (d : Disk) (p : Planned) : Attempt Outcome :=
  settled policy act d p (Work.told d (prepare source p.dataset))

theorem run_runOne (hact : ∀ p ready, (act p ready).Looks) (p : Planned)
    (result : Attempt Prepared) (d : Disk) :
    d.run (runOne policy act p result).run = (settled policy act d p result, d) := by
  cases result with
  | error failure => rfl
  | ok ready =>
    rw [runOne, Work.run_bind_ok (Work.run_outcome (hact p ready) d)]
    rfl

/-- A dataset that was prepared before is what it would be if it were prepared again. -/
theorem run_prepared (hsource : ∀ file, (source file).Looks)
    {last : Option (Nat × Attempt Prepared)} {p : Planned}
    (hlast : ∀ position result, last = some (position, result) →
      position = p.position → result = Work.told d (prepare source p.dataset)) :
    d.run (prepared source last p).run = (.ok (Work.told d (prepare source p.dataset)), d) := by
  have hfresh : d.run (Work.outcome (prepare source p.dataset) : Work (Attempt Prepared)).run
      = (.ok (Work.told d (prepare source p.dataset)), d) :=
    Work.run_outcome (looks_prepare hsource p.dataset) d
  cases last with
  | none => exact hfresh
  | some last =>
    obtain ⟨position, result⟩ := last
    rw [prepared]
    split
    · rename_i hposition
      rw [← hlast position result rfl hposition]
      rfl
    · exact hfresh

/-- A batch that only looks does with each fixture what would be done with it alone. -/
theorem run_runAll (hsource : ∀ file, (source file).Looks) (hact : ∀ p ready, (act p ready).Looks)
    {planned : List Planned} {last : Option (Nat × Attempt Prepared)}
    (hlast : ∀ position result, last = some (position, result) → ∀ p ∈ planned,
      position = p.position → result = Work.told d (prepare source p.dataset))
    (hdatasets : ∀ p ∈ planned, ∀ q ∈ planned, p.position = q.position → p.dataset = q.dataset) :
    d.run (runAll source policy act last planned).run
      = (planned.mapM (single source policy act d), d) := by
  induction planned generalizing last with
  | nil => rfl
  | cons p rest ih =>
    rw [runAll, Work.run_bind_ok (run_prepared hsource fun position result h =>
      hlast position result h p List.mem_cons_self)]
    obtain ⟨hp, hrest⟩ := List.forall_mem_cons.1 hdatasets
    have hone : d.run (runOne policy act p (Work.told d (prepare source p.dataset))).run
        = (settled policy act d p (Work.told d (prepare source p.dataset)), d) :=
      run_runOne hact p _ d
    rw [List.mapM_cons, single]
    cases hsettled : settled policy act d p (Work.told d (prepare source p.dataset)) with
    | error failure =>
      rw [hsettled] at hone
      rw [Work.run_bind_error hone]
      rfl
    | ok outcome =>
      rw [hsettled] at hone
      rw [Work.run_bind_ok hone]
      have hmore := @ih (some (p.position, Work.told d (prepare source p.dataset))) ?_ ?_
      · cases houtcomes : rest.mapM (single source policy act d) with
        | error failure =>
          rw [houtcomes] at hmore
          rw [Work.run_bind_error hmore]
          rfl
        | ok outcomes =>
          rw [houtcomes] at hmore
          rw [Work.run_bind_ok hmore]
          rfl
      · intro position result h q hq hposition
        cases h
        rw [hp q (List.mem_cons_of_mem _ hq) hposition]
      · exact fun p' hp' q hq => hrest p' hp' q (List.mem_cons_of_mem _ hq)

end Catalog
end Exemplar
