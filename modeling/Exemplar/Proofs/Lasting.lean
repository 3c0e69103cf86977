/-
What lasts of a batch of builds.

A build touches only what is kept under the name of its own fixture.  So what one build
leaves of a fixture, and the dataset that it was prepared from, is there when the others
are built.
-/
import Exemplar.Proofs.Datasets
import Exemplar.Proofs.Learning
import Exemplar.Proofs.Verifying

namespace Exemplar

open Exemplar.Action Disk Store

/-! ## Names of models -/

namespace Model

variable {model trained : Model}

/-- A model that is built is of the kind that is asked for. -/
theorem name_of_build {architecture : Architecture} {task : Task} {encodings : List Encoding}
    {hiddenUnits : List Nat} {seed : Int64}
    (h : build architecture task encodings hiddenUnits seed = .ok model) :
    architecture.taskModelName task = .ok model.name := by
  obtain ⟨head, hhead, h⟩ := Attempt.bind_eq_ok h
  rw [Architecture.taskModelName, hhead]
  cases architecture with
  | linear =>
    obtain ⟨m, hnew, h⟩ := Attempt.bind_eq_ok h
    cases h
    rw [LinearModel.new] at hnew
    split at hnew
    · cases hnew
      rfl
    · cases hnew
  | network =>
    obtain ⟨m, hnew, h⟩ := Attempt.bind_eq_ok h
    cases h
    obtain ⟨⟨⟩, -, hnew⟩ := Attempt.bind_eq_ok hnew
    dsimp only at hnew
    split at hnew
    · cases hnew
    · cases hnew
      rfl

/-- Training does not change the kind of a model. -/
theorem name_of_fit {inputs : TrainingInputs} {steps : UInt64}
    (h : model.fit inputs steps = .ok trained) : trained.name = model.name := by
  have hhead := (fit_eq_ok_keeps h).1
  cases model with
  | linear m =>
    obtain ⟨m', -, rfl⟩ := Attempt.map_eq_ok h
    exact congrArg Architecture.linear.modelName hhead
  | network m =>
    obtain ⟨m', -, rfl⟩ := Attempt.map_eq_ok h
    exact congrArg Architecture.network.modelName hhead

end Model

namespace Catalog

variable {s : Store} {home : Key} {d d' : Disk} {p : Planned} {planned : List Planned}
variable {ready : Prepared} {policy : Policy} {report : Fixture.Report} {directory : Path}
variable {names : List String}

/-! ## What a batch of builds leaves -/

/-- A dataset that can be read on a disk and made ready. -/
def Prepares (directory : Path) (dataset : Dataset) (ready : Prepared) (d : Disk) : Prop :=
  ∃ bytes table, d.readFile (directory.entry dataset.file) = .ok bytes ∧
    Table.ofBytes bytes.toList = .ok table ∧ prepareTable dataset table = .ok ready

theorem Prepares.told {dataset : Dataset} (h : Prepares directory dataset ready d) :
    Work.told d (prepare (Table.inDirectory directory) dataset) = .ok ready := by
  obtain ⟨bytes, table, hread, htable, hready⟩ := h
  have hreply : (Action.request (.read (directory.entry dataset.file))).run answer d
      = (.ok bytes, d) := by
    rw [← hread]
    rfl
  have hload : d.run (Table.inDirectory directory dataset.file).run = (.ok table, d) := by
    show ((Action.request (.read (directory.entry dataset.file))).bind _).run answer d = _
    rw [run_bind, hreply]
    dsimp only
    rw [htable]
    rfl
  rw [Work.told, prepare, Work.run_bind_ok hload, hready]
  rfl

theorem Prepares.kept {dataset : Dataset} (h : Prepares directory dataset ready d)
    (hdevelops : s.Develops home names d d') (hhome : d.workingDirectory = home)
    (havoids : ∀ name ∈ names, s.Avoids home name (directory.entry dataset.file)) :
    Prepares directory dataset ready d' := by
  obtain ⟨bytes, table, hread, htable⟩ := h
  exact ⟨bytes, table, hdevelops.readFile hhome havoids hread, htable⟩

/-- What is made ready was read on the disk, which is left as it is. -/
theorem holds_prepare (directory : Path) (dataset : Dataset) (d : Disk) :
    Holds Happens (fun _ => True) (prepare (Table.inDirectory directory) dataset).run d
      fun result d' => d' = d ∧ ∀ ready, result = .ok ready →
        Prepares directory dataset ready d := by
  refine Work.holds_bind (Action.holds_bind.2 (holds_request trivial fun reply d' hreply => ?_))
  obtain ⟨rfl, hread⟩ := happens_read hreply
  rcases reply with error | bytes
  · cases error <;> exact ⟨rfl, fun _ hok => by cases hok⟩
  show Holds Happens _ (pure (Attempt.within _ (Table.ofBytes bytes.toList)) : Action _) d' _
  cases htable : Table.ofBytes bytes.toList with
  | error failure => exact ⟨rfl, fun _ hok => by cases hok⟩
  | ok table =>
    refine Work.holds_ofAttempt ⟨rfl, fun ready hready => ?_⟩
    exact ⟨bytes, table, hread bytes rfl, htable, hready⟩

/-- A planned fixture as the build leaves it that has trained a model for it. -/
structure Built (s : Store) (home : Key) (p : Planned) (report : Fixture.Report) (ready : Prepared)
    (trained : Model) (d : Disk) : Prop where
  prepares : Prepares s.sheetDirectory p.dataset ready d
  trains : ∃ model, Model.build p.choice.architecture p.dataset.task ready.encodings
    p.choice.hiddenUnits p.choice.seed = .ok model ∧
      model.fit ready.inputs.training p.dataset.steps = .ok trained
  reported : report = Fixture.reportOf trained ready.inputs p.spec s
  complete : Fixture.Complete s home p.spec ready.inputs trained d

/-- Fixtures that can be built together in a store: each under a name of its own, those of one
position from one dataset, and with the directories and the datasets away from all that is kept of
them. -/
structure Coexist (s : Store) (home : Key) (planned : List Planned) : Prop where
  together : AreTogether planned
  ready : ∀ p ∈ planned, Fixture.Ready s home p.name
  datasets : ∀ p ∈ planned, ∀ q ∈ planned,
    s.Avoids home q.name (s.sheetDirectory.entry p.dataset.file)

theorem Built.kept {trained : Model} (h : Built s home p report ready trained d)
    (hdevelops : s.Develops home names d d') (hp : Fixture.Ready s home p.name)
    (hname : IsFixtureName p.name) (hothers : ∀ name ∈ names,
      IsFixtureName name ∧ s.Apart home name ∧ name ≠ p.name ∧
        s.Avoids home name (s.sheetDirectory.entry p.dataset.file)) :
    Built s home p report ready trained d' where
  prepares := h.prepares.kept hdevelops h.complete.home_eq fun name hmem =>
    (hothers name hmem).2.2.2
  trains := h.trains
  reported := h.reported
  complete := hdevelops.keeps h.complete fun name hmem _ _ htouches hcomplete =>
    hcomplete.kept hname hp.apart (hothers name hmem).1 (hothers name hmem).2.1
      (hothers name hmem).2.2.1.symm htouches

/-- A build that succeeds leaves what it reports. -/
theorem Planned.built_of_ends (hready : Fixture.Ready s home p.name)
    (havoids : s.Avoids home p.name (s.sheetDirectory.entry p.dataset.file)) (hd : d.Sound)
    (hhome : d.workingDirectory = home) (hprepares : Prepares s.sheetDirectory p.dataset ready d)
    (hends : Ends Happens (p.build s ready).run d (.ok report) d') :
    ∃ trained, Built s home p report ready trained d' := by
  have htouches : s.Touches home p.name (fun _ => True) d d' :=
    (p.holds_build hready hd hhome ready).ends hends
  have hdevelops : s.Develops home [p.name] d d' := .of_touches List.mem_cons_self htouches
  obtain ⟨model, d₀, hfirst, hbuild⟩ := Work.ends_bind hends
  obtain ⟨hmodel, rfl⟩ := Work.ends_ofAttempt hfirst
  subst hhome
  have hready' : Fixture.Ready s d.workingDirectory p.spec.name := hready
  obtain ⟨trained, hfit, rfl, hcomplete⟩ := Fixture.complete_of_ends hready' hd hbuild
  exact ⟨trained, hprepares.kept hdevelops rfl (List.forall_mem_singleton.2 havoids),
    ⟨model, hmodel, hfit⟩, rfl, hcomplete⟩

theorem settle_eq_succeeded {result : Attempt Fixture.Report}
    (h : settle policy p result = .ok (.succeeded report)) : result = .ok report := by
  rcases result with (_ | _) | found
  · cases policy <;> cases h
  · cases h
  · cases h
    rfl

theorem settleUnprepared_ne_succeeded {failure : Failure} :
    settleUnprepared policy p failure ≠ .ok (.succeeded report) := by
  cases failure <;> cases policy <;> exact fun h => by cases h

/-- What is prepared for a fixture is its dataset, as it is read on the disk. -/
theorem prepares_of_ends {last : Option (Nat × Attempt Prepared)} {result : Attempt Prepared}
    (hlast : ∀ position ready, last = some (position, .ok ready) → position = p.position →
      Prepares directory p.dataset ready d)
    (hends : Ends Happens (prepared (Table.inDirectory directory) last p : Work _).run d
      (.ok result) d') :
    d' = d ∧ ∀ ready, result = .ok ready → Prepares directory p.dataset ready d := by
  have hfresh (h : Ends Happens (Work.outcome (prepare (Table.inDirectory directory) p.dataset) :
      Work _).run d (.ok result) d') :=
    (holds_prepare directory p.dataset d).ends (Work.ends_outcome h)
  rcases last with _ | ⟨position, found⟩
  · exact hfresh hends
  · rw [prepared] at hends
    split at hends
    · rename_i hposition
      obtain ⟨hresult, rfl⟩ := ends_pure.1 hends
      cases hresult
      exact ⟨rfl, fun ready hready => hlast position ready (hready ▸ rfl) hposition⟩
    · exact hfresh hends

/-- A fixture that is reported to have succeeded is built. -/
theorem built_of_runOne (hready : Fixture.Ready s home p.name)
    (havoids : s.Avoids home p.name (s.sheetDirectory.entry p.dataset.file)) (hd : d.Sound)
    (hhome : d.workingDirectory = home) {result : Attempt Prepared} {outcome : Outcome}
    (hresult : ∀ ready, result = .ok ready → Prepares s.sheetDirectory p.dataset ready d)
    (hends : Ends Happens (runOne policy (Planned.build s) p result).run d (.ok outcome) d') :
    s.Develops home [p.name] d d' ∧ ∀ report, outcome = .succeeded report →
      ∃ ready trained, Built s home p report ready trained d' := by
  cases result with
  | error failure =>
    obtain ⟨hsettled, rfl⟩ := Work.ends_ofAttempt hends
    exact ⟨.start, fun report hreport => absurd (hreport ▸ hsettled) settleUnprepared_ne_succeeded⟩
  | ok ready =>
    obtain ⟨built, d₁, hbuilt, hlast⟩ := Work.ends_bind hends
    replace hbuilt := Work.ends_outcome hbuilt
    obtain ⟨hsettled, rfl⟩ := Work.ends_ofAttempt hlast
    refine ⟨.of_touches List.mem_cons_self ((p.holds_build hready hd hhome ready).ends hbuilt), ?_⟩
    rintro report rfl
    obtain rfl := settle_eq_succeeded hsettled
    exact ⟨ready, p.built_of_ends hready havoids hd hhome (hresult ready rfl) hbuilt⟩

theorem AreTogether.tail {rest : List Planned} (h : AreTogether (p :: rest)) :
    AreTogether rest where
  names q hq := h.names q (List.mem_cons_of_mem _ hq)
  distinct := (List.nodup_cons.1 h.distinct).2
  datasets q hq q' hq' := h.datasets q (List.mem_cons_of_mem _ hq) q' (List.mem_cons_of_mem _ hq')

theorem Coexist.tail {rest : List Planned} (h : Coexist s home (p :: rest)) :
    Coexist s home rest where
  together := h.together.tail
  ready q hq := h.ready q (List.mem_cons_of_mem _ hq)
  datasets q hq q' hq' := h.datasets q (List.mem_cons_of_mem _ hq) q' (List.mem_cons_of_mem _ hq')

/-- Every fixture that is reported to have succeeded is there when the whole batch is built. -/
theorem built_of_runAll {last : Option (Nat × Attempt Prepared)} {outcomes : List Outcome}
    (hcoexist : Coexist s home planned) (hd : d.Sound) (hhome : d.workingDirectory = home)
    (hlast : ∀ position ready, last = some (position, .ok ready) → ∀ p ∈ planned,
      position = p.position → Prepares s.sheetDirectory p.dataset ready d)
    (hends : Ends Happens (runAll (Table.inDirectory s.sheetDirectory) policy (Planned.build s) last
      planned).run d (.ok outcomes) d') :
    ∀ report, .succeeded report ∈ outcomes →
      ∃ p ∈ planned, ∃ ready trained, Built s home p report ready trained d' := by
  induction planned generalizing last d outcomes with
  | nil =>
    obtain ⟨houtcomes, -⟩ := ends_pure.1 hends
    cases houtcomes
    exact fun _ h => by cases h
  | cons p rest ih =>
    have hp : p ∈ p :: rest := List.mem_cons_self
    rw [runAll] at hends
    obtain ⟨result, d₁, hprepared, hafter⟩ := Work.ends_bind hends
    obtain ⟨rfl, hresult⟩ := prepares_of_ends (fun position ready h => hlast position ready h p hp)
      hprepared
    obtain ⟨outcome, d₂, hone, hafter⟩ := Work.ends_bind hafter
    obtain ⟨more, d₃, hmore, hdone⟩ := Work.ends_bind hafter
    obtain ⟨houtcomes, rfl⟩ := ends_pure.1 hdone
    cases houtcomes
    obtain ⟨hdevelops, hbuilt⟩ := built_of_runOne (hcoexist.ready p hp)
      (hcoexist.datasets p hp p hp) hd hhome hresult hone
    have hd₂ := hdevelops.sound hd
    have hhome₂ := hdevelops.home_eq.trans hhome
    have hrest : s.Develops home (rest.map (·.name)) d₂ d' :=
      (holds_runAll_build hcoexist.tail.ready hd₂ hhome₂ (fun _ => Table.looks_load _) policy
        _).ends hmore
    rintro report hreport
    rcases List.mem_cons.1 hreport with heq | hreport
    -- The other fixtures have other names, and what is kept of them is not touched.
    · obtain ⟨ready, trained, hbuilt⟩ := hbuilt report heq.symm
      refine ⟨p, hp, ready, trained, hbuilt.kept hrest (hcoexist.ready p hp)
        (hcoexist.together.names p hp) (List.forall_mem_map.2 fun q hq => ?_)⟩
      have hq' : q ∈ p :: rest := List.mem_cons_of_mem _ hq
      have hmem : q.name ∈ rest.map (·.name) := List.mem_map_of_mem hq
      refine ⟨hcoexist.together.names q hq', (hcoexist.ready q hq').apart, fun heq => ?_,
        hcoexist.datasets p hp q hq'⟩
      rw [heq] at hmem
      exact (List.nodup_cons.1 hcoexist.together.distinct).1 hmem
    -- What was prepared for this fixture is still there for others of the same dataset.
    · have hlast' : ∀ position ready, some (p.position, result) = some (position, .ok ready) →
          ∀ q ∈ rest, position = q.position → Prepares s.sheetDirectory q.dataset ready d₂ := by
        intro position ready h q hq hposition
        cases h
        rw [← hcoexist.together.datasets p hp q (List.mem_cons_of_mem _ hq) hposition]
        exact (hresult ready rfl).kept hdevelops hhome
          (List.forall_mem_singleton.2 (hcoexist.datasets p hp p hp))
      obtain ⟨q, hq, hbuilt⟩ := ih hcoexist.tail hd₂ hhome₂ hlast' hmore report hreport
      exact ⟨q, List.mem_cons_of_mem _ hq, hbuilt⟩

end Catalog
end Exemplar
