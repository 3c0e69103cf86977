/-
A batch and the plain loop.

A batch keeps the dataset that it prepared last and takes it again for the fixtures that
follow.  The plain loop prepares the dataset of every fixture anew and then acts on the
fixture, and it never looks back.  With a source that answers the same all along, both do
the same: what is kept is what would be prepared again.  That is shown of batches that note
what they ask for, so that it can be said as well what they do not do: they load no dataset
twice, and they act on nothing after the fixture that ends them.
-/
import Exemplar.Catalog.Batch
import Exemplar.Proofs.Planning
import Exemplar.Proofs.Runs

namespace Exemplar

open Exemplar.Action

/-! ## Programs that note -/

/-- What a batch asks for. -/
inductive Event where
  | loads (file : String)
  | acts (name : String)
  deriving DecidableEq, Repr

namespace Event

def loaded? : Event → Option String
  | loads file => some file
  | acts _ => none

def acted? : Event → Option String
  | loads _ => none
  | acts name => some name

end Event

/-- Work beside which events are noted. -/
abbrev NotedWork := ExceptT Failure (StateT (List Event) Action)

namespace NotedWork

variable {α β : Type} {R : System} {d d' d'' : Disk} {events events' : List Event}

/-- The work, beside a note of an event. -/
def noting (event : Event) (work : Work α) : NotedWork α :=
  ExceptT.mk fun events => do return (← work.run, events ++ [event])

/-- A run, and what is noted in the end. -/
def Notes (R : System) (work : NotedWork α) (d : Disk) (events : List Event) (result : Attempt α)
    (d' : Disk) (events' : List Event) : Prop :=
  Ends R (work.run.run events) d (result, events') d'

/-- Noted work does what other work does, whatever was noted before. -/
def Forgets (noted : NotedWork α) (work : Work α) : Prop :=
  ∀ events, (fun ending => ending.1) <$> noted.run.run events = work.run

theorem notes_ofAttempt {attempt result : Attempt α} :
    Notes R (Work.ofAttempt attempt : NotedWork α) d events result d' events' ↔
      result = attempt ∧ d' = d ∧ events' = events := by
  refine Iff.trans ends_pure ?_
  rw [Prod.mk.injEq]
  exact ⟨fun ⟨⟨h, h'⟩, h''⟩ => ⟨h, h'', h'⟩, fun ⟨h, h'', h'⟩ => ⟨⟨h, h'⟩, h''⟩⟩

theorem notes_bind {work : NotedWork α} {next : α → NotedWork β} {result : Attempt β} :
    Notes R (work >>= next) d events result d'' events' ↔
      (∃ value d₁ middle, Notes R work d events (.ok value) d₁ middle ∧
        Notes R (next value) d₁ middle result d'' events') ∨
      ∃ failure, Notes R work d events (.error failure) d'' events' ∧ result = .error failure := by
  refine Iff.trans ends_bind ?_
  constructor
  · rintro ⟨⟨failure | value, middle⟩, d₁, hwork, hrest⟩
    · obtain ⟨heq, rfl⟩ := ends_pure.1 hrest
      cases heq
      exact .inr ⟨failure, hwork, rfl⟩
    · exact .inl ⟨value, d₁, middle, hwork, hrest⟩
  · rintro (⟨value, d₁, middle, hwork, hrest⟩ | ⟨failure, hwork, rfl⟩)
    · exact ⟨_, _, hwork, hrest⟩
    · exact ⟨_, _, hwork, ends_pure.2 ⟨rfl, rfl⟩⟩

theorem notes_outcome {work : NotedWork α} {result : Attempt (Attempt α)} :
    Notes R (Work.outcome work) d events result d' events' ↔
      ∃ value, Notes R work d events value d' events' ∧ result = .ok value := by
  refine Iff.trans ends_bind ?_
  constructor
  · rintro ⟨⟨value, middle⟩, d₁, hwork, hrest⟩
    obtain ⟨heq, rfl⟩ := ends_pure.1 hrest
    cases heq
    exact ⟨value, hwork, rfl⟩
  · rintro ⟨value, hwork, rfl⟩
    exact ⟨_, _, hwork, ends_pure.2 ⟨rfl, rfl⟩⟩

theorem notes_noting {event : Event} {work : Work α} {result : Attempt α} :
    Notes R (noting event work) d events result d' events' ↔
      Ends R work.run d result d' ∧ events' = events ++ [event] := by
  refine Iff.trans ends_bind ?_
  constructor
  · rintro ⟨value, d₁, hwork, hrest⟩
    obtain ⟨heq, rfl⟩ := ends_pure.1 hrest
    cases heq
    exact ⟨hwork, rfl⟩
  · rintro ⟨hwork, rfl⟩
    exact ⟨_, _, hwork, ends_pure.2 ⟨rfl, rfl⟩⟩

theorem forgets_ofAttempt (attempt : Attempt α) :
    Forgets (Work.ofAttempt attempt) (Work.ofAttempt attempt) := fun _ => rfl

theorem forgets_noting (event : Event) (work : Work α) : Forgets (noting event work) work := by
  intro events
  show (work.run.bind _).bind _ = _
  rw [Action.bind_assoc]
  exact Action.bind_done work.run

theorem forgets_bind {noted : NotedWork α} {work : Work α} {next : α → NotedWork β}
    {next' : α → Work β} (h : Forgets noted work)
    (hnext : ∀ value, Forgets (next value) (next' value)) :
    Forgets (noted >>= next) (work >>= next') := by
  intro events
  show ((noted.run.run events).bind _).bind _ = work.run.bind _
  rw [← h events, Action.bind_assoc]
  show _ = ((noted.run.run events).bind _).bind _
  rw [Action.bind_assoc]
  congr 1
  funext ⟨result, middle⟩
  cases result with
  | error failure => rfl
  | ok value => exact hnext value middle

theorem forgets_outcome {noted : NotedWork α} {work : Work α} (h : Forgets noted work) :
    Forgets (Work.outcome noted) (Work.outcome work) := by
  intro events
  show ((noted.run.run events).bind _).bind _ = work.run.bind _
  rw [← h events, Action.bind_assoc]
  show _ = ((noted.run.run events).bind _).bind _
  rw [Action.bind_assoc]
  rfl

/-- A run is a run of the work that notes, whatever is noted. -/
theorem Forgets.ends_iff {noted : NotedWork α} {work : Work α} {result : Attempt α}
    (h : Forgets noted work) (events : List Event) :
    Ends R work.run d result d' ↔ ∃ events', Notes R noted d events result d' events' := by
  rw [← h events]
  refine Iff.trans ends_bind ?_
  constructor
  · rintro ⟨⟨value, events'⟩, d₁, hnoted, hrest⟩
    obtain ⟨rfl, rfl⟩ := ends_pure.1 hrest
    exact ⟨events', hnoted⟩
  · rintro ⟨events', hnoted⟩
    exact ⟨_, _, hnoted, ends_pure.2 ⟨rfl, rfl⟩⟩

end NotedWork

namespace Catalog

open NotedWork

/-! ## One by one -/

/-- A fixture by itself: its dataset is prepared for it alone. -/
def alone (source : String → Work Table) (act : Planned → Prepared → Work Fixture.Report)
    (p : Planned) : Work Fixture.Report := do
  act p (← prepare source p.dataset)

/-- The plain loop: fixtures in order, each by itself, and what comes of them. -/
inductive OneByOne (R : System) (alone : Planned → Work Fixture.Report) :
    List Planned → Disk → List (Attempt Fixture.Report) → Disk → Prop
  | nil {d : Disk} : OneByOne R alone [] d [] d
  | cons {p : Planned} {rest : List Planned} {d d' d'' : Disk} {result : Attempt Fixture.Report}
      {results : List (Attempt Fixture.Report)} :
      Ends R (alone p).run d result d' → OneByOne R alone rest d' results d'' →
      OneByOne R alone (p :: rest) d (result :: results) d''

/-- What a batch goes on after. -/
def Policy.Passes : Policy → Attempt Fixture.Report → Prop
  | .stop, result => ∃ report, result = .ok report
  | .keepGoing, result => result ≠ .error .crash

/-- The plain loop up to the first fixture that a batch does not go on after: the fixtures before
it, that fixture and its failure. -/
inductive StopsAt (R : System) (alone : Planned → Work Fixture.Report) (policy : Policy) :
    List Planned → Disk → List Planned → Planned → Failure → Disk → Prop
  | here {p : Planned} {rest : List Planned} {d d' : Disk} {cause : Failure} :
      Ends R (alone p).run d (.error cause) d' → ¬ policy.Passes (.error cause) →
      StopsAt R alone policy (p :: rest) d [] p cause d'
  | later {p q : Planned} {rest done : List Planned} {d d' d'' : Disk}
      {result : Attempt Fixture.Report} {cause : Failure} :
      Ends R (alone p).run d result d' → policy.Passes result →
      StopsAt R alone policy rest d' done q cause d'' →
      StopsAt R alone policy (p :: rest) d (p :: done) q cause d''

/-- What a batch is ended by: a failure to prepare the dataset as it is, any other with the name of
the fixture. -/
def blame (p : Planned) : Attempt Prepared → Failure → Failure
  | .ok _, cause => cause.within (.fixture p.name)
  | .error _, cause => cause

/-- What is shown of a result: the report, or the text of the failure. -/
def shown : Attempt Fixture.Report → Except String Fixture.Report
  | .ok report => .ok report
  | .error failure => .error failure.message

/-- What is shown of an outcome. -/
def Outcome.shown : Outcome → Except String Fixture.Report
  | .succeeded report => .ok report
  | .failed _ failure => .error failure.message

/-- A batch that notes which files it loads and on which fixtures it acts. -/
def noted (source : String → Work Table) (policy : Policy)
    (act : Planned → Prepared → Work Fixture.Report) (last : Option (Nat × Attempt Prepared))
    (planned : List Planned) : NotedWork (List Outcome) :=
  runAll (fun file => noting (.loads file) (source file)) policy
    (fun p ready => noting (.acts p.name) (act p ready)) last planned

section

variable {source : String → Work Table} {act : Planned → Prepared → Work Fixture.Report}
variable {policy : Policy} {last : Option (Nat × Attempt Prepared)} {planned : List Planned}

theorem forgets_prepare (source : String → Work Table) (dataset : Dataset) :
    Forgets (prepare (fun file => noting (.loads file) (source file)) dataset)
      (prepare source dataset) :=
  forgets_bind (forgets_noting _ _) fun _ => forgets_ofAttempt _

theorem forgets_noted : Forgets (noted source policy act last planned)
    (runAll source policy act last planned) := by
  have hprepare (p : Planned) := forgets_outcome (forgets_prepare source p.dataset)
  unfold noted
  induction planned generalizing last with
  | nil => exact forgets_ofAttempt (.ok [])
  | cons p rest ih =>
    refine forgets_bind ?_ fun result => forgets_bind ?_ fun outcome =>
      forgets_bind ih fun outcomes => forgets_ofAttempt (.ok (outcome :: outcomes))
    · rcases last with _ | ⟨position, result⟩
      · exact hprepare p
      · rw [prepared, prepared]
        split
        · exact forgets_ofAttempt (.ok result)
        · exact hprepare p
    · cases result with
      | error failure => exact forgets_ofAttempt _
      | ok ready =>
        exact forgets_bind (forgets_outcome (forgets_noting _ _)) fun result => forgets_ofAttempt _

end

/-! ## What is answered the same all along -/

variable {R : System} {I : Disk → Prop} {d d' d'' : Disk} {events events' : List Event}
variable {source : String → Work Table} {tables : String → Attempt Table}
variable {act : Planned → Prepared → Work Fixture.Report} {policy : Policy} {p : Planned}
variable {last : Option (Nat × Attempt Prepared)} {planned rest : List Planned}

/-- Wherever the invariant holds, a source answers a file with the same table or the same failure,
and leaves everything as it is. -/
def Steady (R : System) (I : Disk → Prop) (source : String → Work Table)
    (tables : String → Attempt Table) : Prop :=
  ∀ file d result d', I d → (Ends R (source file).run d result d' ↔ result = tables file ∧ d' = d)

/-- A dataset that is prepared from such tables, or why it cannot be. -/
def ready (tables : String → Attempt Table) (dataset : Dataset) : Attempt Prepared :=
  tables dataset.file >>= prepareTable dataset

/-- Fixtures of one position have one dataset, and what is done with them does not change what the
source answers. -/
structure Undisturbed (R : System) (I : Disk → Prop) (source : String → Work Table)
    (tables : String → Attempt Table) (act : Planned → Prepared → Work Fixture.Report)
    (planned : List Planned) : Prop where
  steady : Steady R I source tables
  keeps : ∀ p ∈ planned, ∀ ready d result d',
    I d → Ends R (act p ready).run d result d' → I d'
  together : ∀ p ∈ planned, ∀ q ∈ planned, p.position = q.position → p.dataset = q.dataset

theorem Undisturbed.tail (h : Undisturbed R I source tables act (p :: rest)) :
    Undisturbed R I source tables act rest where
  steady := h.steady
  keeps q hq := h.keeps q (List.mem_cons_of_mem _ hq)
  together q hq q' hq' := h.together q (List.mem_cons_of_mem _ hq) q' (List.mem_cons_of_mem _ hq')

/-- What is kept of the last dataset is what would be prepared again. -/
def Kept (tables : String → Attempt Table) (last : Option (Nat × Attempt Prepared))
    (planned : List Planned) : Prop :=
  ∀ position result, last = some (position, result) →
    ∀ p ∈ planned, position = p.position → result = ready tables p.dataset

/-- What is noted of a fixture beside its dataset. -/
def actEvents (p : Planned) : Attempt Prepared → List Event
  | .ok _ => [.acts p.name]
  | .error _ => []

/-- What is noted of fixtures after a dataset of some position. -/
def trace (tables : String → Attempt Table) : Option Nat → List Planned → List Event
  | _, [] => []
  | last, p :: rest =>
    (if last = some p.position then [] else [.loads p.dataset.file])
      ++ actEvents p (ready tables p.dataset) ++ trace tables (some p.position) rest

theorem trace_cons (last : Option Nat) (p : Planned) (rest : List Planned) :
    trace tables last (p :: rest)
      = trace tables last [p] ++ trace tables (some p.position) rest := by
  simp only [trace, List.append_nil]

/-! ## One fixture -/

/-- What is done with a fixture, given its prepared dataset. -/
def Acts (R : System) (act : Planned → Prepared → Work Fixture.Report) (p : Planned) :
    Attempt Prepared → Disk → Attempt Fixture.Report → Disk → Prop
  | .ok ready, d, result, d' => Ends R (act p ready).run d result d'
  | .error failure, d, result, d' => result = .error failure ∧ d' = d

/-- What a batch makes of a result. -/
def judged (policy : Policy) (p : Planned) : Attempt Prepared → Attempt Fixture.Report →
    Attempt Outcome
  | .ok _, result => settle policy p result
  | .error failure, _ => settleUnprepared policy p failure

theorem notes_prepare (h : Steady R I source tables) (hd : I d) {dataset : Dataset}
    {result : Attempt Prepared} :
    Notes R (prepare (fun file => noting (.loads file) (source file)) dataset) d events result d'
        events' ↔
      result = ready tables dataset ∧ d' = d ∧ events' = events ++ [.loads dataset.file] := by
  constructor
  · intro hnotes
    rcases notes_bind.1 hnotes with ⟨table, d₁, middle, hsource, hrest⟩ | ⟨failure, hsource, rfl⟩
    · obtain ⟨hends, rfl⟩ := notes_noting.1 hsource
      obtain ⟨htable, rfl⟩ := (h _ _ _ _ hd).1 hends
      obtain ⟨rfl, rfl, rfl⟩ := notes_ofAttempt.1 hrest
      exact ⟨by rw [ready, ← htable]; rfl, rfl, rfl⟩
    · obtain ⟨hends, rfl⟩ := notes_noting.1 hsource
      obtain ⟨htable, rfl⟩ := (h _ _ _ _ hd).1 hends
      exact ⟨by rw [ready, ← htable]; rfl, rfl, rfl⟩
  · rintro ⟨rfl, rfl, rfl⟩
    rw [ready]
    cases htable : tables dataset.file with
    | error failure =>
      exact notes_bind.2 (.inr ⟨failure,
        notes_noting.2 ⟨(h _ _ _ _ hd).2 ⟨htable.symm, rfl⟩, rfl⟩, rfl⟩)
    | ok table =>
      exact notes_bind.2 (.inl ⟨table, _, _,
        notes_noting.2 ⟨(h _ _ _ _ hd).2 ⟨htable.symm, rfl⟩, rfl⟩,
        notes_ofAttempt.2 ⟨rfl, rfl, rfl⟩⟩)

theorem ends_prepare (h : Steady R I source tables) (hd : I d) {dataset : Dataset}
    {result : Attempt Prepared} : Ends R (prepare source dataset).run d result d' ↔
      result = ready tables dataset ∧ d' = d := by
  rw [(forgets_prepare source dataset).ends_iff []]
  simp only [notes_prepare h hd, exists_and_left, exists_eq, and_true]

theorem ends_alone (h : Steady R I source tables) (hd : I d) {result : Attempt Fixture.Report} :
    Ends R (alone source act p).run d result d' ↔
      Acts R act p (ready tables p.dataset) d result d' := by
  refine Iff.trans ends_bind ?_
  constructor
  · rintro ⟨prepared, d₁, hprepare, hrest⟩
    obtain ⟨rfl, rfl⟩ := (ends_prepare h hd).1 hprepare
    cases hready : ready tables p.dataset with
    | error failure => rw [hready] at hrest; exact ends_pure.1 hrest
    | ok ready => rw [hready] at hrest; exact hrest
  · intro hacts
    refine ⟨_, _, (ends_prepare h hd).2 ⟨rfl, rfl⟩, ?_⟩
    cases hready : ready tables p.dataset with
    | error failure => rw [hready] at hacts; exact ends_pure.2 hacts
    | ok ready => rw [hready] at hacts; exact hacts

/-- A batch takes the dataset that it kept, or loads it. -/
theorem notes_prepared (h : Steady R I source tables) (hd : I d)
    (hlast : Kept tables last (p :: rest)) {result : Attempt (Attempt Prepared)} :
    Notes R (prepared (fun file => noting (.loads file) (source file)) last p) d events result d'
        events' ↔
      result = .ok (ready tables p.dataset) ∧ d' = d ∧ events' = events
        ++ if last.map (·.1) = some p.position then [] else [.loads p.dataset.file] := by
  have hprepare : Notes R (Work.outcome (prepare
        (fun file => noting (.loads file) (source file)) p.dataset)) d events result d' events' ↔
      result = .ok (ready tables p.dataset) ∧ d' = d ∧
        events' = events ++ [.loads p.dataset.file] := by
    simp only [notes_outcome, notes_prepare h hd]
    exact ⟨fun ⟨_, ⟨rfl, hd', hevents⟩, hresult⟩ => ⟨hresult, hd', hevents⟩,
      fun ⟨hresult, hd', hevents⟩ => ⟨_, ⟨rfl, hd', hevents⟩, hresult⟩⟩
  rcases last with _ | ⟨position, kept⟩
  · exact hprepare
  · rw [prepared, Option.map_some]
    by_cases hposition : position = p.position
    · rw [if_pos hposition, if_pos (congrArg some hposition), List.append_nil,
        hlast position kept rfl p List.mem_cons_self hposition]
      exact notes_ofAttempt
    · rw [if_neg hposition, if_neg (fun heq => hposition (Option.some.inj heq))]
      exact hprepare

theorem notes_runOne {prepared : Attempt Prepared} {outcome : Attempt Outcome} :
    Notes R (runOne policy (fun p ready => noting (.acts p.name) (act p ready)) p prepared) d events
        outcome d' events' ↔
      ∃ result, Acts R act p prepared d result d' ∧ outcome = judged policy p prepared result ∧
        events' = events ++ actEvents p prepared := by
  cases prepared with
  | error failure =>
    refine Iff.trans notes_ofAttempt ?_
    rw [actEvents, List.append_nil]
    exact ⟨fun ⟨houtcome, hd', hevents⟩ => ⟨_, ⟨rfl, hd'⟩, houtcome, hevents⟩,
      fun ⟨_, ⟨_, hd'⟩, houtcome, hevents⟩ => ⟨houtcome, hd', hevents⟩⟩
  | ok ready =>
    refine Iff.trans notes_bind ?_
    simp only [notes_outcome, notes_noting, notes_ofAttempt]
    constructor
    · rintro (⟨_, d₁, _, ⟨result, ⟨hends, rfl⟩, hresult⟩, rfl, rfl, rfl⟩ |
        ⟨failure, ⟨_, _, hresult⟩, -⟩)
      · cases hresult
        exact ⟨_, hends, rfl, rfl⟩
      · cases hresult
    · rintro ⟨result, hends, rfl, rfl⟩
      exact .inl ⟨_, _, _, ⟨_, ⟨hends, rfl⟩, rfl⟩, rfl, rfl, rfl⟩

/-- A result that a batch goes on after becomes an outcome that shows the same, under the name of
the fixture. -/
theorem judged_of_passes {prepared : Attempt Prepared} {result : Attempt Fixture.Report}
    (hacts : Acts R act p prepared d result d') (hpasses : policy.Passes result)
    (hnamed : ∀ report, result = .ok report → report.name = p.name) :
    ∃ outcome, judged policy p prepared result = .ok outcome ∧ outcome.name = p.name ∧
      outcome.shown = shown result := by
  cases prepared with
  | error failure =>
    obtain ⟨rfl, rfl⟩ := hacts
    cases policy with
    | stop => exact absurd hpasses (by rintro ⟨_, h⟩; cases h)
    | keepGoing =>
      cases failure with
      | crash => exact absurd rfl hpasses
      | during activities cause => exact ⟨_, rfl, rfl, rfl⟩
  | ok ready =>
    cases result with
    | ok report => exact ⟨_, rfl, hnamed report rfl, rfl⟩
    | error failure =>
      cases policy with
      | stop => exact absurd hpasses (by rintro ⟨_, h⟩; cases h)
      | keepGoing =>
        cases failure with
        | crash => exact absurd rfl hpasses
        | during activities cause => exact ⟨_, rfl, rfl, rfl⟩

/-- Any other result ends the batch. -/
theorem judged_of_not_passes {prepared : Attempt Prepared} {result : Attempt Fixture.Report}
    (hacts : Acts R act p prepared d result d') (hpasses : ¬ policy.Passes result) :
    ∃ cause, result = .error cause ∧
      judged policy p prepared result = .error (blame p prepared cause) := by
  cases result with
  | ok report =>
    cases policy with
    | stop => exact absurd ⟨report, rfl⟩ hpasses
    | keepGoing => exact absurd (fun h => by cases h) hpasses
  | error cause =>
    refine ⟨cause, rfl, ?_⟩
    cases cause with
    | crash =>
      cases prepared with
      | error failure =>
        cases hacts.1
        cases policy <;> rfl
      | ok ready => cases policy <;> rfl
    | during activities cause =>
      cases policy with
      | keepGoing => exact absurd (fun h => by cases h) hpasses
      | stop =>
        cases prepared with
        | error failure =>
          cases hacts.1
          rfl
        | ok ready => rfl

/-- What a batch does first: the first fixture by itself.  Then it goes on with the others, or
ends. -/
theorem notes_cons (h : Undisturbed R I source tables act (p :: rest)) (hd : I d)
    (hlast : Kept tables last (p :: rest)) {outcomes : Attempt (List Outcome)} :
    Notes R (noted source policy act last (p :: rest)) d events outcomes d'' events' ↔
      ∃ result d', Ends R (alone source act p).run d result d' ∧
        ((∃ outcome more, judged policy p (ready tables p.dataset) result = .ok outcome ∧
            Notes R (noted source policy act (some (p.position, ready tables p.dataset)) rest) d'
              (events ++ trace tables (last.map (·.1)) [p]) more d'' events' ∧
            outcomes = more.map (outcome :: ·)) ∨
          ∃ failure, judged policy p (ready tables p.dataset) result = .error failure ∧
            d'' = d' ∧ events' = events ++ trace tables (last.map (·.1)) [p] ∧
            outcomes = .error failure) := by
  have htrace : events ++ trace tables (last.map (·.1)) [p] = events
      ++ (if last.map (·.1) = some p.position then [] else [.loads p.dataset.file])
      ++ actEvents p (ready tables p.dataset) := by
    simp only [trace, List.append_nil, List.append_assoc]
  rw [htrace]
  constructor
  · intro hnotes
    rcases notes_bind.1 hnotes with ⟨_, _, _, hprepared, hnotes⟩ | ⟨failure, hprepared, -⟩
    swap
    · cases ((notes_prepared h.steady hd hlast).1 hprepared).1
    obtain ⟨hready, rfl, rfl⟩ := (notes_prepared h.steady hd hlast).1 hprepared
    cases hready
    rcases notes_bind.1 hnotes with ⟨outcome, d', _, hone, hnotes⟩ | ⟨failure, hone, rfl⟩
    · obtain ⟨result, hacts, hjudged, rfl⟩ := notes_runOne.1 hone
      refine ⟨result, d', (ends_alone h.steady hd).2 hacts, .inl ⟨outcome, ?_⟩⟩
      rcases notes_bind.1 hnotes with ⟨outcomes, _, _, hmore, hdone⟩ | ⟨failure, hmore, rfl⟩
      · obtain ⟨rfl, rfl, rfl⟩ := notes_ofAttempt.1 hdone
        exact ⟨.ok outcomes, hjudged.symm, hmore, rfl⟩
      · exact ⟨.error failure, hjudged.symm, hmore, rfl⟩
    · obtain ⟨result, hacts, hjudged, rfl⟩ := notes_runOne.1 hone
      exact ⟨result, _, (ends_alone h.steady hd).2 hacts,
        .inr ⟨failure, hjudged.symm, rfl, rfl, rfl⟩⟩
  · rintro ⟨result, d', halone, hcases⟩
    have hacts := (ends_alone h.steady hd).1 halone
    refine notes_bind.2 (.inl ⟨_, _, _, (notes_prepared h.steady hd hlast).2 ⟨rfl, rfl, rfl⟩, ?_⟩)
    rcases hcases with ⟨outcome, more, hjudged, hmore, rfl⟩ | ⟨failure, hjudged, rfl, rfl, rfl⟩
    · refine notes_bind.2 (.inl
        ⟨outcome, d', _, notes_runOne.2 ⟨result, hacts, hjudged.symm, rfl⟩, ?_⟩)
      cases more with
      | ok outcomes =>
        exact notes_bind.2 (.inl ⟨outcomes, _, _, hmore, notes_ofAttempt.2 ⟨rfl, rfl, rfl⟩⟩)
      | error failure => exact notes_bind.2 (.inr ⟨failure, hmore, rfl⟩)
    · exact notes_bind.2 (.inr
        ⟨failure, notes_runOne.2 ⟨result, hacts, hjudged.symm, rfl⟩, rfl⟩)

/-! ## All fixtures -/

theorem Kept.tail (h : Undisturbed R I source tables act (p :: rest)) :
    Kept tables (some (p.position, ready tables p.dataset)) rest := by
  intro position result heq q hq hposition
  cases heq
  rw [h.together p List.mem_cons_self q (List.mem_cons_of_mem _ hq) hposition]

theorem Undisturbed.keeps_alone (h : Undisturbed R I source tables act (p :: rest)) (hd : I d)
    {result : Attempt Fixture.Report} (hends : Ends R (alone source act p).run d result d') :
    I d' := by
  have hacts := (ends_alone h.steady hd).1 hends
  cases hready : ready tables p.dataset with
  | error failure =>
    rw [hready] at hacts
    exact hacts.2 ▸ hd
  | ok ready =>
    rw [hready] at hacts
    exact h.keeps p List.mem_cons_self ready d result d' hd hacts

/-- What is reported of a fixture is reported under its name. -/
def Named (R : System) (act : Planned → Prepared → Work Fixture.Report) : Prop :=
  ∀ p ready d report d', Ends R (act p ready).run d (.ok report) d' → report.name = p.name

theorem Named.alone (hnamed : Named R act) {report : Fixture.Report}
    (hends : Ends R (alone source act p).run d (.ok report) d') : report.name = p.name := by
  obtain ⟨ready, d₁, -, hact⟩ := Work.ends_bind hends
  exact hnamed p ready d₁ report d' hact

section

variable {outcomes : List Outcome} {results : List (Attempt Fixture.Report)}

/-- A batch that comes to its end has done what the plain loop does, and tells the same. -/
theorem oneByOne_of_notes (h : Undisturbed R I source tables act planned) (hnamed : Named R act)
    (hd : I d) (hlast : Kept tables last planned)
    (hnotes : Notes R (noted source policy act last planned) d events (.ok outcomes) d' events') :
    ∃ results, OneByOne R (alone source act) planned d results d' ∧
      (∀ result ∈ results, policy.Passes result) ∧
      outcomes.map Outcome.name = planned.map (·.name) ∧
      outcomes.map Outcome.shown = results.map shown ∧
      events' = events ++ trace tables (last.map (·.1)) planned := by
  induction planned generalizing last d events outcomes with
  | nil =>
    obtain ⟨houtcomes, rfl, rfl⟩ := notes_ofAttempt.1 hnotes
    cases houtcomes
    exact ⟨[], .nil, by simp, rfl, rfl, (List.append_nil _).symm⟩
  | cons p rest ih =>
    obtain ⟨result, d₁, halone, hcases⟩ := (notes_cons h hd hlast).1 hnotes
    rcases hcases with ⟨outcome, more, hjudged, hmore, heq⟩ | ⟨failure, -, -, -, heq⟩
    swap
    · cases heq
    cases more with
    | error failure => cases heq
    | ok others =>
    cases heq
    have hacts := (ends_alone h.steady hd).1 halone
    have hpasses : policy.Passes result := by
      by_contra hfails
      obtain ⟨cause, -, hended⟩ := judged_of_not_passes hacts hfails
      cases hjudged.symm.trans hended
    obtain ⟨told, htold, hname, hshown⟩ := judged_of_passes hacts hpasses
      fun report hreport => hnamed.alone (hreport ▸ halone)
    cases hjudged.symm.trans htold
    obtain ⟨results, hloop, hall, hnames, hsame, rfl⟩ :=
      ih h.tail (h.keeps_alone hd halone) (.tail h) hmore
    refine ⟨result :: results, .cons halone hloop, List.forall_mem_cons.2 ⟨hpasses, hall⟩, ?_⟩
    rw [trace_cons _ p rest, ← List.append_assoc]
    exact ⟨congrArg₂ _ hname hnames, congrArg₂ _ hshown hsame, rfl⟩

/-- A batch that may go on after all results comes to its end. -/
theorem notes_of_oneByOne (h : Undisturbed R I source tables act planned) (hnamed : Named R act)
    (hd : I d) (hlast : Kept tables last planned)
    (hloop : OneByOne R (alone source act) planned d results d')
    (hall : ∀ result ∈ results, policy.Passes result) :
    ∃ outcomes events', Notes R (noted source policy act last planned) d events (.ok outcomes) d'
      events' := by
  induction hloop generalizing last events with
  | nil => exact ⟨[], events, notes_ofAttempt.2 ⟨rfl, rfl, rfl⟩⟩
  | @cons p rest d d₁ d₂ result results halone _ ih =>
    obtain ⟨hpasses, hall⟩ := List.forall_mem_cons.1 hall
    have hacts := (ends_alone h.steady hd).1 halone
    obtain ⟨outcome, hjudged, -, -⟩ := judged_of_passes hacts hpasses
      fun report hreport => hnamed.alone (hreport ▸ halone)
    obtain ⟨outcomes, events', hmore⟩ :=
      ih h.tail (h.keeps_alone hd halone) (.tail h) hall
    exact ⟨outcome :: outcomes, events', (notes_cons h hd hlast).2
      ⟨result, d₁, halone, .inl ⟨outcome, .ok outcomes, hjudged, hmore, rfl⟩⟩⟩

/-- A batch is ended by the first fixture that it does not go on after, and notes nothing after
it. -/
theorem notes_error_iff (h : Undisturbed R I source tables act planned) (hnamed : Named R act)
    (hd : I d) (hlast : Kept tables last planned) {failure : Failure} :
    Notes R (noted source policy act last planned) d events (.error failure) d' events' ↔
      ∃ done p cause, StopsAt R (alone source act) policy planned d done p cause d' ∧
        failure = blame p (ready tables p.dataset) cause ∧
        events' = events ++ trace tables (last.map (·.1)) (done ++ [p]) := by
  constructor
  · intro hnotes
    induction planned generalizing last d events with
    | nil =>
      obtain ⟨hresult, -, -⟩ := notes_ofAttempt.1 hnotes
      cases hresult
    | cons p rest ih =>
      obtain ⟨result, d₁, halone, hcases⟩ := (notes_cons h hd hlast).1 hnotes
      have hacts := (ends_alone h.steady hd).1 halone
      rcases hcases with ⟨outcome, more, hjudged, hmore, heq⟩ | ⟨_, hjudged, rfl, rfl, heq⟩
      · have hpasses : policy.Passes result := by
          by_contra hfails
          obtain ⟨cause, -, hended⟩ := judged_of_not_passes hacts hfails
          cases hjudged.symm.trans hended
        cases more with
        | ok outcomes => cases heq
        | error failure' =>
          cases heq
          obtain ⟨done, q, cause, hstops, hfailure, rfl⟩ :=
            ih h.tail (h.keeps_alone hd halone) (.tail h) hmore
          refine ⟨p :: done, q, cause, .later halone hpasses hstops, hfailure, ?_⟩
          rw [List.cons_append, trace_cons _ p (done ++ [q]), List.append_assoc]
          rfl
      · cases heq
        have hfails : ¬ policy.Passes result := by
          intro hpasses
          obtain ⟨outcome, htold, -, -⟩ := judged_of_passes hacts hpasses
            fun report hreport => hnamed.alone (hreport ▸ halone)
          cases hjudged.symm.trans htold
        obtain ⟨cause, rfl, hended⟩ := judged_of_not_passes hacts hfails
        cases hjudged.symm.trans hended
        exact ⟨[], p, cause, .here halone hfails, rfl, rfl⟩
  · rintro ⟨done, p, cause, hstops, rfl, rfl⟩
    induction hstops generalizing last events with
    | @here p rest d d₁ cause halone hfails =>
      obtain ⟨_, heq, hended⟩ :=
        judged_of_not_passes ((ends_alone h.steady hd).1 halone) hfails
      cases heq
      exact (notes_cons h hd hlast).2 ⟨_, d₁, halone, .inr ⟨_, hended, rfl, rfl, rfl⟩⟩
    | @later p q rest done d d₁ d₂ result cause halone hpasses _ ih =>
      obtain ⟨outcome, hjudged, -, -⟩ := judged_of_passes ((ends_alone h.steady hd).1 halone)
        hpasses fun report hreport => hnamed.alone (hreport ▸ halone)
      rw [List.cons_append, trace_cons _ p (done ++ [q]), ← List.append_assoc]
      exact (notes_cons h hd hlast).2 ⟨result, d₁, halone, .inl ⟨outcome, .error _, hjudged,
        ih h.tail (h.keeps_alone hd halone) (.tail h), rfl⟩⟩

end

/-! ## What is noted -/

/-- Fixtures whose datasets can be prepared are acted on, each once and in order. -/
theorem acted_trace (last : Option Nat) (planned : List Planned) :
    (trace tables last planned).filterMap Event.acted?
      = (planned.filter fun p => (ready tables p.dataset).isOk).map (·.name) := by
  induction planned generalizing last with
  | nil => rfl
  | cons p rest ih =>
    have hloads : (if last = some p.position then [] else [Event.loads p.dataset.file]).filterMap
        Event.acted? = [] := by split <;> rfl
    rw [trace, List.filterMap_append, List.filterMap_append, hloads, ih, List.nil_append,
      List.filter_cons]
    cases ready tables p.dataset <;> rfl

/-- Fixtures of the dataset that was loaded last load nothing. -/
theorem loaded_trace_same {position : Nat} {same rest : List Planned}
    (hsame : ∀ p ∈ same, p.position = position) :
    (trace tables (some position) (same ++ rest)).filterMap Event.loaded?
      = (trace tables (some position) rest).filterMap Event.loaded? := by
  induction same with
  | nil => rfl
  | cons p same ih =>
    obtain ⟨rfl, hsame⟩ := List.forall_mem_cons.1 hsame
    have hacts : (actEvents p (ready tables p.dataset)).filterMap Event.loaded? = [] := by
      cases ready tables p.dataset <;> rfl
    rw [List.cons_append, trace, if_pos rfl, List.nil_append, List.filterMap_append, hacts,
      List.nil_append, ih hsame]

/-- Each dataset of a plan is loaded at most once. -/
theorem loaded_trace_sublist {datasets : List Dataset} {position : Nat} {last : Option Nat}
    (h : planned.Sublist ((datasets.zipIdx position).flatMap fun (d, i) => planDataset d i)) :
    ((trace tables last planned).filterMap Event.loaded?).Sublist (datasets.map (·.file)) := by
  induction datasets generalizing planned position last with
  | nil =>
    rw [List.sublist_nil.1 h]
    exact .slnil
  | cons dataset datasets ih =>
    rw [List.zipIdx_cons, List.flatMap_cons] at h
    obtain ⟨same, rest, rfl, hsame, hrest⟩ := List.sublist_append_iff.1 h
    cases same with
    | nil => exact (ih hrest).cons _
    | cons p same =>
      have hplanned (q : Planned) (hq : q ∈ p :: same) :
          q.position = position ∧ q.dataset = dataset := by
        obtain ⟨choice, -, rfl⟩ := List.mem_map.1 (hsame.subset hq)
        exact ⟨rfl, rfl⟩
      obtain ⟨rfl, rfl⟩ := hplanned p List.mem_cons_self
      have hacts : (actEvents p (ready tables p.dataset)).filterMap Event.loaded? = [] := by
        cases ready tables p.dataset <;> rfl
      rw [List.cons_append, trace, List.filterMap_append, List.filterMap_append, hacts,
        List.append_nil, loaded_trace_same
          fun q hq => (hplanned q (List.mem_cons_of_mem _ hq)).1]
      split
      · exact (ih hrest).cons _
      · exact (ih hrest).cons_cons _

end Catalog
end Exemplar
