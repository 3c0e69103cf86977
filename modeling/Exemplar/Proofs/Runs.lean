/-
Runs of programs, complete or cut off.

A system says what may come of a request: the reply, and the disk afterwards.  A
disk that keeps its word is one system, one on which requests can also fail is
another, and a run in one of them passes through a state before every request
and ends in another.  `Holds` says of a program that whatever the system does, an
invariant is true in every state in which a run can be cut off, and a condition
at its end.  It is proved along the program: a rule for each way in which
programs are put together, and one statement for each operation.
-/
import Exemplar.Files.Disk
import Exemplar.Work

namespace Exemplar

/-- What may come of a request: the reply, and the disk afterwards. -/
abbrev System := (r : Request) → Disk → r.Reply → Disk → Prop

namespace Action

variable {α β : Type} {R R' : System} {I I' : Disk → Prop} {d d' d'' : Disk}

/-- The states in which a run may stand between two requests, before the first and after the
last. -/
inductive Visits (R : System) : {α : Type} → Action α → Disk → Disk → Prop
  | here {α : Type} {program : Action α} {d : Disk} : Visits R program d d
  | after {α : Type} {r : Request} {next : r.Reply → Action α} {reply : r.Reply}
      {d d' d'' : Disk} :
      R r d reply d' → Visits R (next reply) d' d'' → Visits R (.ask r next) d d''

/-- A run that is not cut off ends with a value and leaves a disk. -/
inductive Ends (R : System) : {α : Type} → Action α → Disk → α → Disk → Prop
  | done {α : Type} {value : α} {d : Disk} : Ends R (.done value) d value d
  | after {α : Type} {r : Request} {next : r.Reply → Action α} {reply : r.Reply} {value : α}
      {d d' d'' : Disk} :
      R r d reply d' → Ends R (next reply) d' value d'' → Ends R (.ask r next) d value d''

/-- Whatever the system does, the invariant holds before every request, and the condition at the
end. -/
def Holds (R : System) (I : Disk → Prop) : Action α → Disk → (α → Disk → Prop) → Prop
  | .done value, d, Q => Q value d
  | .ask r next, d, Q => I d ∧ ∀ reply d', R r d reply d' → Holds R I (next reply) d' Q

variable {program : Action α} {Q Q' : α → Disk → Prop}

theorem holds_pure {value : α} (h : Q value d) : Holds R I (pure value) d Q := h

theorem holds_request {r : Request} {Q : r.Reply → Disk → Prop} (hI : I d)
    (h : ∀ reply d', R r d reply d' → Q reply d') : Holds R I (.request r) d Q := ⟨hI, h⟩

theorem holds_bind {next : α → Action β} {Q : β → Disk → Prop} :
    Holds R I (program >>= next) d Q ↔
      Holds R I program d fun value d' => Holds R I (next value) d' Q := by
  show Holds R I (program.bind next) d Q ↔ _
  induction program generalizing d with
  | done value => rfl
  | ask r rest ih => simp only [bind, Holds, ih]

theorem Holds.mono (h : Holds R I program d Q) (hI : ∀ d', I d' → I' d')
    (hQ : ∀ value d', Q value d' → Q' value d') : Holds R I' program d Q' := by
  induction program generalizing d with
  | done value => exact hQ value d h
  | ask r rest ih => exact ⟨hI d h.1, fun reply d' hr => ih reply (h.2 reply d' hr)⟩

theorem Holds.and (h : Holds R I program d Q) (h' : Holds R I' program d Q') :
    Holds R (fun d => I d ∧ I' d) program d fun value d => Q value d ∧ Q' value d := by
  induction program generalizing d with
  | done value => exact ⟨h, h'⟩
  | ask r rest ih =>
    exact ⟨⟨h.1, h'.1⟩, fun reply d' hr => ih reply (h.2 reply d' hr) (h'.2 reply d' hr)⟩

/-- What holds on a system holds on one that can do less. -/
theorem Holds.restrict (h : Holds R I program d Q)
    (hR : ∀ r d reply d', R' r d reply d' → R r d reply d') : Holds R' I program d Q := by
  induction program generalizing d with
  | done value => exact h
  | ask r rest ih => exact ⟨h.1, fun reply d' hr => ih reply (h.2 reply d' (hR _ _ _ _ hr))⟩

/-- The invariant is true wherever a run is cut off. -/
theorem Holds.visits (h : Holds R I program d Q) (hQ : ∀ value d', Q value d' → I d')
    (hvisits : Visits R program d d') : I d' := by
  induction hvisits with
  | here =>
    rename_i program d
    cases program with
    | done value => exact hQ value d h
    | ask r next => exact h.1
  | after hr _ ih => exact ih (h.2 _ _ hr)

/-- The condition is true wherever a run ends. -/
theorem Holds.ends {value : α} (h : Holds R I program d Q) (hends : Ends R program d value d') :
    Q value d' := by
  induction hends with
  | done => exact h
  | after hr _ ih => exact ih (h.2 _ _ hr)

/-- Nothing else is at the end of a program than what its runs end with. -/
theorem holds_ends (program : Action α) (d : Disk) :
    Holds R (fun _ => True) program d fun value d' => Ends R program d value d' := by
  induction program generalizing d with
  | done value => exact .done
  | ask r next ih =>
    exact ⟨trivial, fun reply d' hr =>
      (ih reply d').mono (fun _ h => h) fun _ _ hends => .after hr hends⟩

/-- A run on a system is one on any system that can do more. -/
theorem Ends.widen {value : α} (h : Ends R program d value d')
    (hR : ∀ r d reply d', R r d reply d' → R' r d reply d') : Ends R' program d value d' := by
  induction h with
  | done => exact .done
  | after hr _ ih => exact .after (hR _ _ _ _ hr) ih

/-- A run that ends passes through its end. -/
theorem Ends.visits {value : α} (h : Ends R program d value d') : Visits R program d d' := by
  induction h with
  | done => exact .here
  | after hr _ ih => exact .after hr ih

theorem ends_pure {value result : α} : Ends R (pure value) d result d' ↔ result = value ∧ d' = d :=
  ⟨fun h => by cases h; exact ⟨rfl, rfl⟩, fun h => by obtain ⟨rfl, rfl⟩ := h; exact .done⟩

theorem ends_request {r : Request} {reply : r.Reply} :
    Ends R (.request r) d reply d' ↔ R r d reply d' :=
  ⟨fun h => by cases h with | after hr hdone => cases hdone; exact hr, fun h => .after h .done⟩

/-- A run of one program after another is a run of each. -/
theorem ends_bind {next : α → Action β} {value : β} :
    Ends R (program >>= next) d value d'' ↔
      ∃ middle d', Ends R program d middle d' ∧ Ends R (next middle) d' value d'' := by
  show Ends R (program.bind next) d value d'' ↔ _
  constructor
  · intro h
    induction program generalizing d with
    | done middle => exact ⟨middle, d, .done, h⟩
    | ask r rest ih =>
      cases h with
      | after hr hrest =>
        obtain ⟨middle, d', hfirst, hnext⟩ := ih _ hrest
        exact ⟨middle, d', .after hr hfirst, hnext⟩
  · rintro ⟨middle, d', hfirst, hnext⟩
    induction hfirst with
    | done => exact hnext
    | after hr _ ih => exact .after hr (ih hnext)

/-! ## Runs on a disk -/

/-- The states of a run on a disk that carries out every request as it can. -/
def states : Action α → Disk → List Disk
  | .done _, d => [d]
  | .ask r next, d => d :: (next (d.answer r).1).states (d.answer r).2

/-- A disk that carries out every request as it can. -/
def Answered : System := fun r d reply d' => reply = (d.answer r).1 ∧ d' = (d.answer r).2

/-- A run ends in a state that a system visits if the system allows every answer. -/
theorem visits_run {answer : (r : Request) → Disk → r.Reply × Disk}
    (h : ∀ r d, R r d (answer r d).1 (answer r d).2) (program : Action α) (d : Disk) :
    Visits R program d (program.run answer d).2 := by
  induction program generalizing d with
  | done value => exact .here
  | ask r rest ih => exact .after (h r d) (ih _ _)

/-- A run ends as a system lets it end if the system allows every answer. -/
theorem ends_run {answer : (r : Request) → Disk → r.Reply × Disk}
    (h : ∀ r d, R r d (answer r d).1 (answer r d).2) (program : Action α) (d : Disk) :
    Ends R program d (program.run answer d).1 (program.run answer d).2 := by
  induction program generalizing d with
  | done value => exact .done
  | ask r rest ih => exact .after (h r d) (ih _ _)

theorem answered_holds (h : Holds Answered I program d Q) :
    Q (d.run program).1 (d.run program).2 := by
  induction program generalizing d with
  | done value => exact h
  | ask r rest ih => exact ih _ (h.2 _ _ ⟨rfl, rfl⟩)

/-- What a run ends with is what the disk answers, where nothing else may come of a request. -/
theorem run_of_ends {value : α} (h : Ends Answered program d value d') :
    d.run program = (value, d') := by
  induction h with
  | done => rfl
  | after hr _ ih =>
    obtain ⟨rfl, rfl⟩ := hr
    exact ih

end Action

/-! ## Work -/

namespace Work

open Exemplar.Action

variable {α β : Type} {R : System} {I : Disk → Prop} {d : Disk} {Q : Attempt α → Disk → Prop}

theorem holds_pure {value : α} (h : Q (.ok value) d) :
    Holds R I (pure value : Work α).run d Q := h

theorem holds_throw {failure : Failure} (h : Q (.error failure) d) :
    Holds R I (throw failure : Work α).run d Q := h

theorem holds_ofAttempt {attempt : Attempt α} (h : Q attempt d) :
    Holds R I (Work.ofAttempt attempt : Work α).run d Q := h

theorem holds_bind {work : Work α} {next : α → Work β} {Q : Attempt β → Disk → Prop}
    (h : Holds R I work.run d fun
      | .ok value, d' => Holds R I (next value).run d' Q
      | .error failure, d' => Q (.error failure) d') :
    Holds R I (work >>= next).run d Q := by
  show Holds R I (work.run >>= _) d Q
  refine Action.holds_bind.2 (h.mono (fun _ h => h) ?_)
  rintro (failure | value) d' h
  · exact h
  · exact h

theorem holds_within {activity : Activity} {work : Work α}
    (h : Holds R I work.run d fun
      | .ok value, d' => Q (.ok value) d'
      | .error failure, d' => Q (.error (failure.within activity)) d') :
    Holds R I (Work.within activity work).run d Q := by
  refine Action.holds_bind.2 (h.mono (fun _ h => h) ?_)
  rintro (failure | value) d' h
  · exact h
  · exact h

theorem holds_ofAction {program : Action α}
    (h : Holds R I program d fun value d' => Q (.ok value) d') :
    Holds R I (Work.ofAction program).run d Q :=
  Action.holds_bind.2 (h.mono (fun _ h => h) fun _ _ h => h)

theorem holds_ofFile {program : Action (Except FileError α)}
    (h : Holds R I program d fun
      | .ok value, d' => Q (.ok value) d'
      | .error error, d' => Q (.error (.file error)) d') :
    Holds R I (Work.ofFile program).run d Q := by
  refine Action.holds_bind.2 (h.mono (fun _ h => h) ?_)
  rintro (error | value) d' h
  · exact h
  · exact h

theorem holds_andThen {work : Work α} {closing : Action Unit}
    (h : Holds R I work.run d fun result d' =>
      Holds R I closing d' fun _ d'' => Q result d'') :
    Holds R I (Work.andThen work closing).run d Q := by
  refine Action.holds_bind.2 (h.mono (fun _ h => h) fun result d' h => ?_)
  exact Action.holds_bind.2 (h.mono (fun _ h => h) fun _ _ h => h)

theorem holds_onFailure {work : Work α} {closing : Action Unit}
    (h : Holds R I work.run d fun
      | .ok value, d' => Q (.ok value) d'
      | .error failure, d' => Holds R I closing d' fun _ d'' => Q (.error failure) d'') :
    Holds R I (Work.onFailure work closing).run d Q := by
  refine Action.holds_bind.2 (h.mono (fun _ h => h) ?_)
  rintro (failure | value) d' h
  · exact Action.holds_bind.2 (h.mono (fun _ h => h) fun _ _ h => h)
  · exact h

/-! ## Work that succeeds -/

section Ends

variable {d' d'' : Disk} {work : Work α} {value : α}

theorem ends_bind {next : α → Work β} {value : β}
    (h : Ends R (work >>= next).run d (.ok value) d'') :
    ∃ middle d', Ends R work.run d (.ok middle) d' ∧
      Ends R (next middle).run d' (.ok value) d'' := by
  obtain ⟨result, d', hfirst, hnext⟩ := Action.ends_bind.1 h
  rcases result with failure | middle
  · cases hnext
  · exact ⟨middle, d', hfirst, hnext⟩

theorem ends_within {activity : Activity}
    (h : Ends R (Work.within activity work).run d (.ok value) d') :
    Ends R work.run d (.ok value) d' := by
  obtain ⟨result, d₁, hwork, hdone⟩ := Action.ends_bind.1 h
  rcases result with failure | middle
  · cases hdone
  · cases hdone
    exact hwork

theorem ends_ofAction {program : Action α}
    (h : Ends R (Work.ofAction program).run d (.ok value) d') : Ends R program d value d' := by
  obtain ⟨middle, d₁, hprogram, hdone⟩ := Action.ends_bind.1 h
  cases hdone
  exact hprogram

theorem ends_ofFile {program : Action (Except FileError α)}
    (h : Ends R (Work.ofFile program).run d (.ok value) d') :
    Ends R program d (.ok value) d' := by
  obtain ⟨result, d₁, hprogram, hdone⟩ := Action.ends_bind.1 h
  rcases result with error | middle
  · cases hdone
  · cases hdone
    exact hprogram

theorem ends_ofAttempt {attempt : Attempt α}
    (h : Ends R (Work.ofAttempt attempt : Work α).run d (.ok value) d') :
    attempt = .ok value ∧ d = d' := by
  obtain ⟨hresult, rfl⟩ := ends_pure.1 h
  exact ⟨hresult.symm, rfl⟩

theorem ends_andThen {closing : Action Unit}
    (h : Ends R (Work.andThen work closing).run d (.ok value) d'') :
    ∃ d', Ends R work.run d (.ok value) d' ∧ Ends R closing d' () d'' := by
  obtain ⟨result, d', hwork, hrest⟩ := Action.ends_bind.1 h
  obtain ⟨_, d₁, hclosing, hdone⟩ := Action.ends_bind.1 hrest
  obtain ⟨rfl, rfl⟩ := ends_pure.1 hdone
  exact ⟨d', hwork, hclosing⟩

theorem ends_onFailure {closing : Action Unit}
    (h : Ends R (Work.onFailure work closing).run d (.ok value) d') :
    Ends R work.run d (.ok value) d' := by
  obtain ⟨result, d₁, hwork, hrest⟩ := Action.ends_bind.1 h
  rcases result with failure | middle
  · obtain ⟨_, d₂, -, hdone⟩ := Action.ends_bind.1 hrest
    cases hdone
  · cases hrest
    exact hwork

end Ends

/-! ## Work that fails -/

section FailsAs

variable {work work' : Work α}

/-- Every failure of one piece of work is one of another. -/
def FailsAs (R : System) (work work' : Work α) : Prop :=
  ∀ d failure d', Ends R work.run d (.error failure) d' → Ends R work'.run d (.error failure) d'

theorem failsAs_pure (value : α) (work' : Work α) : FailsAs R (pure value) work' := by
  intro d failure d' h
  cases (ends_pure.1 h).1

theorem failsAs_bind {work : Work α} {next next' : α → Work β}
    (h : ∀ value, FailsAs R (next value) (next' value)) :
    FailsAs R (work >>= next) (work >>= next') := by
  intro d failure d' hends
  obtain ⟨result, d₁, hwork, hrest⟩ := Action.ends_bind.1 hends
  refine Action.ends_bind.2 ⟨result, d₁, hwork, ?_⟩
  rcases result with failure' | value
  · exact hrest
  · exact h value d₁ failure d' hrest

theorem failsAs_andThen {closing : Action Unit} (h : FailsAs R work work') :
    FailsAs R (Work.andThen work closing) (Work.andThen work' closing) := by
  intro d failure d' hends
  obtain ⟨result, d₁, hwork, hrest⟩ := Action.ends_bind.1 hends
  obtain ⟨_, d₂, hclosing, hdone⟩ := Action.ends_bind.1 hrest
  obtain ⟨rfl, rfl⟩ := ends_pure.1 hdone
  exact Action.ends_bind.2 ⟨_, d₁, h _ _ _ hwork,
    Action.ends_bind.2 ⟨_, _, hclosing, ends_pure.2 ⟨rfl, rfl⟩⟩⟩

theorem failsAs_onFailure {closing : Action Unit} (h : FailsAs R work work') :
    FailsAs R (Work.onFailure work closing) (Work.onFailure work' closing) := by
  intro d failure d' hends
  obtain ⟨result, d₁, hwork, hrest⟩ := Action.ends_bind.1 hends
  rcases result with failure' | value
  · exact Action.ends_bind.2 ⟨_, d₁, h _ _ _ hwork, hrest⟩
  · cases (ends_pure.1 hrest).1

end FailsAs

end Work
end Exemplar
