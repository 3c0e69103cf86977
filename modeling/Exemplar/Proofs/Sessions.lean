/-
Sessions: one run after another, each complete, failed or cut off.

A session starts with directories that hold no fixture.  Whatever happens in it,
predictions that are visible are complete, and beside them stands the complete
export of the run that made them.
-/
import Exemplar.Proofs.Building

namespace Exemplar

open Exemplar.Action Disk Store

namespace Fixture

/-- What a run is asked to build. -/
structure Job (M : Type) where
  model : M
  inputs : InputPair
  spec : Spec

variable {M : Type} [Estimator M]

/-- Runs that build fixtures in one store, one after the other.  Each may stop at any point. -/
inductive Session (R : System) (s : Store) : List (Job M) → Disk → Disk → Prop
  | start {d : Disk} : Session R s [] d d
  | run {jobs : List (Job M)} {d₀ d d' : Disk} (job : Job M) :
      Session R s jobs d₀ d → Visits R (build job.model job.inputs job.spec s).run d d' →
        Session R s (jobs ++ [job]) d₀ d'

variable {IsExport : M → ServingInputs → Tree → Prop} {R : System} {s : Store} {home : Key}
variable {jobs : List (Job M)} {job : Job M} {name : String} {d₀ d d' : Disk}

/-- Some run of a session makes this of the fixture. -/
def Made (IsExport : M → ServingInputs → Tree → Prop) (jobs : List (Job M)) (name : String)
    (bytes : ByteArray) (tree : Tree) : Prop :=
  ∃ job ∈ jobs, job.spec.name = name ∧ Builds IsExport job.model job.inputs job.spec bytes tree

/-- The predictions of a fixture stand beside the export of the same run, and if the earlier
artifact can always be put aside, the artifact is missing or complete. -/
structure Paired (IsExport : M → ServingInputs → Tree → Prop) (R : System) (s : Store) (home : Key)
    (jobs : List (Job M)) (name : String) (d : Disk) : Prop where
  sheet : ∀ entry, d.get? (s.sheetKey home name) = some entry →
    ∃ bytes, entry = .file bytes ∧ Made IsExport jobs name bytes (d.tree (s.artifactKey home name))
  artifact : PutsAside R s name → d.tree (s.artifactKey home name) = (fun _ => none) ∨
    ∃ bytes, Made IsExport jobs name bytes (d.tree (s.artifactKey home name))

theorem Made.append {bytes : ByteArray} {tree : Tree} (h : Made IsExport jobs name bytes tree)
    (more : List (Job M)) : Made IsExport (jobs ++ more) name bytes tree := by
  obtain ⟨job, hjob, hname, hbuilds⟩ := h
  exact ⟨job, List.mem_append_left _ hjob, hname, hbuilds⟩

/-- A run keeps the fixtures of all other names. -/
theorem Paired.other (h : Paired IsExport R s home jobs name d) (hname : IsFixtureName name)
    (hapart : s.Apart home name) (hjob : IsFixtureName job.spec.name)
    (hjobApart : s.Apart home job.spec.name) (hne : name ≠ job.spec.name) {parts : Part → Prop}
    (htouches : s.Touches home job.spec.name parts d d') :
    Paired IsExport R s home (jobs ++ [job]) name d' := by
  have hsheet : d'.get? (s.sheetKey home name) = d.get? (s.sheetKey home name) :=
    Touches.eq htouches hjob hjobApart hname hapart (fun h => absurd h hne)
      (owns_sheetKey s home name)
  have hartifact : d'.tree (s.artifactKey home name) = d.tree (s.artifactKey home name) :=
    funext fun rest => Touches.eq htouches hjob hjobApart hname hapart
      (fun h => absurd h hne) (owns_artifactKey s home name rest)
  refine ⟨fun entry hentry => ?_, fun haside => ?_⟩
  · rw [hsheet] at hentry
    obtain ⟨bytes, hbytes, hmade⟩ := h.sheet entry hentry
    exact ⟨bytes, hbytes, hartifact ▸ hmade.append _⟩
  · rw [hartifact]
    exact (h.artifact haside).imp_right fun ⟨bytes, hmade⟩ => ⟨bytes, hmade.append _⟩

/-- Wherever a run is cut off, the fixture that it builds is paired. -/
theorem Paired.own (h : Paired IsExport R s home jobs job.spec.name d)
    (hbuilding : Building R s home job.spec.name (Builds IsExport job.model job.inputs job.spec)
      d d') : Paired IsExport R s home (jobs ++ [job]) job.spec.name d' := by
  have hnew {bytes tree} (hbuilds : Builds IsExport job.model job.inputs job.spec bytes tree) :
      Made IsExport (jobs ++ [job]) job.spec.name bytes tree :=
    ⟨job, by simp, rfl, hbuilds⟩
  refine ⟨fun entry hentry => ?_, fun haside => ?_⟩
  · rcases hbuilding.sheet with hnone | ⟨hsame, htree⟩ | ⟨bytes, hbuilds, hsheet⟩
    · rw [hnone] at hentry
      cases hentry
    · rw [hsame] at hentry
      obtain ⟨bytes, hbytes, hmade⟩ := h.sheet entry hentry
      exact ⟨bytes, hbytes, htree ▸ hmade.append _⟩
    · rw [hsheet] at hentry
      exact ⟨bytes, (Option.some.inj hentry).symm, hnew hbuilds⟩
  · rcases hbuilding.artifact haside with hsame | hnone | ⟨bytes, hbuilds⟩
    · rw [hsame]
      exact (h.artifact haside).imp_right fun ⟨bytes, hmade⟩ => ⟨bytes, hmade.append _⟩
    · exact .inl hnone
    · exact .inr ⟨bytes, hnew hbuilds⟩

/-- A session keeps the disk sound and every fixture paired. -/
theorem Session.paired (hR : ∀ r d reply d', R r d reply d' → Happens r d reply d')
    (hM : Estimator.Lawful M IsExport) (hd : d₀.Sound) (hname : IsFixtureName name)
    (hapart : s.Apart d₀.workingDirectory name)
    (hsheet : d₀.get? (s.sheetKey d₀.workingDirectory name) = none)
    (hartifact : d₀.get? (s.artifactKey d₀.workingDirectory name) = none)
    (hsession : Session R s jobs d₀ d) :
    (∀ job ∈ jobs, IsFixtureName job.spec.name ∧ Ready s d₀.workingDirectory job.spec.name) →
      d.Sound ∧ d.workingDirectory = d₀.workingDirectory ∧
        Paired IsExport R s d₀.workingDirectory jobs name d := by
  induction hsession with
  | start =>
    intro _
    refine ⟨hd, rfl, fun entry hentry => ?_, fun _ => .inl (hd.tree_of_none hartifact)⟩
    rw [hsheet] at hentry
    cases hentry
  | run job _ hvisits ih =>
    intro hready
    obtain ⟨hsound, hhome, hpaired⟩ := ih hd hapart hsheet hartifact
      fun job hjob => hready job (List.mem_append_left _ hjob)
    obtain ⟨hjobName, hjob⟩ := hready job (by simp)
    have hbuilding := (holds_build hR hM hjob hsound hhome).visits (fun _ _ h => h.1) hvisits
    refine ⟨hbuilding.touches.sound, hbuilding.touches.home.trans hhome, ?_⟩
    by_cases hne : name = job.spec.name
    · subst hne
      exact hpaired.own hbuilding
    · exact hpaired.other hname hapart hjobName hjob.apart hne hbuilding.touches

/-- Wherever a session is cut off, and whatever failed in it: predictions that are there are the
complete predictions of one of its runs, and beside them stands the complete export of that same
run; and as long as an earlier artifact can always be put aside, there is no artifact or it is the
complete export of one run.  The directory of the artifacts is given by an absolute path, and
neither directory is reached through an entry of a fixture. -/
theorem predictions_stand_beside_their_model {jobs : List (Job Model)}
    (hR : ∀ r d reply d', R r d reply d' → Happens r d reply d')
    (habsolute : s.artifactDirectory.isAbsolute = true) (hd : d₀.Sound)
    (hjobs : ∀ job ∈ jobs, IsFixtureName job.spec.name ∧
      s.Apart d₀.workingDirectory job.spec.name)
    (hname : IsFixtureName name) (hapart : s.Apart d₀.workingDirectory name)
    (hsheet : d₀.get? (s.sheetKey d₀.workingDirectory name) = none)
    (hartifact : d₀.get? (s.artifactKey d₀.workingDirectory name) = none)
    (hsession : Session R s jobs d₀ d) :
    (∀ entry, d.get? (s.sheetKey d₀.workingDirectory name) = some entry →
      ∃ bytes, entry = .file bytes ∧
        Made Model.IsExport jobs name bytes (d.tree (s.artifactKey d₀.workingDirectory name))) ∧
    (PutsAside R s name →
      d.tree (s.artifactKey d₀.workingDirectory name) = (fun _ => none) ∨
        ∃ bytes, Made Model.IsExport jobs name bytes
          (d.tree (s.artifactKey d₀.workingDirectory name))) := by
  obtain ⟨-, -, hpaired⟩ := hsession.paired hR Model.lawful hd hname hapart hsheet hartifact
    fun job hjob => ⟨(hjobs job hjob).1, (hjobs job hjob).1.isPlain, (hjobs job hjob).2, habsolute⟩
  exact ⟨hpaired.sheet, hpaired.artifact⟩

/-! ## Small sessions -/

/-- One row with one feature, and an untrained model of it. -/
def Job.smallest (name : String) : Job Model where
  model := .linear {
    head := .regression
    layout := ⟨[.realValued ⟨"x", .float64⟩]⟩
    layer := .constant 1 1 0.0
    steps := 0 }
  inputs :=
    let roles : Roles := ⟨["x"], [], "y", .regression⟩
    ⟨⟨⟨[("x", .floats [1.0]), ("y", .floats [2.0])]⟩, roles⟩, ⟨roles⟩⟩
  spec := ⟨name, 0, .pointOnly⟩

theorem happens_answer (r : Request) (d : Disk) : Happens r d (d.answer r).1 (d.answer r).2 :=
  .inl ⟨rfl, rfl⟩

/-- What a disk answers is how a run can end. -/
theorem ends_answer {α : Type} {program : Action α} {d : Disk} {value : α}
    (h : (d.run program).1 = value) : Ends Happens program d value (d.run program).2 :=
  h ▸ ends_run happens_answer program d

theorem sound_empty : ({} : Disk).Sound :=
  ⟨by simp, by simp, by simp, by simp [get?], by simp⟩

/-- The disk at the end of a run that is answered in the given way. -/
def Job.finish (job : Job Model) (answer : (r : Request) → Disk → r.Reply × Disk) (s : Store)
    (d : Disk) : Disk :=
  ((build job.model job.inputs job.spec s).run.run answer d).2

theorem Session.finish {jobs : List (Job Model)} (h : Session Happens s jobs d₀ d) (job : Job Model)
    {answer : (r : Request) → Disk → r.Reply × Disk}
    (hanswer : ∀ r d, Happens r d (answer r d).1 (answer r d).2) :
    Session Happens s (jobs ++ [job]) d₀ (job.finish answer s d) :=
  .run job h (visits_run hanswer _ _)

/-- A run that succeeds leaves predictions beside their model. -/
theorem predictions_stand_beside_their_model_once :
    ∃ d, Session Happens plainStore [Job.smallest "A"] {} d ∧
      (d.get? (plainStore.sheetKey [] "A")).isSome = true ∧
        ∀ entry, d.get? (plainStore.sheetKey [] "A") = some entry →
          ∃ bytes, entry = .file bytes ∧ Made Model.IsExport [Job.smallest "A"] "A" bytes
            (d.tree (plainStore.artifactKey [] "A")) := by
  have hsession : Session Happens plainStore [Job.smallest "A"] {}
      ((Job.smallest "A").finish answer plainStore {}) :=
    Session.start.finish _ happens_answer
  exact ⟨_, hsession, by decide +kernel, (predictions_stand_beside_their_model (fun _ _ _ _ h => h)
    rfl sound_empty (by decide +kernel) (by decide) (by decide +kernel) rfl rfl hsession).1⟩

/-- A disk from which no directory can be removed. -/
def keepingDirectories : (r : Request) → Disk → r.Reply × Disk
  | .removeDirectory _, d => (.error .busy, d)
  | r, d => d.answer r

theorem happens_keepingDirectories (r : Request) (d : Disk) :
    Happens r d (keepingDirectories r d).1 (keepingDirectories r d).2 := by
  cases r with
  | removeDirectory path => exact .inr ⟨rfl, .busy, by simp, rfl⟩
  | _ => exact happens_answer _ d

/-- What is not complete is no export. -/
theorem not_isExport_of_none {model : Model} {serving : ServingInputs} {tree : Tree}
    (h : (tree [Artifact.variablesFolder, Artifact.variablesFile]).isNone = true) :
    ¬ Model.IsExport model serving tree := by
  rintro ⟨_, _, rfl⟩
  simp [Artifact.tree] at h

theorem not_builds_of_none {job : Job Model} {bytes : ByteArray} {tree : Tree}
    (h : (tree [Artifact.variablesFolder, Artifact.variablesFile]).isNone = true) :
    ¬ Builds Model.IsExport job.model job.inputs job.spec bytes tree := by
  rintro ⟨_, _, _, hexport⟩
  exact not_isExport_of_none h hexport

theorem nested_lost :
    let d := (Job.smallest "A").finish answer nestedStore
      ((Job.smallest "B").finish answer nestedStore {})
    (d.get? (nestedStore.sheetKey [] "B")).isSome = true ∧
      (d.get? (nestedStore.artifactKey [] "B")).isNone = true := by decide +kernel

theorem relative_incomplete :
    let d := (Job.smallest "A").finish keepingDirectories relativeStore {}
    (d.get? (relativeStore.sheetKey [] "A")).isSome = true ∧
      (d.tree (relativeStore.artifactKey [] "A")
        [Artifact.variablesFolder, Artifact.variablesFile]).isNone = true := by decide +kernel

/-- Both restrictions are needed.  A sweep for one fixture can take along the artifacts of another,
if their directory has a name like that of staged predictions.  And if the directory of the
artifacts is given from the working directory, an installation sweeps its own scratch directory;
what is left of it where that fails half-way is then installed. -/
theorem predictions_beside_no_model :
    (∃ d, Session Happens nestedStore ([Job.smallest "B"] ++ [Job.smallest "A"]) {} d ∧
      (d.get? (nestedStore.sheetKey [] "B")).isSome = true ∧
        (d.get? (nestedStore.artifactKey [] "B")).isNone = true) ∧
    ∃ d, Session Happens relativeStore [Job.smallest "A"] {} d ∧
      (d.get? (relativeStore.sheetKey [] "A")).isSome = true ∧
        ∀ bytes, ¬ Made Model.IsExport [Job.smallest "A"] "A" bytes
          (d.tree (relativeStore.artifactKey [] "A")) := by
  constructor
  · have hfirst : Session Happens nestedStore [Job.smallest "B"] {}
        ((Job.smallest "B").finish answer nestedStore {}) :=
      Session.start.finish _ happens_answer
    exact ⟨_, hfirst.finish (Job.smallest "A") happens_answer, nested_lost⟩
  · have hsession : Session Happens relativeStore [Job.smallest "A"] {}
        ((Job.smallest "A").finish keepingDirectories relativeStore {}) :=
      Session.start.finish _ happens_keepingDirectories
    refine ⟨_, hsession, relative_incomplete.1, ?_⟩
    rintro bytes ⟨job, -, -, hbuilds⟩
    exact not_builds_of_none relative_incomplete.2 hbuilds

end Fixture
end Exemplar
