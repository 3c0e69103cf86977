/-
How building a fixture can end.

Three ends are documented: the new predictions beside the new artifact; a failure
with nothing visible changed; and a failure with the new artifact and without
predictions.  There is one more.  The old predictions go before the artifact is
replaced, so where replacing it fails they are gone while the old artifact may be
back in its place.  Without faults replacing does not fail in a directory given by
an absolute path; in one given from the working directory it fails every time.
-/
import Exemplar.Proofs.Sessions

namespace Exemplar
namespace Fixture

open Exemplar.Action Disk Store

variable {M : Type} [Estimator M] {IsExport : M → ServingInputs → Tree → Prop}
variable {R : System} {s : Store} {home : Key} {name : String} {d d' : Disk}
variable {inputs : InputPair} {spec : Spec} {failure : Failure}

/-- The ends of a run that are documented. -/
inductive Documented (s : Store) (home : Key) (name : String) (makes : ByteArray → Tree → Prop)
    (d : Disk) : Attempt Report → Disk → Prop
  | complete {report : Report} {d' : Disk} : s.Installed home name makes d' →
      Documented s home name makes d (.ok report) d'
  | untouched {failure : Failure} {d' : Disk} :
      d'.tree (s.sheetKey home name) = d.tree (s.sheetKey home name) →
      d'.tree (s.artifactKey home name) = d.tree (s.artifactKey home name) →
      Documented s home name makes d (.error failure) d'
  | bare {failure : Failure} {bytes : ByteArray} {d' : Disk} :
      d'.get? (s.sheetKey home name) = none → makes bytes (d'.tree (s.artifactKey home name)) →
      Documented s home name makes d (.error failure) d'

/-- Without faults an artifact can be replaced in a directory given by an absolute path. -/
theorem not_failsToReplace (hR : ∀ r d reply d', R r d reply d' → Faultless r d reply d')
    (hready : Ready s home name) : ¬ s.FailsToReplace R home name failure := by
  rintro ⟨middle, names, d, d', hscratch, hnames, hmovable, hends⟩
  have hreplaced := ((holds_replaceArtifact_absolute hready.site hnames hscratch hmovable
    hready.absolute).restrict hR).ends hends
  cases hreplaced.1

/-- A run ends as is documented, or replacing the artifact has failed when the old predictions were
gone already; where no fault is met, it ends as is documented. -/
theorem build_ends_as_documented {model : M} {result : Attempt Report}
    (hR : ∀ r d reply d', R r d reply d' → Happens r d reply d')
    (hM : Estimator.Lawful M IsExport) (hready : Ready s d.workingDirectory spec.name)
    (hd : d.Sound) (hends : Ends R (build model inputs spec s).run d result d') :
    (Documented s d.workingDirectory spec.name (Builds IsExport model inputs spec) d result d' ∨
      ∃ failure, result = .error failure ∧
        d'.get? (s.sheetKey d.workingDirectory spec.name) = none ∧
        s.FailsToReplace R d.workingDirectory spec.name failure) ∧
    ((∀ r d reply d', R r d reply d' → Faultless r d reply d') →
      Documented s d.workingDirectory spec.name (Builds IsExport model inputs spec) d result
        d') := by
  obtain ⟨-, hinstalled, hfailed⟩ := (holds_build hR hM hready hd rfl).ends hends
  rcases result with failure | report
  · have hunseen (p : Part) (hp : p = .sheet ∨ p = .artifact) : ¬ IsUnseen p := by
      rcases hp with rfl | rfl <;> simp [IsUnseen]
    cases hfailed failure rfl with
    | untouched h =>
      have hdocumented : Documented s d.workingDirectory spec.name
          (Builds IsExport model inputs spec) d (.error failure) d' := by
        refine .untouched (funext fun rest => ?_)
          (Touches.artifact_eq hready.apart h (hunseen _ (.inr rfl)))
        exact Touches.eq_own h hready.apart (hunseen _ (.inl rfl))
          ((owns_sheetKey s d.workingDirectory spec.name).below rest)
      exact ⟨.inl hdocumented, fun _ => hdocumented⟩
    | bare hsheet hmade => exact ⟨.inl (.bare hsheet hmade), fun _ => .bare hsheet hmade⟩
    | unreplaced hsheet hfails =>
      exact ⟨.inr ⟨failure, rfl, hsheet, hfails⟩,
        fun hfaultless => absurd hfails (not_failsToReplace hfaultless hready)⟩
  · obtain ⟨trained, hfit, -, hmade⟩ := hinstalled report rfl
    have hdocumented : Documented s d.workingDirectory spec.name (Builds IsExport model inputs spec)
        d (.ok report) d' := .complete (hmade.mono fun _ _ hmakes => ⟨trained, hfit, hmakes⟩)
    exact ⟨.inl hdocumented, fun _ => hdocumented⟩

/-- A run that meets no fault on an empty disk. -/
theorem build_ends_as_documented_once :
    ∃ result d', Ends Faultless (build (Job.smallest "A").model (Job.smallest "A").inputs
        (Job.smallest "A").spec plainStore).run {} result d' ∧ result.toOption.isSome = true ∧
      Documented plainStore [] "A" (Builds Model.IsExport (Job.smallest "A").model
        (Job.smallest "A").inputs (Job.smallest "A").spec) {} result d' := by
  have hfaultless : ((build (Job.smallest "A").model (Job.smallest "A").inputs
      (Job.smallest "A").spec plainStore).run).isFaultless {} = true := by decide +kernel
  have hends := ends_faultless hfaultless
  have hdocumented := build_ends_as_documented (fun _ _ _ _ h => h.happens) Model.lawful
    ⟨by decide, by decide +kernel, rfl⟩ sound_empty hends
  exact ⟨_, _, hends, by decide +kernel, hdocumented.2 fun _ _ _ _ h => h⟩

/-- A disk with predictions and an artifact of an earlier run, both of which are but a name. -/
def earlier : Disk :=
  ((({} : Disk).run (Files.ensureDirectory ⟨"/csv"⟩)).2.run
    (Files.ensureDirectory ⟨"/savedmodel/A"⟩)).2.run
      (Action.request (.write ⟨"/csv/A.csv"⟩ "old".toUTF8)) |>.2

theorem relative_undone :
    let program := (build (Job.smallest "A").model (Job.smallest "A").inputs
      (Job.smallest "A").spec relativeStore).run
    program.isFaultless earlier = true ∧
      (earlier.get? (relativeStore.sheetKey [] "A")).isSome = true ∧
      (earlier.run program).1.toOption.isNone = true ∧
      ((earlier.run program).2.get? (relativeStore.sheetKey [] "A")).isNone = true ∧
      ((earlier.run program).2.get? (relativeStore.artifactKey [] "A")).isSome = true ∧
      ((earlier.run program).2.tree (relativeStore.artifactKey [] "A")
        [Artifact.variablesFolder, Artifact.variablesFile]).isNone = true := by
  decide +kernel

/-- If the directory of the artifacts is given from the working directory, a run that meets no fault
removes the old predictions and then fails to replace the old artifact. -/
theorem build_loses_predictions :
    ∃ failure d', Ends Faultless (build (Job.smallest "A").model (Job.smallest "A").inputs
        (Job.smallest "A").spec relativeStore).run earlier (.error failure) d' ∧
      (earlier.get? (relativeStore.sheetKey [] "A")).isSome = true ∧
      (d'.get? (relativeStore.artifactKey [] "A")).isSome = true ∧
      ¬ Documented relativeStore [] "A" (Builds Model.IsExport (Job.smallest "A").model
        (Job.smallest "A").inputs (Job.smallest "A").spec) earlier (.error failure) d' := by
  obtain ⟨hfaultless, hbefore, hfails, hafter, hartifact, hold⟩ := relative_undone
  have hends := ends_faultless hfaultless
  cases hresult : (earlier.run (build (Job.smallest "A").model (Job.smallest "A").inputs
      (Job.smallest "A").spec relativeStore).run).1 with
  | ok report => rw [hresult] at hfails; cases hfails
  | error failure =>
    rw [hresult] at hends
    refine ⟨failure, _, hends, hbefore, hartifact, fun hdocumented => ?_⟩
    cases hdocumented with
    | untouched hsheet _ =>
      have hkept := congrFun hsheet []
      rw [tree, tree, List.append_nil, Option.isNone_iff_eq_none.1 hafter] at hkept
      rw [← hkept] at hbefore
      cases hbefore
    | bare _ hbuilds => exact not_builds_of_none hold hbuilds

end Fixture
end Exemplar
