/-
What a verification crashes at.

A model that is loaded has the shape that is described, so nothing that it looks up is out
of range.  Only a description that is too large for memory crashes the load, and with it
the verification and the whole batch that it belongs to.
-/
import Exemplar.Proofs.Accepting

namespace Exemplar

open Exemplar.Action Disk

/-! ## Work without a crash -/

namespace Attempt

variable {α : Type} {attempt : Attempt α}

theorem within_ne_crash {activity : Activity} (h : attempt ≠ .error .crash) :
    within activity attempt ≠ .error .crash := by
  rcases attempt with (_ | _) | value
  · exact fun hcrash => by cases hcrash
  · exact absurd rfl h
  · exact fun hcrash => by cases hcrash

end Attempt

namespace Work

variable {α β : Type} {work : Work α} {next : α → Work β} {d : Disk}

theorem told_bind_ne_crash (h : work.Looks) (hwork : told d work ≠ .error .crash)
    (hnext : ∀ a, told d work = .ok a → told d (next a) ≠ .error .crash) :
    told d (work >>= next) ≠ .error .crash := by
  cases htold : told d work with
  | error failure =>
    rw [told_bind_of_error h htold]
    exact fun hcrash => hwork (htold.trans (congrArg _ (Except.error.inj hcrash)))
  | ok a =>
    rw [told_bind_of_ok h htold]
    exact hnext a htold

theorem told_within_ne_crash {activity : Activity} (h : told d work ≠ .error .crash) :
    told d (Work.within activity work) ≠ .error .crash := by
  rw [told_within]
  exact Attempt.within_ne_crash h

theorem told_ofFile_ne_crash {program : Action (Except FileError α)} :
    told d (Work.ofFile program) ≠ .error .crash := by
  rw [told_ofFile]
  cases (d.run program).1 <;> exact fun hcrash => by cases hcrash

end Work

theorem Artifact.told_readDocument_ne_crash {α : Type} {d : Disk} {path : Path}
    {ofJson? : Json → Option α} {misfit : String → Json.Misfit} :
    Work.told d (readDocument path ofJson? misfit) ≠ .error .crash := by
  refine Work.told_bind_ne_crash (Work.looks_within (Work.looks_ofFile (Files.looks_readText path)))
    (Work.told_within_ne_crash Work.told_ofFile_ne_crash) fun text _ => ?_
  split
  · exact fun hcrash => by cases hcrash
  · exact fun hcrash => by cases hcrash

theorem Variables.valuesOf_ne_crash {recorded : Variables} {name : String} {shape : List Nat} :
    recorded.valuesOf name shape ≠ .error .crash := by
  unfold valuesOf
  split
  · exact fun hcrash => by cases hcrash
  · split
    · exact fun hcrash => by cases hcrash
    · split <;> exact fun hcrash => by cases hcrash

namespace Model

variable {m : Description} {recorded : Variables} {d : Disk} {directory : Path}

/-- Nothing that fits into memory crashes when it is restored. -/
theorem restore_ne_crash (hmemory : m.FitsMemory) : restore m recorded ≠ .error .crash := by
  cases harchitecture : m.architecture with
  | linear =>
    have hheld := LinearModel.canBeHeld_of_fitsMemory harchitecture hmemory
    have hrestore : restore m recorded = (LinearModel.restore m recorded).map linear := by
      rw [restore, harchitecture]
    rw [hrestore]
    refine Attempt.map_ne_crash ?_
    unfold LinearModel.restore
    dsimp only
    split
    · exact fun hcrash => by cases hcrash
    rw [hheld, Bool.not_true, if_neg Bool.false_ne_true]
    refine Attempt.bind_ne_crash Variables.valuesOf_ne_crash fun weights _ => ?_
    refine Attempt.bind_ne_crash Variables.valuesOf_ne_crash fun bias _ => ?_
    split <;> exact fun hcrash => by cases hcrash
  | network =>
    have hheld := NetworkModel.canBeHeld_of_fitsMemory harchitecture hmemory
    have hrestore : restore m recorded = (NetworkModel.restore m recorded).map network := by
      rw [restore, harchitecture]
    rw [hrestore]
    refine Attempt.map_ne_crash ?_
    rw [NetworkModel.described] at hheld
    unfold NetworkModel.restore
    dsimp only
    split
    · exact fun hcrash => by cases hcrash
    refine Attempt.bind_ne_crash ?_ fun _ _ => ?_
    · unfold NetworkModel.check
      split <;> exact fun hcrash => by cases hcrash
    rw [hheld, Bool.not_true, if_neg Bool.false_ne_true]
    refine Attempt.bind_ne_crash (Attempt.mapM_ne_crash fun shape _ => ?_) fun layers _ => ?_
    · refine Attempt.bind_ne_crash Variables.valuesOf_ne_crash fun weights _ => ?_
      refine Attempt.bind_ne_crash Variables.valuesOf_ne_crash fun bias _ => ?_
      exact fun hcrash => by cases hcrash
    · split <;> exact fun hcrash => by cases hcrash

theorem told_load_ne_crash (hmemory : ∀ m,
    d.Documents (Artifact.descriptionPath directory) Description.ofJson? m → m.FitsMemory) :
    Work.told d (load directory) ≠ .error .crash := by
  refine Work.told_bind_ne_crash (Artifact.looks_readDocument _ _ _)
    Artifact.told_readDocument_ne_crash fun m hm => ?_
  dsimp only
  split
  · exact fun hcrash => by cases hcrash
  refine Work.told_bind_ne_crash (Artifact.looks_readDocument _ _ _)
    Artifact.told_readDocument_ne_crash fun recorded _ => ?_
  refine Work.told_bind_ne_crash (Work.looks_ofAttempt _)
    (restore_ne_crash (hmemory m (Artifact.told_readDocument_eq_ok_iff.1 hm))) fun model _ => ?_
  split <;> exact fun hcrash => by cases hcrash

/-- What crashes when it is restored crashes the load, once both of its texts are read. -/
theorem told_load_eq_crash
    (hm : d.Documents (Artifact.descriptionPath directory) Description.ofJson? m)
    (hrecorded : d.Documents (Artifact.variablesPath directory) Variables.ofJson? recorded)
    (hversion : m.formatVersion = Description.currentVersion)
    (hrestore : restore m recorded = .error .crash) :
    Work.told d (load directory) = .error .crash := by
  refine (Work.told_bind_of_ok (Artifact.looks_readDocument _ _ _)
    (Artifact.told_readDocument_eq_ok_iff.2 hm)).trans ?_
  rw [if_neg (not_not.2 hversion)]
  refine (Work.told_bind_of_ok (Artifact.looks_readDocument _ _ _)
    (Artifact.told_readDocument_eq_ok_iff.2 hrecorded)).trans ?_
  exact Work.told_bind_of_error (Work.looks_ofAttempt _) hrestore

end Model

namespace Fixture

variable {s : Store} {d : Disk} {inputs : InputPair} {spec : Spec} {model : Model}

theorem sheetOf_ne_crash {training : TrainingInputs} {targets : List Value} (h : model.IsShaped) :
    sheetOf model training spec targets ≠ .error .crash := by
  rw [sheetOf]
  split
  · exact fun hcrash => by cases hcrash
  · refine Attempt.bind_ne_crash (Attempt.within_ne_crash (h.probabilities_ne_crash training))
      fun probabilities _ => ?_
    exact Attempt.ofData_ne_crash _

theorem score_ne_crash {training : TrainingInputs} (h : model.IsShaped) :
    score model training spec ≠ .error .crash := by
  refine Attempt.bind_ne_crash (Attempt.within_ne_crash (h.predict_ne_crash training))
    fun targets _ => ?_
  dsimp only
  split
  · exact fun hcrash => by cases hcrash
  · exact sheetOf_ne_crash h

theorem told_readSheet_ne_crash {name : String} :
    Work.told d (s.readSheet name) ≠ .error .crash := by
  refine Work.told_bind_ne_crash (Work.looks_ofAction (asks_request trivial))
    (fun hcrash => by cases hcrash) fun reply _ => ?_
  split
  · exact fun hcrash => by cases hcrash
  · exact fun hcrash => by cases hcrash
  · split <;> exact fun hcrash => by cases hcrash

/-- A verification does not crash if what it loads fits into memory. -/
theorem told_verify_ne_crash (hmemory : ∀ m,
    d.Documents (Artifact.descriptionPath (s.artifactPath spec.name)) Description.ofJson? m →
      m.FitsMemory) : Work.told d (verify inputs spec s) ≠ .error .crash := by
  refine Work.told_bind_ne_crash (Work.looks_ofAction (Files.looks_isDirectory _))
    (fun hcrash => by cases hcrash) fun found _ => ?_
  dsimp only
  split
  · exact fun hcrash => by cases hcrash
  refine Work.told_bind_ne_crash (Artifact.looks_readDocument _ _ _)
    Artifact.told_readDocument_ne_crash fun description _ => ?_
  refine Work.told_bind_ne_crash (Work.looks_within (Work.looks_ofAttempt _))
    (Work.told_within_ne_crash (Attempt.ofData_ne_crash _)) fun _ _ => ?_
  refine Work.told_bind_ne_crash (Work.looks_within (Model.looks_load _))
    (Work.told_within_ne_crash (Model.told_load_ne_crash hmemory)) fun model hmodel => ?_
  have hshaped : model.IsShaped :=
    answered_holds (Model.holds_load_isShaped _ _ d) model (Work.told_within_eq_ok_iff.1 hmodel)
  refine Work.told_bind_ne_crash (Work.looks_ofAttempt _) (score_ne_crash hshaped)
    fun expected _ => ?_
  refine Work.told_bind_ne_crash (Store.looks_readSheet s spec.name) told_readSheet_ne_crash
    fun stored _ => ?_
  refine Work.told_bind_ne_crash (Work.looks_within (Work.looks_ofAttempt _))
    (Work.told_within_ne_crash (Attempt.ofData_ne_crash _)) fun _ _ => ?_
  exact fun hcrash => by cases hcrash

/-- A verification crashes where its load does, if nothing fails before. -/
theorem told_verify_eq_crash {m : Description}
    (hartifact : ∃ key, d.find (s.artifactPath spec.name) = .ok (key, .directory))
    (hm : d.Documents (Artifact.descriptionPath (s.artifactPath spec.name)) Description.ofJson? m)
    (hserving : m.checkServing inputs.serving = .ok ())
    (hload : Work.told d (Model.load (s.artifactPath spec.name)) = .error .crash) :
    Work.told d (verify inputs spec s) = .error .crash := by
  refine (Work.told_bind_of_ok (Work.looks_ofAction (Files.looks_isDirectory _))
    (told_isDirectory_eq_ok_iff.2 (iff_of_true rfl hartifact))).trans ?_
  rw [Bool.not_true, if_neg Bool.false_ne_true]
  refine (Work.told_bind_of_ok (Artifact.looks_readDocument _ _ _)
    (Artifact.told_readDocument_eq_ok_iff.2 hm)).trans ?_
  refine (Work.told_bind_of_ok (Work.looks_within (Work.looks_ofAttempt _))
    (Work.told_within_eq_ok_iff.2 (congrArg Attempt.ofData hserving))).trans ?_
  refine Work.told_bind_of_error (Work.looks_within (Model.looks_load _)) ?_
  rw [Work.told_within, hload]
  rfl

end Fixture

/-! ## Datasets -/

namespace Catalog

theorem prepareTable_ne_crash (dataset : Dataset) (table : Table) :
    prepareTable dataset table ≠ .error .crash := by
  refine Attempt.bind_ne_crash (Attempt.within_ne_crash (Attempt.ofData_ne_crash _))
    fun roles _ => ?_
  refine Attempt.bind_ne_crash (Attempt.within_ne_crash (Attempt.ofData_ne_crash _))
    fun encodings _ => ?_
  refine Attempt.bind_ne_crash (Attempt.within_ne_crash (Attempt.ofData_ne_crash _))
    fun inputs _ => ?_
  exact fun hcrash => by cases hcrash

theorem ofBytes_ne_crash (bytes : List UInt8) : Table.ofBytes bytes ≠ .error .crash := by
  rw [Table.ofBytes]
  split
  · exact fun hcrash => by cases hcrash
  · exact Attempt.ofData_ne_crash _

theorem told_prepare_ne_crash (directory : Path) (dataset : Dataset) (d : Disk) :
    Work.told d (prepare (Table.inDirectory directory) dataset) ≠ .error .crash := by
  have hload : Holds Answered (fun _ => True) (Table.inDirectory directory dataset.file).run d
      fun result _ => result ≠ .error .crash := by
    refine Action.holds_bind.2 (holds_request trivial fun reply d' _ => ?_)
    rcases reply with (error | error) | bytes
    · exact fun hcrash => by cases hcrash
    · exact fun hcrash => by cases hcrash
    · exact Attempt.within_ne_crash (ofBytes_ne_crash bytes.toList)
  exact Work.told_bind_ne_crash (Table.looks_load _) (answered_holds hload) fun table _ =>
    prepareTable_ne_crash dataset table

end Catalog
end Exemplar
