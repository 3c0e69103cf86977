/-
What becomes of a model that is exported and loaded again.

However a model came to be, it has the shape that its description asks for.  So its
description is always read back, and its parameters are exactly if all of them are
finite: a number that is not leaves a gap in the text, which an export writes without
complaint and a load refuses.
-/
import Exemplar.Proofs.Loading
import Exemplar.Table.Reading

namespace Exemplar

open Exemplar.Action Disk

namespace Model

variable {model : Model} {d : Disk} {base : Path} {serving : ServingInputs}

/-- The models that can come to be. -/
inductive Reached : Model → Prop
  | linear {head : Head} {columns : List InputColumn} {m : LinearModel} :
      LinearModel.new head columns = .ok m → Reached (.linear m)
  | network {head : Head} {columns : List InputColumn} {hiddenUnits : List Nat} {seed : Int64}
      {m : NetworkModel} :
      NetworkModel.new head columns hiddenUnits seed = .ok m → Reached (.network m)
  | built {architecture : Architecture} {task : Task} {encodings : List Encoding}
      {hiddenUnits : List Nat} {seed : Int64} {model : Model} :
      build architecture task encodings hiddenUnits seed = .ok model → Reached model
  | loaded {d : Disk} {directory : Path} {model : Model} :
      (d.run (load directory).run).1 = .ok model → Reached model
  | trained {model model' : Model} {inputs : TrainingInputs} {steps : UInt64} :
      Reached model → model.fit inputs steps = .ok model' → Reached model'

theorem Reached.isShaped (h : model.Reached) : model.IsShaped := by
  induction h with
  | linear h => exact LinearModel.isShaped_new h
  | network h => exact NetworkModel.isShaped_new h
  | built h => exact isShaped_build h
  | loaded h => exact answered_holds (holds_load_isShaped Answered _ _) _ h
  | trained _ hfit ih => exact ih.fit hfit

/-- One number to learn from another. -/
def plainRoles : Roles := ⟨["x"], [], "y", .regression⟩

/-- A network after a step of training. -/
def small : Attempt Model := do
  let model ← build .network .regression [.realValued ⟨"x", .float64⟩] [2] 42
  model.fit ⟨⟨[("x", .floats [1.5, -2.0]), ("y", .floats [1.0, 0.5])]⟩, plainRoles⟩ 1

theorem small_spec : ∃ (model : Model) (directory : Path) (d : Disk), model.Reached ∧
    model.IsFinite ∧
      ({} : Disk).run (model.exportTo ⟨"models"⟩ ⟨plainRoles⟩).run = (.ok directory, d) := by
  have hsmall : small.map (fun model => (model.parameters.all Float.isFinite,
      (({} : Disk).run (model.exportTo ⟨"models"⟩ ⟨plainRoles⟩).run).1))
        = .ok (true, .ok ⟨"models/0"⟩) := by decide +kernel
  obtain ⟨model, hmodel, hruns⟩ := Attempt.map_eq_ok hsmall
  obtain ⟨hfinite, hexport⟩ := Prod.mk.inj hruns
  obtain ⟨first, hfirst, hfit⟩ := Attempt.bind_eq_ok hmodel
  exact ⟨model, _, _, .trained (.built hfirst) hfit, List.all_eq_true.1 hfinite,
    Prod.ext hexport rfl⟩

/-- A finite model is loaded from its export as it was: the same head, columns, hidden layers,
steps and parameters, so that it goes on just as the one that was exported.  Another export of it,
to whatever place, has the same texts. -/
theorem load_undoes_export (h : model.Reached) (hfinite : model.IsFinite) (base : Path)
    (serving : ServingInputs) (d : Disk) :
    Holds Happens (fun _ => True) (model.exportTo base serving).run d fun result d' =>
      ∀ directory, result = .ok directory →
        d'.run (load directory).run = (.ok model, d') ∧
        ∀ base' e, Holds Happens (fun _ => True) (model.exportTo base' serving).run e
          fun result' e' => ∀ directory', result' = .ok directory' →
            e'.readFile (Artifact.descriptionPath directory')
              = d'.readFile (Artifact.descriptionPath directory) ∧
            e'.readFile (Artifact.variablesPath directory')
              = d'.readFile (Artifact.variablesPath directory) := by
  refine (model.holds_exportTo_records base serving d).mono (fun _ h => h) ?_
  intro result d' hwritten directory hok
  obtain ⟨description, hd, hrecords⟩ := hwritten directory hok
  refine ⟨h.isShaped.load_of_isFinite hd hrecords hfinite, fun base' e => ?_⟩
  refine (model.holds_exportTo_records base' serving e).mono (fun _ h => h) ?_
  intro result' e' hwritten' directory' hok'
  obtain ⟨description', hd', hrecords'⟩ := hwritten' directory' hok'
  obtain rfl : description = description' := Except.ok.inj (hd.symm.trans hd')
  exact ⟨hrecords'.description_text.trans hrecords.description_text.symm,
    hrecords'.variables_text.trans hrecords.variables_text.symm⟩

theorem load_undoes_export_once : ∃ (model : Model) (directory : Path) (d : Disk),
    model.Reached ∧ model.IsFinite ∧
      ({} : Disk).run (model.exportTo ⟨"models"⟩ ⟨plainRoles⟩).run = (.ok directory, d) ∧
      d.run (load directory).run = (.ok model, d) := by
  obtain ⟨model, directory, d, hreached, hfinite, hexport⟩ := small_spec
  have hloads := happens_run (load_undoes_export hreached hfinite ⟨"models"⟩ ⟨plainRoles⟩
    {})
  rw [hexport] at hloads
  exact ⟨model, directory, d, hreached, hfinite, hexport, (hloads _ rfl).1⟩

/-- What an export has written can be loaded exactly if the model is finite. -/
theorem reloads_iff_isFinite (h : model.Reached) (base : Path) (serving : ServingInputs)
    (d : Disk) :
    Holds Happens (fun _ => True) (model.exportTo base serving).run d fun result d' =>
      ∀ directory, result = .ok directory →
        ((∃ loaded, (d'.run (load directory).run).1 = .ok loaded) ↔ model.IsFinite) := by
  refine (model.holds_exportTo_records base serving d).mono (fun _ h => h) ?_
  intro result d' hwritten directory hok
  obtain ⟨description, hd, hrecords⟩ := hwritten directory hok
  constructor
  · rintro ⟨loaded, hloaded⟩
    by_contra hgap
    obtain ⟨misfit, hfailed⟩ := h.isShaped.load_of_gap hd hrecords hgap
    rw [hloaded] at hfailed
    cases hfailed
  · intro hfinite
    rw [h.isShaped.load_of_isFinite hd hrecords hfinite]
    exact ⟨model, rfl⟩

theorem reloads_iff_isFinite_once : ∃ (model : Model) (directory : Path) (d : Disk),
    model.Reached ∧
      ({} : Disk).run (model.exportTo ⟨"models"⟩ ⟨plainRoles⟩).run = (.ok directory, d) ∧
      ∃ loaded, (d.run (load directory).run).1 = .ok loaded := by
  obtain ⟨model, directory, d, hreached, hfinite, hexport⟩ := small_spec
  have hloads := happens_run (reloads_iff_isFinite hreached ⟨"models"⟩ ⟨plainRoles⟩
    {})
  rw [hexport] at hloads
  exact ⟨model, directory, d, hreached, hexport, (hloads _ rfl).2 hfinite⟩

/-- A table in which one cell is no number. -/
def gappedText : String := "x,y\nnan,1.0\n"

/-- A linear model after a step of training on a table. -/
def ofText (text : String) : Attempt Model := do
  let table ← Table.ofBytes text.toUTF8.toList
  let (table, roles) := table.classify ⟨["x"], [], "y", .numeric⟩
  let roles ← Attempt.ofData roles
  let encodings ← Attempt.ofData (Encoding.ofTable table roles)
  let model ← build .linear roles.task encodings [] 0
  model.fit ⟨table, roles⟩ 1

/-- What a model learns from such a table is exported, and cannot be loaded. -/
theorem gap_is_exported : ∃ table coerced roles encodings model trained directory d,
    Table.ofBytes gappedText.toUTF8.toList = .ok table ∧
      table.classify ⟨["x"], [], "y", .numeric⟩ = (coerced, .ok roles) ∧
      Encoding.ofTable coerced roles = .ok encodings ∧
      build .linear roles.task encodings [] 0 = .ok model ∧
      model.fit ⟨coerced, roles⟩ 1 = .ok trained ∧
      ({} : Disk).run (trained.exportTo ⟨"models"⟩ ⟨plainRoles⟩).run = (.ok directory, d) ∧
      ∀ loaded, (d.run (load directory).run).1 ≠ .ok loaded := by
  have hgapped : (ofText gappedText).map (fun model => (model.parameters.all Float.isFinite,
      (({} : Disk).run (model.exportTo ⟨"models"⟩ ⟨plainRoles⟩).run).1))
        = .ok (false, .ok ⟨"models/0"⟩) := by decide +kernel
  obtain ⟨trained, htrained, hruns⟩ := Attempt.map_eq_ok hgapped
  obtain ⟨hgap, hexport⟩ := Prod.mk.inj hruns
  obtain ⟨table, htable, h⟩ := Attempt.bind_eq_ok htrained
  obtain ⟨roles, hroles, h⟩ := Attempt.bind_eq_ok h
  obtain ⟨encodings, hencodings, h⟩ := Attempt.bind_eq_ok h
  obtain ⟨model, hmodel, hfit⟩ := Attempt.bind_eq_ok h
  refine ⟨table, _, roles, encodings, model, trained, _, _, htable,
    Prod.ext rfl (Attempt.ofData_eq_ok hroles), Attempt.ofData_eq_ok hencodings, hmodel, hfit,
    Prod.ext hexport rfl, fun loaded hloaded => ?_⟩
  have hrecords := happens_run (trained.holds_exportTo_records ⟨"models"⟩ ⟨plainRoles⟩
    {})
  obtain ⟨description, hd, hrecords⟩ := hrecords _ hexport
  have hreached : trained.Reached := .trained (.built hmodel) hfit
  have hinfinite : ¬ trained.IsFinite := fun hfinite => by
    rw [List.all_eq_true.2 hfinite] at hgap
    cases hgap
  obtain ⟨misfit, hfailed⟩ := hreached.isShaped.load_of_gap hd hrecords hinfinite
  rw [hloaded] at hfailed
  cases hfailed

end Model
end Exemplar
