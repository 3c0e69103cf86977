/-
What the signature of an export says, and what its model does.

A signature is made of the head and the serving inputs alone: what comes in is what the
inputs say, and what goes out is told from the number of classes.  What a model answers is
made of its layers, row by row.  Both agree, since the layers end in the logits that the
head works on.  They agree for heads that no task asks for as well: even a head without
classes answers with a class, and with rows of no probabilities.
-/
import Exemplar.Proofs.Logits
import Exemplar.Proofs.Verifying

namespace Exemplar

open Exemplar.Action Disk

/-! ## What comes in -/

namespace ServingInputs

/-- What is recorded of the inputs: the type and the shape of each placeholder. -/
def recorded (serving : ServingInputs) : SortedMap TensorInfo :=
  serving.placeholders.mapValues fun p => ⟨p.type, p.shape⟩

variable {serving : ServingInputs}

/-- A placeholder stands under its own name for a feature, and takes any number of single cells. -/
theorem mem_placeholders {entry : String × Placeholder} (h : entry ∈ serving.placeholders) :
    entry.1 ∈ serving.roles.features ∧ entry.2.name = entry.1 ∧
      entry.2.shape = [.unbound, .fixed 1] := by
  rcases List.mem_append.1 (SortedMap.mem_of_mem_ofList h) with hmem | hmem
  · obtain ⟨name, hname, rfl⟩ := List.mem_map.1 hmem
    exact ⟨List.mem_append_left _ hname, rfl, rfl⟩
  · obtain ⟨name, hname, rfl⟩ := List.mem_map.1 hmem
    exact ⟨List.mem_append_right _ hname, rfl, rfl⟩

theorem shape_of_recorded {entry : String × TensorInfo} (h : entry ∈ serving.recorded) :
    entry.2.shape = [.unbound, .fixed 1] := by
  obtain ⟨found, hfound, rfl⟩ := List.mem_map.1 h
  exact (mem_placeholders hfound).2.2

end ServingInputs

/-! ## What goes out -/

namespace Head

variable {head : Head} {logits : List Float} {value : Value}

/-- A head with classes names one, even if it has none to name. -/
theorem int_of_predict (hclasses : head.classCount?.isSome) (h : head.predict logits = .ok value) :
    ∃ i, value = .int i := by
  obtain ⟨ps, hps, h⟩ := Attempt.bind_eq_ok h
  cases ps with
  | some ps => exact ⟨_, (Except.ok.inj h).symm⟩
  | none =>
    cases head with
    | regression => cases hclasses
    | multiClass n => cases hps
    | binary => cases logits <;> cases hps

end Head

namespace Model

/-- Any inputs get a class for each of their rows, which is one of `n` unless there are none, and a
probability for each of the `n`. -/
structure Classifies (model : Model) (n : Nat) : Prop where
  answers : ∀ inputs rows, model.rows inputs = .ok rows → ∃ values ps,
    model.predict inputs = .ok values ∧ values.length = rows.length ∧
      model.probabilities inputs = .ok ps ∧ ps.length = rows.length
  classes : ∀ inputs values, model.predict inputs = .ok values → ∀ value ∈ values,
    (∃ i, value = .int i) ∧ (n ≠ 0 → Head.Answers (some n) value)
  probabilities : ∀ inputs ps, model.probabilities inputs = .ok ps → ∀ p ∈ ps, p.length = n

/-- Any inputs get a number for each of their rows, and never probabilities. -/
structure Regresses (model : Model) : Prop where
  answers : ∀ inputs rows, model.rows inputs = .ok rows → ∃ values,
    model.predict inputs = .ok values ∧ values.length = rows.length
  numbers : ∀ inputs values, model.predict inputs = .ok values → ∀ value ∈ values,
    ∃ x, value = .float x
  probabilities : ∀ inputs,
    model.probabilities inputs = .error (.refusal (.noProbabilities model.name))

/-- What is recorded of the outputs is what the model answers. -/
def Answers (model : Model) (outputs : SortedMap TensorInfo) : Prop :=
  match model.head.classCount? with
  | some n =>
    outputs = [("classes", ⟨.int64, [.unbound, .fixed 1]⟩),
      ("probabilities", ⟨.float64, [.unbound, .fixed n]⟩)] ∧ model.Classifies n
  | none => outputs = [("predictions", ⟨.float64, [.unbound, .fixed 1]⟩)] ∧ model.Regresses

variable {model : Model} {inputs : TrainingInputs} {n : Nat} {values : List Value}

/-- What is predicted is what a model of its shape answers for the rows. -/
theorem IsShaped.mem_predict (h : model.IsShaped) (hvalues : model.predict inputs = .ok values)
    (hclasses : model.head.classCount? ≠ some 0) :
    ∀ value ∈ values, Head.Answers model.head.classCount? value := by
  obtain ⟨rows, hrows, -⟩ := predict_eq_ok_iff.1 hvalues
  obtain ⟨found, hfound, -, hall⟩ := h.predict_eq_ok hrows
  obtain rfl : found = values := Except.ok.inj (hfound.symm.trans hvalues)
  exact hall hclasses

theorem IsShaped.classifies (h : model.IsShaped) (hclasses : model.head.classCount? = some n) :
    model.Classifies n where
  answers inputs rows hrows := by
    obtain ⟨values, hvalues, hcount, -⟩ := h.predict_eq_ok hrows
    obtain ⟨ps, hps, hlength, -⟩ := h.probabilities_eq_ok hrows hclasses
    exact ⟨values, ps, hvalues, hcount, hps, hlength⟩
  classes inputs values hvalues value hmem := by
    refine ⟨?_, fun hn => ?_⟩
    · obtain ⟨rows, -, hall⟩ := predict_eq_ok_iff.1 hvalues
      have hints : ∀ value ∈ values, ∃ i, value = .int i :=
        forall_of_mapM hall fun row _ value hvalue =>
          Head.int_of_predict (by rw [hclasses]; rfl) hvalue
      exact hints value hmem
    · rw [← hclasses]
      refine h.mem_predict hvalues (fun hzero => hn ?_) value hmem
      exact Option.some.inj (hclasses.symm.trans hzero)
  probabilities inputs ps hps := by
    obtain ⟨-, rows, hrows, -⟩ := probabilities_eq_ok_iff.1 hps
    obtain ⟨found, hfound, -, hall⟩ := h.probabilities_eq_ok hrows hclasses
    obtain rfl : found = ps := Except.ok.inj (hfound.symm.trans hps)
    exact hall

theorem IsShaped.regresses (h : model.IsShaped) (hclasses : model.head.classCount? = none) :
    model.Regresses where
  answers inputs rows hrows := by
    obtain ⟨values, hvalues, hcount, -⟩ := h.predict_eq_ok hrows
    exact ⟨values, hvalues, hcount⟩
  numbers inputs values hvalues := by
    have hall := h.mem_predict hvalues (by rw [hclasses]; nofun)
    rwa [hclasses] at hall
  probabilities inputs := by
    rw [probabilities_eq, hclasses]
    rfl

/-- The outputs that a head is recorded with are what a model of its shape answers. -/
theorem IsShaped.answers (h : model.IsShaped) (serving : ServingInputs) :
    model.Answers (Description.callSignature model.head serving).outputs := by
  unfold Answers Description.callSignature
  cases hclasses : model.head.classCount? with
  | some n => exact ⟨rfl, h.classifies hclasses⟩
  | none => exact ⟨rfl, h.regresses hclasses⟩

theorem callSignature_inputs (head : Head) (serving : ServingInputs) :
    (Description.callSignature head serving).inputs = serving.recorded := by
  unfold Description.callSignature
  cases head.classCount? <;> rfl

/-- The one signature of a description is that of the model's head. -/
theorem signature_of_describe {serving : ServingInputs} {description : Description}
    (h : model.describe serving = .ok description) :
    description.servingSignature? = some (Description.callSignature model.head serving) := by
  have hsignatures : description.signatures
      = [(Description.servingKey, Description.callSignature model.head serving)] := by
    cases model with
    | linear m =>
      obtain rfl := Description.of_eq_ok h
      rfl
    | network m =>
      obtain rfl := Description.of_eq_ok h
      rfl
  rw [Description.servingSignature?, hsignatures]
  simp [SortedMap.get?]

/-- Whenever an export succeeds, its description can be read and fits the serving inputs, it records
exactly their placeholders as inputs, and what it records as outputs is what the model answers on
any inputs whatever. -/
theorem exported_signature_is_true (h : model.Reached) (base : Path) (serving : ServingInputs)
    (d : Disk) :
    Holds Happens (fun _ => True) (model.exportTo base serving).run d fun result d' =>
      ∀ directory, result = .ok directory → ∃ description signature,
        d'.run (Artifact.readDescription directory).run = (.ok description, d') ∧
        description.checkServing serving = .ok () ∧
        description.servingSignature? = some signature ∧
        signature.inputs = serving.recorded ∧
        (∀ entry ∈ signature.inputs, entry.2.shape = [.unbound, .fixed 1]) ∧
        model.Answers signature.outputs := by
  refine (model.holds_exportTo_records base serving d).mono (fun _ h => h) ?_
  intro result d' hwritten directory hok
  obtain ⟨description, hdescribe, hrecords⟩ := hwritten directory hok
  have hinputs := callSignature_inputs model.head serving
  exact ⟨description, Description.callSignature model.head serving,
    h.isShaped.run_readDescription hdescribe hrecords, checkServing_of_describe hdescribe,
    signature_of_describe hdescribe, hinputs,
    fun entry hentry => ServingInputs.shape_of_recorded (hinputs ▸ hentry),
    h.isShaped.answers serving⟩

/-- A network that estimates numbers. -/
theorem exported_signature_is_true_once :
    ∃ (model : Model) (directory : Path) (d : Disk) (description : Description)
      (signature : CallSignature), model.Reached ∧
      ({} : Disk).run (model.exportTo ⟨"models"⟩ ⟨plainRoles⟩).run = (.ok directory, d) ∧
      d.run (Artifact.readDescription directory).run = (.ok description, d) ∧
      description.checkServing ⟨plainRoles⟩ = .ok () ∧
      description.servingSignature? = some signature ∧
      signature.inputs = [("x", ⟨.float64, [.unbound, .fixed 1]⟩)] ∧
      model.Answers signature.outputs := by
  obtain ⟨model, directory, d, hreached, -, hexport⟩ := small_spec
  have htrue := happens_run (exported_signature_is_true hreached ⟨"models"⟩ ⟨plainRoles⟩ {})
  rw [hexport] at htrue
  obtain ⟨description, signature, hread, hchecked, hfound, hinputs, -, hanswers⟩ := htrue _ rfl
  exact ⟨model, directory, d, description, signature, hreached, hexport, hread, hchecked, hfound,
    hinputs, hanswers⟩

end Model
end Exemplar
