/-
What serving compares of the inputs that a description recorded.

Of a recorded input the check keeps the name and the type, and so it does of the placeholders that
the serving inputs declare.  Both must then be the same map, so no name and no type is lost on the
way.  The shapes are lost: an accepted description has recorded the placeholders themselves exactly
if each of its inputs has the shape that every placeholder has, and nothing checks that it has.
-/
import Exemplar.Proofs.Serving
import Exemplar.Proofs.Signatures
import Exemplar.Proofs.Texts

namespace Exemplar
namespace Description

variable {d : Description} {serving : ServingInputs}

/-- A description can be served exactly if its columns, and the inputs of its serving signature,
have the names and the types of the placeholders. -/
theorem checkServing_eq_ok_iff : d.checkServing serving = .ok () ↔
    columnTypes d.columns = serving.types ∧ ∃ signature, d.servingSignature? = some signature ∧
      signature.inputs.mapValues (·.type) = serving.types := by
  unfold checkServing
  rw [bind_eq_ok_iff, ← checkColumns_eq_ok_iff]
  cases d.servingSignature? with
  | none => simp
  | some signature =>
    constructor
    · rintro ⟨⟨⟩, hcolumns, hinputs⟩
      dsimp only at hinputs
      split at hinputs
      · exact ⟨hcolumns, signature, rfl, ‹_›⟩
      · cases hinputs
    · rintro ⟨hcolumns, _, ⟨⟩, hinputs⟩
      exact ⟨(), hcolumns, if_pos hinputs⟩

/-- The types of what is recorded of the placeholders are those of the placeholders. -/
theorem types_of_recorded (serving : ServingInputs) :
    serving.recorded.mapValues (·.type) = serving.types := by
  simp [ServingInputs.recorded, ServingInputs.types, SortedMap.mapValues]

/-- Tensors of one shape are known from their types. -/
theorem mapValues_type_of_shape {tensors : SortedMap TensorInfo} {shape : List Dim}
    (h : ∀ entry ∈ tensors, entry.2.shape = shape) :
    (tensors.mapValues (·.type)).mapValues (⟨·, shape⟩) = tensors := by
  unfold SortedMap.mapValues
  rw [List.map_map]
  refine (List.map_congr_left fun entry hentry => ?_).trans (List.map_id _)
  obtain ⟨name, type, found⟩ := entry
  obtain rfl : found = shape := h _ hentry
  rfl

/-- An accepted description has recorded inputs of just the names of the placeholders, and each has
its placeholder's type.  They are the placeholders exactly if each takes any number of single
cells. -/
theorem accepted_inputs_match_iff (h : d.checkServing serving = .ok ()) :
    ∃ signature, d.servingSignature? = some signature ∧
      signature.inputs.keys = serving.recorded.keys ∧
      (∀ name, (signature.inputs.get? name).map (·.type)
        = (serving.recorded.get? name).map (·.type)) ∧
      (signature.inputs = serving.recorded ↔
        ∀ entry ∈ signature.inputs, entry.2.shape = [.unbound, .fixed 1]) := by
  obtain ⟨-, signature, hfound, htypes⟩ := checkServing_eq_ok_iff.1 h
  rw [← types_of_recorded] at htypes
  refine ⟨signature, hfound, ?_, fun name => ?_, ?_, fun hshapes => ?_⟩
  · have hkeys := congrArg SortedMap.keys htypes
    simpa [SortedMap.keys, SortedMap.mapValues, Function.comp_def] using hkeys
  · rw [← SortedMap.get?_mapValues, ← SortedMap.get?_mapValues, htypes]
  · rintro heq entry hentry
    exact ServingInputs.shape_of_recorded (heq ▸ hentry)
  · rw [← mapValues_type_of_shape hshapes, htypes,
      mapValues_type_of_shape fun _ => ServingInputs.shape_of_recorded]

/-- A model of one number, whose one recorded input takes rows of the given shape. -/
def numberModel (shape : List Dim) : Description :=
  ⟨currentVersion, "LinearRegressor", .linear, .regression, [.realValued ⟨"x", .float64⟩], [], 0,
    [(servingKey,
      ⟨"regress", [("x", ⟨.float64, shape⟩)], [("predictions", rowsOf .float64 1)]⟩)]⟩

/-- What serves it. -/
def numberServing : ServingInputs := ⟨⟨["x"], [], "y", .regression⟩⟩

theorem accepted_inputs_match_once :
    (numberModel [.unbound, .fixed 1]).checkServing numberServing = .ok () ∧
      ∃ signature, (numberModel [.unbound, .fixed 1]).servingSignature? = some signature ∧
        signature.inputs = numberServing.recorded := by
  have hserving : (numberModel [.unbound, .fixed 1]).checkServing numberServing = .ok () := by
    decide +kernel
  obtain ⟨signature, hfound, -, -, hmatch⟩ := accepted_inputs_match_iff hserving
  refine ⟨hserving, signature, hfound, hmatch.2 ?_⟩
  cases hfound
  simp

/-- A description is read from its text and accepted, although its input takes seven cells a row. -/
theorem other_shape_is_accepted : ∃ (text : String) (d : Description) (signature : CallSignature),
    (Json.parse? text).bind ofJson? = some d ∧ d.checkServing numberServing = .ok () ∧
      d.servingSignature? = some signature ∧ signature.inputs ≠ numberServing.recorded := by
  have hword : (numberModel [.unbound, .fixed 7]).IsWord := by
    refine ⟨trivial, by decide, List.pairwise_singleton .., ?_⟩
    refine List.forall_mem_singleton.2
      ⟨List.pairwise_singleton .., List.pairwise_singleton .., ?_, ?_⟩
    · refine List.forall_mem_singleton.2 (List.forall_mem_cons.2 ⟨trivial, ?_⟩)
      exact List.forall_mem_singleton.2 (show 7 < twoTo 63 by decide)
    · refine List.forall_mem_singleton.2 (List.forall_mem_cons.2 ⟨trivial, ?_⟩)
      exact List.forall_mem_singleton.2 (show 1 < twoTo 63 by decide)
  exact ⟨_, _, _, ofJson?_pretty hword, by decide +kernel, rfl, by decide +kernel⟩

end Description
end Exemplar
