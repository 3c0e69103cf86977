/-
The texts of an artifact lose nothing.

A description and finite variables are read back from their texts as they are, with every
string, every count that a word holds and every bit of a number.  So what a write has
answered a directory for is what both texts below that directory are read as.
-/
import Exemplar.Proofs.Comparing
import Exemplar.Proofs.Histories

namespace Exemplar

open Exemplar.Action Disk

/-! ## Texts and what they stand for -/

namespace Description

/-- A description is read back from its text. -/
theorem ofJson?_pretty {description : Description} (h : description.IsWord) :
    (Json.parse? description.json.pretty).bind ofJson? = some description := by
  have htext : Json.IsText Json.deepest description.json := isText_json h
  rw [Json.parse?_pretty htext.fits, Option.bind_some, htext.reread]
  exact ofJson?_json h

end Description

namespace Variables

variable {recorded : Variables}

/-- Finite variables are read back from their text. -/
theorem ofJson?_pretty (h : recorded.IsWord) (hfinite : recorded.AreFinite) :
    (Json.parse? recorded.json.pretty).bind ofJson? = some recorded := by
  rw [Json.parse?_pretty (fits_json h), Option.bind_some]
  exact ofJson?_of_isFinite h hfinite

end Variables

/-- A file with a text stands for what the text stands for. -/
theorem Disk.Documents.of_text {α : Type} {d : Disk} {path : Path} {ofJson? : Json → Option α}
    {text : String} {value : α} (hread : d.readFile path = .ok text.toUTF8)
    (h : (Json.parse? text).bind ofJson? = some value) : d.Documents path ofJson? value := by
  have htext : String.fromUTF8? text.toUTF8 = some text := dif_pos text.isValidUTF8
  obtain ⟨json, hjson, hvalue⟩ := Option.bind_eq_some_iff.1 h
  exact ⟨_, text, json, hread, htext, hjson, hvalue⟩

namespace Artifact

variable {d : Disk} {directory : Path} {description : Description} {recorded : Variables}

theorem Records.description_documents (h : Records d directory description recorded)
    (hdescription : description.IsWord) :
    d.Documents (descriptionPath directory) Description.ofJson? description :=
  .of_text h.description_text (Description.ofJson?_pretty hdescription)

theorem Records.variables_documents (h : Records d directory description recorded)
    (hrecorded : recorded.IsWord) (hfinite : recorded.AreFinite) :
    d.Documents (variablesPath directory) Variables.ofJson? recorded :=
  .of_text h.variables_text (Variables.ofJson?_pretty hrecorded hfinite)

/-! ## Written and read -/

/-- Descriptions and finite variables are read back from their texts.  So where a write has answered
a directory, whichever requests failed on its way, what was written is read below it. -/
theorem texts_lose_nothing (hdescription : description.IsWord) (hrecorded : recorded.IsWord)
    (hfinite : recorded.AreFinite) :
    (Json.parse? description.json.pretty).bind Description.ofJson? = some description ∧
    (Json.parse? recorded.json.pretty).bind Variables.ofJson? = some recorded ∧
    ∀ base d directory d',
      Ends Happens (write base description recorded).run d (.ok directory) d' →
        Work.told d' (readDescription directory) = .ok description ∧
          Work.told d' (readVariables directory) = .ok recorded := by
  refine ⟨Description.ofJson?_pretty hdescription, Variables.ofJson?_pretty hrecorded hfinite, ?_⟩
  intro base d directory d' hends
  have hrecords := (holds_write_records d).ends hends directory rfl
  exact ⟨told_readDocument_eq_ok_iff.2 (hrecords.description_documents hdescription),
    told_readDocument_eq_ok_iff.2 (hrecords.variables_documents hrecorded hfinite)⟩

/-- A description with text of all kinds, the largest counts, and signatures of its own. -/
def oddDescription : Description where
  formatVersion := 1
  estimator := "a \"name\"\n"
  architecture := .network
  head := .multiClass (twoTo 64 - 1)
  columns := [.oneHot ⟨"é\\", .string, ["", "\u0000", "𝄞"]⟩, .realValued ⟨"x", .float64⟩]
  hiddenUnits := [0, twoTo 64 - 1]
  steps := 18446744073709551615
  signatures := [("", ⟨"m", [], [("y", ⟨.int64, [.unbound, .fixed (twoTo 63 - 1)]⟩)]⟩)]

/-- Variables with a zero of either sign and the smallest number. -/
def oddVariables : Variables :=
  [("v", ⟨[3], [0.0, -0.0, Float.ofBits 1]⟩)]

theorem texts_lose_nothing_odd : ∃ directory d',
    Ends Happens (write ⟨"models"⟩ oddDescription oddVariables).run {} (.ok directory) d' ∧
      Work.told d' (readDescription directory) = .ok oddDescription ∧
      Work.told d' (readVariables directory) = .ok oddVariables := by
  have hdescription : oddDescription.IsWord := by
    have hhead : twoTo 64 - 1 < twoTo 64 := by decide
    refine ⟨hhead, by decide, List.pairwise_singleton .., ?_⟩
    refine List.forall_mem_singleton.2 ⟨.nil, List.pairwise_singleton .., ?_, ?_⟩
    · exact List.forall_mem_nil _
    · refine List.forall_mem_singleton.2 (List.forall_mem_cons.2 ⟨trivial, ?_⟩)
      exact List.forall_mem_singleton.2 (show twoTo 63 - 1 < twoTo 63 by decide)
  have hrecorded : oddVariables.IsWord := by
    refine ⟨List.pairwise_singleton .., List.forall_mem_singleton.2 ?_⟩
    exact List.forall_mem_singleton.2 (show 3 < twoTo 64 by decide)
  have hfinite : oddVariables.AreFinite := by
    refine List.forall_mem_singleton.2 fun x hx => ?_
    have hall : [0.0, -0.0, Float.ofBits 1].all Float.isFinite = true := by decide +kernel
    exact List.all_eq_true.1 hall x hx
  have hrun : (({} : Disk).run (write ⟨"models"⟩ oddDescription oddVariables).run).1
      = .ok ⟨"models/0"⟩ := by decide +kernel
  have hends := Fixture.ends_answer hrun
  obtain ⟨-, -, hread⟩ := texts_lose_nothing hdescription hrecorded hfinite
  exact ⟨_, _, hends, hread _ _ _ _ hends⟩

end Artifact
end Exemplar
