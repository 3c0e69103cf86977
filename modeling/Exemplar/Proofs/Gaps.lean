/-
Variables are read back exactly if they are all finite.

A number that is not finite leaves a gap in the text, and with one gap the text
does not stand for variables any more.
-/
import Exemplar.Proofs.Descriptions

namespace Exemplar

open Json

variable {room : Nat}

/-- Sizes that a word holds. -/
def Variable.IsWord (v : Variable) : Prop := ∀ size ∈ v.shape, size < twoTo 64

def Variable.IsFinite (v : Variable) : Prop := ∀ x ∈ v.values, x.isFinite = true

/-- What a written number is read as. -/
def Json.ofValue (x : Float) : Json := if x.isFinite then .real x else .null

namespace Variable

theorem fits_json {v : Variable} (h : v.IsWord) : Fits (room + 2) v.json := by
  have hshape : Fits (room + 1) (.nats v.shape) :=
    (IsText.map fun size hsize => .nat room (h size hsize)).fits
  have hvalues : Fits (room + 1) (.array (v.values.map .real)) :=
    .array (List.forall_mem_map.2 fun x _ => .real room x)
  exact .object (by simp [hshape, hvalues])

theorem reread_json {v : Variable} (h : v.IsWord) : v.json.reread
    = .object [("shape", .nats v.shape), ("values", .array (v.values.map Json.ofValue))] := by
  have hshape : (Json.nats v.shape).reread = .nats v.shape :=
    (@IsText.map _ 0 _ _ fun size hsize => .nat 0 (h size hsize)).reread
  have hvalues : (Json.array (v.values.map .real)).reread
      = .array (v.values.map Json.ofValue) := by
    rw [Json.reread, rereadItems_eq, List.map_map]
    rfl
  rw [json, Json.reread, rereadMembers_eq, List.map_cons, List.map_cons, hshape, hvalues]
  rfl

theorem read?_reread {v : Variable} (h : v.IsWord) :
    read? float? v.json.reread = (list? float? (.array (v.values.map Json.ofValue))).map
      fun values => ⟨v.shape, values⟩ := by
  have hshape : list? (nat? 64) (.nats v.shape) = some v.shape :=
    list?_map fun size hsize => nat?_nat (h size hsize)
  have hfields : fields? ["shape", "values"] v.json.reread = some [some (.nats v.shape),
      some (.array (v.values.map Json.ofValue))] := by
    rw [reread_json h]
    rfl
  unfold read?
  rw [hfields, Option.bind_eq_bind, Option.bind_some]
  dsimp only
  rw [required?_some, hshape, Option.bind_eq_bind, Option.bind_some, required?_some]
  exact Option.map_eq_bind.symm

theorem read?_of_isFinite {v : Variable} (h : v.IsWord) (hfinite : v.IsFinite) :
    read? float? v.json.reread = some v := by
  have hvalues : list? float? (.array (v.values.map Json.ofValue)) = some v.values := by
    refine list?_map fun x hx => ?_
    rw [ofValue, if_pos (hfinite x hx)]
    rfl
  rw [read?_reread h, hvalues]
  rfl

end Variable

theorem Json.mapM_none {α β : Type} {xs : List α} {g : α → Option β} {x : α} (hx : x ∈ xs)
    (h : g x = none) : xs.mapM g = none := by
  induction xs with
  | nil => cases hx
  | cons y rest ih =>
    rw [List.mapM_cons]
    rcases List.mem_cons.1 hx with rfl | hx
    · rw [h]
      rfl
    · rw [ih hx]
      cases g y <;> rfl

theorem Variable.read?_of_gap {v : Variable} {x : Float} (h : v.IsWord) (hx : x ∈ v.values)
    (hgap : x.isFinite = false) : read? float? v.json.reread = none := by
  have hvalues : list? float? (.array (v.values.map Json.ofValue)) = none := by
    refine mapM_none (List.mem_map_of_mem hx) ?_
    rw [ofValue, hgap]
    rfl
  rw [read?_reread h, hvalues]
  rfl

namespace Variables

/-- Variables as they are made: in the order of their names, with sizes that a word holds. -/
structure IsWord (recorded : Variables) : Prop where
  sorted : SortedMap.Sorted recorded
  shapes : ∀ entry ∈ recorded, entry.2.IsWord

/-- All numbers are finite. -/
def AreFinite (recorded : Variables) : Prop := ∀ entry ∈ recorded, entry.2.IsFinite

variable {recorded : Variables}

theorem fits_json (h : recorded.IsWord) : Fits (room + 4) recorded.json := by
  have htensors : Fits (room + 3) (.object (recorded.mapValues Variable.json)) :=
    .object (List.forall_mem_map.2 fun entry hentry => Variable.fits_json (h.shapes entry hentry))
  exact .object (by simpa using htensors)

theorem ofJson?_reread (recorded : Variables) : ofJson? recorded.json.reread
    = map? (Variable.read? float?)
      (.object (recorded.mapValues fun (v : Variable) => v.json.reread)) := by
  have hfields : fields? ["tensors"] recorded.json.reread
      = some [some (.object (recorded.mapValues fun (v : Variable) => v.json.reread))] := by
    rw [json, Json.reread, rereadMembers_eq, List.map_singleton, Json.reread, rereadMembers_eq,
      SortedMap.mapValues, List.map_map]
    rfl
  unfold ofJson? read?
  rw [hfields]
  rfl

/-- Finite variables are read back from their document. -/
theorem ofJson?_of_isFinite (h : recorded.IsWord) (hfinite : recorded.AreFinite) :
    ofJson? recorded.json.reread = some recorded := by
  rw [ofJson?_reread]
  exact map?_mapValues h.sorted fun entry hentry =>
    Variable.read?_of_isFinite (h.shapes entry hentry) (hfinite entry hentry)

/-- With a gap, a document stands for no variables. -/
theorem ofJson?_of_gap (h : recorded.IsWord) {entry : String × Variable} (hentry : entry ∈ recorded)
    {x : Float} (hx : x ∈ entry.2.values) (hgap : x.isFinite = false) :
    ofJson? recorded.json.reread = none := by
  have hread := Variable.read?_of_gap (h.shapes entry hentry) hx hgap
  rw [ofJson?_reread]
  show Option.map SortedMap.ofList _ = _
  rw [Option.map_eq_none_iff]
  refine mapM_none (List.mem_map_of_mem hentry) ?_
  rw [hread]
  rfl

end Variables
end Exemplar
