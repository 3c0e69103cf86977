/-
Descriptions are read back from their documents.

There is no number with a fraction in a description, so its text says all of it.
What can be read back is bounded by the words that counts are read into: 64 bits
for the sizes of layers and classes, and a sign for the dimensions of tensors.
-/
import Exemplar.Artifact.Format
import Exemplar.Proofs.Documents
import Exemplar.Proofs.Maps

namespace Exemplar
namespace Json

variable {α : Type} {room : Nat}

/-! ## Documents without fractions -/

/-- A document of which nothing is lost in its text. -/
structure IsText (room : Nat) (document : Json) : Prop where
  fits : Fits room document
  reread : document.reread = document

theorem IsText.string (room : Nat) (s : String) : IsText room (.string s) := ⟨.string room s, rfl⟩

theorem IsText.integer (room : Nat) {i : Int} (h : IsKept i) : IsText room (.integer i) :=
  ⟨.integer room h, rfl⟩

theorem IsText.nat (room : Nat) {n : Nat} (h : n < twoTo 64) : IsText room (.nat n) := by
  refine .integer room ⟨?_, ?_⟩
  · exact le_trans (by decide) (Int.natCast_nonneg n)
  · have : n ≤ largestInteger := Nat.le_pred_of_lt h
    exact_mod_cast this

theorem IsText.array {items : List Json} (h : ∀ item ∈ items, IsText room item) :
    IsText (room + 1) (.array items) := by
  refine ⟨.array fun item hitem => (h item hitem).fits, ?_⟩
  rw [Json.reread, rereadItems_eq, List.map_congr_left fun item hitem => (h item hitem).reread,
    List.map_id']

theorem IsText.object {members : List (String × Json)}
    (h : ∀ member ∈ members, IsText room member.2) : IsText (room + 1) (.object members) := by
  refine ⟨.object fun member hmember => (h member hmember).fits, ?_⟩
  rw [Json.reread, rereadMembers_eq]
  congr 1
  refine (List.map_congr_left fun member hmember => ?_).trans (List.map_id members)
  rw [(h member hmember).reread]
  rfl

theorem IsText.map {xs : List α} {json : α → Json} (h : ∀ x ∈ xs, IsText room (json x)) :
    IsText (room + 1) (.array (xs.map json)) :=
  .array (List.forall_mem_map.2 h)

theorem IsText.mapValues {m : SortedMap α} {json : α → Json}
    (h : ∀ entry ∈ m, IsText room (json entry.2)) :
    IsText (room + 1) (.object (m.mapValues json)) :=
  .object (List.forall_mem_map.2 h)

theorem areReadable_eq (items : List Json) : areReadable items = items.all isReadable := by
  induction items with
  | nil => rfl
  | cons item rest ih => rw [areReadable, ih, List.all_cons]

theorem membersReadable_eq (members : List (String × Json)) :
    membersReadable members = members.all fun member => member.2.isReadable := by
  induction members with
  | nil => rfl
  | cons member rest ih =>
    obtain ⟨name, value⟩ := member
    rw [membersReadable, memberReadable, ih, List.all_cons]

theorem Fits.isReadable {document : Json} (h : Fits room document) :
    document.isReadable = true := by
  induction h with
  | null | bool | integer | real | string => rfl
  | array _ ih =>
    rw [Json.isReadable, areReadable_eq]
    exact List.all_eq_true.2 ih
  | object _ ih =>
    rw [Json.isReadable, membersReadable_eq]
    exact List.all_eq_true.2 ih

/-! ## Reading -/

theorem nat?_nat {bits n : Nat} (h : n < twoTo bits) : nat? bits (.nat n) = some n := by
  have hlt : (n : Int) < (twoTo bits : Int) := by exact_mod_cast h
  exact if_pos ⟨Int.natCast_nonneg n, hlt⟩

theorem required?_some (value? : Json → Option α) (document : Json) :
    required? value? (some document) = value? document := rfl

theorem mapM_map {β : Type} {xs : List α} {f : α → β} {g : β → Option α}
    (h : ∀ x ∈ xs, g (f x) = some x) : (xs.map f).mapM g = some xs := by
  induction xs with
  | nil => rfl
  | cons x rest ih =>
    rw [List.map_cons, List.mapM_cons, h x List.mem_cons_self,
      ih fun x hx => h x (List.mem_cons_of_mem _ hx)]
    rfl

theorem list?_map {xs : List α} {json : α → Json} {item? : Json → Option α}
    (h : ∀ x ∈ xs, item? (json x) = some x) : list? item? (.array (xs.map json)) = some xs :=
  mapM_map h

theorem map?_mapValues {m : SortedMap α} {json : α → Json} {value? : Json → Option α}
    (hm : m.Sorted) (h : ∀ entry ∈ m, value? (json entry.2) = some entry.2) :
    map? value? (.object (m.mapValues json)) = some m := by
  have hread : (m.mapValues json).mapM (fun (member : String × Json) =>
      (value? member.2).map (member.1, ·)) = some m := by
    refine mapM_map fun entry hentry => ?_
    rw [h entry hentry]
    rfl
  show Option.map SortedMap.ofList _ = _
  rw [hread]
  exact congrArg some hm.ofList_eq

/-- A choice is read with the contents that were written. -/
theorem tagged?_taggedObject {passage : Passage} {names : List String} {tag : String}
    {members : List (String × Json)} (hname : ∀ member ∈ members, member.1 ≠ tagName)
    (htag : names.contains tag = true) (h : ∀ member ∈ members, member.2.isReadable = true) :
    tagged? passage names (taggedObject tag members) = some (tag, .object members) := by
  have hothers : ((tagName, Json.string tag) :: members).filter (·.1 ≠ tagName) = members := by
    rw [List.filter_cons_of_neg (by simp)]
    exact List.filter_eq_self.2 fun member hmember => by simpa using hname member hmember
  have htags : ((tagName, Json.string tag) :: members).filter (·.1 = tagName)
      = [(tagName, .string tag)] := by
    rw [List.filter_cons_of_pos (by simp)]
    congr 1
    exact List.filter_eq_nil_iff.2 fun member hmember => by simpa using hname member hmember
  have hreadable : membersReadable members = true := by
    rw [membersReadable_eq]
    exact List.all_eq_true.2 h
  unfold taggedObject tagged?
  dsimp only
  rw [hothers, if_pos hreadable]
  unfold member?
  rw [htags]
  have hread : tag? passage names (.string tag) = some tag := if_pos htag
  show (tag? passage names (.string tag)).bind _ = _
  rw [hread]
  rfl

end Json

open Json

variable {room : Nat}

theorem ElementType.ofJson?_json (passage : Passage) (type : ElementType) :
    ofJson? passage type.json = some type := by
  cases type <;> rfl

/-! ## Dimensions -/

/-- Sizes that a word with a sign holds. -/
def Dim.IsWord : Dim → Prop
  | .fixed size => size < twoTo 63
  | .unbound => True

theorem Dim.toInt_ofNat {size : Nat} (h : size < twoTo 63) : (Int64.ofNat size).toInt = size :=
  Int64.toInt_ofNat_of_lt h

theorem Dim.ofJson?_json {dim : Dim} (h : dim.IsWord) : ofJson? dim.json = some dim := by
  cases dim with
  | unbound => rfl
  | fixed size =>
    have hlt : size < 9223372036854775808 := h
    have hrange : Int64.minValue.toInt ≤ (size : Int) ∧ (size : Int) ≤ Int64.maxValue.toInt := by
      rw [show Int64.minValue.toInt = -9223372036854775808 from rfl,
        show Int64.maxValue.toInt = 9223372036854775807 from rfl]
      omega
    unfold ofJson? json int64?
    dsimp only
    rw [toInt_ofNat h, if_pos hrange, Option.map_some,
      show Int64.ofInt (size : Int) = Int64.ofNat size from rfl, if_neg, toInt_ofNat h,
      Int.toNat_natCast]
    rw [Int64.lt_iff_toInt_lt, toInt_ofNat h]
    exact not_lt.2 (Int.natCast_nonneg size)

theorem Dim.isText_json {dim : Dim} (h : dim.IsWord) : IsText room dim.json := by
  cases dim with
  | unbound => exact .integer room ⟨by decide, by decide⟩
  | fixed size =>
    unfold json
    dsimp only
    rw [toInt_ofNat h]
    exact .nat room (lt_trans h (by decide))

/-! ## Heads -/

/-- Counts of classes that a word holds. -/
def Head.IsWord : Head → Prop
  | .multiClass classes => classes < twoTo 64
  | _ => True

theorem Head.isText_json {head : Head} (h : head.IsWord) : IsText (room + 1) head.json := by
  cases head with
  | binary => exact .object (by simp [IsText.string])
  | regression => exact .object (by simp [IsText.string])
  | multiClass classes =>
    have hlt : classes < twoTo 64 := h
    exact .object (by simp [IsText.string, IsText.nat, hlt])

theorem Head.ofJson?_json {head : Head} (h : head.IsWord) : ofJson? head.json = some head := by
  cases head with
  | binary => rfl
  | regression => rfl
  | multiClass classes =>
    have hlt : classes < twoTo 64 := h
    have htagged : tagged? .direct tags (json (.multiClass classes))
        = some ("multi_class", .object [("n_classes", .nat classes)]) := by
      refine tagged?_taggedObject (by simp [tagName]) (by decide) ?_
      intro member hmember
      rw [List.mem_singleton.1 hmember]
      exact (IsText.nat 0 hlt).fits.isReadable
    have hfields : fields? ["n_classes"] (.object [("n_classes", .nat classes)])
        = some [some (.nat classes)] := rfl
    unfold ofJson?
    rw [htagged, Option.bind_eq_bind, Option.bind_some]
    dsimp only
    rw [if_pos rfl, hfields, Option.bind_eq_bind, Option.bind_some]
    dsimp only
    rw [required?, Option.bind_some, nat?_nat hlt]
    rfl

/-! ## Columns -/

theorem RealColumn.isText_members (c : RealColumn) :
    ∀ member ∈ c.members, IsText room member.2 := by
  simp [members, ElementType.json, IsText.string]

theorem RealColumn.ofContents?_members (c : RealColumn) :
    ofContents? (.object c.members) = some c := by
  have hfields : fields? ["column", "dtype"] (.object c.members)
      = some [some (.string c.column), some c.type.json] := rfl
  unfold ofContents?
  rw [hfields]
  show (ElementType.ofJson? .setAside c.type.json).bind _ = _
  rw [ElementType.ofJson?_json]
  rfl

theorem KeyedColumn.isText_members (c : KeyedColumn) :
    ∀ member ∈ c.members, IsText (room + 1) member.2 := by
  have hvocabulary : IsText (room + 1) (.strings c.vocabulary) :=
    .map fun key _ => .string room key
  simp [members, ElementType.json, IsText.string, hvocabulary]

theorem KeyedColumn.ofContents?_members (c : KeyedColumn) :
    ofContents? (.object c.members) = some c := by
  have hfields : fields? ["column", "dtype", "vocabulary"] (.object c.members)
      = some [some (.string c.column), some c.type.json, some (.strings c.vocabulary)] := rfl
  have hvocabulary : list? string? (.strings c.vocabulary) = some c.vocabulary :=
    list?_map fun _ _ => rfl
  unfold ofContents?
  rw [hfields]
  show (ElementType.ofJson? .setAside c.type.json).bind _ = _
  rw [ElementType.ofJson?_json]
  show (list? string? (.strings c.vocabulary)).bind _ = _
  rw [hvocabulary]
  rfl

namespace InputColumn

/-- The name of a column's kind. -/
def tag : InputColumn → String
  | realValued _ => "real_valued"
  | keyed _ => "sparse_with_keys"
  | oneHot _ => "one_hot"

/-- The other members of a column's document. -/
def members : InputColumn → List (String × Json)
  | realValued c => c.members
  | keyed c | oneHot c => c.members

theorem json_eq (c : InputColumn) : c.json = taggedObject c.tag c.members := by
  cases c <;> rfl

theorem isText_members (c : InputColumn) : ∀ member ∈ c.members, IsText (room + 1) member.2 := by
  cases c with
  | realValued c => exact c.isText_members
  | keyed c => exact c.isText_members
  | oneHot c => exact c.isText_members

theorem isText_json (c : InputColumn) : IsText (room + 2) c.json := by
  rw [json_eq]
  refine .object fun member hmember => ?_
  rcases List.mem_cons.1 hmember with rfl | hmember
  · exact .string _ _
  · exact c.isText_members member hmember

theorem ofJson?_json (c : InputColumn) : ofJson? c.json = some c := by
  have hname : ∀ member ∈ c.members, member.1 ≠ tagName := by
    cases c <;> simp [members, RealColumn.members, KeyedColumn.members, tagName]
  have htagged : tagged? .direct tags c.json = some (c.tag, .object c.members) := by
    rw [json_eq]
    refine tagged?_taggedObject hname (by cases c <;> rfl) ?_
    exact fun member hmember => (@isText_members 0 c member hmember).fits.isReadable
  unfold ofJson?
  rw [htagged, Option.bind_eq_bind, Option.bind_some]
  cases c with
  | realValued c =>
    show (RealColumn.ofContents? (.object c.members)).bind _ = _
    rw [RealColumn.ofContents?_members]
    rfl
  | keyed c =>
    show (KeyedColumn.ofContents? (.object c.members)).bind _ = _
    rw [KeyedColumn.ofContents?_members]
    rfl
  | oneHot c =>
    show (KeyedColumn.ofContents? (.object c.members)).bind _ = _
    rw [KeyedColumn.ofContents?_members]
    rfl

end InputColumn

/-! ## Signatures -/

def TensorInfo.IsWord (t : TensorInfo) : Prop := ∀ dim ∈ t.shape, dim.IsWord

theorem TensorInfo.isText_json {t : TensorInfo} (h : t.IsWord) : IsText (room + 2) t.json := by
  have hshape : IsText (room + 1) (.array (t.shape.map Dim.json)) :=
    .map fun dim hdim => Dim.isText_json (h dim hdim)
  exact .object (by simp [ElementType.json, IsText.string, hshape])

theorem TensorInfo.ofJson?_json {t : TensorInfo} (h : t.IsWord) : ofJson? t.json = some t := by
  have hfields : fields? ["dtype", "shape"] t.json
      = some [some t.type.json, some (.array (t.shape.map Dim.json))] := rfl
  have hshape : list? Dim.ofJson? (.array (t.shape.map Dim.json)) = some t.shape :=
    list?_map fun dim hdim => Dim.ofJson?_json (h dim hdim)
  unfold ofJson?
  rw [hfields]
  show (ElementType.ofJson? .direct t.type.json).bind _ = _
  rw [ElementType.ofJson?_json]
  show (list? Dim.ofJson? (.array (t.shape.map Dim.json))).bind _ = _
  rw [hshape]
  rfl

/-- Signatures as they are made: tensors in the order of their names, with sizes that a word
holds. -/
structure CallSignature.IsWord (s : CallSignature) : Prop where
  inputs_sorted : s.inputs.Sorted
  outputs_sorted : s.outputs.Sorted
  inputs : ∀ entry ∈ s.inputs, entry.2.IsWord
  outputs : ∀ entry ∈ s.outputs, entry.2.IsWord

theorem CallSignature.isText_json {s : CallSignature} (h : s.IsWord) :
    IsText (room + 4) s.json := by
  have hinputs : IsText (room + 3) (.object (s.inputs.mapValues TensorInfo.json)) :=
    .mapValues fun entry hentry => TensorInfo.isText_json (h.inputs entry hentry)
  have houtputs : IsText (room + 3) (.object (s.outputs.mapValues TensorInfo.json)) :=
    .mapValues fun entry hentry => TensorInfo.isText_json (h.outputs entry hentry)
  exact .object (by simp [IsText.string, hinputs, houtputs])

theorem CallSignature.ofJson?_json {s : CallSignature} (h : s.IsWord) :
    ofJson? s.json = some s := by
  have hfields : fields? ["method", "inputs", "outputs"] s.json = some [some (.string s.method),
      some (.object (s.inputs.mapValues TensorInfo.json)),
      some (.object (s.outputs.mapValues TensorInfo.json))] := rfl
  have hinputs : map? TensorInfo.ofJson? (.object (s.inputs.mapValues TensorInfo.json))
      = some s.inputs :=
    map?_mapValues h.inputs_sorted fun entry hentry =>
      TensorInfo.ofJson?_json (h.inputs entry hentry)
  have houtputs : map? TensorInfo.ofJson? (.object (s.outputs.mapValues TensorInfo.json))
      = some s.outputs :=
    map?_mapValues h.outputs_sorted fun entry hentry =>
      TensorInfo.ofJson?_json (h.outputs entry hentry)
  unfold ofJson?
  rw [hfields]
  show (map? TensorInfo.ofJson? (.object (s.inputs.mapValues TensorInfo.json))).bind _ = _
  rw [hinputs]
  show (map? TensorInfo.ofJson? (.object (s.outputs.mapValues TensorInfo.json))).bind _ = _
  rw [houtputs]
  rfl

/-! ## Descriptions -/

theorem Architecture.ofJson?_json (a : Architecture) : ofJson? a.json = some a := by
  cases a <;> rfl

namespace Description

/-- A description of which every count fits its word. -/
structure IsWord (d : Description) : Prop where
  head : d.head.IsWord
  hiddenUnits : ∀ units ∈ d.hiddenUnits, units < twoTo 64
  signatures_sorted : d.signatures.Sorted
  signatures : ∀ entry ∈ d.signatures, entry.2.IsWord

theorem isText_json {d : Description} (h : d.IsWord) : IsText (room + 6) d.json := by
  have hversion : d.formatVersion.toNat < twoTo 64 :=
    lt_trans d.formatVersion.toNat_lt (by decide)
  have hsteps : d.steps.toNat < twoTo 64 := d.steps.toNat_lt
  have hcolumns : IsText (room + 5) (.array (d.columns.map InputColumn.json)) :=
    .map fun c _ => c.isText_json
  have hunits : IsText (room + 5) (.nats d.hiddenUnits) :=
    .map fun units hunits => .nat _ (h.hiddenUnits units hunits)
  have hsignatures : IsText (room + 5) (.object (d.signatures.mapValues CallSignature.json)) :=
    .mapValues fun entry hentry => CallSignature.isText_json (h.signatures entry hentry)
  have hhead : IsText (room + 5) d.head.json := Head.isText_json h.head
  have hmembers : ∀ member ∈ hiddenUnitsMember d.hiddenUnits, IsText (room + 5) member.2 := by
    unfold hiddenUnitsMember
    split
    · simp
    · simpa using hunits
  refine .object (List.forall_mem_append.2 ⟨List.forall_mem_append.2 ⟨?_, hmembers⟩, ?_⟩)
  · simp [IsText.string, IsText.nat, hversion, Architecture.json, hhead, hcolumns]
  · simp [IsText.nat, hsteps, hsignatures]

/-- A description is read back from its document. -/
theorem ofJson?_json {d : Description} (h : d.IsWord) : ofJson? d.json = some d := by
  have hhead := Head.ofJson?_json h.head
  have hcolumns : list? InputColumn.ofJson? (.array (d.columns.map InputColumn.json))
      = some d.columns := list?_map fun c _ => c.ofJson?_json
  have hunits : list? (nat? 64) (.nats d.hiddenUnits) = some d.hiddenUnits :=
    list?_map fun units hunits => nat?_nat (h.hiddenUnits units hunits)
  have hsignatures : map? CallSignature.ofJson?
      (.object (d.signatures.mapValues CallSignature.json)) = some d.signatures :=
    map?_mapValues h.signatures_sorted fun entry hentry =>
      CallSignature.ofJson?_json (h.signatures entry hentry)
  have hversion : nat? 32 (.nat d.formatVersion.toNat) = some d.formatVersion.toNat :=
    nat?_nat d.formatVersion.toNat_lt
  have hsteps : nat? 64 (.nat d.steps.toNat) = some d.steps.toNat := nat?_nat d.steps.toNat_lt
  have hfields : fields? fieldNames d.json = some [some (.nat d.formatVersion.toNat),
      some (.string d.estimator), some d.architecture.json, some d.head.json,
      some (.array (d.columns.map InputColumn.json)),
      if d.hiddenUnits.isEmpty then none else some (.nats d.hiddenUnits),
      some (.nat d.steps.toNat), some (.object (d.signatures.mapValues CallSignature.json))] := by
    unfold json hiddenUnitsMember
    cases d.hiddenUnits.isEmpty <;> rfl
  have hdefaulted : defaulted? [] (list? (nat? 64))
      (if d.hiddenUnits.isEmpty then none else some (.nats d.hiddenUnits))
        = some d.hiddenUnits := by
    cases hempty : d.hiddenUnits.isEmpty with
    | true =>
      rw [List.isEmpty_iff.1 hempty]
      rfl
    | false => exact hunits
  unfold ofJson?
  rw [hfields, Option.bind_eq_bind, Option.bind_some]
  dsimp only
  rw [required?_some, hversion, Option.bind_eq_bind, Option.bind_some, required?_some, string?,
    Option.bind_eq_bind, Option.bind_some, required?_some, Architecture.ofJson?_json,
    Option.bind_eq_bind, Option.bind_some, required?_some, hhead, Option.bind_eq_bind,
    Option.bind_some, required?_some, hcolumns, Option.bind_eq_bind, Option.bind_some, hdefaulted,
    Option.bind_eq_bind, Option.bind_some, required?_some, hsteps, Option.bind_eq_bind,
    Option.bind_some, required?_some, hsignatures, Option.bind_some]
  show some (Description.mk _ _ _ _ _ _ _ _) = _
  rw [UInt32.ofNat_toNat, UInt64.ofNat_toNat]

end Description
end Exemplar
