/-
Catalogs are read back from their documents.

A field that has a default may also be left out of a document.  At the top the default
is the standard catalog's, whatever the catalog that is written has there; further down
only a field whose value is the default may be left out, so that nothing is lost.
-/
import Exemplar.Catalog.Format
import Exemplar.Proofs.Comparing
import Exemplar.Proofs.Compact
import Exemplar.Proofs.Descriptions

namespace Exemplar
namespace Json

variable {α : Type} {room : Nat}

/-! ## Fields that may be left out -/

/-- What a field is read as, and where it stands in the document: it is written, or left out and
read as the default. -/
inductive Field (writes : α → Json → Prop) (default value : α) : α → Option Json → Prop
  | written {document : Json} : writes value document →
    Field writes default value value (some document)
  | leftOut : Field writes default value default none

/-- The member of an object for a field, if it is not left out. -/
def memberFor (name : String) (field : Option Json) : List (String × Json) :=
  (field.map (name, ·)).toList

variable {writes : α → Json → Prop} {default value read : α} {field : Option Json}

theorem Field.defaulted?_eq {value? : Json → Option α} (h : Field writes default value read field)
    (hread : ∀ document, writes value document → value? document = some value) :
    defaulted? default value? field = some read := by
  cases h with
  | written hwrites => exact hread _ hwrites
  | leftOut => rfl

theorem Field.isText (h : Field writes default value read field) (name : String)
    (htext : ∀ document, writes value document → IsText room document) :
    ∀ member ∈ memberFor name field, IsText room member.2 := by
  cases h with
  | written hwrites => simpa [memberFor] using htext _ hwrites
  | leftOut => simp [memberFor]

/-- A value that is written in one way. -/
def WrittenAs (json : α → Json) (value : α) (document : Json) : Prop := document = json value

variable {json : α → Json}

theorem Field.defaulted?_of {value? : Json → Option α}
    (h : Field (WrittenAs json) default value read field)
    (hread : value? (json value) = some value) : defaulted? default value? field = some read := by
  refine h.defaulted?_eq fun document hdocument => ?_
  rw [hdocument, hread]

theorem Field.isText_of (h : Field (WrittenAs json) default value read field) (name : String)
    (htext : IsText room (json value)) : ∀ member ∈ memberFor name field, IsText room member.2 := by
  refine h.isText name fun document hdocument => ?_
  rw [hdocument]
  exact htext

theorem int64?_integer (i : Int64) : int64? (.integer i.toInt) = some i := by
  have hrange : Int64.minValue.toInt ≤ i.toInt ∧ i.toInt ≤ Int64.maxValue.toInt :=
    ⟨i.minValue_le_toInt, i.toInt_le⟩
  rw [int64?, if_pos hrange, Int64.ofInt_toInt]

theorem IsText.int64 (room : Nat) (i : Int64) : IsText room (.integer i.toInt) := by
  refine .integer room ⟨i.le_toInt, ?_⟩
  have hlargest : (largestInteger : Int) = 18446744073709551615 := rfl
  have hlt := i.toInt_lt
  omega

/-- Items are read as they were written. -/
theorem mapM_of_forall₂ {xs : List α} {documents : List Json} {item? : Json → Option α}
    (h : List.Forall₂ (fun x document => item? document = some x) xs documents) :
    documents.mapM item? = some xs := by
  induction h with
  | nil => rfl
  | cons hitem _ ih =>
    rw [List.mapM_cons, hitem, ih]
    rfl

theorem IsText.array_of_forall₂ {xs : List α} {documents : List Json}
    (h : List.Forall₂ (fun _ document => IsText room document) xs documents) :
    IsText (room + 1) (.array documents) := by
  apply IsText.array
  induction h with
  | nil => simp
  | cons hitem _ ih => exact List.forall_mem_cons.2 ⟨hitem, ih⟩

end Json

open Json

variable {room : Nat} {document : Json}

/-! ## Labels -/

theorem LabelKind.isText_json (kind : LabelKind) : IsText (room + 2) kind.json := by
  cases kind with
  | classes vocabulary =>
    have hvocabulary : IsText (room + 1) (.strings vocabulary) := .map fun key _ => .string room key
    exact .object (by simp [IsText.string, hvocabulary])
  | numeric => exact .object (by simp [IsText.string])

theorem LabelKind.ofJson?_json (kind : LabelKind) : ofJson? kind.json = some kind := by
  cases kind with
  | numeric => rfl
  | classes vocabulary =>
    have hvocabulary : IsText 1 (.strings vocabulary) := .map fun key _ => .string 0 key
    have htagged : tagged? .setAside tags (json (.classes vocabulary))
        = some ("classes", .object [("vocabulary", .strings vocabulary)]) := by
      refine tagged?_taggedObject (by simp [tagName]) (by decide) ?_
      intro member hmember
      rw [List.mem_singleton.1 hmember]
      exact hvocabulary.fits.isReadable
    have hfields : fields? ["vocabulary"] (.object [("vocabulary", .strings vocabulary)])
        = some [some (.strings vocabulary)] := rfl
    have hread : list? string? (.strings vocabulary) = some vocabulary := list?_map fun _ _ => rfl
    unfold ofJson?
    rw [htagged, Option.bind_eq_bind, Option.bind_some]
    dsimp only
    rw [if_pos rfl, hfields, Option.bind_eq_bind, Option.bind_some]
    dsimp only
    rw [required?_some, hread]
    rfl

/-! ## Choices -/

/-- A choice as a document, from which no hidden units and a seed of zero may be left out. -/
inductive Choice.IsWritten (c : Choice) : Json → Prop
  | object {units seed : Option Json} :
    Field (WrittenAs .nats) [] c.hiddenUnits c.hiddenUnits units →
    Field (WrittenAs fun i : Int64 => .integer i.toInt) 0 c.seed c.seed seed →
    IsWritten c (.object (("architecture", c.architecture.json) ::
      (memberFor "hidden_units" units ++ memberFor "seed" seed)))

namespace Choice

/-- Sizes of layers that a word holds. -/
def IsWord (c : Choice) : Prop := ∀ units ∈ c.hiddenUnits, units < twoTo 64

variable {c : Choice}

theorem isWritten_json (c : Choice) : c.IsWritten c.json := .object (.written rfl) (.written rfl)

theorem IsWritten.isText (hword : c.IsWord) (h : c.IsWritten document) :
    IsText (room + 2) document := by
  cases h with
  | object hunits hseed =>
    refine .object (List.forall_mem_cons.2 ⟨.string _ _, List.forall_mem_append.2 ⟨?_, ?_⟩⟩)
    · exact hunits.isText_of _ (.map fun units hmem => .nat room (hword units hmem))
    · exact hseed.isText_of _ (.int64 _ _)

theorem IsWritten.ofJson? (hword : c.IsWord) (h : c.IsWritten document) :
    Choice.ofJson? document = some c := by
  cases h with
  | @object units seed hunits hseed =>
    have hfields : fields? ["architecture", "hidden_units", "seed"]
        (.object (("architecture", c.architecture.json) ::
          (memberFor "hidden_units" units ++ memberFor "seed" seed)))
        = some [some c.architecture.json, units, seed] := by
      cases units <;> cases seed <;> rfl
    have hunits : defaulted? [] (list? (nat? 64)) units = some c.hiddenUnits :=
      hunits.defaulted?_of (list?_map fun units hmem => nat?_nat (hword units hmem))
    have hseed : defaulted? 0 int64? seed = some c.seed :=
      hseed.defaulted?_of (int64?_integer c.seed)
    unfold Choice.ofJson?
    rw [hfields, Option.bind_eq_bind, Option.bind_some]
    dsimp only
    rw [required?_some, Architecture.ofJson?_json, Option.bind_eq_bind, Option.bind_some, hunits,
      Option.bind_eq_bind, Option.bind_some, hseed]
    rfl

end Choice

/-! ## Datasets -/

/-- The members of an assignment, from which columns may be left out if there are none. -/
inductive Assignment.IsWritten (a : Assignment) : List (String × Json) → Prop
  | members {continuous categorical : Option Json} :
    Field (WrittenAs .strings) [] a.continuous a.continuous continuous →
    Field (WrittenAs .strings) [] a.categorical a.categorical categorical →
    IsWritten a (memberFor "continuous" continuous ++ memberFor "categorical" categorical
      ++ [("label", .string a.label), ("label_kind", a.labelKind.json)])

namespace Assignment

variable {a : Assignment} {members : List (String × Json)}

theorem isWritten_members (a : Assignment) : a.IsWritten a.members :=
  .members (.written rfl) (.written rfl)

theorem IsWritten.isText (h : a.IsWritten members) :
    ∀ member ∈ members, IsText (room + 2) member.2 := by
  have hstrings (names : List String) : IsText (room + 2) (.strings names) :=
    .map fun name _ => .string _ name
  cases h with
  | members hcontinuous hcategorical =>
    refine List.forall_mem_append.2 ⟨List.forall_mem_append.2 ⟨?_, ?_⟩, ?_⟩
    · exact hcontinuous.isText_of _ (hstrings _)
    · exact hcategorical.isText_of _ (hstrings _)
    · simp [IsText.string, LabelKind.isText_json]

theorem IsWritten.ofMembers? (h : a.IsWritten members) :
    Assignment.ofMembers? members = some a := by
  have hstrings (names : List String) : list? string? (.strings names) = some names :=
    list?_map fun _ _ => rfl
  cases h with
  | @members continuous categorical hcontinuous hcategorical =>
    have hfields : members? ["continuous", "categorical", "label", "label_kind"]
        (memberFor "continuous" continuous ++ memberFor "categorical" categorical
          ++ [("label", .string a.label), ("label_kind", a.labelKind.json)])
        = some [continuous, categorical, some (.string a.label), some a.labelKind.json] := by
      cases continuous <;> cases categorical <;> rfl
    unfold Assignment.ofMembers?
    rw [hfields, Option.bind_eq_bind, Option.bind_some]
    dsimp only
    rw [hcontinuous.defaulted?_of (hstrings _), Option.bind_eq_bind, Option.bind_some,
      hcategorical.defaulted?_of (hstrings _), Option.bind_eq_bind, Option.bind_some,
      required?_some, string?, Option.bind_eq_bind, Option.bind_some, required?_some,
      LabelKind.ofJson?_json]
    rfl

end Assignment

/-- The members of a dataset around those of its assignment. -/
def Dataset.membersAround (d : Dataset) (members : List (String × Json)) (choices : List Json) :
    List (String × Json) :=
  [("name", .string d.name), ("file", .string d.file)] ++ members
    ++ [("steps", .nat d.steps.toNat), ("estimators", .array choices)]

/-- A dataset as a document, in which assignment and choices may be written in several ways. -/
inductive Dataset.IsWritten (d : Dataset) : Json → Prop
  | object {members : List (String × Json)} {choices : List Json} :
    d.assignment.IsWritten members → List.Forall₂ Choice.IsWritten d.choices choices →
    IsWritten d (.object (d.membersAround members choices))

namespace Dataset

def IsWord (d : Dataset) : Prop := ∀ choice ∈ d.choices, choice.IsWord

variable {d : Dataset}

theorem isWritten_json (d : Dataset) : d.IsWritten d.json := by
  refine .object d.assignment.isWritten_members ?_
  rw [List.forall₂_map_right_iff, List.forall₂_same]
  exact fun choice _ => choice.isWritten_json

theorem IsWritten.isText (hword : d.IsWord) (h : d.IsWritten document) :
    IsText (room + 4) document := by
  cases h with
  | @object members choices hmembers hchoices =>
    have hsteps : d.steps.toNat < twoTo 64 := d.steps.toNat_lt
    have htexts : IsText (room + 3) (.array choices) :=
      .array_of_forall₂ (((List.forall₂_and_left _ _).2 ⟨hword, hchoices⟩).imp
        fun _ _ h => h.2.isText h.1)
    refine .object (List.forall_mem_append.2 ⟨List.forall_mem_append.2 ⟨?_, hmembers.isText⟩, ?_⟩)
    · simp [IsText.string]
    · simp [IsText.nat, hsteps, htexts]

/-- The fields of a dataset, and what is set aside for its assignment. -/
theorem fields_of_isWritten {members : List (String × Json)} (choices : List Json)
    (h : d.assignment.IsWritten members) :
    members? fieldNames (d.membersAround members choices) = some [some (.string d.name),
      some (.string d.file), some (.nat d.steps.toNat), some (.array choices)] ∧
    (d.membersAround members choices).filter (fun member => !fieldNames.contains member.1)
      = members := by
  cases h with
  | @members continuous categorical _ _ =>
    constructor
    · cases continuous <;> cases categorical <;> rfl
    · cases continuous <;> cases categorical <;> rfl

theorem IsWritten.ofJson? (hword : d.IsWord) (h : d.IsWritten document) :
    Dataset.ofJson? document = some d := by
  cases h with
  | @object members choices hmembers hchoices =>
    obtain ⟨hfields, hothers⟩ := fields_of_isWritten choices hmembers
    have hreadable : membersReadable members = true := by
      rw [membersReadable_eq, List.all_eq_true]
      intro member hmember
      have htext : IsText 2 member.2 := hmembers.isText member hmember
      exact htext.fits.isReadable
    have hsteps : nat? 64 (.nat d.steps.toNat) = some d.steps.toNat := nat?_nat d.steps.toNat_lt
    have hread : list? Choice.ofJson? (.array choices) = some d.choices :=
      mapM_of_forall₂ (((List.forall₂_and_left _ _).2 ⟨hword, hchoices⟩).imp
        fun _ _ h => h.2.ofJson? h.1)
    unfold Dataset.ofJson?
    dsimp only
    rw [hfields, Option.bind_eq_bind, Option.bind_some]
    dsimp only
    rw [hothers, hreadable, if_neg (by decide), required?_some, string?, Option.bind_eq_bind,
      Option.bind_some, required?_some, string?, Option.bind_eq_bind, Option.bind_some,
      hmembers.ofMembers?, Option.bind_eq_bind, Option.bind_some, required?_some, hsteps,
      Option.bind_eq_bind, Option.bind_some, required?_some, hread, Option.bind_some]
    show some (Dataset.mk _ _ _ _ _) = _
    rw [UInt64.ofNat_toNat]

end Dataset

/-! ## Catalogs -/

/-- Datasets as a document, in which each may be written in several ways. -/
def Dataset.AreWritten (datasets : List Dataset) (document : Json) : Prop :=
  ∃ documents, document = .array documents ∧ List.Forall₂ IsWritten datasets documents

/-- A catalog as a document, and as what that is read: every field may be left out, and is then read
as that of the standard catalog. -/
inductive Catalog.IsWritten (c : Catalog) : Catalog → Json → Prop
  | object {read : Catalog} {sheets artifacts datasets : Option Json} :
    Field (WrittenAs fun path : Path => .string path.text) standard.sheetDirectory
      c.sheetDirectory read.sheetDirectory sheets →
    Field (WrittenAs fun path : Path => .string path.text) standard.artifactDirectory
      c.artifactDirectory read.artifactDirectory artifacts →
    Field Dataset.AreWritten standard.datasets c.datasets read.datasets datasets →
    IsWritten c read (.object (memberFor "csv_dir" sheets ++ memberFor "savedmodel_dir" artifacts
      ++ memberFor "datasets" datasets))

namespace Catalog

/-- All sizes of layers are held by a word. -/
def IsWord (c : Catalog) : Prop := ∀ d ∈ c.datasets, d.IsWord

variable {c read : Catalog}

theorem isWritten_json (c : Catalog) : c.IsWritten c c.json := by
  refine .object (.written rfl) (.written rfl) (.written ⟨_, rfl, ?_⟩)
  rw [List.forall₂_map_right_iff, List.forall₂_same]
  exact fun d _ => d.isWritten_json

theorem IsWritten.isText (hword : c.IsWord) (h : c.IsWritten read document) :
    IsText (room + 6) document := by
  cases h with
  | object hsheets hartifacts hdatasets =>
    refine .object (List.forall_mem_append.2 ⟨List.forall_mem_append.2 ⟨?_, ?_⟩, ?_⟩)
    · exact hsheets.isText_of _ (.string _ _)
    · exact hartifacts.isText_of _ (.string _ _)
    · refine hdatasets.isText _ fun document hdocument => ?_
      obtain ⟨documents, rfl, hdocuments⟩ := hdocument
      exact .array_of_forall₂ (((List.forall₂_and_left _ _).2 ⟨hword, hdocuments⟩).imp
        fun _ _ h => h.2.isText h.1)

theorem IsWritten.ofJson? (hword : c.IsWord) (h : c.IsWritten read document) :
    Catalog.ofJson? document = some read := by
  have hpath (path : Path) : path? (.string path.text) = some path := rfl
  cases h with
  | @object sheets artifacts datasets hsheets hartifacts hdatasets =>
    have hfields : fields? ["csv_dir", "savedmodel_dir", "datasets"]
        (.object (memberFor "csv_dir" sheets ++ memberFor "savedmodel_dir" artifacts
          ++ memberFor "datasets" datasets)) = some [sheets, artifacts, datasets] := by
      cases sheets <;> cases artifacts <;> cases datasets <;> rfl
    have hread : defaulted? standard.datasets (list? Dataset.ofJson?) datasets
        = some read.datasets := hdatasets.defaulted?_eq fun document h => by
      obtain ⟨documents, rfl, hdocuments⟩ := h
      exact mapM_of_forall₂ (((List.forall₂_and_left _ _).2 ⟨hword, hdocuments⟩).imp
        fun _ _ h => h.2.ofJson? h.1)
    unfold Catalog.ofJson?
    rw [hfields, Option.bind_eq_bind, Option.bind_some]
    dsimp only
    rw [hsheets.defaulted?_of (hpath _), Option.bind_eq_bind, Option.bind_some,
      hartifacts.defaulted?_of (hpath _), Option.bind_eq_bind, Option.bind_some, hread]
    rfl

/-! ## Loading -/

/-- A catalog if it is valid, and why it is not otherwise. -/
def validated (c : Catalog) : Attempt Catalog :=
  match c.validate with
  | .ok () => .ok c
  | .error refusal => .refuse refusal

variable {d : Disk} {path : Path} {text : String}

theorem run_load (hfile : d.readFile path = .ok text.toUTF8) (hparse : parse? text = some c) :
    d.run (load path).run = (c.validated, d) := by
  have hlooks := Work.looks_ofFile (Files.looks_readText path)
  have htext : String.fromUTF8? text.toUTF8 = some text := dif_pos text.isValidUTF8
  have htold := Artifact.told_readText_eq_ok_iff.2 ⟨_, hfile, htext⟩
  have hread := hlooks.run d
  rw [htold] at hread
  rw [load, Work.run_bind_ok (Work.run_within_ok _ hread), hparse]
  dsimp only
  unfold validated
  cases c.validate <;> rfl

/-- The document of a catalog loses nothing: any text of it is loaded as the catalog, if that is
valid. -/
theorem document_loses_nothing (c : Catalog) (hword : c.IsWord) :
    c.IsWritten c c.json ∧
    ∀ read document, c.IsWritten read document →
      Json.parse? document.pretty = some document ∧ Json.parse? document.compact = some document ∧
      ∀ text, Json.parse? text = some document → ∀ (d : Disk) (path : Path),
        d.readFile path = .ok text.toUTF8 → d.run (load path).run = (read.validated, d) := by
  refine ⟨c.isWritten_json, fun read document h => ?_⟩
  have htext : IsText deepest document := h.isText hword
  refine ⟨?_, ?_, fun text hparse d path hfile => run_load hfile ?_⟩
  · rw [parse?_pretty htext.fits, htext.reread]
  · rw [parse?_compact htext.fits, htext.reread]
  · rw [Catalog.parse?, hparse, Option.bind_some, h.ofJson? hword]

def oddAssignment : Assignment := ⟨[], ["", "\t"], "type", .classes ["\"", "steps"]⟩

def oddChoice : Choice := ⟨.network, [18446744073709551615], Int64.minValue⟩

/-- A catalog of odd names and of the largest and least numbers. -/
def odd : Catalog where
  sheetDirectory := ⟨"sheets\n"⟩
  artifactDirectory := ⟨"modèles \"new\""⟩
  datasets := [{
    name := "Wine\\\x01"
    file := "🍷.csv"
    assignment := oddAssignment
    steps := 18446744073709551615
    choices := [oddChoice, linearChoice] }]

/-- The catalog with all that can be left out of it, and the first directory, left out. -/
def oddDocument : Json :=
  .object [("savedmodel_dir", .string "modèles \"new\""), ("datasets", .array [.object [
    ("name", .string "Wine\\\x01"), ("file", .string "🍷.csv"),
    ("categorical", .strings ["", "\t"]), ("label", .string "type"),
    ("label_kind", oddAssignment.labelKind.json), ("steps", .nat 18446744073709551615),
    ("estimators", .array [oddChoice.json, .object [("architecture", .string "linear")]])]])]

theorem isWritten_oddDocument :
    odd.IsWritten { odd with sheetDirectory := standard.sheetDirectory } oddDocument := by
  have hlinear := @Choice.IsWritten.object linearChoice none none .leftOut .leftOut
  have hassignment := @Assignment.IsWritten.members oddAssignment none _ .leftOut (.written rfl)
  have hchoices := List.Forall₂.cons oddChoice.isWritten_json (.cons hlinear .nil)
  have hdatasets : Dataset.AreWritten odd.datasets _ :=
    ⟨_, rfl, .cons (.object hassignment hchoices) .nil⟩
  exact @IsWritten.object odd { odd with sheetDirectory := _ } none _ _ .leftOut (.written rfl)
    (.written hdatasets)

theorem document_loses_nothing_odd : odd.IsWord ∧ odd.IsWritten odd odd.json ∧
    ∃ (d : Disk) (path : Path), d.readFile path = .ok oddDocument.compact.toUTF8 ∧
      d.run (load path).run = (.ok { odd with sheetDirectory := standard.sheetDirectory }, d) := by
  have hword : odd.IsWord := by
    simp [odd, oddChoice, linearChoice, IsWord, Dataset.IsWord, Choice.IsWord]
    decide
  obtain ⟨hwritten, hloads⟩ := document_loses_nothing odd hword
  obtain ⟨-, hcompact, hloads⟩ := hloads _ _ isWritten_oddDocument
  have hfile : ({ entries := [(["odd.json"], .file oddDocument.compact.toUTF8)] } : Disk).readFile
      ⟨"odd.json"⟩ = .ok oddDocument.compact.toUTF8 := rfl
  have hvalid : validate { odd with sheetDirectory := standard.sheetDirectory } = .ok () := by
    decide +kernel
  have hruns := hloads _ hcompact _ _ hfile
  rw [validated, hvalid] at hruns
  exact ⟨hword, hwritten, _, _, hfile, hruns⟩

end Catalog
end Exemplar
