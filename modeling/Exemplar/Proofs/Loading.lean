/-
What an export has written is what a load reads.

An export that answers a directory has written both texts below it, whatever else
was done on the way, and every count of a model fits the words that its documents
are read into.  So the description is always read back, and the variables are
unless a number among them leaves a gap.
-/
import Exemplar.Proofs.Exporting
import Exemplar.Proofs.Gaps
import Exemplar.Proofs.Restoring

namespace Exemplar

open Exemplar.Action Disk

/-! ## Files that were written -/

theorem Action.holds_true {α : Type} {R : System} (program : Action α) (d : Disk) :
    Holds R (fun _ => True) program d fun _ _ => True := by
  induction program generalizing d with
  | done value => trivial
  | ask r next ih => exact ⟨trivial, fun reply d' _ => ih reply d'⟩

namespace Disk

variable {d d' : Disk} {path base : Path} {name : String} {bytes : ByteArray}

/-- A file whose path can be walked is read as it is. -/
theorem readFile_entry (hname : Path.IsPlain name) (hfits : Fits (base.entry name))
    (htrail : d.AreDirectories (base.trail d.workingDirectory))
    (hfile : d.get? (base.key d.workingDirectory ++ [name]) = some (.file bytes)) :
    d.readFile (base.entry name) = .ok bytes := by
  have hfind : d.find (base.entry name)
      = .ok (base.key d.workingDirectory ++ [name], .file bytes) := by
    simp [find, Bind.bind, Except.bind, resolve_of_fits hname hfits htrail, hfile,
      Path.endsInSlash_entry hname]
  rw [readFile, hfind]

theorem workingDirectory_write (h : d.write path bytes = .ok d') :
    d'.workingDirectory = d.workingDirectory := by
  obtain ⟨parent, name, -, -, -, -, rfl⟩ := write_ok h
  exact put_workingDirectory ..

/-- A write takes the place of no directory. -/
theorem areDirectories_write {keys : List Key} (h : d.write path bytes = .ok d')
    (hkeys : d.AreDirectories keys) : d'.AreDirectories keys := by
  intro k hk
  obtain ⟨parent, name, hnames, -, hentry, -, -⟩ := write_ok h
  have hne : k ≠ path.key d.workingDirectory := by
    rintro rfl
    rw [hnames.key_eq] at hk
    exact hentry (hkeys _ hk)
  rw [get?_write h, if_neg hne]
  exact hkeys k hk

end Disk

/-! ## Texts of an export -/

namespace Artifact

variable {d : Disk} {base directory : Path} {description : Description} {recorded : Variables}

/-- Both texts of an export can be read. -/
structure Records (d : Disk) (directory : Path) (description : Description)
    (recorded : Variables) : Prop where
  description_text : d.readFile (descriptionPath directory) = .ok description.json.pretty.toUTF8
  variables_text : d.readFile (variablesPath directory) = .ok recorded.json.pretty.toUTF8

/-- Once both files were written below a directory, both can be read. -/
theorem records_of_writes {d₁ d₂ : Disk}
    (hfirst : d.write (descriptionPath directory) description.json.pretty.toUTF8 = .ok d₁)
    (hsecond : d₁.write (variablesPath directory) recorded.json.pretty.toUTF8 = .ok d₂) :
    Records d₂ directory description recorded := by
  obtain ⟨_, _, hdescription, -⟩ := write_ok hfirst
  obtain ⟨_, _, hvariables, hfolder, -⟩ := write_ok hsecond
  have hhome : d₂.workingDirectory = d₁.workingDirectory := workingDirectory_write hsecond
  have hhome₁ : d₁.workingDirectory = d.workingDirectory := workingDirectory_write hfirst
  rw [variablesPath, parentTrail_entry isPlain_variablesFile] at hfolder
  have hdirectory : d₁.AreDirectories (directory.trail d₁.workingDirectory) := by
    intro k hk
    refine hfolder k ?_
    rw [Path.trail_entry isPlain_variablesFolder]
    exact List.mem_append_left _ hk
  have hkeys : (directory.entry descriptionFile).key d₁.workingDirectory
      ≠ (variablesPath directory).key d₁.workingDirectory := by
    rw [variablesPath, Path.key_entry isPlain_descriptionFile,
      Path.key_entry isPlain_variablesFile, Path.key_entry isPlain_variablesFolder]
    simp
  constructor
  · refine readFile_entry isPlain_descriptionFile hdescription.fits ?_ ?_
    · rw [hhome]
      exact areDirectories_write hsecond hdirectory
    · rw [hhome, ← Path.key_entry isPlain_descriptionFile, get?_write hsecond,
        if_neg hkeys, get?_write hfirst, hhome₁]
      exact if_pos rfl
  · refine readFile_entry isPlain_variablesFile hvariables.fits ?_ ?_
    · rw [hhome]
      exact areDirectories_write hsecond hfolder
    · rw [hhome, ← Path.key_entry isPlain_variablesFile, get?_write hsecond]
      exact if_pos rfl

/-- Where an export succeeds, however many requests failed before, its texts can be read. -/
theorem holds_write_records (d : Disk) :
    Holds Happens (fun _ => True) (write base description recorded).run d fun result d' =>
      ∀ directory, result = .ok directory → Records d' directory description recorded := by
  refine Work.holds_bind (Work.holds_ofAction (holds_request trivial fun seconds d₁ _ => ?_))
  dsimp only
  generalize base.entry (Decimal.natText seconds) = directory
  refine Work.holds_bind (Work.holds_ofAction
    ((holds_true (Files.pathExists _) d₁).mono (fun _ h => h) fun found d₂ _ => ?_))
  dsimp only
  split
  · exact Work.holds_throw fun _ hok => by cases hok
  refine Work.holds_bind (Work.holds_within (Work.holds_ofFile
    ((holds_true (Files.ensureDirectory _) d₂).mono (fun _ h => h) ?_)))
  rintro (error | value) d₃ -
  · exact fun _ hok => by cases hok
  refine Work.holds_bind (Work.holds_within (Work.holds_ofFile
    (holds_request trivial fun reply d₄ hreply => ?_)))
  rcases happens_write hreply with ⟨rfl, hfirst⟩ | ⟨⟨error, rfl⟩, -⟩
  swap
  · exact fun _ hok => by cases hok
  refine Work.holds_bind (Work.holds_within (Work.holds_ofFile
    (holds_request trivial fun reply d₅ hreply' => ?_)))
  rcases happens_write hreply' with ⟨rfl, hsecond⟩ | ⟨⟨error, rfl⟩, -⟩
  swap
  · exact fun _ hok => by cases hok
  refine Work.holds_pure fun directory hok => ?_
  cases hok
  exact records_of_writes hfirst hsecond

end Artifact

/-! ## Counts that words hold -/

/-- Every placeholder is for a column of any length. -/
theorem ServingInputs.shape_of_mem {serving : ServingInputs} {entry : String × Placeholder}
    (h : entry ∈ serving.placeholders) : entry.2.shape = [.unbound, .fixed 1] := by
  rcases List.mem_append.1 (SortedMap.mem_of_mem_ofList h) with h | h <;>
  · obtain ⟨name, -, rfl⟩ := List.mem_map.1 h
    rfl

theorem Head.isWord_of_logitCount {head : Head} (h : head.logitCount < twoTo 60) :
    head.IsWord := by
  cases head with
  | binary | regression => trivial
  | multiClass classes => exact lt_trans h (by decide)

namespace Description

theorem isWord_rowsOf (type : ElementType) {columns : Nat} (h : columns < twoTo 63) :
    (rowsOf type columns).IsWord := by
  intro dim hdim
  rcases List.mem_pair.1 hdim with rfl | rfl
  · trivial
  · exact h

theorem isWord_callSignature {head : Head} (h : head.logitCount < twoTo 60)
    (serving : ServingInputs) : (callSignature head serving).IsWord := by
  have hsorted : SortedMap.Sorted
      (serving.placeholders.mapValues fun p => (⟨p.type, p.shape⟩ : TensorInfo)) :=
    (SortedMap.sorted_ofList _).mapValues _
  have hinputs : ∀ entry ∈ serving.placeholders.mapValues
      fun p => (⟨p.type, p.shape⟩ : TensorInfo), entry.2.IsWord := by
    refine List.forall_mem_map.2 fun entry hentry => ?_
    show (TensorInfo.mk entry.2.type entry.2.shape).IsWord
    rw [ServingInputs.shape_of_mem hentry]
    exact isWord_rowsOf entry.2.type (by decide)
  have hnames : "classes" < "probabilities" := by decide
  have hclasses {classes : Nat} (hlt : classes < twoTo 63) :
      (⟨"classify", serving.placeholders.mapValues fun p => ⟨p.type, p.shape⟩,
        [("classes", rowsOf .int64 1), ("probabilities", rowsOf .float64 classes)]⟩ :
          CallSignature).IsWord := by
    refine ⟨hsorted, List.pairwise_pair.2 hnames, hinputs, fun entry hentry => ?_⟩
    rcases List.mem_pair.1 hentry with rfl | rfl
    · exact isWord_rowsOf _ (by decide)
    · exact isWord_rowsOf _ hlt
  cases head with
  | binary => exact hclasses (by decide)
  | multiClass classes => exact hclasses (lt_trans h (by decide))
  | regression =>
    refine ⟨hsorted, List.pairwise_singleton .., hinputs, fun entry hentry => ?_⟩
    rw [List.mem_singleton.1 hentry]
    exact isWord_rowsOf _ (by decide)

theorem isWord_of {estimator : String} {architecture : Architecture} {head : Head}
    {columns : List InputColumn} {hiddenUnits : List Nat} {steps : UInt64}
    {serving : ServingInputs} {d : Description}
    (h : Description.of estimator architecture head columns hiddenUnits steps serving = .ok d)
    (hhead : head.logitCount < twoTo 60) (hunits : ∀ units ∈ hiddenUnits, units < twoTo 60) :
    d.IsWord := by
  obtain rfl := of_eq_ok h
  refine ⟨Head.isWord_of_logitCount hhead,
    fun units hmem => lt_trans (hunits units hmem) (by decide),
    List.pairwise_singleton .., fun entry hentry => ?_⟩
  rw [List.mem_singleton.1 hentry]
  exact isWord_callSignature hhead serving

end Description

theorem Layer.isWord_weightsVariable {shape : Nat × Nat}
    (h : Layer.canBeHeld shape.1 shape.2 = true) (l : Layer Float) :
    (l.weightsVariable shape).IsWord := by
  obtain ⟨hinputs, houtputs, -⟩ := Layer.canBeHeld_iff.1 h
  intro size hsize
  rcases List.mem_pair.1 hsize with rfl | rfl
  · exact lt_trans hinputs (by decide)
  · exact lt_trans houtputs (by decide)

theorem Layer.isWord_biasVariable {shape : Nat × Nat}
    (h : Layer.canBeHeld shape.1 shape.2 = true) (l : Layer Float) :
    (l.biasVariable shape).IsWord := by
  obtain ⟨-, houtputs, -⟩ := Layer.canBeHeld_iff.1 h
  intro size hsize
  rw [List.mem_singleton.1 hsize]
  exact lt_trans houtputs (by decide)

namespace LinearModel

theorem IsShaped.isWord_description {m : LinearModel} {serving : ServingInputs} {d : Description}
    (h : m.IsShaped) (hd : m.describe serving = .ok d) : d.IsWord :=
  Description.isWord_of hd (Layer.canBeHeld_iff.1 h.held).2.1 (by simp)

theorem IsShaped.isWord_variables {m : LinearModel} (h : m.IsShaped) : m.toVariables.IsWord := by
  refine ⟨SortedMap.sorted_ofList _, fun entry hentry => ?_⟩
  have hmem : entry ∈ m.entries := SortedMap.mem_of_mem_ofList hentry
  rcases List.mem_pair.1 hmem with rfl | rfl
  · exact Layer.isWord_weightsVariable h.held _
  · exact Layer.isWord_biasVariable h.held _

end LinearModel

theorem Network.HasShapes.of_mem {shapes : List (Nat × Nat)} {layers : Network Float}
    (h : HasShapes shapes layers) {l : Layer Float} (hl : l ∈ layers) :
    ∃ shape ∈ shapes, l.HasShape shape := by
  induction h with
  | nil => cases hl
  | cons hlayer _ ih =>
    rcases List.mem_cons.1 hl with rfl | hl
    · exact ⟨_, List.mem_cons_self, hlayer⟩
    · obtain ⟨shape, hshape, hl⟩ := ih hl
      exact ⟨shape, List.mem_cons_of_mem _ hshape, hl⟩

namespace NetworkModel

/-- Every size is the number of outputs of some layer. -/
theorem mem_shapes_of_mem {size : Nat} {sizes : List Nat} (inputs : Nat) (h : size ∈ sizes) :
    ∃ before, (before, size) ∈ shapes inputs sizes := by
  induction sizes generalizing inputs with
  | nil => cases h
  | cons outputs rest ih =>
    rcases List.mem_cons.1 h with rfl | h
    · exact ⟨inputs, List.mem_cons_self⟩
    · obtain ⟨before, hbefore⟩ := ih outputs h
      exact ⟨before, List.mem_cons_of_mem _ hbefore⟩

theorem canBeHeld_of_mem {shapes : List (Nat × Nat)} {shape : Nat × Nat}
    (h : canBeHeld shapes = true) (hmem : shape ∈ shapes) :
    Layer.canBeHeld shape.1 shape.2 = true := List.all_eq_true.1 h shape hmem

theorem IsShaped.size_lt {m : NetworkModel} (h : m.IsShaped) {size : Nat}
    (hsize : size ∈ sizes m.head m.hiddenUnits) : size < twoTo 60 := by
  obtain ⟨before, hmem⟩ := mem_shapes_of_mem m.layout.width hsize
  exact (Layer.canBeHeld_iff.1 (canBeHeld_of_mem h.held hmem)).2.1

theorem IsShaped.isWord_description {m : NetworkModel} {serving : ServingInputs} {d : Description}
    (h : m.IsShaped) (hd : m.describe serving = .ok d) : d.IsWord :=
  Description.isWord_of hd (h.size_lt (List.mem_append_right _ List.mem_cons_self))
    fun _ hunits => h.size_lt (List.mem_append_left _ hunits)

theorem IsShaped.isWord_variables {m : NetworkModel} (h : m.IsShaped) :
    m.toVariables.IsWord := by
  refine ⟨SortedMap.sorted_ofList _, fun entry hentry => ?_⟩
  replace hentry : entry ∈ m.entries := SortedMap.mem_of_mem_ofList hentry
  obtain ⟨⟨l, index⟩, hmem, hentry⟩ := List.mem_flatMap.1 hentry
  obtain ⟨shape, hshape, hl⟩ := h.layers.of_mem (List.fst_mem_of_mem_zipIdx hmem)
  have hheld := canBeHeld_of_mem h.held hshape
  have hvariables : layerVariables m.layers.length l index
      = [(kernelName m.layers.length index, l.weightsVariable shape),
        (biasName m.layers.length index, l.biasVariable shape)] := by
    rw [layerVariables, hl.inputs, hl.outputs]
    rfl
  dsimp only at hentry
  rw [hvariables] at hentry
  rcases List.mem_pair.1 hentry with rfl | rfl
  · exact Layer.isWord_weightsVariable hheld l
  · exact Layer.isWord_biasVariable hheld l

end NetworkModel

/-! ## Loading -/

theorem Files.holds_readText {d : Disk} {path : Path} {text : String} {I : Disk → Prop}
    {Q : Except FileError String → Disk → Prop} (hI : I d)
    (h : d.readFile path = .ok text.toUTF8) (hQ : Q (.ok text) d) :
    Holds Answered I (readText path) d Q := by
  refine holds_bind.2 (holds_request hI fun reply d' hreply => ?_)
  obtain ⟨rfl, rfl⟩ := hreply
  have htext : String.fromUTF8? text.toUTF8 = some text := dif_pos text.isValidUTF8
  rw [answer, h]
  dsimp only
  rw [htext]
  exact hQ

namespace Artifact

variable {α : Type} {d : Disk} {path : Path} {document : Json} {ofJson? : Json → Option α}
variable {misfit : String → Json.Misfit} {I : Disk → Prop} {Q : Attempt α → Disk → Prop}

/-- What a document stands for is read from its text. -/
theorem holds_readDocument {value : α} (hI : I d)
    (h : d.readFile path = .ok document.pretty.toUTF8) (hfits : Json.Fits Json.deepest document)
    (hvalue : ofJson? document.reread = some value) (hQ : Q (.ok value) d) :
    Holds Answered I (readDocument path ofJson? misfit).run d Q := by
  refine Work.holds_bind (Work.holds_within (Work.holds_ofFile (Files.holds_readText hI h ?_)))
  dsimp only
  rw [Json.parse?_pretty hfits, Option.bind_some, hvalue]
  exact hQ

theorem holds_readDocument_none (hI : I d)
    (h : d.readFile path = .ok document.pretty.toUTF8) (hfits : Json.Fits Json.deepest document)
    (hnone : ofJson? document.reread = none)
    (hQ : Q (.error ((Failure.json (misfit document.pretty)).within (.parsing path))) d) :
    Holds Answered I (readDocument path ofJson? misfit).run d Q := by
  refine Work.holds_bind (Work.holds_within (Work.holds_ofFile (Files.holds_readText hI h ?_)))
  dsimp only
  rw [Json.parse?_pretty hfits, Option.bind_some, hnone]
  exact hQ

end Artifact

namespace Model

/-- The weights and the biases of a model. -/
def parameters : Model → List Float
  | linear m => m.layer.weights ++ m.layer.bias
  | network m => m.parameters

def IsFinite (model : Model) : Prop := ∀ x ∈ model.parameters, x.isFinite = true

/-- The parameters are the values of the variables. -/
theorem mem_parameters_iff (model : Model) (x : Float) :
    x ∈ model.parameters ↔ ∃ entry ∈ model.toVariables, x ∈ entry.2.values := by
  cases model with
  | linear m =>
    have hmem (entry : String × Variable) : entry ∈ m.toVariables ↔ entry ∈ m.entries :=
      (SortedMap.ofList_perm m.nodup_names).mem_iff
    simp [parameters, toVariables, hmem, LinearModel.entries, Layer.weightsVariable,
      Layer.biasVariable]
  | network m =>
    have hmem (entry : String × Variable) : entry ∈ m.toVariables ↔ entry ∈ m.entries :=
      (SortedMap.ofList_perm m.nodup_names).mem_iff
    show x ∈ m.parameters ↔ ∃ entry ∈ m.toVariables, x ∈ entry.2.values
    simp only [hmem, NetworkModel.entries, NetworkModel.parameters, List.mem_flatMap,
      List.mem_append]
    constructor
    · rintro ⟨l, hl, hx⟩
      rw [← List.zipIdx_map_fst 0 m.layers] at hl
      obtain ⟨⟨_, index⟩, hindex, rfl⟩ := List.mem_map.1 hl
      rcases hx with hx | hx
      · exact ⟨_, ⟨_, hindex, List.mem_cons_self⟩, hx⟩
      · exact ⟨_, ⟨_, hindex, List.mem_cons_of_mem _ List.mem_cons_self⟩, hx⟩
    · rintro ⟨entry, ⟨⟨l, index⟩, hl, hentry⟩, hx⟩
      refine ⟨l, List.fst_mem_of_mem_zipIdx hl, ?_⟩
      rcases List.mem_pair.1 hentry with rfl | rfl
      · exact .inl hx
      · exact .inr hx

theorem IsFinite.toVariables {model : Model} (h : model.IsFinite) : model.toVariables.AreFinite :=
  fun entry hentry x hx => h x ((model.mem_parameters_iff x).2 ⟨entry, hentry, hx⟩)

theorem IsShaped.isWord_description {model : Model} {serving : ServingInputs} {d : Description}
    (h : model.IsShaped) (hd : model.describe serving = .ok d) : d.IsWord := by
  cases model with
  | linear m => exact LinearModel.IsShaped.isWord_description h hd
  | network m => exact NetworkModel.IsShaped.isWord_description h hd

theorem IsShaped.isWord_variables {model : Model} (h : model.IsShaped) :
    model.toVariables.IsWord := by
  cases model with
  | linear m => exact LinearModel.IsShaped.isWord_variables h
  | network m => exact NetworkModel.IsShaped.isWord_variables h

/-- A description holds the current version of the format and the kind of its model. -/
theorem describe_eq_ok {model : Model} {serving : ServingInputs} {description : Description}
    (h : model.describe serving = .ok description) :
    description.formatVersion = Description.currentVersion ∧
      description.estimator = model.name := by
  cases model with
  | linear m =>
    obtain rfl := Description.of_eq_ok h
    exact ⟨rfl, rfl⟩
  | network m =>
    obtain rfl := Description.of_eq_ok h
    exact ⟨rfl, rfl⟩

variable {model : Model} {serving : ServingInputs} {description : Description} {d : Disk}
variable {directory : Path} {Q : Attempt Model → Disk → Prop}

/-- A load comes as far as the variables of any model that was exported. -/
theorem IsShaped.holds_load (h : model.IsShaped) (hd : model.describe serving = .ok description)
    (hrecords : Artifact.Records d directory description model.toVariables)
    (hQ : Holds Answered (fun _ => True) (Artifact.readVariables directory).run d fun
      | .ok recorded, d' => recorded = model.toVariables ∧ Q (.ok model) d'
      | .error failure, d' => Q (.error failure) d') :
    Holds Answered (fun _ => True) (load directory).run d Q := by
  obtain ⟨hversion, hname⟩ := describe_eq_ok hd
  have htext : Json.IsText Json.deepest description.json :=
    Description.isText_json (h.isWord_description hd)
  refine Work.holds_bind (Artifact.holds_readDocument trivial hrecords.description_text htext.fits
    (htext.reread ▸ Description.ofJson?_json (h.isWord_description hd)) ?_)
  show Holds _ _ (_ : Work Model).run d Q
  rw [if_neg (not_not.2 hversion)]
  refine Work.holds_bind (hQ.mono (fun _ h => h) ?_)
  rintro (failure | recorded) d' hread
  · exact hread
  obtain ⟨rfl, hread⟩ := hread
  refine Work.holds_bind (Work.holds_ofAttempt ?_)
  rw [h.restore hd]
  show Holds _ _ (_ : Work Model).run d' Q
  rw [if_neg (not_not.2 hname.symm)]
  exact hread

theorem IsShaped.load_of_isFinite (h : model.IsShaped)
    (hd : model.describe serving = .ok description)
    (hrecords : Artifact.Records d directory description model.toVariables)
    (hfinite : model.IsFinite) : d.run (load directory).run = (.ok model, d) := by
  have hword := h.isWord_variables
  have hload := h.holds_load (Q := fun result d' => result = .ok model ∧ d' = d) hd hrecords
    (Artifact.holds_readDocument trivial hrecords.variables_text
      (Variables.fits_json hword) (Variables.ofJson?_of_isFinite hword hfinite.toVariables)
      ⟨rfl, rfl, rfl⟩)
  obtain ⟨hok, hsame⟩ := answered_holds hload
  exact Prod.ext hok hsame

/-- With a gap among the parameters, the variables' text is refused. -/
theorem IsShaped.load_of_gap (h : model.IsShaped)
    (hd : model.describe serving = .ok description)
    (hrecords : Artifact.Records d directory description model.toVariables)
    (hgap : ¬ model.IsFinite) : ∃ misfit, (d.run (load directory).run).1
      = .error ((Failure.json misfit).within (.parsing (Artifact.variablesPath directory))) := by
  have hword := h.isWord_variables
  obtain ⟨x, hx, hinfinite⟩ : ∃ x ∈ model.parameters, x.isFinite = false := by
    simpa [IsFinite] using hgap
  obtain ⟨entry, hentry, hx⟩ := (model.mem_parameters_iff x).1 hx
  refine ⟨_, answered_holds (Q := fun result _ => result = _)
    (h.holds_load hd hrecords (Artifact.holds_readDocument_none trivial hrecords.variables_text
      (Variables.fits_json hword)
      (Variables.ofJson?_of_gap hword hentry hx hinfinite) rfl))⟩

/-- An export that succeeds has recorded its model. -/
theorem holds_exportTo_records (model : Model) (base : Path) (serving : ServingInputs) (d : Disk) :
    Holds Happens (fun _ => True) (model.exportTo base serving).run d fun result d' =>
      ∀ directory, result = .ok directory → ∃ description,
        model.describe serving = .ok description ∧
          Artifact.Records d' directory description model.toVariables := by
  rw [exportTo_eq]
  refine Work.holds_bind (Work.holds_ofAttempt ?_)
  cases hdescribe : model.describe serving with
  | error error => exact fun _ hok => by cases hok
  | ok description =>
    refine (Artifact.holds_write_records d).mono (fun _ h => h) ?_
    exact fun result d' hwritten directory hok => ⟨description, rfl, hwritten directory hok⟩

/-- Whatever is loaded has the shape that its description asks for. -/
theorem holds_load_isShaped (R : System) (directory : Path) (d : Disk) :
    Holds R (fun _ => True) (load directory).run d fun result _ =>
      ∀ model, result = .ok model → model.IsShaped := by
  refine Work.holds_bind ((holds_true (Artifact.readDescription directory).run d).mono
    (fun _ h => h) ?_)
  rintro (failure | description) d₁ -
  · exact fun _ hok => by cases hok
  dsimp only
  split
  · exact fun _ hok => by cases hok
  refine Work.holds_bind ((holds_true (Artifact.readVariables directory).run d₁).mono
    (fun _ h => h) ?_)
  rintro (failure | recorded) d₂ -
  · exact fun _ hok => by cases hok
  refine Work.holds_bind (Work.holds_ofAttempt ?_)
  cases hrestore : restore description recorded with
  | error failure => exact fun _ hok => by cases hok
  | ok model =>
    dsimp only
    split
    · exact fun _ hok => by cases hok
    · refine Work.holds_pure fun m hok => ?_
      cases hok
      exact isShaped_restore hrestore

end Model
end Exemplar
