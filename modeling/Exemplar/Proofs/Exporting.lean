/-
Exporting a model to an empty directory.

An export writes four entries below the directory it is given and nothing else.
Where it succeeds, what stands at the directory that it answers is the complete
export: the tree of the description and the variables of the model.
-/
import Exemplar.Model.Basic
import Exemplar.Proofs.Installing

namespace Exemplar

open Exemplar.Action Disk

variable {d d' : Disk} {base : Path}

/-- A directory to which the way is open and in which there is nothing. -/
structure Disk.Vacant (d : Disk) (base : Path) : Prop where
  open_trail : d.AreDirectories (base.trail d.workingDirectory)
  empty : ∀ name, d.get? (base.key d.workingDirectory ++ [name]) = none

/-- The keys below a key. -/
def Disk.Inside (key k : Key) : Prop := ∃ name rest, k = key ++ name :: rest

theorem Disk.Inside.below {key k : Key} (h : Inside key k) : key <+: k := by
  obtain ⟨name, rest, rfl⟩ := h
  exact List.prefix_append ..

/-- What stands at and below a directory. -/
abbrev Tree := List String → Option Entry

theorem Decimal.isPlain_natText (n : Nat) : Path.IsPlain (natText n) := by
  obtain ⟨c, hc⟩ := List.exists_mem_of_ne_nil _ (natDigits_ne_nil n)
  refine Path.isPlain_of_mem (c := c) (by simpa [natText] using hc) ?_ (slash_not_mem_natText n)
  rintro rfl
  exact absurd (isDigit_of_mem_natDigits hc) (by decide)

namespace Artifact

/-- The complete export of a model: its description, and its variables in a folder. -/
def tree (description : Description) (recorded : Variables) : Tree
  | [] => some .directory
  | [name] =>
    if name = descriptionFile then some (.file description.json.pretty.toUTF8)
    else if name = variablesFolder then some .directory
    else none
  | [folder, name] =>
    if folder = variablesFolder ∧ name = variablesFile then
      some (.file recorded.json.pretty.toUTF8)
    else none
  | _ => none

/-- The entries that are made before the files are written. -/
def folders : Tree
  | [] => some .directory
  | [name] => if name = variablesFolder then some .directory else none
  | _ => none

theorem isPlain_variablesFolder : Path.IsPlain variablesFolder := by decide

theorem isPlain_variablesFile : Path.IsPlain variablesFile := by decide

theorem isPlain_descriptionFile : Path.IsPlain descriptionFile := by decide

/-- Making the folder of the variables in a directory that is not there makes the directory and the
folder. -/
theorem tree_folders {name : String} (hplain : Path.IsPlain name) (hd : d.Sound)
    (hbase : d.AreDirectories (base.trail d.workingDirectory))
    (hnone : d.get? (base.key d.workingDirectory ++ [name]) = none)
    (hgrown : d.Confined Nowhere
      (· ∈ ((base.entry name).entry variablesFolder).trail d.workingDirectory) d')
    (hleads : d'.Leads ((base.entry name).entry variablesFolder)) :
    d'.tree (base.key d.workingDirectory ++ [name]) = folders := by
  have htop : (base.entry name).key d.workingDirectory = base.key d.workingDirectory ++ [name] :=
    Path.key_entry hplain
  have hfolder : ((base.entry name).entry variablesFolder).key d.workingDirectory
      = base.key d.workingDirectory ++ [name] ++ [variablesFolder] := by
    rw [Path.key_entry isPlain_variablesFolder, htop]
  have hmade : d'.get? (base.key d.workingDirectory ++ [name] ++ [variablesFolder])
      = some .directory := by
    rw [← hfolder, ← hgrown.home]
    exact hleads.directory
  have hother (rest : List String) (hne : rest ≠ []) (hne' : rest ≠ [variablesFolder]) :
      d'.get? (base.key d.workingDirectory ++ [name] ++ rest) = none := by
    rw [hgrown.eq (fun h => h), hd.none_below hnone]
    rw [Path.trail_entry isPlain_variablesFolder, Path.trail_entry hplain, hfolder, htop]
    intro hmem
    rcases List.mem_append.1 hmem with hmem | hmem
    · rcases List.mem_append.1 hmem with hmem | hmem
      · have := hbase _ hmem
        rw [hd.none_below hnone] at this
        cases this
      · exact hne (by simpa using hmem)
    · exact hne' (List.append_cancel_left (List.mem_singleton.1 hmem))
  funext rest
  match rest with
  | [] =>
    show d'.get? (_ ++ []) = _
    rw [List.append_nil, folders]
    refine hgrown.sound.directory_above (List.cons_ne_nil variablesFolder []) ?_
    rw [hmade]
    simp
  | [file] =>
    by_cases hfile : file = variablesFolder
    · rw [folders, if_pos hfile, hfile]
      exact hmade
    · rw [folders, if_neg hfile]
      exact hother _ (by simp) (by simpa using hfile)
  | first :: second :: more => exact hother _ (by simp) (by simp)

/-- Writing both files into the folders completes the export. -/
theorem tree_eq {description : Description} {recorded : Variables} {key : Key} {d₁ d₂ : Disk}
    (hfolders : d.tree key = folders)
    (hfirst : ∀ k, d₁.get? k = if k = key ++ [descriptionFile]
      then some (.file description.json.pretty.toUTF8) else d.get? k)
    (hsecond : ∀ k, d₂.get? k = if k = key ++ [variablesFolder, variablesFile]
      then some (.file recorded.json.pretty.toUTF8) else d₁.get? k) :
    d₂.tree key = tree description recorded := by
  funext rest
  have hrest : d.get? (key ++ rest) = folders rest := congrFun hfolders rest
  show d₂.get? (key ++ rest) = _
  simp only [hsecond, hfirst, hrest, List.append_cancel_left_eq]
  match rest with
  | [] => simp [folders, tree]
  | [name] =>
    by_cases hname : name = descriptionFile
    · simp [tree, hname]
    · simp [tree, folders, hname]
  | [folder, name] => simp [tree, folders]
  | _ :: _ :: _ :: _ => simp [tree, folders]

/-- An export writes only inside its base. -/
theorem holds_write {description : Description} {recorded : Variables} (hd : d.Sound)
    (hbase : d.Vacant base) :
    Holds Happens (d.Confined (Inside (base.key d.workingDirectory)) Nowhere)
      (write base description recorded).run d fun result d' =>
        d.Confined (Inside (base.key d.workingDirectory)) Nowhere d' ∧
          ∀ directory, result = .ok directory → ∃ name, Path.IsPlain name ∧
            directory = base.entry name ∧
              d'.tree (base.key d.workingDirectory ++ [name]) = tree description recorded := by
  refine Work.holds_bind (Work.holds_ofAction
    (holds_request (.refl hd) fun seconds d₁ hreply => ?_))
  obtain rfl := happens_clock hreply
  have hplain := Decimal.isPlain_natText seconds
  show Holds Happens _ (do
    if ← Work.ofAction (Files.pathExists (base.entry (Decimal.natText seconds))) then
      throw (.refusal (.exportExists (base.entry (Decimal.natText seconds))))
    let folder := (base.entry (Decimal.natText seconds)).entry variablesFolder
    Work.within (.creating folder) (.ofFile (Files.ensureDirectory folder))
    Work.within (.writing descriptionFile) (.ofFile (Files.writeText
      (descriptionPath (base.entry (Decimal.natText seconds))) description.json.pretty))
    Work.within (.writing variablesFile) (.ofFile (Files.writeText
      (variablesPath (base.entry (Decimal.natText seconds))) recorded.json.pretty))
    return base.entry (Decimal.natText seconds) : Work Path).run _ _
  generalize Decimal.natText seconds = name at hplain
  have hnone := hbase.empty name
  have hkey {d₂ : Disk} (h : d₂.workingDirectory = d₁.workingDirectory) :
      (base.entry name).key d₂.workingDirectory = base.key d₁.workingDirectory ++ [name] := by
    rw [h, Path.key_entry hplain]
  refine Work.holds_bind (Work.holds_ofAction (Files.holds_pathExists (.refl hd) ?_ fun _ => ?_))
  · exact Work.holds_throw ⟨.refl hd, fun _ hok => by cases hok⟩
  -- What grows on the way to the folder is below the base, since the way to the base is there.
  have hgrown {d₂} (h : d₁.Confined Nowhere
      (· ∈ ((base.entry name).entry variablesFolder).trail d₁.workingDirectory) d₂) :
      d₁.Confined (Inside (base.key d₁.workingDirectory)) Nowhere d₂ := by
    refine ⟨h.sound, h.home, fun k hk => .inl ?_⟩
    rcases h.same k (fun h => h) with heq | ⟨hmem, hnone, -⟩
    · exact heq
    · rw [Path.trail_entry isPlain_variablesFolder, Path.trail_entry hplain,
        Path.key_entry isPlain_variablesFolder, hkey rfl] at hmem
      rcases List.mem_append.1 hmem with hmem | hmem
      · rcases List.mem_append.1 hmem with hmem | hmem
        · rw [hbase.open_trail k hmem] at hnone
          cases hnone
        · exact absurd ⟨name, [], List.mem_singleton.1 hmem⟩ hk
      · rw [List.mem_singleton.1 hmem, List.append_assoc] at hk
        exact absurd ⟨name, [variablesFolder], rfl⟩ hk
  refine Work.holds_bind (Work.holds_within (Work.holds_ofFile
    ((Files.holds_ensureDirectory_alone hd).mono
      (fun _ h => hgrown h) ?_)))
  rintro (error | value) d₂ ⟨h₂, hleads⟩
  · exact ⟨hgrown h₂, fun _ hok => by cases hok⟩
  have hfolders := tree_folders hplain hd hbase.open_trail hnone h₂
    (hleads (Path.text_entry_ne_empty isPlain_variablesFolder) rfl)
  replace h₂ := hgrown h₂
  -- Writing below the base keeps to it, whatever comes of the write.
  have hwritten {d₃ d₄ path bytes reply names} (h : d₁.Confined
      (Inside (base.key d₁.workingDirectory)) Nowhere d₃)
      (hpath : path.key d₃.workingDirectory = base.key d₁.workingDirectory ++ [name] ++ names)
      (hreply : Happens (.write path bytes) d₃ reply d₄) :
      d₁.Confined (Inside (base.key d₁.workingDirectory)) Nowhere d₄ := by
    have hone {bytes d₅} (hok : d₃.write path bytes = .ok d₅) :
        d₁.Confined (Inside (base.key d₁.workingDirectory)) Nowhere d₅ := by
      refine h.trans ((confined_write h.sound hok).widen fun k hk => ?_)
      exact ⟨name, names, by rw [hk, hpath, List.append_assoc]; rfl⟩
    rcases happens_write hreply with ⟨-, hok⟩ | ⟨-, rfl | ⟨part, hok⟩⟩
    · exact hone hok
    · exact h
    · exact hone hok
  have hfirst {d₃ : Disk} (h : d₃.workingDirectory = d₁.workingDirectory) :
      (descriptionPath (base.entry name)).key d₃.workingDirectory
        = base.key d₁.workingDirectory ++ [name] ++ [descriptionFile] := by
    rw [descriptionPath, Path.key_entry isPlain_descriptionFile, hkey h]
  have hsecond {d₃ : Disk} (h : d₃.workingDirectory = d₁.workingDirectory) :
      (variablesPath (base.entry name)).key d₃.workingDirectory
        = base.key d₁.workingDirectory ++ [name] ++ [variablesFolder, variablesFile] := by
    rw [variablesPath, Path.key_entry isPlain_variablesFile,
      Path.key_entry isPlain_variablesFolder, hkey h, List.append_assoc _ [variablesFolder]]
    rfl
  refine Work.holds_bind (Work.holds_within (Work.holds_ofFile
    (holds_request h₂ fun reply d₃ hreply => ?_)))
  have h₃ := hwritten h₂ (hfirst h₂.home) hreply
  rcases reply with error | value
  · exact ⟨h₃, fun _ hok => by cases hok⟩
  refine Work.holds_bind (Work.holds_within (Work.holds_ofFile
    (holds_request h₃ fun reply' d₄ hreply' => ?_)))
  have h₄ := hwritten h₃ (hsecond h₃.home) hreply'
  rcases reply' with error | value
  · exact ⟨h₄, fun _ hok => by cases hok⟩
  refine Work.holds_pure ⟨h₄, fun directory hok => ?_⟩
  cases hok
  have hdone := @tree_eq d₂ description recorded _ d₃ d₄ hfolders ?_ ?_
  · exact ⟨name, hplain, rfl, hdone⟩
  · intro k
    rcases happens_write hreply with ⟨-, hok⟩ | ⟨⟨_, herror⟩, -⟩
    · rw [get?_write hok, hfirst h₂.home]
    · cases herror
  · intro k
    rcases happens_write hreply' with ⟨-, hok⟩ | ⟨⟨_, herror⟩, -⟩
    · rw [get?_write hok, hsecond h₃.home]
    · cases herror

end Artifact

/-! ## Estimators -/

/-- What a fixture relies on: an export writes inside its base only, and where it succeeds and
answers a directory that is said to be at or below the base, a complete export is there. -/
structure Estimator.Exports (M : Type) [Estimator M] (IsExport : M → ServingInputs → Tree → Prop) :
    Prop where
  holds_exportTo : ∀ (model : M) serving base (d : Disk), d.Sound → d.Vacant base →
    Holds Happens (d.Confined (Inside (base.key d.workingDirectory)) Nowhere)
      (Estimator.exportTo model base serving).run d fun result d' =>
        d.Confined (Inside (base.key d.workingDirectory)) Nowhere d' ∧
          ∀ directory, result = .ok directory → directory.startsWith base = true →
            ∃ names, (∀ n ∈ names, Path.IsPlain n) ∧ directory = base.descend names ∧
              IsExport model serving (d'.tree (base.key d.workingDirectory ++ names))

/-- Beside that, training asks for nothing. -/
structure Estimator.Lawful (M : Type) [Estimator M] (IsExport : M → ServingInputs → Tree → Prop) :
    Prop extends Estimator.Exports M IsExport where
  fit_quiet : ∀ (model : M) inputs steps,
    ∃ outcome, Estimator.fit model inputs steps = Work.ofAttempt outcome

/-- The complete export of a model for some serving inputs. -/
def Model.IsExport (model : Model) (serving : ServingInputs) (tree : Tree) : Prop :=
  ∃ description, model.describe serving = .ok description ∧
    tree = Artifact.tree description model.toVariables

theorem Model.exportTo_eq (model : Model) (base : Path) (serving : ServingInputs) :
    model.exportTo base serving = (do
      let description ← Work.ofAttempt (.ofData (model.describe serving))
      Artifact.write base description model.toVariables) := by
  cases model <;> rfl

theorem Model.lawful : Estimator.Lawful Model Model.IsExport where
  fit_quiet model inputs steps := ⟨model.fit inputs steps, rfl⟩
  holds_exportTo model serving base d hd hbase := by
    show Holds Happens _ (model.exportTo base serving).run d _
    rw [exportTo_eq]
    refine Work.holds_bind (Work.holds_ofAttempt ?_)
    cases hdescribe : model.describe serving with
    | error error => exact ⟨.refl hd, fun _ hok => by cases hok⟩
    | ok description =>
      refine (Artifact.holds_write hd hbase).mono (fun _ h => h) ?_
      rintro result d' ⟨h, hwritten⟩
      refine ⟨h, fun directory hok _ => ?_⟩
      obtain ⟨name, hplain, rfl, htree⟩ := hwritten directory hok
      exact ⟨[name], by simpa using hplain, rfl, description, hdescribe, htree⟩

end Exemplar
