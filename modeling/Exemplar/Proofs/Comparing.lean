/-
When a verification succeeds.

It succeeds exactly if both texts of the artifact are read, what they describe fits the
inputs and can be restored, and the stored predictions hold, cell by cell, what the
restored model predicts.  The predictions are in a file of their own, which is none of
the artifact's.  So other bytes in it are told from those that were there exactly if
they hold no sheet or another one.
-/
import Exemplar.Proofs.Verifying

namespace Exemplar

open Exemplar.Action Disk Store

/-! ## Paths that end in a name -/

namespace Path

variable {base : Path} {ending name : String}

theorem exists_last_slash (text : List Char) :
    '/' ∉ text ∨ ∃ above last, text = above ++ '/' :: last ∧ '/' ∉ last := by
  induction text with
  | nil => exact .inl List.not_mem_nil
  | cons c rest ih =>
    rcases ih with hrest | ⟨above, last, rfl, hlast⟩
    · by_cases hc : c = '/'
      · exact .inr ⟨[], rest, by rw [hc]; rfl, hrest⟩
      · exact .inl fun h => (List.mem_cons.1 h).elim (fun h => hc h.symm) hrest
    · exact .inr ⟨c :: above, last, rfl, hlast⟩

/-- What a text ends in, its last segment ends in. -/
theorem segments_ending (front : String) (h : IsPlain ending) :
    ∃ above last, (Path.mk (front ++ ending)).segments = above ++ [last ++ ending] := by
  have hone {last : String} (hlast : '/' ∉ last.toList) :
      (Path.mk (last ++ ending)).segments = [last ++ ending] := by
    refine segments_of_no_slash (by simp [h.ne_empty]) ?_
    rw [String.toList_append, List.mem_append, not_or]
    exact ⟨hlast, h.no_slash⟩
  rcases exists_last_slash front.toList with hfront | ⟨above, last, hfront, hlast⟩
  · exact ⟨[], front, hone hfront⟩
  · have htext : front ++ ending
        = String.ofList above ++ "/" ++ (String.ofList last ++ ending) := by
      rw [← String.toList_inj]
      simp [hfront]
    refine ⟨(Path.mk (String.ofList above)).segments, String.ofList last, ?_⟩
    rw [htext, segments_append_slash, hone (by rwa [String.toList_ofList])]

/-- The name of an entry ends the text of its path, whatever the name is. -/
theorem text_entry (base : Path) (name : String) :
    ∃ front, (base.entry name).text = front ++ name := by
  rw [entry, join]
  split
  · exact ⟨"", (String.empty_append).symm⟩
  · split
    · exact ⟨base.text, rfl⟩
    · exact ⟨base.text ++ "/", rfl⟩

/-- What ends in a plain name is no dots. -/
theorem append_ne_dots (h : IsPlain ending) (last : String) :
    last ++ ending ≠ "." ∧ last ++ ending ≠ ".." := by
  have hempty : ending.toList ≠ [] := fun e => h.ne_empty (String.toList_eq_nil_iff.1 e)
  have hhere : ending.toList ≠ ['.'] := fun e => h.ne_here (String.toList_inj.1 e)
  have hparent : ending.toList ≠ ['.', '.'] := fun e => h.ne_parent (String.toList_inj.1 e)
  constructor
  all_goals
    intro heq
    replace heq := congrArg String.toList heq
    rw [String.toList_append] at heq
    cases hlast : last.toList with
    | nil => simp_all
    | cons a more => cases more <;> simp_all

/-- An entry whose name has a plain ending is one with that ending, even if its name leads through
other directories. -/
theorem last_entry_ending (base : Path) (name : String) (h : IsPlain ending) :
    ∃ last, (base.entry (name ++ ending)).last = .name (last ++ ending) := by
  obtain ⟨front, htext⟩ := text_entry base (name ++ ending)
  obtain ⟨above, last, hsegments⟩ := segments_ending (front ++ name) h
  obtain ⟨hhere, hparent⟩ := append_ne_dots h last
  rw [String.append_assoc, ← htext] at hsegments
  refine ⟨last, ?_⟩
  rw [Path.last, hsegments, List.getLast?_concat]
  simp [Component.ofSegment?, hhere, hparent]

end Path

/-! ## Files that are written again -/

namespace Disk

variable {d d' : Disk} {path other : Path} {key : Key} {entry : Entry} {bytes old : ByteArray}
variable {text : String}

/-- A file that can be read by its name can be written. -/
theorem write_of_readFile (hlast : path.last = .name text) (h : d.readFile path = .ok old)
    (bytes : ByteArray) : ∃ d', d.write path bytes = .ok d' := by
  obtain ⟨key, hfind⟩ := readFile_eq_ok_iff.1 h
  obtain ⟨hresolve, hslash⟩ := resolve_of_find hfind
  obtain ⟨-, hentry, -⟩ := find_ok hfind
  have hname : d.resolveName path (fun _ => .isADirectory) = .ok key := by
    rw [resolve, hlast] at hresolve
    rw [resolveName, hlast]
    exact hresolve
  have hnoslash : path.endsInSlash ≠ true := fun h => by cases hslash h
  refine ⟨d.put key (.file bytes), ?_⟩
  simp only [write, Bind.bind, Except.bind, hname, hentry]
  exact if_neg hnoslash

/-- What was written is read. -/
theorem readFile_write (h : d.write path bytes = .ok d') (hread : d.readFile path = .ok old) :
    d'.readFile path = .ok bytes := by
  obtain ⟨key, hfind⟩ := readFile_eq_ok_iff.1 hread
  obtain ⟨hresolve, hslash⟩ := resolve_of_find hfind
  obtain ⟨rfl, -, hopen⟩ := find_ok hfind
  have hnoslash : path.endsInSlash ≠ true := fun h => by cases hslash h
  refine readFile_eq_ok_iff.2 ⟨_, find_of_resolve (resolve_of_open hresolve
    (workingDirectory_write h) (areDirectories_write h hopen)) ?_ fun h => absurd h hnoslash⟩
  rw [get?_write h, if_pos rfl]

/-- What is found at the end of another path, or is a directory, is left alone. -/
theorem find_write (h : d.write path bytes = .ok d') (hfind : d.find other = .ok (key, entry))
    (hother : entry = .directory ∨ key ≠ path.key d.workingDirectory) :
    d'.find other = .ok (key, entry) := by
  obtain ⟨hresolve, hslash⟩ := resolve_of_find hfind
  obtain ⟨rfl, hentry, hopen⟩ := find_ok hfind
  refine find_of_resolve (resolve_of_open hresolve (workingDirectory_write h)
    (areDirectories_write h hopen)) ?_ hslash
  rcases hother with rfl | hne
  · exact areDirectories_write h (List.forall_mem_singleton.2 hentry) _ List.mem_cons_self
  · rw [get?_write h, if_neg hne, hentry]

theorem readFile_write_other (h : d.write path bytes = .ok d') (hread : d.readFile other = .ok old)
    (hne : other.key d.workingDirectory ≠ path.key d.workingDirectory) :
    d'.readFile other = .ok old := by
  obtain ⟨key, hfind⟩ := readFile_eq_ok_iff.1 hread
  exact readFile_eq_ok_iff.2 ⟨key, find_write h hfind (.inr ((find_ok hfind).1 ▸ hne))⟩

end Disk

/-! ## Texts that are read -/

/-- A text on a disk that stands for a value. -/
def Disk.Documents {α : Type} (d : Disk) (path : Path) (ofJson? : Json → Option α) (value : α) :
    Prop :=
  ∃ bytes text json, d.readFile path = .ok bytes ∧ String.fromUTF8? bytes = some text ∧
    Json.parse? text = some json ∧ ofJson? json = some value

theorem Disk.Documents.unique {α : Type} {d : Disk} {path : Path} {ofJson? : Json → Option α}
    {value value' : α} (h : d.Documents path ofJson? value) (h' : d.Documents path ofJson? value') :
    value = value' := by
  obtain ⟨bytes, text, json, hread, htext, hjson, hvalue⟩ := h
  obtain ⟨bytes', text', json', hread', htext', hjson', hvalue'⟩ := h'
  obtain rfl := Except.ok.inj (hread.symm.trans hread')
  obtain rfl := Option.some.inj (htext.symm.trans htext')
  obtain rfl := Option.some.inj (hjson.symm.trans hjson')
  exact Option.some.inj (hvalue.symm.trans hvalue')

/-- What a text stands for does not depend on what is written to another file. -/
theorem Disk.Documents.write {α : Type} {d d' : Disk} {path other : Path} {bytes : ByteArray}
    {ofJson? : Json → Option α} {value : α} (h : d.Documents path ofJson? value)
    (hwrite : d.write other bytes = .ok d')
    (hne : path.key d.workingDirectory ≠ other.key d.workingDirectory) :
    d'.Documents path ofJson? value := by
  obtain ⟨found, text, json, hread, htext⟩ := h
  exact ⟨found, text, json, readFile_write_other hwrite hread hne, htext⟩

namespace Artifact

variable {α : Type} {d : Disk} {path : Path} {ofJson? : Json → Option α} {value : α}
variable {misfit : String → Json.Misfit}

theorem told_readText_eq_ok_iff {text : String} :
    Work.told d (Work.ofFile (Files.readText path)) = .ok text ↔
      ∃ bytes, d.readFile path = .ok bytes ∧ String.fromUTF8? bytes = some text := by
  have hreply : (Action.request (.read path)).run answer d = (d.readFile path, d) := rfl
  rw [Work.told_ofFile]
  show Attempt.ofFile (((Action.request (.read path)).bind _).run answer d).1 = _ ↔ _
  rw [run_bind, hreply]
  cases d.readFile path with
  | error error => exact ⟨fun h => (by cases h), fun ⟨_, h, _⟩ => (by cases h)⟩
  | ok bytes =>
    cases htext : String.fromUTF8? bytes with
    | none =>
      dsimp only
      rw [htext]
      refine iff_of_false (fun h => by cases h) fun ⟨_, h, htext'⟩ => ?_
      cases h
      rw [htext] at htext'
      cases htext'
    | some found =>
      dsimp only
      rw [htext]
      refine ⟨fun h => ⟨bytes, rfl, htext.trans (congrArg some (Except.ok.inj h))⟩, ?_⟩
      rintro ⟨_, h, htext'⟩
      cases h
      rw [htext] at htext'
      rw [Option.some.inj htext']
      rfl

/-- A text is read exactly if it is there and stands for what is read. -/
theorem told_readDocument_eq_ok_iff :
    Work.told d (readDocument path ofJson? misfit) = .ok value ↔
      d.Documents path ofJson? value := by
  have hlooks := Work.looks_ofFile (Files.looks_readText path)
  rw [readDocument, Work.told_bind_eq_ok_iff (Work.looks_within hlooks)]
  simp only [Work.told_within_eq_ok_iff, told_readText_eq_ok_iff]
  constructor
  · rintro ⟨text, ⟨bytes, hread, htext⟩, h⟩
    split at h
    · rename_i found hfound
      obtain ⟨json, hjson, hvalue⟩ := Option.bind_eq_some_iff.1 hfound
      exact ⟨bytes, text, json, hread, htext, hjson, hvalue.trans (congrArg some (Except.ok.inj h))⟩
    · cases h
  · rintro ⟨bytes, text, json, hread, htext, hjson, hvalue⟩
    refine ⟨text, ⟨bytes, hread, htext⟩, ?_⟩
    rw [hjson, Option.bind_some, hvalue]
    rfl

end Artifact

/-- A model is loaded exactly if both texts of its artifact are read, in the format of today, and it
is restored from them under the name that is recorded. -/
theorem Model.told_load_eq_ok_iff {d : Disk} {directory : Path} {model : Model} :
    Work.told d (load directory) = .ok model ↔ ∃ description recorded,
      d.Documents (Artifact.descriptionPath directory) Description.ofJson? description ∧
      d.Documents (Artifact.variablesPath directory) Variables.ofJson? recorded ∧
      description.formatVersion = Description.currentVersion ∧
      restore description recorded = .ok model ∧ model.name = description.estimator := by
  constructor
  · intro h
    obtain ⟨description, hdescription, h⟩ :=
      (Work.told_bind_eq_ok_iff (Artifact.looks_readDocument _ _ _)).1 h
    dsimp only at h
    split at h
    · cases h
    rename_i hversion
    obtain ⟨recorded, hrecorded, h⟩ :=
      (Work.told_bind_eq_ok_iff (Artifact.looks_readDocument _ _ _)).1 h
    obtain ⟨restored, hrestore, h⟩ := (Work.told_bind_eq_ok_iff (Work.looks_ofAttempt _)).1 h
    split at h
    · cases h
    rename_i hname
    cases h
    exact ⟨description, recorded, Artifact.told_readDocument_eq_ok_iff.1 hdescription,
      Artifact.told_readDocument_eq_ok_iff.1 hrecorded, not_not.1 hversion, hrestore,
      not_not.1 hname⟩
  · rintro ⟨description, recorded, hdescription, hrecorded, hversion, hrestore, hname⟩
    refine (Work.told_bind_eq_ok_iff (Artifact.looks_readDocument _ _ _)).2
      ⟨description, Artifact.told_readDocument_eq_ok_iff.2 hdescription, ?_⟩
    rw [if_neg (not_not.2 hversion)]
    refine (Work.told_bind_eq_ok_iff (Artifact.looks_readDocument _ _ _)).2
      ⟨recorded, Artifact.told_readDocument_eq_ok_iff.2 hrecorded, ?_⟩
    refine (Work.told_bind_eq_ok_iff (Work.looks_ofAttempt _)).2 ⟨model, hrestore, ?_⟩
    rw [if_neg (not_not.2 hname)]
    rfl

/-! ## Sheets that agree -/

namespace Csv.Sheet

variable {a b : Sheet}

/-- The text of a cell below the header, if there is one. -/
def cell? (sheet : Sheet) (row column : Nat) : Option String := sheet.rows[row]?.bind (·[column]?)

/-- Two sheets differ in their headers, in the numbers of their records, or in a cell. -/
def Differs (a b : Sheet) : Prop :=
  a.header ≠ b.header ∨ a.rows.length ≠ b.rows.length ∨
    ∃ row column, a.cell? row column ≠ b.cell? row column

theorem differs_iff_ne : a.Differs b ↔ a ≠ b := by
  constructor
  · rintro (h | h | ⟨row, column, h⟩) rfl
    · exact h rfl
    · exact h rfl
    · exact h rfl
  · intro hne
    by_contra hsame
    rw [Differs, not_or, not_or, not_not, not_not] at hsame
    obtain ⟨hheader, hlength, hcells⟩ := hsame
    have hrows : a.rows = b.rows := by
      refine List.ext_getElem hlength fun row ha hb => List.ext_getElem? fun column => ?_
      have hcell : a.cell? row column = b.cell? row column :=
        by_contra fun hne => hcells ⟨row, column, hne⟩
      rwa [cell?, cell?, List.getElem?_eq_getElem ha, List.getElem?_eq_getElem hb] at hcell
    refine hne ?_
    cases a
    cases b
    simp_all

end Csv.Sheet

namespace Fixture

variable {s : Store} {d d' : Disk} {inputs : InputPair} {spec : Spec} {report : Report}
variable {description : Description} {recorded : Variables} {model : Model} {stored : Csv.Sheet}

theorem compareRecords_eq_ok_iff {index : Nat} {expected stored : List (List String)}
    (h : stored.length = expected.length) :
    compareRecords index expected stored = .ok () ↔ stored = expected := by
  induction expected generalizing index stored with
  | nil =>
    rw [List.length_eq_zero_iff.1 h]
    exact iff_of_true rfl rfl
  | cons record rest ih =>
    obtain ⟨first, more, rfl⟩ := List.exists_cons_of_length_eq_add_one h
    rw [compareRecords, List.cons.injEq]
    by_cases hfirst : first = record
    · rw [if_pos hfirst, ih (Nat.succ.inj h)]
      exact (and_iff_right hfirst).symm
    · rw [if_neg hfirst]
      exact iff_of_false (fun hok => by cases hok) fun heq => hfirst heq.1

/-- Only the sheet that is expected passes the comparison. -/
theorem compare_eq_ok_iff {expected : PredictionSheet} :
    compare expected stored = .ok () ↔ stored = expected.written := by
  refine ⟨fun h => ?_, fun h => h ▸ compare_written expected⟩
  rw [compare] at h
  split at h
  · cases h
  rename_i hheader
  split at h
  · cases h
  rename_i hcount
  have hlength : stored.rows.length = expected.records.length := by
    rw [not_not.1 hcount, PredictionSheet.rowCount, PredictionSheet.records, List.length_map]
  have hrows := (compareRecords_eq_ok_iff hlength).1 h
  have hheader' := not_not.1 hheader
  cases stored
  simp_all [PredictionSheet.written]

/-! ## Predictions that are asked for -/

/-- The header of a sheet with the given output. -/
def Output.header (output : Output) : List String :=
  PredictionSheet.targetHeader ::
    (List.range output.classCount).map PredictionSheet.probabilityHeader

theorem score_eq_ok_iff {training : TrainingInputs} {sheet : PredictionSheet} :
    score model training spec = .ok sheet ↔
      ∃ targets, Estimator.predict model training = .ok targets ∧
      targets.length = training.rowCount ∧ sheetOf model training spec targets = .ok sheet := by
  constructor
  · intro h
    obtain ⟨targets, hpredict, h⟩ := Attempt.bind_eq_ok h
    dsimp only at h
    split at h
    · cases h
    · rename_i hlength
      exact ⟨targets, Attempt.within_eq_ok hpredict, not_not.1 hlength, h⟩
  · rintro ⟨targets, hpredict, hlength, h⟩
    rw [score, hpredict]
    refine Eq.trans (if_neg (not_not.2 hlength)) h

theorem withProbabilities_of {targets : List Value} {probabilities : List (List Float)}
    {classCount : Nat} (hlength : probabilities.length = targets.length)
    (hwidth : ∀ row ∈ probabilities, row.length = classCount) :
    ∃ sheet, PredictionSheet.withProbabilities targets probabilities classCount = .ok sheet := by
  rw [PredictionSheet.withProbabilities, if_neg (not_not.2 hlength)]
  split
  · rename_i row index hfound
    have hmem := List.mem_iff_getElem?.2
      ⟨_, List.mem_zipIdx_iff_getElem?.1 (List.mem_of_find?_eq_some hfound)⟩
    simpa using absurd (hwidth _ hmem) (by simpa using List.find?_some hfound)
  · exact ⟨_, rfl⟩

/-- Probabilities are as many in each row as the records have cells beside the prediction. -/
theorem width_of_records {targets : List Value} {probabilities : List (List Float)}
    {classCount : Nat}
    (hlength : probabilities.length = targets.length)
    (h : ∀ record ∈ List.zipWith (fun target row => target.text :: row.map Decimal.plain.text)
      targets probabilities, record.length = 1 + classCount) :
    ∀ row ∈ probabilities, row.length = classCount := by
  intro row hrow
  obtain ⟨index, hindex, rfl⟩ := List.mem_iff_getElem.1 hrow
  have hrecord := h _ (List.getElem_mem (n := index)
    (by rw [List.length_zipWith, hlength, Nat.min_self]; exact hlength ▸ hindex))
  rw [List.getElem_zipWith, List.length_cons, List.length_map] at hrecord
  omega

theorem header_of_score {training : TrainingInputs} {sheet : PredictionSheet}
    (h : score model training spec = .ok sheet) : sheet.written.header = spec.output.header := by
  obtain ⟨targets, -, -, h⟩ := score_eq_ok_iff.1 h
  rw [sheetOf] at h
  split at h
  · rename_i houtput
    obtain rfl := Except.ok.inj h
    rw [houtput]
    rfl
  · rename_i houtput
    obtain ⟨probabilities, -, h⟩ := Attempt.bind_eq_ok h
    obtain ⟨-, rfl, -⟩ := withProbabilities_ok (Attempt.ofData_eq_ok h)
    rw [houtput]
    rfl

/-- A sheet is what a model predicts exactly if it has the header and the records that are asked
for. -/
theorem score_written_iff {training : TrainingInputs} :
    (∃ sheet, score model training spec = .ok sheet ∧ stored = sheet.written) ↔
      stored.header = spec.output.header ∧ Records model training spec.output stored := by
  constructor
  · rintro ⟨sheet, hscore, rfl⟩
    exact ⟨header_of_score hscore, records_of_score hscore⟩
  · rintro ⟨hheader, hrecords⟩
    -- The rows are those of a sheet, whose header is then the one that is asked for.
    suffices h : ∃ sheet, score model training spec = .ok sheet ∧
        stored.rows = sheet.written.rows by
      obtain ⟨sheet, hscore, hrows⟩ := h
      refine ⟨sheet, hscore, ?_⟩
      rw [← header_of_score hscore] at hheader
      cases stored
      cases hheader
      cases hrows
      rfl
    obtain ⟨name, steps, output⟩ := spec
    cases output with
    | pointOnly =>
      obtain ⟨-, _, targets, hpredict, hlength, hrows⟩ := hrecords
      refine ⟨_, score_eq_ok_iff.2 ⟨targets, hpredict, hlength, rfl⟩, hrows.trans ?_⟩
      simp [PredictionSheet.written, PredictionSheet.records, PredictionSheet.pointOnly,
        PredictionSheet.cells]
    | withProbabilities classCount =>
      obtain ⟨-, hwidth, targets, hpredict, hlength, probabilities, hprobabilities, hsize, hrows⟩ :=
        hrecords
      have hsize' : probabilities.length = targets.length := hsize.trans hlength.symm
      obtain ⟨sheet, hsheet⟩ := withProbabilities_of hsize' (width_of_records hsize' fun row hrow =>
        hwidth row (hrows ▸ hrow))
      obtain ⟨-, -, hzip⟩ := withProbabilities_ok hsheet
      refine ⟨sheet, score_eq_ok_iff.2 ⟨targets, hpredict, hlength, ?_⟩, hrows.trans ?_⟩
      · rw [sheetOf, hprobabilities]
        exact congrArg Attempt.ofData hsheet
      · simp [PredictionSheet.written, PredictionSheet.records, hzip, PredictionSheet.cells,
          List.zip, List.map_zipWith]

/-! ## Verification -/

/-- A fixture that agrees with the inputs: what its artifact holds, and the sheet that is stored. -/
structure Agrees (s : Store) (inputs : InputPair) (spec : Spec) (d : Disk)
    (description : Description) (recorded : Variables) (model : Model) (stored : Csv.Sheet) :
    Prop where
  artifact : ∃ key, d.find (s.artifactPath spec.name) = .ok (key, .directory)
  description_text : d.Documents (Artifact.descriptionPath (s.artifactPath spec.name))
    Description.ofJson? description
  variables_text : d.Documents (Artifact.variablesPath (s.artifactPath spec.name))
    Variables.ofJson? recorded
  serving : description.checkServing inputs.serving = .ok ()
  version : description.formatVersion = Description.currentVersion
  restored : Model.restore description recorded = .ok model
  named : model.name = description.estimator
  sheet_text : ∃ bytes, d.readFile (s.sheetPath spec.name) = .ok bytes ∧
    Csv.read bytes.toList = .ok stored
  header : stored.header = spec.output.header
  records : Records model inputs.training spec.output stored

theorem told_isDirectory_eq_ok_iff {path : Path} {found : Bool} :
    Work.told d (Work.ofAction (Files.isDirectory path)) = .ok found ↔
      (found = true ↔ ∃ key, d.find path = .ok (key, .directory)) := by
  have htold : Work.told d (Work.ofAction (Files.isDirectory path))
      = .ok (decide ((d.find path).toOption.map (·.2.kind) = some .directory)) := rfl
  have hkind : (d.find path).toOption.map (·.2.kind) = some .directory
      ↔ ∃ key, d.find path = .ok (key, .directory) := by
    cases d.find path with
    | error error => simp [Except.toOption]
    | ok found =>
      obtain ⟨key, entry⟩ := found
      cases entry <;> simp [Except.toOption, Entry.kind]
  rw [htold, ← hkind, Except.ok.injEq, Bool.eq_iff_iff, decide_eq_true_eq]
  exact iff_comm

theorem told_readSheet_eq_ok_iff {name : String} : Work.told d (s.readSheet name) = .ok stored ↔
    ∃ bytes, d.readFile (s.sheetPath name) = .ok bytes ∧ Csv.read bytes.toList = .ok stored := by
  have hreply : d.run (Work.ofAction (Action.request (.read (s.sheetPath name))) :
      Work (Except ReadError ByteArray)).run = (.ok (d.readFile (s.sheetPath name)), d) := rfl
  rw [Work.told, readSheet, Work.run_bind_ok hreply]
  cases d.readFile (s.sheetPath name) with
  | error error =>
    refine iff_of_false (fun h => ?_) ?_
    · cases error <;> cases h
    · rintro ⟨_, h, -⟩
      cases h
  | ok bytes =>
    dsimp only
    cases hsheet : Csv.read bytes.toList with
    | error fault =>
      refine iff_of_false (fun h => by cases h) ?_
      rintro ⟨_, h, hread⟩
      cases h
      rw [hsheet] at hread
      cases hread
    | ok sheet =>
      refine ⟨fun h => ⟨bytes, rfl, hsheet.trans (congrArg _ (Except.ok.inj h))⟩, ?_⟩
      rintro ⟨_, h, hread⟩
      cases h
      exact congrArg Except.ok (Except.ok.inj (hsheet.symm.trans hread))

/-- What is reported of a fixture that agrees. -/
def agreement (s : Store) (spec : Spec) (model : Model) (stored : Csv.Sheet) : Report :=
  ⟨spec.name, model.name, stored.rows.length, s.sheetPath spec.name, s.artifactPath spec.name⟩

theorem told_verify_eq_ok_iff : Work.told d (verify inputs spec s) = .ok report ↔
    ∃ description recorded model stored,
      Agrees s inputs spec d description recorded model stored ∧
      report = agreement s spec model stored := by
  constructor
  · intro h
    obtain ⟨found, hfound, h⟩ :=
      (Work.told_bind_eq_ok_iff (Work.looks_ofAction (Files.looks_isDirectory _))).1 h
    dsimp only at h
    split at h
    · cases h
    rename_i hdirectory
    rw [Bool.not_eq_true, Bool.not_eq_false'] at hdirectory
    obtain ⟨description, hdescription, h⟩ :=
      (Work.told_bind_eq_ok_iff (Artifact.looks_readDocument _ _ _)).1 h
    obtain ⟨⟨⟩, hserving, h⟩ :=
      (Work.told_bind_eq_ok_iff (Work.looks_within (Work.looks_ofAttempt _))).1 h
    obtain ⟨model, hload, h⟩ :=
      (Work.told_bind_eq_ok_iff (Work.looks_within (Model.looks_load _))).1 h
    obtain ⟨sheet, hscore, h⟩ := (Work.told_bind_eq_ok_iff (Work.looks_ofAttempt _)).1 h
    obtain ⟨stored, hstored, h⟩ := (Work.told_bind_eq_ok_iff (s.looks_readSheet _)).1 h
    obtain ⟨⟨⟩, hcompared, h⟩ :=
      (Work.told_bind_eq_ok_iff (Work.looks_within (Work.looks_ofAttempt _))).1 h
    obtain ⟨description', recorded, hdescription', hrecorded, hversion, hrestored, hnamed⟩ :=
      Model.told_load_eq_ok_iff.1 (Work.told_within_eq_ok_iff.1 hload)
    replace hdescription := Artifact.told_readDocument_eq_ok_iff.1 hdescription
    obtain rfl := hdescription.unique hdescription'
    obtain ⟨hheader, hrecords⟩ := score_written_iff.1 ⟨sheet, hscore, compare_eq_ok_iff.1
      (Attempt.ofData_eq_ok (Attempt.within_eq_ok hcompared))⟩
    exact ⟨description, recorded, model, stored,
      ⟨(told_isDirectory_eq_ok_iff.1 hfound).1 hdirectory, hdescription, hrecorded,
        Attempt.ofData_eq_ok (Attempt.within_eq_ok hserving), hversion, hrestored, hnamed,
        told_readSheet_eq_ok_iff.1 hstored, hheader, hrecords⟩, (Except.ok.inj h).symm⟩
  · rintro ⟨description, recorded, model, stored, h, rfl⟩
    obtain ⟨sheet, hscore, hwritten⟩ := score_written_iff.2 ⟨h.header, h.records⟩
    refine (Work.told_bind_eq_ok_iff (Work.looks_ofAction (Files.looks_isDirectory _))).2
      ⟨true, told_isDirectory_eq_ok_iff.2 (iff_of_true rfl h.artifact), ?_⟩
    rw [Bool.not_true, if_neg Bool.false_ne_true]
    refine (Work.told_bind_eq_ok_iff (Artifact.looks_readDocument _ _ _)).2
      ⟨description, Artifact.told_readDocument_eq_ok_iff.2 h.description_text, ?_⟩
    refine (Work.told_bind_eq_ok_iff (Work.looks_within (Work.looks_ofAttempt _))).2
      ⟨(), by rw [h.serving]; rfl, ?_⟩
    refine (Work.told_bind_eq_ok_iff (Work.looks_within (Model.looks_load _))).2
      ⟨model, Work.told_within_eq_ok_iff.2 (Model.told_load_eq_ok_iff.2
        ⟨description, recorded, h.description_text, h.variables_text, h.version, h.restored,
          h.named⟩), ?_⟩
    refine (Work.told_bind_eq_ok_iff (Work.looks_ofAttempt _)).2 ⟨sheet, hscore, ?_⟩
    refine (Work.told_bind_eq_ok_iff (s.looks_readSheet _)).2
      ⟨stored, told_readSheet_eq_ok_iff.2 h.sheet_text, ?_⟩
    exact (Work.told_bind_eq_ok_iff (Work.looks_within (Work.looks_ofAttempt _))).2
      ⟨(), by rw [compare_eq_ok_iff.2 hwritten]; rfl, rfl⟩

/-! ## Other predictions -/

theorem isPlain_ending : Path.IsPlain ".csv" := by decide

/-- The file of the predictions is none of the artifact's. -/
theorem sheet_key_ne (s : Store) (name : String) (home : Key) (directory : Path) :
    (Artifact.descriptionPath directory).key home ≠ (s.sheetPath name).key home ∧
      (Artifact.variablesPath directory).key home ≠ (s.sheetPath name).key home := by
  obtain ⟨last, hlast⟩ := Path.last_entry_ending s.sheetDirectory name isPlain_ending
  have hkey : (s.sheetPath name).key home
      = Key.walk ((s.sheetPath name).start home) (s.sheetPath name).segments.dropLast
        ++ [last ++ ".csv"] := Path.key_of_last hlast
  have hother {text : String} (htext : ¬ ".csv".toList <:+ text.toList) {key : Key} :
      key ++ [text] ≠ (s.sheetPath name).key home := by
    intro heq
    rw [hkey] at heq
    obtain rfl := List.singleton_inj.1 (List.append_inj' heq rfl).2
    exact htext ⟨last.toList, by rw [String.toList_append]⟩
  rw [Artifact.descriptionPath, Artifact.variablesPath,
    Path.key_entry Artifact.isPlain_descriptionFile,
    Path.key_entry Artifact.isPlain_variablesFile]
  exact ⟨hother (by decide), hother (by decide)⟩

/-- With other bytes for the predictions, a fixture agrees exactly if they hold the same sheet. -/
theorem Agrees.write_iff {bytes : ByteArray}
    (h : Agrees s inputs spec d description recorded model stored)
    (hwrite : d.write (s.sheetPath spec.name) bytes = .ok d') :
    (∃ report, Work.told d' (verify inputs spec s) = .ok report) ↔
      Csv.read bytes.toList = .ok stored := by
  obtain ⟨hdescription, hvariables⟩ :=
    sheet_key_ne s spec.name d.workingDirectory (s.artifactPath spec.name)
  obtain ⟨old, hread, -⟩ := h.sheet_text
  have hwritten := readFile_write hwrite hread
  have hdescription' := h.description_text.write hwrite hdescription
  have hvariables' := h.variables_text.write hwrite hvariables
  constructor
  · rintro ⟨report, hreport⟩
    obtain ⟨description', recorded', model', stored', h', -⟩ := told_verify_eq_ok_iff.1 hreport
    obtain rfl := h'.description_text.unique hdescription'
    obtain rfl := h'.variables_text.unique hvariables'
    obtain rfl := Except.ok.inj (h'.restored.symm.trans h.restored)
    obtain ⟨sheet, hscore, rfl⟩ := score_written_iff.2 ⟨h.header, h.records⟩
    obtain ⟨sheet', hscore', rfl⟩ := score_written_iff.2 ⟨h'.header, h'.records⟩
    obtain rfl := Except.ok.inj (hscore.symm.trans hscore')
    obtain ⟨found, hfound, hsheet⟩ := h'.sheet_text
    obtain rfl := Except.ok.inj (hwritten.symm.trans hfound)
    exact hsheet
  · intro hsheet
    obtain ⟨key, hfind⟩ := h.artifact
    exact ⟨_, told_verify_eq_ok_iff.2 ⟨description, recorded, model, stored,
      { h with
        artifact := ⟨key, find_write hwrite hfind (.inl rfl)⟩
        description_text := hdescription'
        variables_text := hvariables'
        sheet_text := ⟨bytes, hwritten, hsheet⟩ }, rfl⟩⟩

/-- A verification succeeds exactly if the fixture agrees with the inputs.  From there on it fails
with other bytes for the predictions exactly if they hold no sheet, or one with another header,
another number of records or another cell.  It changes nothing, whichever requests fail. -/
theorem verification_is_exact (inputs : InputPair) (spec : Spec) (s : Store) (d : Disk) :
    (∀ report, Work.told d (verify inputs spec s) = .ok report ↔
      ∃ description recorded model stored,
        Agrees s inputs spec d description recorded model stored ∧
        report = agreement s spec model stored) ∧
    (∀ description recorded model stored,
      Agrees s inputs spec d description recorded model stored → ∀ bytes,
        ∃ d', d.write (s.sheetPath spec.name) bytes = .ok d' ∧
          ((∃ failure, Work.told d' (verify inputs spec s) = .error failure) ↔
            (∃ fault, Csv.read bytes.toList = .error fault) ∨
              ∃ sheet, Csv.read bytes.toList = .ok sheet ∧ sheet.Differs stored)) ∧
    ∀ d', Visits Happens (verify inputs spec s).run d d' → d' = d := by
  refine ⟨fun report => told_verify_eq_ok_iff, ?_, fun d' hvisits =>
    ((looks_verify inputs spec s).still d).visits (fun _ _ h => h) hvisits⟩
  intro description recorded model stored h bytes
  obtain ⟨last, hlast⟩ := Path.last_entry_ending s.sheetDirectory spec.name isPlain_ending
  obtain ⟨old, hread, -⟩ := h.sheet_text
  obtain ⟨d', hwrite⟩ := write_of_readFile hlast hread bytes
  refine ⟨d', hwrite, ?_⟩
  have hiff := h.write_iff hwrite
  simp only [Csv.Sheet.differs_iff_ne]
  cases hverified : Work.told d' (verify inputs spec s) with
  | ok report =>
    rw [hverified] at hiff
    rw [hiff.1 ⟨report, rfl⟩]
    simp
  | error failure =>
    rw [hverified] at hiff
    have hne : Csv.read bytes.toList ≠ .ok stored := fun h => by
      obtain ⟨_, h⟩ := hiff.2 h
      cases h
    refine iff_of_true ⟨failure, rfl⟩ ?_
    cases hsheet : Csv.read bytes.toList with
    | error fault => exact .inl ⟨fault, rfl⟩
    | ok sheet => exact .inr ⟨sheet, rfl, fun heq => hne (heq ▸ hsheet)⟩

theorem smallest_isShaped : (Job.smallest "A").model.IsShaped := by
  have hnew : LinearModel.new .regression [.realValued ⟨"x", .float64⟩] = .ok {
      head := .regression, layout := ⟨[.realValued ⟨"x", .float64⟩]⟩,
      layer := .constant 1 1 0.0, steps := 0 } := rfl
  exact LinearModel.isShaped_new hnew

theorem smallest_isFinite : (Job.smallest "A").model.IsFinite := by
  have h : (Job.smallest "A").model.parameters.all Float.isFinite = true := by decide +kernel
  exact List.all_eq_true.1 h

/-- The smallest fixture as it stands once it was built on an empty disk.  No step of training was
made. -/
theorem smallest_complete : ∃ d, d.workingDirectory = [] ∧ Complete plainStore []
    (Job.smallest "A").spec (Job.smallest "A").inputs (Job.smallest "A").model d := by
  have hready : Ready plainStore ({} : Disk).workingDirectory (Job.smallest "A").spec.name :=
    ⟨by decide, by decide +kernel, rfl⟩
  have hrun : (({} : Disk).run (build (Job.smallest "A").model (Job.smallest "A").inputs
      (Job.smallest "A").spec plainStore).run).1.toOption.isSome = true := by decide +kernel
  have hfit : (Job.smallest "A").model.fit (Job.smallest "A").inputs.training
      (Job.smallest "A").spec.steps = .ok (Job.smallest "A").model := rfl
  obtain ⟨report, hreport⟩ := exists_ok_of_isSome hrun
  obtain ⟨trained, htrained, -, hcomplete⟩ :=
    complete_of_ends hready sound_empty (ends_answer hreport)
  rw [hfit] at htrained
  obtain rfl := Except.ok.inj htrained
  exact ⟨_, hcomplete.home_eq, hcomplete⟩

/-- A fixture that was built is verified, and without its predictions it is not. -/
theorem verification_is_exact_once : ∃ d d',
    (∃ report, Work.told d (verify (Job.smallest "A").inputs (Job.smallest "A").spec plainStore)
      = .ok report) ∧
    d.write (plainStore.sheetPath "A") .empty = .ok d' ∧
    ∃ failure, Work.told d' (verify (Job.smallest "A").inputs (Job.smallest "A").spec plainStore)
      = .error failure := by
  obtain ⟨d, hhome, hcomplete⟩ := smallest_complete
  rw [← hhome] at hcomplete
  have hverified := hcomplete.verifies (by decide) smallest_isShaped smallest_isFinite
  obtain ⟨hagrees, hother, -⟩ :=
    verification_is_exact (Job.smallest "A").inputs (Job.smallest "A").spec plainStore d
  obtain ⟨description, recorded, model, stored, h, -⟩ := (hagrees _).1 hverified
  obtain ⟨d', hwrite, hiff⟩ := hother description recorded model stored h .empty
  refine ⟨d, d', ⟨_, hverified⟩, hwrite, hiff.2 (.inr ⟨⟨[], []⟩, by decide +kernel, .inl ?_⟩)⟩
  rw [h.header]
  exact fun h => by cases h

end Fixture

end Exemplar
