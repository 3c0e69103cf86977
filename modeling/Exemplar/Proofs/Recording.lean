/-
Predictions that are written and read again.

All records of a sheet that is made are as long as its header, so a writer that insists on that
accepts it, and where writing a sheet fails only files are to blame.  Where it succeeds, the file
holds the whole sheet, whatever was there before and whatever failed on the way, and the sheet is
read from it as it was made.  Texts tell values of one kind apart, so two sheets that are read alike
are one.
-/
import Exemplar.Proofs.Answering
import Exemplar.Proofs.Comparing
import Exemplar.Proofs.Spellings

namespace Exemplar

open Exemplar.Action Disk

/-! ## Records of one length -/

namespace Csv

/-- Writes records and insists that each has a given number of fields. -/
def writeStrictly (width : Nat) (number : Nat) : List (List String) → Except Error (List UInt8)
  | [] => .ok []
  | record :: rest =>
    if record.length ≠ width then .error (.unequalLength number width record.length)
    else (writeStrictly width (number + 1) rest).map fun bytes =>
      writeRecord (record.map fun text => text.toUTF8.toList) ++ bytes

/-- The bytes of a sheet, if its records are as long as its header. -/
def Sheet.strictBytes (sheet : Sheet) : Except Error ByteArray :=
  (writeStrictly sheet.header.length 0 (sheet.header :: sheet.rows)).map List.toByteArray

theorem writeStrictly_eq_ok_iff {width number : Nat} {records : List (List String)}
    {bytes : List UInt8} : writeStrictly width number records = .ok bytes ↔
      (∀ record ∈ records, record.length = width) ∧
        bytes = writeRecords (records.map (·.map fun text => text.toUTF8.toList)) := by
  induction records generalizing number bytes with
  | nil => simp [writeStrictly, writeRecords, eq_comm]
  | cons record rest ih =>
    rw [writeStrictly, List.forall_mem_cons]
    by_cases hlength : record.length = width
    · rw [if_neg (not_not.2 hlength), map_eq_ok_iff]
      simp only [ih]
      constructor
      · rintro ⟨_, ⟨hrest, rfl⟩, rfl⟩
        exact ⟨⟨hlength, hrest⟩, rfl⟩
      · rintro ⟨⟨-, hrest⟩, rfl⟩
        exact ⟨_, ⟨hrest, rfl⟩, rfl⟩
    · rw [if_pos hlength]
      exact iff_of_false (fun h => by cases h) fun h => hlength h.1.1

/-- A strict writer writes a sheet of one width as any other does, and refuses all others. -/
theorem Sheet.strictBytes_eq_ok_iff {sheet : Sheet} {bytes : ByteArray} :
    sheet.strictBytes = .ok bytes ↔
      (∀ row ∈ sheet.rows, row.length = sheet.header.length) ∧ bytes = sheet.bytes := by
  rw [strictBytes, map_eq_ok_iff]
  simp only [writeStrictly_eq_ok_iff, List.forall_mem_cons, true_and]
  constructor
  · rintro ⟨_, ⟨hrows, rfl⟩, rfl⟩
    exact ⟨hrows, rfl⟩
  · rintro ⟨hrows, rfl⟩
    exact ⟨_, ⟨hrows, rfl⟩, rfl⟩

end Csv

/-! ## Sheets as they are made -/

/-- Whether two predictions are both classes or both numbers. -/
def Value.SameKind : Value → Value → Prop
  | .int _, .int _ => True
  | .float _, .float _ => True
  | _, _ => False

theorem Value.eq_of_text {a b : Value} (hkind : a.SameKind b) (h : a.text = b.text) : a = b := by
  cases a with
  | int i =>
    cases b with
    | int j =>
      have hread := Decimal.readInt?_intDigits i.toInt
      have hdigits : Decimal.intDigits i.toInt = Decimal.intDigits j.toInt :=
        String.ofList_injective h
      rw [hdigits, Decimal.readInt?_intDigits] at hread
      rw [Int64.toInt_inj.1 (Option.some.inj hread).symm]
    | float y => exact hkind.elim
  | float x =>
    cases b with
    | int j => exact hkind.elim
    | float y => rw [Decimal.plain_readsBack.text_injective h]

namespace PredictionSheet

/-- The sheets that are made: of predictions alone, or with a row of probabilities for each. -/
inductive Made (targets : List Value) : Option (List (List Float)) → PredictionSheet → Prop
  | pointOnly : Made targets none (pointOnly targets)
  | withProbabilities {probabilities : List (List Float)} {classCount : Nat}
      {sheet : PredictionSheet}
      (h : PredictionSheet.withProbabilities targets probabilities classCount = .ok sheet) :
      Made targets (some probabilities) sheet

/-- The cells of a row, unless an index is out of range. -/
def cellsAt? (targets : List Value) (probabilities : Option (List (List Float))) (row : Nat) :
    Option (List String) := do
  let target ← targets[row]?
  match probabilities with
  | none => return [target.text]
  | some rows => return target.text :: (← rows[row]?).map Decimal.plain.text

variable {targets targets' : List Value} {probabilities probabilities' : Option (List (List Float))}
variable {sheet other : PredictionSheet} {row : Nat}

theorem Made.map_fst_rows (h : sheet.Made targets probabilities) :
    sheet.rows.map Prod.fst = targets := by
  cases h with
  | pointOnly => simp [PredictionSheet.pointOnly, Function.comp_def]
  | withProbabilities h =>
    obtain ⟨hlength, -, hrows⟩ := Fixture.withProbabilities_ok h
    rw [hrows, List.map_fst_zip (Nat.le_of_eq hlength.symm)]

theorem Made.rowCount_eq (h : sheet.Made targets probabilities) :
    sheet.rowCount = targets.length := by
  rw [← h.map_fst_rows, List.length_map, rowCount]

/-- The record of a row has the prediction of the row and, where they are recorded, its
probabilities. -/
theorem Made.record?_eq (h : sheet.Made targets probabilities) (row : Nat) :
    sheet.record? row = cellsAt? targets probabilities row := by
  cases h with
  | pointOnly =>
    simp only [record?, PredictionSheet.pointOnly, cellsAt?, List.getElem?_map]
    cases targets[row]? <;> rfl
  | @withProbabilities rows _ _ h =>
    obtain ⟨-, -, hrows⟩ := Fixture.withProbabilities_ok h
    simp only [record?, hrows, cellsAt?, List.zip, List.getElem?_zipWith]
    cases targets[row]? with
    | none => rfl
    | some target => cases rows[row]? <;> rfl

/-- There is a record for every row, and it is as long as the header. -/
theorem record?_of_lt (h : row < sheet.rowCount) :
    ∃ record, sheet.record? row = some record ∧ record.length = sheet.header.length := by
  refine ⟨cells sheet.rows[row], by rw [record?, List.getElem?_eq_getElem h]; rfl, ?_⟩
  simp [cells, header, sheet.width_eq _ (List.getElem_mem h)]

theorem map_some_records (sheet : PredictionSheet) :
    sheet.records.map some = (List.range sheet.rowCount).map sheet.record? := by
  refine List.ext_getElem? fun row => ?_
  rw [List.getElem?_map, List.getElem?_map, records, List.getElem?_map, ← record?]
  by_cases hrow : row < sheet.rowCount
  · obtain ⟨record, hrecord, -⟩ := record?_of_lt hrow
    rw [List.getElem?_range hrow, hrecord, Option.map_some, Option.map_some, hrecord]
  · have hnone : sheet.rows[row]? = none := List.getElem?_eq_none (Nat.le_of_not_lt hrow)
    rw [record?, hnone, List.getElem?_eq_none (by simpa using hrow)]
    rfl

theorem strictBytes_written (sheet : PredictionSheet) :
    sheet.written.strictBytes = .ok sheet.written.bytes := by
  refine Csv.Sheet.strictBytes_eq_ok_iff.2 ⟨fun row hrow => ?_, rfl⟩
  rw [Fixture.width_written row hrow]
  simp [written, header, Nat.add_comm]

/-- The cells of a row tell its values, if it is known which are classes and which are numbers. -/
theorem cells_inj {a b : Value × List Float} (hkind : a.1.SameKind b.1) (h : cells a = cells b) :
    a = b := by
  obtain ⟨htarget, hprobabilities⟩ := List.cons.inj h
  exact Prod.ext (Value.eq_of_text hkind htarget)
    (List.map_injective_iff.2 Decimal.plain_readsBack.text_injective hprobabilities)

theorem Made.rows_eq (h : sheet.Made targets probabilities)
    (h' : other.Made targets' probabilities')
    (hkind : ∀ (row : Nat) (a b : Value),
      targets[row]? = some a → targets'[row]? = some b → a.SameKind b)
    (heq : sheet.written = other.written) : sheet.rows = other.rows := by
  refine List.ext_getElem? fun row => ?_
  have hrow : sheet.rows[row]?.map cells = other.rows[row]?.map cells := by
    rw [← List.getElem?_map, ← List.getElem?_map]
    exact congrArg (fun written => written.rows[row]?) heq
  cases hfound : sheet.rows[row]? with
  | none =>
    rw [hfound, Option.map_none, eq_comm, Option.map_eq_none_iff] at hrow
    exact hrow.symm
  | some a =>
    rw [hfound, Option.map_some, eq_comm, Option.map_eq_some_iff] at hrow
    obtain ⟨b, hb, hcells⟩ := hrow
    have hkinds : a.1.SameKind b.1 := by
      refine hkind row a.1 b.1 ?_ ?_
      · rw [← h.map_fst_rows, List.getElem?_map, hfound]
        rfl
      · rw [← h'.map_fst_rows, List.getElem?_map, hb]
        rfl
    rw [hb, cells_inj hkinds hcells.symm]

end PredictionSheet

/-! ## Failures for which only files are to blame -/

/-- Only a file is to blame, not the data. -/
def Failure.IsOfFiles (failure : Failure) : Prop :=
  ∃ activities error, failure = .during activities (.file error)

namespace Work

variable {α β : Type} {work : Work α} {next : α → Work β}

/-- Whatever a system replies, only files are to blame for a failure. -/
def FailsOnFiles (work : Work α) : Prop :=
  ∀ (R : System) (d : Disk), Holds R (fun _ => True) work.run d fun result _ =>
    ∀ failure, result = .error failure → failure.IsOfFiles

theorem failsOnFiles_pure (value : α) : FailsOnFiles (pure value : Work α) :=
  fun _ _ => holds_pure fun _ h => by cases h

theorem failsOnFiles_ofAction (program : Action α) : FailsOnFiles (Work.ofAction program) :=
  fun _ d => holds_ofAction ((holds_ends program d).mono (fun _ h => h)
    fun _ _ _ _ h => by cases h)

theorem failsOnFiles_ofFile (program : Action (Except FileError α)) :
    FailsOnFiles (Work.ofFile program) := by
  refine fun _ d => holds_ofFile ((holds_ends program d).mono (fun _ h => h) ?_)
  rintro (error | value) _ -
  · intro failure h
    cases h
    exact ⟨[], error, rfl⟩
  · intro failure h
    cases h

theorem FailsOnFiles.within (h : work.FailsOnFiles) (activity : Activity) :
    (Work.within activity work).FailsOnFiles := by
  refine fun R d => holds_within ((h R d).mono (fun _ h => h) ?_)
  rintro (failure | value) _ h'
  · intro _ heq
    obtain ⟨activities, error, rfl⟩ := h' failure rfl
    cases heq
    exact ⟨activity :: activities, error, rfl⟩
  · intro _ heq
    cases heq

theorem FailsOnFiles.bind (h : work.FailsOnFiles) (hnext : ∀ value, (next value).FailsOnFiles) :
    (work >>= next).FailsOnFiles := by
  refine fun R d => holds_bind ((h R d).mono (fun _ h => h) ?_)
  rintro (failure | value) d' h'
  · intro _ heq
    cases heq
    exact h' failure rfl
  · exact hnext value R d'

theorem FailsOnFiles.onFailure (h : work.FailsOnFiles) (closing : Action Unit) :
    (Work.onFailure work closing).FailsOnFiles := by
  refine fun R d => holds_onFailure ((h R d).mono (fun _ h => h) ?_)
  rintro (failure | value) d' h'
  · refine (holds_ends closing d').mono (fun _ h => h) fun _ _ _ _ heq => ?_
    cases heq
    exact h' failure rfl
  · intro _ heq
    cases heq

end Work

/-! ## Files that are renamed -/

namespace Disk

variable {d d' : Disk} {path source target : Path} {key : Key} {bytes : ByteArray}

theorem resolve_of_resolveName {refusal : Path.Component → FileError}
    (h : d.resolveName path refusal = .ok key) : d.resolve path = .ok key := by
  simp only [resolveName, Bind.bind, Except.bind] at h
  simp only [resolve, Bind.bind, Except.bind]
  split at h
  · cases h
  · split at h
    · rename_i hlast
      rw [hlast]
      exact h
    · cases h

theorem resolve_of_rename (h : d.rename source target = .ok d') :
    d.resolve target = .ok (target.key d.workingDirectory) := by
  obtain ⟨key, hkey⟩ : ∃ key, d.resolve target = .ok key := by
    simp only [rename, Bind.bind, Except.bind] at h
    split at h
    · cases h
    split at h
    · cases h
    split at h
    · cases h
    split at h
    · cases h
    split at h
    · cases h
    · rename_i new hnew
      exact ⟨new, resolve_of_resolveName hnew⟩
  rw [hkey, (resolve_ok hkey).1]

/-- A file that was renamed is read by its new name. -/
theorem readFile_rename (hd : d.Sound) (h : d.rename source target = .ok d')
    (hfile : d.get? (source.key d.workingDirectory) = some (.file bytes))
    (hslash : target.endsInSlash = false) : d'.readFile target = .ok bytes := by
  have hresolve := resolve_of_rename h
  obtain ⟨-, hopen⟩ := resolve_ok hresolve
  have hnoslash : target.endsInSlash = true → Entry.file bytes = .directory :=
    fun htrue => absurd (hslash.symm.trans htrue) Bool.false_ne_true
  rcases rename_ok h with ⟨hsame, rfl, -⟩ | ⟨old, parent, name, hmoves⟩
  · exact readFile_eq_ok_iff.2 ⟨_, find_of_resolve hresolve (hsame ▸ hfile) hnoslash⟩
  · rw [hmoves.old_eq] at hfile
    have hmoved : d'.get? (target.key d.workingDirectory) = some (.file bytes) := by
      have hbelow := hmoves.get?_target hd []
      rwa [List.append_nil, List.append_nil, ← hmoves.names.key_eq, hfile] at hbelow
    -- What is on the way to the target is a directory, so it is neither of the two files.
    have hkept : d'.AreDirectories (d.parentTrail target) := by
      refine (hmoves.confined hd).areDirectories (fun k hk => ?_) hopen
      have hdirectory := hopen k hk
      rintro (⟨rest, rfl⟩ | ⟨rest, rfl⟩)
      · by_cases hrest : rest = []
        · rw [hrest, List.append_nil, hfile] at hdirectory
          cases hdirectory
        · rw [hd.none_below_file hfile hrest] at hdirectory
          cases hdirectory
      · by_cases hrest : rest = []
        · rw [hrest, List.append_nil] at hdirectory
          exact hmoves.replaced_file (by rw [hfile]; simp) hdirectory
        · rw [hmoves.none_below hd hrest] at hdirectory
          cases hdirectory
    exact readFile_eq_ok_iff.2 ⟨_, find_of_resolve
      (resolve_of_open hresolve (hmoves.confined hd).home hkept) hmoved hnoslash⟩

end Disk

/-! ## Sheets that are written -/

namespace Store

variable {s : Store} {name : String} {sheet : PredictionSheet} {d d' : Disk}

theorem failsOnFiles_writeSheet (s : Store) (name : String) (sheet : PredictionSheet) :
    (s.writeSheet name sheet).FailsOnFiles := by
  have hfill (staged : StagedSheet) : (Work.onFailure (Work.within (.serializing name)
      (.ofFile (Action.request (.write staged.file sheet.written.bytes))))
      staged.discard).FailsOnFiles :=
    ((Work.failsOnFiles_ofFile _).within _).onFailure _
  refine Work.FailsOnFiles.bind ?_ fun staged =>
    (((Work.failsOnFiles_ofFile _).within _).bind fun _ => Work.failsOnFiles_pure _).onFailure _
  refine ((Work.failsOnFiles_ofFile _).within _).bind fun _ => ?_
  refine (Work.failsOnFiles_ofAction _).bind fun _ => ?_
  refine ((Work.failsOnFiles_ofFile _).within _).bind fun file => ?_
  exact (hfill ⟨file, s.sheetPath name⟩).bind fun _ => Work.failsOnFiles_pure _

/-- Where a sheet is written, its file is read as the whole sheet, whatever was there before. -/
theorem readFile_writeSheet (hname : Path.IsPlain name) (hd : d.Sound) {path : Path}
    (h : Ends Happens (s.writeSheet name sheet).run d (.ok path) d') :
    path = s.sheetPath name ∧ d'.Sound ∧
      d'.readFile (s.sheetPath name) = .ok sheet.written.bytes := by
  obtain ⟨staged, d₁, hstage, hcommit⟩ := Work.ends_bind h
  obtain ⟨h₁, hstaged⟩ := (holds_stage hname hd rfl).ends hstage
  obtain ⟨⟨htarget, -, hfile⟩, -⟩ := hstaged staged rfl
  have hrename : Holds Happens (fun _ => True) staged.rename.run d₁ fun result d' =>
      ∀ path, result = .ok path →
        path = staged.target ∧ d₁.rename staged.file staged.target = .ok d' := by
    refine Work.holds_bind (Work.holds_within (Work.holds_ofFile
      (holds_request trivial fun reply d' hreply => ?_)))
    rcases happens_rename hreply with ⟨rfl, hok⟩ | ⟨rfl, error, rfl, -⟩
    · exact Work.holds_pure fun path hpath => ⟨(Except.ok.inj hpath).symm, hok⟩
    · exact fun _ hpath => by cases hpath
  obtain ⟨rfl, hrenamed⟩ := hrename.ends (Work.ends_onFailure hcommit) path rfl
  rw [htarget] at hrenamed ⊢
  rw [← h₁.home] at hfile
  exact ⟨rfl, (confined_rename h₁.sound hrenamed).sound,
    readFile_rename h₁.sound hrenamed hfile (Path.endsInSlash_entry (isPlain_sheet hname))⟩

/-- Nothing is in the way of the predictions of a fixture: their directory is there or can be made
and is not reached through an entry of theirs, and no directory has their name. -/
structure Admits (s : Store) (name : String) (d : Disk) : Prop where
  start : d.get? (s.sheetDirectory.start d.workingDirectory) = some .directory
  way : d.CanBeMade s.sheetDirectory
  aside : ∀ k ∈ s.sheetDirectory.trail d.workingDirectory, ∀ p, p = .staged ∨ p = .sheet →
    ¬ s.Owns d.workingDirectory p name k
  free : d.get? (s.sheetKey d.workingDirectory name) ≠ some .directory

theorem not_owns_sheetKey (s : Store) (home : Key) (name : String) :
    ¬ s.Owns home .staged name (s.sheetKey home name) := by
  rintro ⟨entry, hentry, hpre⟩
  obtain rfl : entry = name ++ ".csv" := sibling_iff.1 (hpre.trans (List.prefix_append _ []))
  have hsheet : Part.sheet.Names name (name ++ ".csv") := rfl
  exact absurd (Part.names_own hentry hsheet) (by simp)

/-- Where nothing is in the way, a sheet is written unless a fault is met. -/
theorem holds_writeSheet_faultless (hname : Path.IsPlain name) (hd : d.Sound)
    (h : s.Admits name d) :
    Holds Faultless (fun _ => True) (s.writeSheet name sheet).run d fun result _ =>
      result = .ok (s.sheetPath name) := by
  have hopened := holds_stage_open sheet hname hd rfl h.start h.way
    fun k hk => h.aside k hk .staged (.inl rfl)
  refine Work.holds_bind ((hopened.and ((holds_stage hname hd rfl).restrict
    fun _ _ _ _ h => Faultless.happens h)).mono (fun _ _ => trivial) ?_)
  rintro _ d₁ ⟨⟨entry, hentry, rfl, hconfined⟩, h₁, hstaged⟩
  obtain ⟨⟨-, howned, hfile⟩, hopen⟩ := hstaged _ rfl
  have hhome : d₁.workingDirectory = d.workingDirectory := h₁.home
  have hkey : (d₁.absolute s.sheetDirectory).key d.workingDirectory
      = s.sheetDirectory.key d.workingDirectory := by
    rw [key_absolute h₁.sound.home, hhome]
  rw [Path.key_entry hentry, hkey] at howned hfile
  have hne : entry ≠ name ++ ".csv" := by
    rintro rfl
    exact not_owns_sheetKey s _ name howned
  have hfree : d₁.get? (s.sheetKey d.workingDirectory name) ≠ some .directory := by
    intro hdirectory
    rcases hconfined.same (s.sheetKey d.workingDirectory name) fun ⟨p, hp, howns⟩ =>
      not_owns_sheetKey s _ name (hp ▸ howns) with heq | ⟨hmade, -, -⟩
    · exact h.free (heq ▸ hdirectory)
    · exact h.aside _ hmade .sheet (.inr rfl) (owns_sheetKey s _ name)
  have hrename := holds_rename_open hname hentry hhome hkey
    (h₁.sound.areDirectories_absolute (hhome.symm ▸ hopen)) hopen hfile hne hfree
  refine Work.holds_onFailure (hrename.mono (fun _ h => h) ?_)
  rintro _ _ rfl
  rfl

/-- Predictions are read back exactly.  There is a record for every row of a sheet that is made, as
long as its header, and a writer that insists on that accepts them.  Where writing a sheet fails,
only files are to blame; where it succeeds, the header and the records are read in order, whatever
was there before and whatever was met; and it does succeed if nothing is in the way and no fault is
met.  Sheets that are read alike have the same values, to the bit, if they have classes and numbers
in the same places. -/
theorem predictions_read_back {targets : List Value} {probabilities : Option (List (List Float))}
    (hmade : sheet.Made targets probabilities) (hname : Path.IsPlain name) (hd : d.Sound) :
    (sheet.rowCount = targets.length ∧ sheet.written.header = sheet.header ∧
      sheet.written.rows.map some = (List.range sheet.rowCount).map sheet.record?) ∧
    (∀ row < sheet.rowCount, ∃ record, sheet.record? row = some record ∧
      PredictionSheet.cellsAt? targets probabilities row = some record ∧
      record.length = sheet.header.length) ∧
    sheet.written.strictBytes = .ok sheet.written.bytes ∧
    (∀ result d', Ends Happens (s.writeSheet name sheet).run d result d' →
      (∀ failure, result = .error failure → failure.IsOfFiles) ∧
      ∀ path, result = .ok path → path = s.sheetPath name ∧ d'.Sound ∧
        Work.told d' (s.readSheet name) = .ok sheet.written) ∧
    (s.Admits name d → ∀ result d', Ends Faultless (s.writeSheet name sheet).run d result d' →
      result = .ok (s.sheetPath name)) ∧
    ∀ (targets' : List Value) (probabilities' : Option (List (List Float)))
      (other : PredictionSheet), other.Made targets' probabilities' →
      (∀ (row : Nat) (a b : Value),
        targets[row]? = some a → targets'[row]? = some b → a.SameKind b) →
      sheet.written = other.written → targets = targets' ∧ sheet.rows = other.rows := by
  refine ⟨⟨hmade.rowCount_eq, rfl, sheet.map_some_records⟩, fun row hrow => ?_,
    sheet.strictBytes_written, fun result d' hends => ⟨?_, ?_⟩, fun hadmits result d' hends => ?_,
    fun targets' probabilities' other hother hkind heq => ?_⟩
  · obtain ⟨record, hrecord, hlength⟩ := PredictionSheet.record?_of_lt hrow
    exact ⟨record, hrecord, hmade.record?_eq row ▸ hrecord, hlength⟩
  · exact (failsOnFiles_writeSheet s name sheet Happens d).ends hends
  · rintro path rfl
    obtain ⟨hpath, hsound, hread⟩ := readFile_writeSheet hname hd hends
    exact ⟨hpath, hsound, Fixture.told_readSheet_eq_ok_iff.2 ⟨_, hread, sheet.read_written⟩⟩
  · exact (holds_writeSheet_faultless hname hd hadmits).ends hends
  · have hrows := hmade.rows_eq hother hkind heq
    exact ⟨by rw [← hmade.map_fst_rows, hrows, hother.map_fst_rows], hrows⟩

/-- Predictions are written to a directory that is made for them, and others then take their
place. -/
theorem later_predictions_read_back :
    let s : Store := ⟨⟨"c"⟩, ⟨"m"⟩⟩
    let earlier : PredictionSheet := .pointOnly [.int 7]
    let later : PredictionSheet := .pointOnly [.float (-0), .int 7]
    ∃ d₁ d₂, Ends Faultless (s.writeSheet "A" earlier).run {} (.ok (s.sheetPath "A")) d₁ ∧
      Ends Faultless (s.writeSheet "A" later).run d₁ (.ok (s.sheetPath "A")) d₂ ∧
      Work.told d₁ (s.readSheet "A") = .ok earlier.written ∧
      Work.told d₂ (s.readSheet "A") = .ok later.written := by
  intro s earlier later
  have hplain : Path.IsPlain "A" := by decide
  have hearlier : earlier.Made [.int 7] none := .pointOnly
  have hlater : later.Made [.float (-0), .int 7] none := .pointOnly
  obtain ⟨-, -, -, hwrite₁, hadmitted, -⟩ :=
    predictions_read_back (s := s) hearlier hplain Fixture.sound_empty
  have hadmits : s.Admits "A" {} := by
    refine ⟨by decide +kernel, by decide +kernel, fun k hk p hp => ?_, by decide +kernel⟩
    rcases hp with rfl | rfl <;> revert k hk <;> decide +kernel
  have h₁ : Ends Faultless (s.writeSheet "A" earlier).run {} _ _ :=
    ends_faultless (by decide +kernel)
  rw [hadmitted hadmits _ _ h₁] at h₁
  obtain ⟨-, hsound, hread₁⟩ := (hwrite₁ _ _ (h₁.widen fun _ _ _ _ h => h.happens)).2 _ rfl
  have h₂ : Ends Faultless (s.writeSheet "A" later).run _ (.ok (s.sheetPath "A")) _ :=
    ends_of_run_and (d := (({} : Disk).run (s.writeSheet "A" earlier).run).2) (by decide +kernel)
  obtain ⟨-, -, -, hwrite₂, -⟩ := predictions_read_back (s := s) hlater hplain hsound
  obtain ⟨-, -, hread₂⟩ := (hwrite₂ _ _ (h₂.widen fun _ _ _ _ h => h.happens)).2 _ rfl
  exact ⟨_, _, h₁, h₂, hread₁, hread₂⟩

end Store
end Exemplar
