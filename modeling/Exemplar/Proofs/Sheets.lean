/-
Sheets are read back as they were written.

A field is written without quotes only if no byte of it means anything to the
reader, and inside quotes only a quote does, which is written twice.  So after a
field the reader has just the bytes of the field and waits for a separator.  The
records of a sheet follow one after the other, and an empty line is never one of
them.
-/
import Exemplar.Csv.Writer
import Exemplar.Store.Sheet

namespace Exemplar
namespace Csv

variable {record : List (List UInt8)} {field acc bytes rest : List UInt8} {b : UInt8}

/-! ## Bytes -/

theorem toList_loop (bytes : ByteArray) (i : Nat) (acc : List UInt8) :
    ByteArray.toList.loop bytes i acc = acc.reverse ++ bytes.data.toList.drop i := by
  induction i, acc using ByteArray.toList.loop.induct bytes with
  | case1 i acc hi ih =>
    have hlength : i < bytes.data.toList.length := hi
    have hget : bytes.get! i = bytes.data.toList[i] := getElem!_pos bytes.data i hi
    rw [ByteArray.toList.loop, if_pos hi, ih, List.drop_eq_getElem_cons hlength]
    simp [hget]
  | case2 i acc hi =>
    have hlength : bytes.data.toList.length ≤ i := Nat.le_of_not_lt hi
    rw [ByteArray.toList.loop, if_neg hi, List.drop_eq_nil_of_le hlength, List.append_nil]

theorem toList_eq (bytes : ByteArray) : bytes.toList = bytes.data.toList := toList_loop bytes 0 []

theorem toList_toByteArray (bytes : List UInt8) : bytes.toByteArray.toList = bytes := by
  rw [toList_eq, List.data_toByteArray]

theorem toByteArray_toList (bytes : ByteArray) : bytes.toList.toByteArray = bytes :=
  ByteArray.ext (by rw [List.data_toByteArray, toList_eq])

theorem dropMark_of_ne (h : b ≠ 0xEF) : dropMark (b :: rest) = b :: rest := by
  unfold dropMark
  split <;> simp_all

/-! ## One field -/

theorem scan_keep {state next : State} (h : step state b = (next, .keep)) :
    scan state record acc (b :: rest) = scan next record (b :: acc) rest := by
  rw [scan, h]

theorem scan_skip {state next : State} (h : step state b = (next, .skip)) :
    scan state record acc (b :: rest) = scan next record acc rest := by
  rw [scan, h]

theorem not_needsQuotes_iff : needsQuotes b = false ↔
    b ≠ comma ∧ b ≠ quote ∧ endsRecord b = false := by
  simp [needsQuotes, and_assoc]

theorem scan_unquoted (h : ∀ b ∈ bytes, needsQuotes b = false) :
    scan .unquoted record acc (bytes ++ rest)
      = scan .unquoted record (bytes.reverse ++ acc) rest := by
  induction bytes generalizing acc with
  | nil => rfl
  | cons b bytes ih =>
    obtain ⟨hb, hbytes⟩ := List.forall_mem_cons.1 h
    obtain ⟨hcomma, -, hend⟩ := not_needsQuotes_iff.1 hb
    have hstep : step .unquoted b = (.unquoted, .keep) := by simp [step, hcomma, hend]
    rw [List.cons_append, scan_keep hstep, ih hbytes, List.reverse_cons, List.append_assoc,
      List.singleton_append]

/-- The bytes of a field inside quotes. -/
def inQuotes (field : List UInt8) : List UInt8 :=
  field.flatMap fun b => if b = quote then [quote, quote] else [b]

theorem scan_quoted : scan .quoted record acc (inQuotes bytes ++ quote :: rest)
    = scan .quoteSeen record (bytes.reverse ++ acc) rest := by
  induction bytes generalizing acc with
  | nil => exact scan_skip rfl
  | cons b bytes ih =>
    rw [List.reverse_cons, List.append_assoc, List.singleton_append, ← ih]
    by_cases hb : b = quote
    · have hinQuotes : inQuotes (b :: bytes) = quote :: quote :: inQuotes bytes := by
        simp [inQuotes, hb]
      rw [hinQuotes, hb]
      exact (scan_skip rfl).trans (scan_keep rfl)
    · have hinQuotes : inQuotes (b :: bytes) = b :: inQuotes bytes := by simp [inQuotes, hb]
      rw [hinQuotes]
      exact scan_keep (by simp [step, hb])

/-- What the reader does with a separator after a field. -/
def separate (record : List (List UInt8)) (field : List UInt8) (b : UInt8) (rest : List UInt8) :
    List (List (List UInt8)) :=
  if b = comma then scan .fieldStart (field :: record) [] rest
  else (field :: record).reverse :: scan .recordStart [] [] rest

/-- A separator ends the field, in all states in which a field may end. -/
theorem scan_separator {state : State} (hb : b = comma ∨ b = lineFeed)
    (hstate : state = .fieldStart ∨ state = .unquoted ∨ state = .quoteSeen) :
    scan state record acc (b :: rest) = separate record acc.reverse b rest := by
  rcases hb with rfl | rfl <;> rcases hstate with rfl | rfl | rfl <;> rfl

/-- A field is read as it was written, unless it is an empty line. -/
theorem scan_writeField {state : State} (hb : b = comma ∨ b = lineFeed)
    (hstate : state = .fieldStart ∨ state = .recordStart ∧ (field = [] → b = comma)) :
    scan state record [] (writeField field ++ b :: rest) = separate record field b rest := by
  -- Both states read the first byte alike, unless it ends a record.
  have hstart (c : UInt8) (hc : state = .recordStart → endsRecord c = false) :
      step state c = atFieldStart c := by
    rcases hstate with rfl | ⟨rfl, -⟩
    · rfl
    · simp [step, hc rfl]
  rw [writeField]
  split
  · show scan state record [] (quote :: (inQuotes field ++ [quote]) ++ b :: rest) = _
    have hquote : step state quote = (.quoted, .skip) := by
      rw [hstart quote fun _ => by decide]
      rfl
    rw [List.cons_append, scan_skip hquote, List.append_assoc, List.singleton_append, scan_quoted,
      scan_separator hb (by simp)]
    simp
  · rename_i hplain
    have hplain : ∀ c ∈ field, needsQuotes c = false := by simpa using hplain
    cases field with
    | nil =>
      rcases hstate with rfl | ⟨rfl, hcomma⟩
      · exact scan_separator hb (by simp)
      · rw [hcomma rfl]
        rfl
    | cons c field =>
      obtain ⟨hc, hfield⟩ := List.forall_mem_cons.1 hplain
      obtain ⟨hcomma, hquote, hend⟩ := not_needsQuotes_iff.1 hc
      have hkeep : step state c = (.unquoted, .keep) := by
        rw [hstart c fun _ => hend, atFieldStart, if_neg hquote, if_neg hcomma, hend]
        rfl
      rw [List.cons_append, scan_keep hkeep, scan_unquoted hfield, scan_separator hb (by simp)]
      simp

/-! ## Records -/

theorem writeFields_eq_nil_iff {fields : List (List UInt8)} (hne : fields ≠ []) :
    writeFields fields = [] ↔ fields = [[]] := by
  have hfield (field : List UInt8) : writeField field = [] ↔ field = [] := by
    rw [writeField]
    split <;> simp_all
    rintro rfl
    simp_all
  match fields, hne with
  | [field], _ => simp [writeFields, hfield]
  | field :: next :: more, _ => simp [writeFields]

/-- The fields of a record are read as they were written. -/
theorem scan_writeFields {fields : List (List UInt8)} {state : State} (hne : fields ≠ [])
    (hstate : state = .fieldStart ∨ state = .recordStart ∧ fields ≠ [[]]) :
    scan state record [] (writeFields fields ++ lineFeed :: rest)
      = (fields.reverse ++ record).reverse :: scan .recordStart [] [] rest := by
  induction fields generalizing state record with
  | nil => exact absurd rfl hne
  | cons field more ih =>
    cases more with
    | nil =>
      rw [writeFields, scan_writeField (.inr rfl)]
      · rfl
      · refine hstate.imp_right fun h => ⟨h.1, fun hempty => ?_⟩
        exact absurd (by rw [hempty]) h.2
    | cons next more =>
      rw [writeFields, List.append_assoc, List.cons_append, scan_writeField (.inl rfl)
        (hstate.imp_right fun h => ⟨h.1, fun _ => rfl⟩)]
      · show scan .fieldStart (field :: record) [] _ = _
        rw [ih (by simp) (.inl rfl)]
        simp
      · simp

theorem scan_writeRecord (hne : record ≠ []) :
    scan .recordStart [] [] (writeRecord record ++ rest)
      = record :: scan .recordStart [] [] rest := by
  rw [writeRecord]
  by_cases hempty : writeFields record = []
  · rw [(writeFields_eq_nil_iff hne).1 hempty]
    rfl
  · rw [if_neg (by simpa using hempty), List.append_assoc, List.singleton_append,
      scan_writeFields hne (.inr ⟨rfl, fun h => hempty ((writeFields_eq_nil_iff hne).2 h)⟩)]
    simp

/-- A record starts with the first byte of its first field, if that is written without quotes. -/
theorem writeRecord_head (h : ∀ c ∈ b :: field, needsQuotes c = false) (more : List (List UInt8)) :
    ∃ rest, writeRecord ((b :: field) :: more) = b :: rest := by
  have hfield : writeField (b :: field) = b :: field := if_neg (by simpa using h)
  cases more with
  | nil => exact ⟨field ++ [lineFeed], by simp [writeRecord, writeFields, hfield]⟩
  | cons next more =>
    exact ⟨field ++ comma :: writeFields (next :: more) ++ [lineFeed],
      by simp [writeRecord, writeFields, hfield]⟩

/-- Records are read as they were written, if none is without fields. -/
theorem scan_writeRecords {records : List (List (List UInt8))}
    (hne : ∀ record ∈ records, record ≠ []) :
    scan .recordStart [] [] (writeRecords records) = records := by
  induction records with
  | nil => rfl
  | cons record records ih =>
    obtain ⟨hrecord, hrecords⟩ := List.forall_mem_cons.1 hne
    show scan .recordStart [] [] (writeRecord record ++ writeRecords records) = _
    rw [scan_writeRecord hrecord, ih hrecords]

/-! ## Texts -/

theorem decodeField_text (text : String) : decodeField text.toUTF8.toList = .ok text := by
  have htext : String.fromUTF8? text.toUTF8 = some text := dif_pos text.isValidUTF8
  rw [decodeField, toByteArray_toList]
  simp only [htext]

theorem decodeFields_texts (record index : Nat) (texts : List String) :
    decodeFields record index (texts.map fun text => text.toUTF8.toList) = .ok texts := by
  induction texts generalizing index with
  | nil => rfl
  | cons text rest ih =>
    rw [List.map_cons, decodeFields, decodeField_text]
    simp only [ih]
    rfl

theorem decodeRows_texts {width : Nat} (record : Nat) {rows : List (List String)}
    (hwidth : ∀ row ∈ rows, row.length = width) :
    decodeRows width record (rows.map (·.map fun text => text.toUTF8.toList)) = .ok rows := by
  induction rows generalizing record with
  | nil => rfl
  | cons row rest ih =>
    obtain ⟨hrow, hrest⟩ := List.forall_mem_cons.1 hwidth
    rw [List.map_cons, decodeRows, if_neg (by simpa using hrow), decodeFields_texts]
    simp only [ih _ hrest]
    rfl

/-- A sheet of one width is read as it was written, if it does not start with a byte order mark. -/
theorem read_bytes {sheet : Sheet} (hne : sheet.header ≠ [])
    (hwidth : ∀ row ∈ sheet.rows, row.length = sheet.header.length)
    (hmark : dropMark sheet.bytes.toList = sheet.bytes.toList) :
    read sheet.bytes.toList = .ok sheet := by
  have hall : records sheet.bytes.toList
      = (sheet.header :: sheet.rows).map (·.map fun text => text.toUTF8.toList) := by
    rw [records, hmark, Sheet.bytes, toList_toByteArray, scan_writeRecords]
    intro record hrecord hempty
    obtain ⟨texts, htexts, rfl⟩ := List.mem_map.1 hrecord
    rw [List.map_eq_nil_iff.1 hempty] at htexts
    rcases List.mem_cons.1 htexts with hheader | hrow
    · exact hne hheader.symm
    · exact hne (List.length_eq_zero_iff.1 (hwidth _ hrow).symm)
  rw [read, hall]
  simp only [List.map_cons, List.headD_cons, List.drop_succ_cons, List.drop_zero, List.length_map]
  rw [decodeFields_texts, decodeRows_texts 1 hwidth]
  rfl

end Csv

namespace PredictionSheet

/-- Predictions are read as they were written. -/
theorem read_written (s : PredictionSheet) :
    Csv.read s.written.bytes.toList = .ok s.written := by
  refine Csv.read_bytes (by simp [written, header]) (fun row hrow => ?_) ?_
  · obtain ⟨entry, hentry, rfl⟩ := List.mem_map.1 hrow
    simp [cells, written, header, s.width_eq entry hentry]
  · -- The first byte is that of the name of the first column.
    have htarget : targetHeader.toUTF8.toList = [95, 116, 97, 114, 103, 101, 116] := by
      decide +kernel
    have hplain : ∀ c ∈ (95 :: [116, 97, 114, 103, 101, 116] : List UInt8),
        Csv.needsQuotes c = false := by decide +kernel
    obtain ⟨rest, hrest⟩ := Csv.writeRecord_head hplain
      (((List.range s.classCount).map probabilityHeader).map fun text => text.toUTF8.toList)
    have hbytes : s.written.bytes.toList = 95 :: (rest ++ Csv.writeRecords
        (s.written.rows.map (·.map fun text => text.toUTF8.toList))) := by
      rw [Csv.Sheet.bytes, Csv.toList_toByteArray, ← List.cons_append, ← hrest, ← htarget]
      rfl
    rw [hbytes]
    exact Csv.dropMark_of_ne (by decide)

end PredictionSheet
end Exemplar
