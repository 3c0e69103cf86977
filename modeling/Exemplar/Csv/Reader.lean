/-
Reading records of comma separated text, on bytes.

A field may be quoted, a quote inside it is then written twice, and text after
the closing quote belongs to the field as well.  A quote inside an unquoted field
is an ordinary byte.  A line feed or a carriage return outside quotes ends a
record; empty lines are no records; the end of the text ends the last record.
-/
import Exemplar.Files.Error

namespace Exemplar
namespace Csv

def comma : UInt8 := 44
def quote : UInt8 := 34
def lineFeed : UInt8 := 10
def carriageReturn : UInt8 := 13

def endsRecord (b : UInt8) : Bool := b == lineFeed || b == carriageReturn

inductive Error where
  /-- A record that is not as long as the first one. -/
  | unequalLength (record expected actual : Nat)
  /-- A field that is no text; `valid` bytes of it are. -/
  | notText (record field valid : Nat)
  | file (error : FileError)
  deriving DecidableEq, Repr

open Decimal in
def Error.message : Error → String
  | .unequalLength record expected actual =>
    "CSV error: record " ++ natText record ++ ": found record with " ++ natText actual
      ++ " fields, but the previous record has " ++ natText expected ++ " fields"
  | .notText record field valid =>
    "CSV parse error: record " ++ natText record ++ " (field: " ++ natText field
      ++ "): invalid utf-8: invalid UTF-8 in field " ++ natText field ++ " near byte index "
      ++ natText valid
  | .file error => error.message

/-- Where the reader stands in a record. -/
inductive State where
  | recordStart
  | fieldStart
  | unquoted
  | quoted
  /-- After a quote inside a quoted field, which either closes it or is the first of two. -/
  | quoteSeen
  deriving DecidableEq, Repr

/-- What a byte does. -/
inductive Effect where
  | skip
  | keep
  | endField
  | endRecord
  deriving DecidableEq, Repr

/-- A byte that stands at the start of a field. -/
def atFieldStart (b : UInt8) : State × Effect :=
  if b = quote then (.quoted, .skip)
  else if b = comma then (.fieldStart, .endField)
  else if endsRecord b then (.recordStart, .endRecord)
  else (.unquoted, .keep)

def step : State → UInt8 → State × Effect
  | .recordStart, b => if endsRecord b then (.recordStart, .skip) else atFieldStart b
  | .fieldStart, b => atFieldStart b
  | .unquoted, b =>
    if b = comma then (.fieldStart, .endField)
    else if endsRecord b then (.recordStart, .endRecord)
    else (.unquoted, .keep)
  | .quoted, b => if b = quote then (.quoteSeen, .skip) else (.quoted, .keep)
  | .quoteSeen, b =>
    if b = quote then (.quoted, .keep)
    else if b = comma then (.fieldStart, .endField)
    else if endsRecord b then (.recordStart, .endRecord)
    else (.unquoted, .keep)

/-- The records of a text.  `record` holds the finished fields and `field` the bytes of the current
one, both last first. -/
def scan (state : State) (record : List (List UInt8)) (field : List UInt8) :
    List UInt8 → List (List (List UInt8))
  | [] => if state = .recordStart then [] else [(field.reverse :: record).reverse]
  | b :: rest =>
    match step state b with
    | (next, .skip) => scan next record field rest
    | (next, .keep) => scan next record (b :: field) rest
    | (next, .endField) => scan next (field.reverse :: record) [] rest
    | (next, .endRecord) => (field.reverse :: record).reverse :: scan next [] [] rest

/-- The text without a byte order mark. -/
def dropMark : List UInt8 → List UInt8
  | 0xEF :: 0xBB :: 0xBF :: rest => rest
  | bytes => bytes

def records (bytes : List UInt8) : List (List (List UInt8)) :=
  scan .recordStart [] [] (dropMark bytes)

/-! ## Records of text -/

/-- How many bytes from `position` on are whole characters. -/
def validLength (bytes : ByteArray) : Nat → Nat → Nat
  | 0, position => position
  | fuel + 1, position =>
    match bytes.utf8DecodeChar? position with
    | some c => validLength bytes fuel (position + c.utf8Size)
    | none => position

/-- The text of a field, or how many of its bytes are whole characters. -/
def decodeField (field : List UInt8) : Except Nat String :=
  let bytes := field.toByteArray
  match String.fromUTF8? bytes with
  | some text => .ok text
  | none => .error (validLength bytes field.length 0)

/-- The texts of the fields from number `index` on of a record. -/
def decodeFields (record : Nat) (index : Nat) : List (List UInt8) → Except Error (List String)
  | [] => .ok []
  | field :: rest =>
    match decodeField field with
    | .error valid => .error (.notText record index valid)
    | .ok text => (decodeFields record (index + 1) rest).map (text :: ·)

/-- A header and the records below it, all of one length. -/
structure Sheet where
  header : List String
  rows : List (List String)
  deriving DecidableEq, Repr

/-- An error and the number of the record it is in, the header being number zero. -/
structure Fault where
  record : Nat
  error : Error
  deriving DecidableEq, Repr

/-- The records from number `record` on, each of the length of the header. -/
def decodeRows (width : Nat) (record : Nat) :
    List (List (List UInt8)) → Except Fault (List (List String))
  | [] => .ok []
  | fields :: rest =>
    if fields.length ≠ width then
      .error ⟨record, .unequalLength record width fields.length⟩
    else
      match decodeFields record 0 fields with
      | .error error => .error ⟨record, error⟩
      | .ok texts => (decodeRows width (record + 1) rest).map (texts :: ·)

/-- The sheet that a text holds; an empty text is a sheet with an empty header. -/
def read (bytes : List UInt8) : Except Fault Sheet :=
  let all := records bytes
  let first := all.headD []
  match decodeFields 0 0 first with
  | .error error => .error ⟨0, error⟩
  | .ok header => (decodeRows first.length 1 (all.drop 1)).map fun rows => ⟨header, rows⟩

end Csv
end Exemplar
