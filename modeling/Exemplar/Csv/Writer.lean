/-
Writing records of comma separated text.

A field is quoted only when it holds a comma, a quote or an end of line, and a
record of one empty field is written as two quotes, since an empty line would be
no record.  Every record ends in a line feed.
-/
import Exemplar.Csv.Reader

namespace Exemplar
namespace Csv

def needsQuotes (b : UInt8) : Bool := b == comma || b == quote || endsRecord b

def writeField (field : List UInt8) : List UInt8 :=
  if field.any needsQuotes then
    quote :: field.flatMap (fun b => if b = quote then [quote, quote] else [b]) ++ [quote]
  else field

/-- The fields with commas between them. -/
def writeFields : List (List UInt8) → List UInt8
  | [] => []
  | [field] => writeField field
  | field :: rest => writeField field ++ comma :: writeFields rest

def writeRecord (record : List (List UInt8)) : List UInt8 :=
  (if (writeFields record).isEmpty then [quote, quote] else writeFields record) ++ [lineFeed]

def writeRecords (records : List (List (List UInt8))) : List UInt8 := records.flatMap writeRecord

def Sheet.bytes (sheet : Sheet) : ByteArray :=
  (writeRecords ((sheet.header :: sheet.rows).map (·.map fun text => text.toUTF8.toList)))
    |>.toByteArray

end Csv
end Exemplar
