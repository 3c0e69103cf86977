/-
Text in double quotes, as messages show names and vocabularies.

A quote, a backslash and the usual controls are escaped by a backslash.  A
character without a shape of its own, or one that would merge with the character
before it, is shown by its code point.
-/
import Exemplar.Decimal.Written
import Exemplar.Text.Visible

namespace Exemplar
namespace Text

def escapeCode (c : Char) : List Char :=
  "\\u\x7b".toList ++ Nat.toDigits 16 c.toNat ++ ['\x7d']

/-- A character as it appears between double quotes. -/
def escape (c : Char) : List Char :=
  if c = '\x00' then ['\\', '0']
  else if c = '\t' then ['\\', 't']
  else if c = '\n' then ['\\', 'n']
  else if c = '\r' then ['\\', 'r']
  else if c = '"' ∨ c = '\\' then ['\\', c]
  else if isExtending c || !isVisible c then escapeCode c
  else [c]

def quoted (text : String) : String :=
  String.ofList ('"' :: text.toList.flatMap escape ++ ['"'])

/-- Items in square brackets. -/
def bracketed (items : List String) : String :=
  "[" ++ String.intercalate ", " items ++ "]"

/-- Entries in braces, each a quoted key and a value. -/
def braced (entries : List (String × String)) : String :=
  "\x7b" ++ String.intercalate ", " (entries.map fun (key, value) => quoted key ++ ": " ++ value)
    ++ "\x7d"

def bracketedTexts (items : List String) : String := bracketed (items.map quoted)

def bracketedNats (items : List Nat) : String := bracketed (items.map Decimal.natText)

end Text
end Exemplar
