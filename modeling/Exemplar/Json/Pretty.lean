/-
Documents as text with a line for every item and member.

Nested lines are indented by two blanks, an empty container stays on its line,
and a number that is not finite is written as the constant for nothing.
-/
import Exemplar.Decimal.Written
import Exemplar.Json.Basic

namespace Exemplar
namespace Json

def hexDigit (n : Nat) : Char := Nat.digitChar n

/-- A character as it is written in quotes. -/
def escape (c : Char) : List Char :=
  if c = '"' ∨ c = '\\' then ['\\', c]
  else if c = '\x08' then ['\\', 'b']
  else if c = '\x0c' then ['\\', 'f']
  else if c = '\n' then ['\\', 'n']
  else if c = '\r' then ['\\', 'r']
  else if c = '\t' then ['\\', 't']
  else if c.toNat < 0x20 then
    ['\\', 'u', '0', '0', hexDigit (c.toNat / 16), hexDigit (c.toNat % 16)]
  else [c]

/-- A text in quotes, before what follows it. -/
def quoted (text : String) : List Char := '"' :: text.toList.flatMap escape ++ ['"']

/-- The start of a line at the given depth. -/
def newLine (depth : Nat) : List Char := '\n' :: List.replicate (2 * depth) ' '

mutual

/-- A document that stands at the given depth. -/
def write (depth : Nat) : Json → List Char
  | .null | .unreadable => "null".toList
  | .bool true => "true".toList
  | .bool false => "false".toList
  | .integer i => Decimal.intDigits i
  | .real x => (Decimal.json.text x).toList
  | .string s => quoted s
  | .array [] => ['[', ']']
  | .array (item :: rest) =>
    '[' :: newLine (depth + 1) ++ write (depth + 1) item ++ writeItems (depth + 1) rest
      ++ newLine depth ++ [']']
  | .object [] => ['{', '}']
  | .object (member :: rest) =>
    '{' :: newLine (depth + 1) ++ writeMember (depth + 1) member ++ writeMembers (depth + 1) rest
      ++ newLine depth ++ ['}']

/-- Items after the first one. -/
def writeItems (depth : Nat) : List Json → List Char
  | [] => []
  | item :: rest => ',' :: newLine depth ++ write depth item ++ writeItems depth rest

def writeMember (depth : Nat) : String × Json → List Char
  | (key, value) => quoted key ++ ':' :: ' ' :: write depth value

/-- Members after the first one. -/
def writeMembers (depth : Nat) : List (String × Json) → List Char
  | [] => []
  | member :: rest => ',' :: newLine depth ++ writeMember depth member ++ writeMembers depth rest

end

/-- The text of a document. -/
def pretty (document : Json) : String := String.ofList (write 0 document)

end Json
end Exemplar
