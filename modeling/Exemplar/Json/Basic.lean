/-
JSON documents as values.

Integers are those of a 64-bit word, signed or unsigned; every other number is
binary64.  A document may hold values that are well formed and still mean
nothing: a number beyond the range of binary64, a text with half a character, an
object with such a text for a key, a container that is nested too deeply.  They
do no harm as long as nobody looks at them, so they are kept as `unreadable`.
-/
import Exemplar.Decimal.Power

namespace Exemplar

inductive Json where
  | null
  | bool (b : Bool)
  | integer (i : Int)
  | real (x : Float)
  | string (s : String)
  | array (items : List Json)
  | object (members : List (String × Json))
  /-- Well formed, but without a meaning. -/
  | unreadable
  deriving Inhabited

namespace Json

def nat (n : Nat) : Json := .integer n

def strings (items : List String) : Json := .array (items.map .string)

def nats (items : List Nat) : Json := .array (items.map nat)

/-- The largest integer that is not turned into a binary64 number. -/
def largestInteger : Nat := twoTo 64 - 1

/-- The smallest integer that is not turned into a binary64 number. -/
def smallestInteger : Int := -(twoTo 63 : Int)

/-- Containers nested more deeply than this cannot be read. -/
def deepest : Nat := 127

mutual

/-- Whether there is nothing unreadable anywhere in a document. -/
def isReadable : Json → Bool
  | .null | .bool _ | .integer _ | .real _ | .string _ => true
  | .array items => areReadable items
  | .object members => membersReadable members
  | .unreadable => false

def areReadable : List Json → Bool
  | [] => true
  | item :: rest => item.isReadable && areReadable rest

def membersReadable : List (String × Json) → Bool
  | [] => true
  | member :: rest => memberReadable member && membersReadable rest

def memberReadable : String × Json → Bool
  | (_, value) => value.isReadable

end

end Json
end Exemplar
