/-
Reading values out of documents.

A structure is an object with the named fields, of which unknown ones are passed
over and known ones may not be repeated, or an array of its fields in order.  A
choice with contents carries its name in a tag beside them; until the tag is
known the contents are set aside, and what is set aside must be readable
throughout.
-/
import Exemplar.Decimal.Binary64
import Exemplar.Json.Basic
import Exemplar.SortedMap

namespace Exemplar
namespace Json

/-! ## Plain values -/

def string? : Json → Option String
  | .string s => some s
  | _ => none

/-- A natural number of the given number of bits. -/
def nat? (bits : Nat) : Json → Option Nat
  | .integer i => if 0 ≤ i ∧ i < (twoTo bits : Int) then some i.toNat else none
  | _ => none

def int64? : Json → Option Int64
  | .integer i =>
    if Int64.minValue.toInt ≤ i ∧ i ≤ Int64.maxValue.toInt then some (Int64.ofInt i) else none
  | _ => none

def float? : Json → Option Float
  | .real x => some x
  | .integer i => some (Binary64.ofInt i)
  | _ => none

def list? {α : Type} (item? : Json → Option α) : Json → Option (List α)
  | .array items => items.mapM item?
  | _ => none

/-- A map from names; a name that is repeated has its last value. -/
def map? {α : Type} (value? : Json → Option α) : Json → Option (SortedMap α)
  | .object members =>
    (members.mapM fun (member : String × Json) =>
      (value? member.2).map (member.1, ·)).map SortedMap.ofList
  | _ => none

/-! ## Structures -/

/-- The value of a field among the members of an object, which may be missing but not repeated. -/
def member? (members : List (String × Json)) (name : String) : Option (Option Json) :=
  match members.filter (·.1 = name) with
  | [] => some none
  | [(_, value)] => some (some value)
  | _ => none

def members? (names : List String) (members : List (String × Json)) :
    Option (List (Option Json)) :=
  names.mapM (member? members)

/-- The values of the named fields, in the order of the names. -/
def fields? (names : List String) : Json → Option (List (Option Json))
  | .object members => members? names members
  | .array items =>
    if items.length ≤ names.length then some ((List.range names.length).map (items[·]?)) else none
  | _ => none

/-- A field that must be there. -/
def required? {α : Type} (value? : Json → Option α) (field : Option Json) : Option α :=
  field.bind value?

/-- A field that has a value also when it is missing. -/
def defaulted? {α : Type} (default : α) (value? : Json → Option α) : Option Json → Option α
  | none => some default
  | some value => value? value

/-! ## Choices -/

/-- Whether a value is read where it stands, or was set aside before. -/
inductive Passage where
  | direct
  | setAside
  deriving DecidableEq, Repr

/-- What stands for nothing beside the name of a choice. -/
def isNothing : Passage → Json → Bool
  | _, .null => true
  | .setAside, .object [] => true
  | _, _ => false

/-- One of several names, alone or as the only key of an object. -/
def choice? {α : Type} (passage : Passage) (options : List (String × α)) : Json → Option α
  | .string name => options.lookup name
  | .object [(name, value)] => if isNothing passage value then options.lookup name else none
  | _ => none

/-- The tag of a choice with contents.  One that was set aside may also be counted from zero. -/
def tag? (passage : Passage) (names : List String) : Json → Option String
  | .string name => if names.contains name then some name else none
  | .integer i => if passage = .setAside ∧ 0 ≤ i then names[i.toNat]? else none
  | _ => none

/-- The name of the member that holds a tag. -/
def tagName : String := "type"

/-- The tag and the contents of a choice: the other members of an object, or the other items of an
array that starts with the tag. -/
def tagged? (passage : Passage) (names : List String) : Json → Option (String × Json)
  | .object members =>
    let others := members.filter (·.1 ≠ tagName)
    if membersReadable others then do
      let tag ← tag? passage names (← (← member? members tagName))
      return (tag, .object others)
    else none
  | .array (first :: rest) =>
    if areReadable rest then (tag? passage names first).map (·, .array rest) else none
  | _ => none

/-- Contents of a choice that has none: what is in an object does not matter. -/
def isBareContents : Json → Bool
  | .object _ => true
  | .array [] => true
  | _ => false

end Json
end Exemplar
