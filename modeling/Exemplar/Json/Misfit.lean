/-
What is wrong with a text that could not be read.

A number that is not finite is written as null, so a text written here may have
a gap: a null where a number belongs.  Of a gap it is said where it is; of any
other misfit only that there is one.
-/
import Exemplar.Decimal.Written
import Exemplar.Json.Token

namespace Exemplar
namespace Json

/-- A place between two characters: the number of its line, counted from one, and the bytes before
it in that line. -/
structure Place where
  line : Nat
  column : Nat
  deriving DecidableEq, Repr

def Place.start : Place := ⟨1, 0⟩

/-- The place behind a character. -/
def Place.after (place : Place) (c : Char) : Place :=
  if c = '\n' then ⟨place.line + 1, 0⟩ else ⟨place.line, place.column + c.utf8Size⟩

inductive Misfit where
  /-- No JSON, or not of the expected form. -/
  | form
  /-- A null where a number belongs, ending at the given place. -/
  | gap (place : Place)
  deriving DecidableEq, Repr

open Decimal in
def Misfit.message : Misfit → String
  | .form => "not in the expected form"
  | .gap place =>
    "invalid type: null, expected f64 at line " ++ natText place.line ++ " column "
      ++ natText place.column

def Token.isNull : Token → Bool
  | .constant .null => true
  | _ => false

/-- The place behind the first null in the rest of a text. -/
def findNull (mode : Mode) (place : Place) : List Char → Option Place
  | [] => if ((lex mode []).getD []).any Token.isNull then some place else none
  | c :: rest =>
    match step mode c with
    | none => none
    | some (next, tokens) =>
      if tokens.any Token.isNull then some place else findNull next (place.after c) rest

/-- The place behind the first null of a text. -/
def nullPlace? (text : String) : Option Place := findNull .between .start text.toList

end Json
end Exemplar
