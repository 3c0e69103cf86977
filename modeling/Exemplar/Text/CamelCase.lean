/-
Names written as one word with a capital at each word's start.

A name is cut at every character that is neither letter nor number.  Inside a
piece a word ends before an upper case letter that follows lower case, and before
the last of several upper case letters when lower case follows it.  Characters
without a case keep the case of what stands before them.
-/
import Exemplar.Text.Alphanumeric
import Exemplar.Text.LetterCase

namespace Exemplar
namespace Text
namespace CamelCase

/-- The case that the characters of the current word were last seen in. -/
inductive Mode where
  | start
  | lower
  | upper
  deriving DecidableEq, Repr

def Mode.after (mode : Mode) (c : Char) : Mode :=
  if isLower c then .lower else if isUpper c then .upper else mode

/-- The words of a piece; `word` is what the current word holds so far. -/
def words (mode : Mode) (word : List Char) : List Char → List (List Char)
  | [] => []
  | [c] => [word ++ [c]]
  | c :: next :: rest =>
    let after := mode.after c
    if after = .lower ∧ isUpper next then
      (word ++ [c]) :: words .start [] (next :: rest)
    else if mode = .upper ∧ isUpper c ∧ isLower next then
      word :: words .start [c] (next :: rest)
    else words after (word ++ [c]) (next :: rest)

/-- The letters after the first in lower case; a sigma at the end takes its final form. -/
def lowerTail : List Char → List Char
  | [] => []
  | ['Σ'] => ['ς']
  | c :: rest => lowerCase c ++ lowerTail rest

def capitalize : List Char → List Char
  | [] => []
  | c :: rest => upperCase c ++ lowerTail rest

end CamelCase

/-- A name as one word with a capital at each word's start. -/
def camelCase (name : String) : String :=
  let pieces := name.toList.splitOnP (!isAlphanumeric ·)
  String.ofList (pieces.flatMap fun piece =>
    (CamelCase.words .start [] piece).flatMap CamelCase.capitalize)

end Text
end Exemplar
