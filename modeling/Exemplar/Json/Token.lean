/-
The tokens of a JSON text.

Texts in quotes and punctuation end where they end; everything else between
blanks is one bare word, which must be a number or one of the three constants.
-/
import Exemplar.Decimal.Literal
import Exemplar.Json.Basic

namespace Exemplar
namespace Json

inductive Token where
  | openArray
  | closeArray
  | openObject
  | closeObject
  | comma
  | colon
  | constant (value : Json)
  /-- A text in quotes; none if it holds half a character. -/
  | text (text? : Option (List Char))

/-! ## Bare words -/

/-- The sign of a number and what follows it. -/
def splitMinus : List Char → Bool × List Char
  | '-' :: rest => (true, rest)
  | word => (false, word)

/-- A number without a fraction and exponent.  Minus zero is no integer. -/
def integerNumber (negative : Bool) (n : Nat) : Json :=
  let i : Int := if negative then -(n : Int) else n
  if (negative && n = 0) || i < smallestInteger || (largestInteger : Int) < i then
    realNumber negative n 0
  else .integer i
where
  /-- A number beyond the range of the format cannot be read. -/
  realNumber (negative : Bool) (digits : Nat) (exponent : Int) : Json :=
    let word := Decimal.decimalWord digits exponent
    if word = Binary64.infinityWord then .unreadable else .real (Binary64.withSign negative word)

/-- Digits before the point: a zero, or digits that do not start with one. -/
def isWhole (digits : List Char) : Bool :=
  digits = ['0'] || (!digits.isEmpty && digits.head? != some '0')

/-- Whether a point is followed by a digit. -/
def pointIsUsed : List Char → Bool
  | '.' :: rest => rest.head?.any Char.isDigit
  | _ => true

def readNumber? (word : List Char) : Option Json :=
  let (negative, rest) := splitMinus word
  let whole := rest.takeWhile Char.isDigit
  let after := rest.dropWhile Char.isDigit
  if !isWhole whole || !pointIsUsed after then none
  else if after.isEmpty then some (integerNumber negative (Decimal.natOfDigits whole))
  else (Decimal.readUnsigned? rest).map fun (digits, exponent) =>
    integerNumber.realNumber negative digits exponent

/-- What a bare word stands for. -/
def readBare? (word : List Char) : Option Json :=
  if word = ['n', 'u', 'l', 'l'] then some .null
  else if word = ['t', 'r', 'u', 'e'] then some (.bool true)
  else if word = ['f', 'a', 'l', 's', 'e'] then some (.bool false)
  else readNumber? word

/-! ## Texts -/

/-- A piece of a text: a character, or one of the two halves in which characters beyond the basic
plane may be written. -/
inductive Piece where
  | whole (c : Char)
  | half (code : Nat)
  deriving DecidableEq, Repr

def isHigh (code : Nat) : Bool := 0xD800 ≤ code && code ≤ 0xDBFF

def isLow (code : Nat) : Bool := 0xDC00 ≤ code && code ≤ 0xDFFF

def Piece.ofCode (code : Nat) : Piece :=
  if isHigh code || isLow code then .half code else .whole (Char.ofNat code)

/-- The character of which two codes are the halves. -/
def joinHalves (high low : Nat) : Char :=
  Char.ofNat (0x10000 + (high - 0xD800) * 0x400 + (low - 0xDC00))

/-- The text of which a list holds the pieces, if every half has its other half. -/
def join? : List Piece → Option (List Char)
  | [] => some []
  | .whole c :: rest => (join? rest).map (c :: ·)
  | .half high :: .half low :: rest =>
    if isHigh high && isLow low then (join? rest).map (joinHalves high low :: ·) else none
  | .half _ :: _ => none

/-- The character that a letter stands for after a backslash. -/
def escaped? (c : Char) : Option Char :=
  if c = '"' ∨ c = '\\' ∨ c = '/' then some c
  else if c = 'b' then some '\x08'
  else if c = 'f' then some '\x0c'
  else if c = 'n' then some '\n'
  else if c = 'r' then some '\r'
  else if c = 't' then some '\t'
  else none

def hexDigit? (c : Char) : Option Nat :=
  if c.isDigit then some (c.toNat - '0'.toNat)
  else if 'a' ≤ c ∧ c ≤ 'f' then some (c.toNat - 'a'.toNat + 10)
  else if 'A' ≤ c ∧ c ≤ 'F' then some (c.toNat - 'A'.toNat + 10)
  else none

/-! ## Characters to tokens -/

def isSpace (c : Char) : Bool := c = ' ' || c = '\n' || c = '\t' || c = '\r'

def punctuation? (c : Char) : Option Token :=
  if c = '[' then some .openArray
  else if c = ']' then some .closeArray
  else if c = '{' then some .openObject
  else if c = '}' then some .closeObject
  else if c = ',' then some .comma
  else if c = ':' then some .colon
  else none

/-- Whether a character belongs to a bare word. -/
def isBare (c : Char) : Bool := !isSpace c && (punctuation? c).isNone && c != '"'

/-- Where the lexer stands; words and pieces are kept last first. -/
inductive Mode where
  | between
  | bare (word : List Char)
  | text (pieces : List Piece)
  /-- After a backslash. -/
  | escape (pieces : List Piece)
  /-- Inside a code of which `missing` digits are still to come. -/
  | code (pieces : List Piece) (value missing : Nat)

/-- A character outside texts and words. -/
def start (c : Char) : Mode × List Token :=
  match punctuation? c with
  | some token => (.between, [token])
  | none =>
    if isSpace c then (.between, [])
    else if c = '"' then (.text [], [])
    else (.bare [c], [])

/-- A character inside a text. -/
def textStep (pieces : List Piece) (c : Char) : Option (Mode × List Token) :=
  if c = '"' then some (.between, [.text (join? pieces.reverse)])
  else if c = '\\' then some (.escape pieces, [])
  else if c.toNat < 0x20 then none
  else some (.text (.whole c :: pieces), [])

/-- A character after a backslash. -/
def escapeStep (pieces : List Piece) (c : Char) : Option (Mode × List Token) :=
  if c = 'u' then some (.code pieces 0 4, [])
  else (escaped? c).map fun e => (.text (.whole e :: pieces), [])

/-- A digit of a code. -/
def codeStep (pieces : List Piece) (value missing : Nat) (c : Char) :
    Option (Mode × List Token) :=
  (hexDigit? c).map fun digit =>
    let value := 16 * value + digit
    if missing ≤ 1 then (.text (Piece.ofCode value :: pieces), [])
    else (.code pieces value (missing - 1), [])

def step : Mode → Char → Option (Mode × List Token)
  | .between, c => some (start c)
  | .bare word, c =>
    if isBare c then some (.bare (c :: word), [])
    else (readBare? word.reverse).map fun value =>
      ((start c).1, .constant value :: (start c).2)
  | .text pieces, c => textStep pieces c
  | .escape pieces, c => escapeStep pieces c
  | .code pieces value missing, c => codeStep pieces value missing c

/-- The tokens of the rest of a text. -/
def lex (mode : Mode) : List Char → Option (List Token)
  | [] =>
    match mode with
    | .between => some []
    | .bare word => (readBare? word.reverse).map fun value => [.constant value]
    | .text _ | .escape _ | .code .. => none
  | c :: rest =>
    match step mode c with
    | none => none
    | some (next, tokens) => (lex next rest).map (tokens ++ ·)

end Json
end Exemplar
