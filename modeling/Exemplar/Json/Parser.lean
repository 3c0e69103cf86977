/-
From tokens to a document.

The parser keeps the containers that are open, innermost first, and knows what
may come next.  Every token is one step.
-/
import Exemplar.Json.Token

namespace Exemplar
namespace Json

/-- A container that is not closed yet, with its contents last first.  The members are none once a
key could not be read. -/
inductive Open where
  | array (items : List Json)
  | object (members : Option (List (String × Json))) (key : Option (List Char))

/-- What may come next, inside the containers that are open. -/
inductive State where
  | value (stack : List Open)
  | firstItem (stack : List Open)
  | firstKey (stack : List Open)
  | key (members : Option (List (String × Json))) (stack : List Open)
  | colon (members : Option (List (String × Json))) (key : Option (List Char)) (stack : List Open)
  | afterItem (items : List Json) (stack : List Open)
  | afterMember (members : Option (List (String × Json))) (stack : List Open)
  | finished (document : Json)

/-- One more member, of which the key may be unreadable. -/
def addMember (members : Option (List (String × Json))) (key : Option (List Char)) (value : Json) :
    Option (List (String × Json)) :=
  match members, key with
  | some members, some key => some ((String.ofList key, value) :: members)
  | _, _ => none

/-- Puts a complete value where it belongs. -/
def put (value : Json) : List Open → State
  | [] => .finished value
  | .array items :: stack => .afterItem (value :: items) stack
  | .object members key :: stack => .afterMember (addMember members key value) stack

/-- A container that was closed inside those of the stack. -/
def closed (stack : List Open) (value : Json) : State :=
  put (if stack.length < deepest then value else .unreadable) stack

def closedObject (members : Option (List (String × Json))) (stack : List Open) : State :=
  closed stack (match members with
    | some members => .object members.reverse
    | none => .unreadable)

def textValue : Option (List Char) → Json
  | some text => .string (String.ofList text)
  | none => .unreadable

/-- A token where a value is expected. -/
def valueStep (stack : List Open) : Token → Option State
  | .constant value => some (put value stack)
  | .text text? => some (put (textValue text?) stack)
  | .openArray => some (.firstItem stack)
  | .openObject => some (.firstKey stack)
  | .closeArray | .closeObject | .comma | .colon => none

def parseStep : State → Token → Option State
  | .value stack, token => valueStep stack token
  | .firstItem stack, .closeArray => some (closed stack (.array []))
  | .firstItem stack, token => valueStep (.array [] :: stack) token
  | .firstKey stack, .closeObject => some (closedObject (some []) stack)
  | .firstKey stack, .text key => some (.colon (some []) key stack)
  | .key members stack, .text key => some (.colon members key stack)
  | .colon members key stack, .colon => some (.value (.object members key :: stack))
  | .afterItem items stack, .comma => some (.value (.array items :: stack))
  | .afterItem items stack, .closeArray => some (closed stack (.array items.reverse))
  | .afterMember members stack, .comma => some (.key members stack)
  | .afterMember members stack, .closeObject => some (closedObject members stack)
  | _, _ => none

/-- The state after a list of tokens. -/
def run (state : State) : List Token → Option State
  | [] => some state
  | token :: rest =>
    match parseStep state token with
    | none => none
    | some next => run next rest

/-- The document that a list of tokens stands for. -/
def ofTokens? (tokens : List Token) : Option Json :=
  match run (.value []) tokens with
  | some (.finished document) => some document
  | _ => none

/-- The document that a text holds. -/
def parse? (text : String) : Option Json := (lex .between text.toList).bind ofTokens?

end Json
end Exemplar
