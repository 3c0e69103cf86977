/-
What can be wrong with a table, its roles, or the data handed to a model.
-/
import Exemplar.Table.ElementType
import Exemplar.Text.Quoted

namespace Exemplar

/-- The names of a signature with their types, in the order of the names. -/
abbrev Signature := List (String × ElementType)

def Signature.text (s : Signature) : String :=
  Text.braced (s.map fun (name, type) => (name, type.title))

/-- What a cell was to be turned into. -/
inductive CellTarget where
  | number
  | classOf (vocabulary : List String)
  deriving DecidableEq, Repr

/-- What was counted. -/
inductive Counted where
  | column (name : String)
  | coercedColumn (name : String)
  | feature (name : String)
  | pointPredictions
  | probabilityRows
  | storedPredictions
  deriving DecidableEq, Repr

/-- In what two signatures differ. -/
inductive Disagreement where
  | trainingFeatures (trained served : Signature)
  | servingLabel
  | defaultInputs
  | tensorShape (name : String) (shape : List Nat)
  | placeholderShape (name : String) (shape : List String)
  | modelColumns (expected declared : Signature)
  | noSignature (key : String)
  | recordedInputs (recorded declared : Signature)
  deriving DecidableEq, Repr

/-- Where stored predictions differ from new ones. -/
inductive Position where
  | header
  | row (index : Nat)
  deriving DecidableEq, Repr

inductive DataError where
  | unknownColumn (name : String)
  | duplicateColumn (name : String)
  | roleOverlap (name : String)
  | labelInFeatures (name : String)
  | emptyVocabulary (column : String)
  | emptyLabelVocabulary (column : String)
  | duplicateLabel (column value : String)
  | coercion (column : String) (row : Nat) (value : String) (target : CellTarget)
  | typeMismatch (column : String) (expected actual : ElementType)
  | signatureMismatch (disagreement : Disagreement)
  | unknownCategory (column value : String)
  | rowCount (counted : Counted) (expected actual : Nat)
  | prediction (position : Position) (expected actual : List String)
  | probabilityWidth (row expected actual : Nat)
  deriving DecidableEq, Repr

/-- A name or value between backquotes. -/
def Text.named (name : String) : String := "\x60" ++ name ++ "\x60"

open Text in
def CellTarget.text : CellTarget → String
  | .number => ElementType.float64.name
  | .classOf vocabulary => "one of " ++ bracketedTexts vocabulary

open Text in
def Counted.text : Counted → String
  | .column name => "column " ++ named name
  | .coercedColumn name => "coerced column " ++ named name
  | .feature name => "feature " ++ named name
  | .pointPredictions => "point predictions"
  | .probabilityRows => "probability rows"
  | .storedPredictions => "stored predictions"

open Text in
def Disagreement.text : Disagreement → String
  | .trainingFeatures trained served =>
    "training features " ++ trained.text ++ " vs serving placeholders " ++ served.text
  | .servingLabel => "serving signature must not carry a label"
  | .defaultInputs => "default inputs differ from feature placeholders"
  | .tensorShape name shape =>
    "training tensor " ++ named name ++ " has shape " ++ bracketedNats shape
  | .placeholderShape name shape => "placeholder " ++ named name ++ " has shape " ++ bracketed shape
  | .modelColumns expected declared =>
    "model columns " ++ expected.text ++ " vs serving placeholders " ++ declared.text
  | .noSignature key => "no " ++ named key ++ " signature"
  | .recordedInputs recorded declared =>
    "recorded inputs " ++ recorded.text ++ " vs serving placeholders " ++ declared.text

def Position.text : Position → String
  | .header => "header"
  | .row index => "row " ++ Decimal.natText index

open Text Decimal in
def DataError.message : DataError → String
  | .unknownColumn name => "unknown column " ++ named name
  | .duplicateColumn name => "column " ++ named name ++ " is listed more than once"
  | .roleOverlap name => "column " ++ named name ++ " is both continuous and categorical"
  | .labelInFeatures name => "label column " ++ named name ++ " is also listed as a feature"
  | .emptyVocabulary column => "categorical column " ++ named column ++ " has an empty vocabulary"
  | .emptyLabelVocabulary column => "label vocabulary for " ++ named column ++ " is empty"
  | .duplicateLabel column value =>
    "label vocabulary for " ++ named column ++ " repeats " ++ named value
  | .coercion column row value target =>
    "column " ++ named column ++ " row " ++ natText row ++ ": cannot coerce " ++ named value
      ++ " to " ++ target.text
  | .typeMismatch column expected actual =>
    "column " ++ named column ++ " has dtype " ++ actual.name ++ ", expected " ++ expected.name
  | .signatureMismatch disagreement =>
    "training and serving signatures differ: " ++ disagreement.text
  | .unknownCategory column value =>
    "column " ++ named column ++ ": value " ++ named value ++ " is not in the vocabulary"
  | .rowCount counted expected actual =>
    "expected " ++ natText expected ++ " rows, got " ++ natText actual
      ++ " (" ++ counted.text ++ ")"
  | .prediction position expected actual =>
    position.text ++ ": expected " ++ named (String.intercalate "," expected) ++ ", found "
      ++ named (String.intercalate "," actual)
  | .probabilityWidth row expected actual =>
    "row " ++ natText row ++ ": expected " ++ natText expected ++ " class probabilities, got "
      ++ natText actual

end Exemplar
