/-
Descriptions and variables as documents.

Every type here is written by a function called `json` and read by one called
`ofJson?`, which answers nothing for a document of another form.
-/
import Exemplar.Artifact.Description
import Exemplar.Artifact.Variables
import Exemplar.Json.Parser
import Exemplar.Json.Reading

namespace Exemplar

open Json

namespace ElementType

def names : List (String × ElementType) := all.map fun type => (type.name, type)

def json (type : ElementType) : Json := .string type.name

def ofJson? (passage : Passage) : Json → Option ElementType := choice? passage names

end ElementType

namespace Dim

/-- An unbound dimension is written as minus one.  Sizes are words of 64 bits, read with a sign. -/
def json : Dim → Json
  | .fixed size => .integer (Int64.ofNat size).toInt
  | .unbound => .integer (-1)

/-- Every negative number stands for an unbound dimension. -/
def ofJson? (document : Json) : Option Dim :=
  (int64? document).map fun i => if i < 0 then .unbound else .fixed i.toInt.toNat

end Dim

namespace Head

def json : Head → Json
  | .binary => .object [(tagName, .string "binary")]
  | .multiClass classes =>
    .object [(tagName, .string "multi_class"), ("n_classes", .nat classes)]
  | .regression => .object [(tagName, .string "regression")]

def tags : List String := ["binary", "multi_class", "regression"]

def ofJson? (document : Json) : Option Head := do
  let (tag, contents) ← tagged? .direct tags document
  if tag = "multi_class" then
    let [classes] ← fields? ["n_classes"] contents | none
    return .multiClass (← required? (nat? 64) classes)
  else if !isBareContents contents then none
  else return if tag = "binary" then .binary else .regression

end Head

namespace RealColumn

def members (c : RealColumn) : List (String × Json) :=
  [("column", .string c.column), ("dtype", c.type.json)]

def ofContents? (contents : Json) : Option RealColumn := do
  let [column, type] ← fields? ["column", "dtype"] contents | none
  return ⟨← required? string? column, ← required? (ElementType.ofJson? .setAside) type⟩

end RealColumn

namespace KeyedColumn

def members (c : KeyedColumn) : List (String × Json) :=
  [("column", .string c.column), ("dtype", c.type.json), ("vocabulary", .strings c.vocabulary)]

def ofContents? (contents : Json) : Option KeyedColumn := do
  let [column, type, vocabulary] ← fields? ["column", "dtype", "vocabulary"] contents | none
  return ⟨← required? string? column, ← required? (ElementType.ofJson? .setAside) type,
    ← required? (list? string?) vocabulary⟩

end KeyedColumn

/-- An object with a tag before its other members. -/
def taggedObject (tag : String) (members : List (String × Json)) : Json :=
  .object ((tagName, .string tag) :: members)

def Encoding.json : Encoding → Json
  | .realValued c => taggedObject "real_valued" c.members
  | .keyed c => taggedObject "sparse_with_keys" c.members

namespace InputColumn

def json : InputColumn → Json
  | .realValued c => taggedObject "real_valued" c.members
  | .keyed c => taggedObject "sparse_with_keys" c.members
  | .oneHot c => taggedObject "one_hot" c.members

def tags : List String := ["real_valued", "sparse_with_keys", "one_hot"]

def ofJson? (document : Json) : Option InputColumn := do
  let (tag, contents) ← tagged? .direct tags document
  if tag = "real_valued" then return .realValued (← RealColumn.ofContents? contents)
  else if tag = "sparse_with_keys" then return .keyed (← KeyedColumn.ofContents? contents)
  else return .oneHot (← KeyedColumn.ofContents? contents)

end InputColumn

namespace TensorInfo

def json (t : TensorInfo) : Json :=
  .object [("dtype", t.type.json), ("shape", .array (t.shape.map Dim.json))]

def ofJson? (document : Json) : Option TensorInfo := do
  let [type, shape] ← fields? ["dtype", "shape"] document | none
  return ⟨← required? (ElementType.ofJson? .direct) type, ← required? (list? Dim.ofJson?) shape⟩

end TensorInfo

def Placeholder.json (p : Placeholder) : Json :=
  .object [("name", .string p.name), ("dtype", p.type.json),
    ("shape", .array (p.shape.map Dim.json))]

namespace CallSignature

def json (s : CallSignature) : Json :=
  .object [("method", .string s.method), ("inputs", .object (s.inputs.mapValues TensorInfo.json)),
    ("outputs", .object (s.outputs.mapValues TensorInfo.json))]

def ofJson? (document : Json) : Option CallSignature := do
  let [method, inputs, outputs] ← fields? ["method", "inputs", "outputs"] document | none
  return ⟨← required? string? method, ← required? (map? TensorInfo.ofJson?) inputs,
    ← required? (map? TensorInfo.ofJson?) outputs⟩

end CallSignature

namespace Architecture

def json (a : Architecture) : Json := .string a.name

def ofJson? : Json → Option Architecture := choice? .direct names

end Architecture

namespace Description

/-- An empty list of hidden layers is left out. -/
def hiddenUnitsMember (hiddenUnits : List Nat) : List (String × Json) :=
  if hiddenUnits.isEmpty then [] else [("hidden_units", .nats hiddenUnits)]

def json (d : Description) : Json :=
  .object ([("format_version", .nat d.formatVersion.toNat), ("estimator", .string d.estimator),
      ("architecture", d.architecture.json), ("head", d.head.json),
      ("feature_columns", .array (d.columns.map InputColumn.json))]
    ++ hiddenUnitsMember d.hiddenUnits
    ++ [("global_step", .nat d.steps.toNat),
      ("signatures", .object (d.signatures.mapValues CallSignature.json))])

def fieldNames : List String :=
  ["format_version", "estimator", "architecture", "head", "feature_columns", "hidden_units",
    "global_step", "signatures"]

def ofJson? (document : Json) : Option Description := do
  let [version, estimator, architecture, head, columns, hiddenUnits, steps, signatures] ←
    fields? fieldNames document | none
  return {
    formatVersion := UInt32.ofNat (← required? (nat? 32) version)
    estimator := ← required? string? estimator
    architecture := ← required? Architecture.ofJson? architecture
    head := ← required? Head.ofJson? head
    columns := ← required? (list? InputColumn.ofJson?) columns
    hiddenUnits := ← defaulted? [] (list? (nat? 64)) hiddenUnits
    steps := UInt64.ofNat (← required? (nat? 64) steps)
    signatures := ← required? (map? CallSignature.ofJson?) signatures }

end Description

namespace Variable

def json (v : Variable) : Json :=
  .object [("shape", .nats v.shape), ("values", .array (v.values.map .real))]

/-- A variable whose values are read in the given way. -/
def read? (value? : Json → Option Float) (document : Json) : Option Variable := do
  let [shape, values] ← fields? ["shape", "values"] document | none
  return ⟨← required? (list? (nat? 64)) shape, ← required? (list? value?) values⟩

end Variable

namespace Variables

def json (recorded : Variables) : Json :=
  .object [("tensors", .object (recorded.mapValues Variable.json))]

/-- Variables whose values are read in the given way. -/
def read? (value? : Json → Option Float) (document : Json) : Option Variables := do
  let [tensors] ← fields? ["tensors"] document | none
  required? (map? (Variable.read? value?)) tensors

def ofJson? (document : Json) : Option Variables := read? float? document

/-- A value, or any number for a gap. -/
def valueOrGap? : Json → Option Float
  | .null => some 0
  | document => float? document

/-- Why a text does not stand for variables: there are gaps among the values and nothing else is
amiss, or it is anything else. -/
def misfit (text : String) : Misfit :=
  if ((Json.parse? text).bind (read? valueOrGap?)).isSome then
    (nullPlace? text).elim .form .gap
  else .form

end Variables
end Exemplar
