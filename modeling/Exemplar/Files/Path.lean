/-
Paths as text, the way they are given and shown.

A path keeps the text it was made from; `join` glues texts, and comparisons look
at the components, so doubled and trailing slashes and single dots inside a path
do not matter to them.
-/
namespace Exemplar

structure Path where
  text : String
  deriving DecidableEq, Repr

namespace Path

inductive Component where
  | root
  | here
  | parent
  | name (text : String)
  deriving DecidableEq, Repr

def isAbsolute (p : Path) : Bool := p.text.toList.head? == some '/'

/-- Whether the text ends in a slash, which asks for a directory. -/
def endsInSlash (p : Path) : Bool := p.text.toList.getLast? == some '/'

/-- The texts between slashes, without the empty ones. -/
def segments (p : Path) : List String :=
  ((p.text.toList.splitOn '/').filter (!·.isEmpty)).map String.ofList

def Component.ofSegment? (segment : String) : Option Component :=
  if segment = "." then none
  else if segment = ".." then some .parent
  else some (.name segment)

/-- What stands at the end of a path, where a dot counts as well. -/
def last (p : Path) : Component :=
  match p.segments.getLast? with
  | none => .root
  | some segment => (Component.ofSegment? segment).getD .here

/-- The components of a path.  A dot counts only as the start of a relative path. -/
def components (p : Path) : List Component :=
  let start :=
    if p.isAbsolute then [.root]
    else if p.segments.head? = some "." then [.here]
    else []
  start ++ p.segments.filterMap Component.ofSegment?

/-- Whether `p` lies at or below `top`. -/
def startsWith (p top : Path) : Bool := top.components.isPrefixOf p.components

/-- The last component, if it is a name. -/
def fileName? (p : Path) : Option String :=
  match p.components.getLast? with
  | some (.name text) => some text
  | _ => none

/-- The last component as characters, none if it is no name. -/
def nameChars (p : Path) : List Char := (p.fileName?.getD "").toList

def nameBeginsWith (p : Path) (beginning : String) : Bool :=
  beginning.toList.isPrefixOf p.nameChars

def nameEndsIn (p : Path) (ending : String) : Bool := ending.toList.isSuffixOf p.nameChars

/-- `p` seen from `base`.  An absolute path stays what it is. -/
def join (base p : Path) : Path :=
  if p.isAbsolute || base.text = "" then p
  else if base.endsInSlash then ⟨base.text ++ p.text⟩
  else ⟨base.text ++ "/" ++ p.text⟩

/-- The entry called `name` of the directory `base`. -/
def entry (base : Path) (name : String) : Path := base.join ⟨name⟩

/-- A path to the entry reached through `names`. -/
def descend (base : Path) (names : List String) : Path := names.foldl entry base

def Component.text : Component → String
  | root => ""
  | here => "."
  | parent => ".."
  | name text => text

def ofComponents : List Component → Path
  | [.root] => ⟨"/"⟩
  | components => ⟨String.intercalate "/" (components.map Component.text)⟩

/-- The path itself and then the paths with fewer and fewer of its components.  A dot at the end is
no component, so what comes next is not the directory that the path names, but the one above. -/
def upwards (p : Path) : List Path :=
  p :: ((List.range p.components.length).reverse.map fun n => ofComponents (p.components.take n))

end Path
end Exemplar
