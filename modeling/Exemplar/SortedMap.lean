/-
Maps from names to values, kept as lists in the order of the names.

Names are ordered by their characters' code points, which is also the order of
their bytes.  A name that is inserted again gets the new value.
-/
namespace Exemplar

/-- Entries in strictly increasing order of their names. -/
abbrev SortedMap (α : Type) := List (String × α)

namespace SortedMap

def insert {α : Type} (name : String) (value : α) : SortedMap α → SortedMap α
  | [] => [(name, value)]
  | (n, v) :: rest =>
    if name < n then (name, value) :: (n, v) :: rest
    else if n < name then (n, v) :: insert name value rest
    else (name, value) :: rest

def get? {α : Type} (m : SortedMap α) (name : String) : Option α := m.lookup name

def keys {α : Type} (m : SortedMap α) : List String := m.map (·.1)

/-- The map of a list of entries, of which later ones count. -/
def ofList {α : Type} (entries : List (String × α)) : SortedMap α :=
  entries.foldl (fun m (name, value) => m.insert name value) []

def mapValues {α β : Type} (f : α → β) (m : SortedMap α) : SortedMap β :=
  m.map fun (name, value) => (name, f value)

/-- The distinct names of a list, in order. -/
def distinct (names : List String) : List String := (ofList (names.map (·, ()))).keys

end SortedMap
end Exemplar
