/-
File operations that take several requests.
-/
import Exemplar.Files.Action

namespace Exemplar
namespace Files

def kindOf (path : Path) : Action (Option Kind) := .request (.kindOf path)

def pathExists (path : Path) : Action Bool := return (← kindOf path).isSome

def isDirectory (path : Path) : Action Bool := return (← kindOf path) = some .directory

/-- Makes the first of the paths a directory.  The others are the directories above it, nearest
first, and are made only as far as they are missing; one that is there already is left alone. -/
def makeDirectories : List Path → Action (Except FileError Unit)
  | [] => return .ok ()
  | path :: above => do
    if path.text = "" then return .ok ()
    match ← Action.request (.makeDirectory path) with
    | .ok () => return .ok ()
    | .error .notFound =>
      match ← makeDirectories above with
      | .error error => return .error error
      | .ok () => orIfDirectory path (← Action.request (.makeDirectory path))
    | .error error => orIfDirectory path (.error error)
where
  orIfDirectory (path : Path) : Except FileError Unit → Action (Except FileError Unit)
    | .ok () => return .ok ()
    | .error error => do
      if ← isDirectory path then return .ok () else return .error error

/-- Makes a directory together with the missing ones above it. -/
def ensureDirectory (path : Path) : Action (Except FileError Unit) := makeDirectories path.upwards

/-- Removes one entry that has nothing below it. -/
def removeEntry (path : Path) : Kind → Action (Except FileError Unit)
  | .directory => Action.request (.removeDirectory path)
  | .file => Action.request (.removeFile path)

/-- Removes entries one by one until one cannot be removed. -/
def removeEntries (top : Path) : List (List String × Kind) → Action (Except FileError Unit)
  | [] => return .ok ()
  | (names, kind) :: rest => do
    match ← removeEntry (top.descend names) kind with
    | .ok () => removeEntries top rest
    | .error error => return .error error

/-- Removes all that is below a directory, from the bottom up. -/
def empty (top : Path) : Action (Except FileError Unit) := do
  match ← Action.request (.walk top) with
  | .error error => return .error error
  | .ok below => removeEntries top below.reverse

/-- Removes an emptied directory.  The path may lead nowhere any more, if it ran through what was
below the directory. -/
def removeEmptied (path : Path) : Action (Except FileError Unit) := do
  match ← Action.request (.removeDirectory path) with
  | .error .notFound => return .ok ()
  | result => return result

/-- Removes a directory and all that is below it. -/
def removeTree (path : Path) : Action (Except FileError Unit) := do
  match ← Action.request (.locate path) with
  | .error error => return .error error
  | .ok top =>
    match ← empty top with
    | .error error => return .error error
    | .ok () => removeEmptied path

/-- The entries of a directory.  Links are not followed. -/
def entries (path : Path) : Action (Except FileError (List (String × Kind))) := do
  let below ← Action.request (.walk path)
  return below.map (·.filterMap fun
    | ([name], kind) => some (name, kind)
    | _ => none)

/-- The text of a file, if its bytes are one. -/
def readText (path : Path) : Action (Except FileError String) := do
  match ← Action.request (.read path) with
  | .error error => return .error error.error
  | .ok bytes =>
    match String.fromUTF8? bytes with
    | some text => return .ok text
    | none => return .error .notText

def writeText (path : Path) (text : String) : Action (Except FileError Unit) :=
  Action.request (.write path text.toUTF8)

def copyFile (source target : Path) : Action (Except FileError Unit) := do
  match ← Action.request (.read source) with
  | .error error => return .error error.error
  | .ok bytes => Action.request (.write target bytes)

end Files
end Exemplar
