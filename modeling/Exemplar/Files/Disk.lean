/-
A disk as a value, and how it answers requests.

A disk is a list of entries under absolute keys, a working directory, and the
places where another device is mounted.  Paths are walked name by name: every
name but the last must lead through a directory.  A request either changes the
disk completely or leaves it as it was.
-/
import Exemplar.Files.Action

namespace Exemplar

/-- The names that lead from the root to an entry. -/
abbrev Key := List String

inductive Entry where
  | directory
  | file (bytes : ByteArray)

def Entry.kind : Entry → Kind
  | .directory => .directory
  | .file _ => .file

structure Disk where
  entries : List (Key × Entry) := []
  workingDirectory : Key := []
  /-- Directories on which another device is mounted. -/
  mounts : List Key := []
  seconds : Nat := 0
  processNumber : Nat := 0
  /-- How many names for temporary entries have been handed out. -/
  serial : Nat := 0

namespace Disk

/-- The entry under a key.  The root is always a directory. -/
def get? (d : Disk) (key : Key) : Option Entry :=
  if key = [] then some .directory else d.entries.lookup key

/-- Puts an entry under a key, in the place of the one that was there. -/
def put (d : Disk) (key : Key) (entry : Entry) : Disk :=
  if d.entries.any (·.1 = key) then
    { d with entries := d.entries.map fun e => if e.1 = key then (key, entry) else e }
  else { d with entries := d.entries ++ [(key, entry)] }

def erase (d : Disk) (key : Key) : Disk :=
  { d with entries := d.entries.filter (·.1 ≠ key) }

/-- The names below a key, with what is there. -/
def below (d : Disk) (key : Key) : List (List String × Entry) :=
  d.entries.filterMap fun (k, entry) =>
    if key.isPrefixOf k && key.length < k.length then some (k.drop key.length, entry) else none

/-- Moves an entry and all below it; what was under the new key goes. -/
def move (d : Disk) (source target : Key) : Disk :=
  { d with entries := (d.entries.filter (·.1 ≠ target)).map fun (k, entry) =>
      if source.isPrefixOf k then (target ++ k.drop source.length, entry) else (k, entry) }

/-- The mounts that a key lies under; two keys are on one device if these agree. -/
def device (d : Disk) (key : Key) : List Key := d.mounts.filter (·.isPrefixOf key)

/-! ## Walking paths -/

/-- Longer names are refused. -/
def longestName : Nat := 255

/-- Longer paths are refused. -/
def longestPath : Nat := 4095

/-- Walks on from a key.  The last name need not lead anywhere, the others must lead to
directories. -/
def resolveFrom (d : Disk) (key : Key) : List String → Except FileError Key
  | [] => .ok key
  | name :: rest =>
    match d.get? key with
    | none => .error .notFound
    | some (.file _) => .error .notADirectory
    | some .directory =>
      if longestName < name.utf8ByteSize then .error .nameTooLong
      else if name = "." then d.resolveFrom key rest
      else if name = ".." then d.resolveFrom key.dropLast rest
      else d.resolveFrom (key ++ [name]) rest

/-- The directory in which the last name of a path is looked for. -/
def directoryOf (d : Disk) (path : Path) : Except FileError Key := do
  if path.text.toList.contains '\x00' then .error .zeroInPath
  else if path.text = "" then .error .notFound
  else if longestPath < path.text.utf8ByteSize then .error .nameTooLong
  let start := if path.isAbsolute then [] else d.workingDirectory
  let key ← d.resolveFrom start path.segments.dropLast
  match d.get? key with
  | none => .error .notFound
  | some (.file _) => .error .notADirectory
  | some .directory => .ok key

/-- The key of what stands at the end of a path, in the directory that it is looked for in. -/
def keyIn (directory : Key) : Path.Component → Except FileError Key
  | .root | .here => .ok directory
  | .parent => .ok directory.dropLast
  | .name text =>
    if longestName < text.utf8ByteSize then .error .nameTooLong else .ok (directory ++ [text])

/-- The key that a path leads to, whether or not there is an entry. -/
def resolve (d : Disk) (path : Path) : Except FileError Key := do
  keyIn (← d.directoryOf path) path.last

/-- The key of an entry that is made, removed or renamed.  The path must end in its name, since dots
give no directory in which the entry stands. -/
def resolveName (d : Disk) (path : Path) (refusal : Path.Component → FileError) :
    Except FileError Key := do
  let directory ← d.directoryOf path
  match path.last with
  | .name text => keyIn directory (.name text)
  | other => .error (refusal other)

/-- The key and the entry that a path leads to.  A final slash asks for a directory. -/
def find (d : Disk) (path : Path) : Except FileError (Key × Entry) := do
  let key ← d.resolve path
  match d.get? key with
  | none => .error .notFound
  | some .directory => .ok (key, .directory)
  | some (.file bytes) =>
    if path.endsInSlash then .error .notADirectory else .ok (key, .file bytes)

/-- The key and the entries below of the directory that a path leads to. -/
def findDirectory (d : Disk) (path : Path) : Except FileError (List (List String × Entry)) := do
  match ← d.find path with
  | (key, .directory) => .ok (d.below key)
  | (_, .file _) => .error .notADirectory

/-- The text of an absolute path to a key. -/
def pathOf (key : Key) : Path := ⟨"/" ++ String.intercalate "/" key⟩

def absolute (d : Disk) (path : Path) : Path := (pathOf d.workingDirectory).join path

/-! ## Answers -/

/-- The path to a directory from the root, which holds whatever becomes of the names by which the
directory was reached. -/
def locate (d : Disk) (path : Path) : Except FileError Path := do
  match ← d.find path with
  | (key, .directory) => .ok (pathOf key)
  | (_, .file _) => .error .notADirectory

def makeDirectory (d : Disk) (path : Path) : Except FileError Disk := do
  let key ← d.resolveName path fun _ => .alreadyExists
  if (d.get? key).isSome then .error .alreadyExists else .ok (d.put key .directory)

def write (d : Disk) (path : Path) (bytes : ByteArray) : Except FileError Disk := do
  let key ← d.resolveName path fun _ => .isADirectory
  if path.endsInSlash then .error .isADirectory
  else
    match d.get? key with
    | some .directory => .error .isADirectory
    | _ => .ok (d.put key (.file bytes))

def removeFile (d : Disk) (path : Path) : Except FileError Disk := do
  let key ← d.resolveName path fun _ => .isADirectory
  match d.get? key with
  | none => .error .notFound
  | some .directory => .error .isADirectory
  | some (.file _) => if path.endsInSlash then .error .notADirectory else .ok (d.erase key)

/-- Why a directory cannot be removed by a path that does not end in its name. -/
def unnamed : Path.Component → FileError
  | .parent => .notEmpty
  | .here => .invalidArgument
  | .root | .name _ => .busy

def removeDirectory (d : Disk) (path : Path) : Except FileError Disk := do
  let key ← d.resolveName path unnamed
  match d.get? key with
  | none => .error .notFound
  | some (.file _) => .error .notADirectory
  | some .directory => if (d.below key).isEmpty then .ok (d.erase key) else .error .notEmpty

/-- Whether an entry of the given kind may take the place of what is under a key. -/
def replaceable (d : Disk) (kind : Kind) (target : Key) : Except FileError Unit :=
  match kind, d.get? target with
  | _, none => .ok ()
  | .directory, some (.file _) => .error .notADirectory
  | .file, some .directory => .error .isADirectory
  | .file, some (.file _) => .ok ()
  | .directory, some .directory => if (d.below target).isEmpty then .ok () else .error .notEmpty

/-- Gives what is under one key another. -/
def renameKey (d : Disk) (old new : Key) (asDirectory : Bool) : Except FileError Disk :=
  match d.get? old with
  | none => .error .notFound
  | some entry =>
    if entry.kind = .file ∧ asDirectory then .error .notADirectory
    else if old = new then .ok d
    else if old.isPrefixOf new then .error .invalidArgument
    else if new.isPrefixOf old then .error .notEmpty
    else do
      d.replaceable entry.kind new
      return d.move old new

def rename (d : Disk) (source target : Path) : Except FileError Disk := do
  if d.device (← d.directoryOf source) ≠ d.device (← d.directoryOf target) then .error .otherDevice
  else
    let old ← d.resolveName source fun _ => .busy
    let new ← d.resolveName target fun _ => .busy
    d.renameKey old new (source.endsInSlash || target.endsInSlash)

/-- Six digits that tell temporary names apart. -/
def serialText (serial : Nat) : String :=
  let digits := Decimal.natDigits serial
  String.ofList (List.replicate (6 - digits.length) '0' ++ digits)

/-- Makes a new entry under the first free temporary name. -/
def newEntry (d : Disk) (directory : Path) (beginning ending : String) (entry : Entry) :
    Except FileError Path × Disk :=
  let candidate (serial : Nat) : Path :=
    (d.absolute directory).entry (beginning ++ serialText serial ++ ending)
  let taken (serial : Nat) : Bool :=
    match d.resolve (candidate serial) with
    | .ok key => (d.get? key).isSome
    | .error _ => false
  let serial := ((List.range d.entries.length).map (d.serial + ·)).find? (!taken ·)
    |>.getD (d.serial + d.entries.length)
  let path := candidate serial
  match d.resolve path with
  | .ok key => (.ok path, { d.put key entry with serial := serial + 1 })
  | .error error => (.error (.about path error), d)

/-- The answer without a value of a request that may change the disk. -/
def commit (d : Disk) : Except FileError Disk → Except FileError Unit × Disk
  | .ok next => (.ok (), next)
  | .error error => (.error error, d)

def readFile (d : Disk) (path : Path) : Except ReadError ByteArray :=
  match d.find path with
  | .ok (_, .file bytes) => .ok bytes
  | .ok (_, .directory) => .error (.reading .isADirectory)
  | .error error => .error (.opening error)

/-- Puts an entry before the first one that is no less deep. -/
def insertByDepth (e : List String × Kind) : List (List String × Kind) → List (List String × Kind)
  | [] => [e]
  | f :: rest => if e.1.length ≤ f.1.length then e :: f :: rest else f :: insertByDepth e rest

/-- Entries in the order of their depth, those of one depth in the order in which they were. -/
def byDepth (below : List (List String × Kind)) : List (List String × Kind) :=
  below.foldr insertByDepth []

/-- What a disk answers to a request, and the disk afterwards. -/
def answer : (r : Request) → Disk → r.Reply × Disk
  | .kindOf path, d => ((d.find path).toOption.map fun found => found.2.kind, d)
  | .makeDirectory path, d => d.commit (d.makeDirectory path)
  | .list path, d =>
    ((d.findDirectory path).map (·.filterMap fun
      | ([name], _) => some name
      | _ => none), d)
  | .walk path, d =>
    ((d.findDirectory path).map fun below =>
      byDepth (below.map fun (names, entry) => (names, entry.kind)), d)
  | .locate path, d => (d.locate path, d)
  | .read path, d => (d.readFile path, d)
  | .write path bytes, d => d.commit (d.write path bytes)
  | .newFile directory beginning ending, d =>
    d.newEntry directory beginning ending (.file ByteArray.empty)
  | .newDirectory directory beginning, d => d.newEntry directory beginning "" .directory
  | .removeFile path, d => d.commit (d.removeFile path)
  | .removeDirectory path, d => d.commit (d.removeDirectory path)
  | .rename source target, d => d.commit (d.rename source target)
  | .clock, d => (d.seconds, d)
  | .processNumber, d => (d.processNumber, d)

/-- Runs a program on a disk. -/
def run {α : Type} (program : Action α) (d : Disk) : α × Disk := program.run answer d

end Disk
end Exemplar
