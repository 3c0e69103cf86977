/-
How the machine that a program runs on answers its requests.
-/
import Exemplar.Files.Action
import Std.Time.DateTime.Timestamp

namespace Exemplar
namespace Machine

/-! ## Errors -/

/-- The number and the words of the machine for an error. -/
def codeOf : IO.Error → Nat × String
  | .alreadyExists _ code details | .interrupted _ code details
  | .noFileOrDirectory _ code details | .invalidArgument _ code details
  | .permissionDenied _ code details | .resourceExhausted _ code details
  | .inappropriateType _ code details | .noSuchThing _ code details
  | .otherError code details | .resourceBusy code details | .resourceVanished code details
  | .unsupportedOperation code details | .hardwareFault code details
  | .unsatisfiedConstraints code details | .illegalOperation code details
  | .protocolError code details | .timeExpired code details => (code.toNat, details)
  | .unexpectedEof => (0, "unexpected end of file")
  | .userError text => (0, text)

/-- Some operations answer the negative of an error's number, as a 32-bit word. -/
def unsignedCode (code : Nat) : Nat := if code < twoTo 31 then code else twoTo 32 - code

/-- The errors that have a name here. -/
def namedErrors : List FileError :=
  [.notFound, .busy, .alreadyExists, .otherDevice, .notADirectory, .isADirectory,
    .invalidArgument, .nameTooLong, .notEmpty]

def errorOf (error : IO.Error) : FileError :=
  let (word, text) := codeOf error
  let code := unsignedCode word
  (namedErrors.find? fun known => known.code?.any (·.1 = code)).getD
    (.system code text.capitalize)

/-- What comes of an operation on a path. -/
def attempt {α : Type} (path : Path) (operation : IO α) : IO (Except FileError α) := do
  if path.text.toList.contains '\x00' then return .error .zeroInPath
  try
    return .ok (← operation)
  catch error => return .error (errorOf error)

/-! ## Directories -/

/-- The path in the form in which the machine takes it. -/
def located (path : Path) : IO.FS.DirEntry := ⟨path.text, ""⟩

def kindOfType : IO.FS.FileType → Kind
  | .dir => .directory
  | _ => .file

def kindOf (path : Path) : IO (Option Kind) := do
  match ← attempt path (located path).root.metadata with
  | .ok found => return some (kindOfType found.type)
  | .error _ => return none

/-- The names in a directory. -/
def list (path : Path) : IO (List String) := do
  return (← (located path).root.readDir).toList.map (·.fileName)

/-- Everything below a directory that is reached through `names`, each directory before what is in
it.  Links are not followed. -/
partial def walk (names : List String) (path : Path) : IO (List (List String × Kind)) := do
  let mut found := []
  for name in ← list path do
    let kind := kindOfType (← (located (path.entry name)).root.symlinkMetadata).type
    found := found ++ [(names ++ [name], kind)]
    if kind = .directory then found := found ++ (← walk (names ++ [name]) (path.entry name))
  return found

/-- The path to a directory from the root, without dots and links. -/
def locate (path : Path) : IO (Except FileError Path) := do
  match ← attempt path (IO.FS.realPath path.text) with
  | .error error => return .error error
  | .ok found =>
    match ← kindOf path with
    | some .directory => return .ok ⟨found.toString⟩
    | _ => return .error .notADirectory

/-! ## Files -/

def read (path : Path) : IO (Except ReadError ByteArray) := do
  match ← attempt path (IO.FS.Handle.mk path.text .read) with
  | .error error => return .error (.opening error)
  | .ok handle => return (← attempt path handle.readBinToEnd).mapError .reading

/-! ## Temporary names -/

def nameLetters : List Char :=
  "0123456789ABCDEFGHIJKLMNOPQRSTUVWXYZabcdefghijklmnopqrstuvwxyz".toList

/-- Six letters by chance. -/
def randomText : IO String := do
  let bytes ← IO.getRandomBytes 6
  return String.ofList (bytes.toList.map fun byte =>
    nameLetters[byte.toNat % nameLetters.length]?.getD '0')

/-- Creates something under a name that nobody else uses, trying again while names are taken. -/
def createUnique (candidate : String → Path) (create : Path → IO Unit) :
    Nat → IO (Except FileError Path)
  | 0 => return .error .alreadyExists
  | tries + 1 => do
    let path := candidate (← randomText)
    match ← attempt path (create path) with
    | .ok () => return .ok path
    | .error .alreadyExists => createUnique candidate create tries
    | .error error => return .error (.about path error)

/-- How often another temporary name is tried. -/
def mostTries : Nat := 65536

def absolute (path : Path) : IO Path := return Path.join ⟨(← IO.currentDir).toString⟩ path

def createFile (path : Path) : IO Unit := do
  let _ ← IO.FS.Handle.mk path.text .writeNew
  return ()

/-! ## Requests -/

def answer : (r : Request) → IO r.Reply
  | .kindOf path => kindOf path
  | .makeDirectory path => attempt path (IO.FS.createDir path.text)
  | .list path => attempt path (list path)
  | .walk path => attempt path (walk [] path)
  | .locate path => locate path
  | .read path => read path
  | .write path bytes => attempt path (IO.FS.writeBinFile path.text bytes)
  | .newFile directory beginning ending => do
    let base ← absolute directory
    createUnique (fun text => base.entry (beginning ++ text ++ ending)) createFile mostTries
  | .newDirectory directory beginning => do
    let base ← absolute directory
    createUnique (fun text => base.entry (beginning ++ text)) (IO.FS.createDir ·.text) mostTries
  | .removeFile path => attempt path (IO.FS.removeFile path.text)
  | .removeDirectory path => attempt path (IO.FS.removeDir path.text)
  | .rename source target => do
    if target.text.toList.contains '\x00' then return .error .zeroInPath
    attempt source (IO.FS.rename source.text target.text)
  | .clock => return (← Std.Time.Timestamp.now).toSecondsSinceUnixEpoch.val.toNat
  | .processNumber => return (← IO.getTID).toNat

/-- Runs a program on the machine. -/
def run {α : Type} : Action α → IO α
  | .done value => return value
  | .ask request next => do run (next (← answer request))

end Machine
end Exemplar
