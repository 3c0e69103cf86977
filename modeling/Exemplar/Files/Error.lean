/-
What a file operation can answer when it does not succeed.
-/
import Exemplar.Files.Path
import Exemplar.Text.Quoted

namespace Exemplar

inductive FileError where
  | notFound
  | busy
  | alreadyExists
  | otherDevice
  | notADirectory
  | isADirectory
  | invalidArgument
  | nameTooLong
  | notEmpty
  /-- A path with a zero character cannot be handed to the system. -/
  | zeroInPath
  /-- The bytes of a file are no text. -/
  | notText
  /-- An answer of the system that has no name here. -/
  | system (code : Nat) (text : String)
  /-- An error that also names the path it is about. -/
  | about (path : Path) (error : FileError)
  deriving DecidableEq, Repr

namespace FileError

/-- The number and the words of the system for an error. -/
def code? : FileError → Option (Nat × String)
  | .notFound => some (2, "No such file or directory")
  | .busy => some (16, "Device or resource busy")
  | .alreadyExists => some (17, "File exists")
  | .otherDevice => some (18, "Invalid cross-device link")
  | .notADirectory => some (20, "Not a directory")
  | .isADirectory => some (21, "Is a directory")
  | .invalidArgument => some (22, "Invalid argument")
  | .nameTooLong => some (36, "File name too long")
  | .notEmpty => some (39, "Directory not empty")
  | .system code text => some (code, text)
  | .zeroInPath | .notText | .about .. => none

def message : FileError → String
  | .zeroInPath => "file name contained an unexpected NUL byte"
  | .notText => "stream did not contain valid UTF-8"
  | .about path error => error.message ++ " at path " ++ Text.quoted path.text
  | error =>
    match error.code? with
    | some (code, text) => text ++ " (os error " ++ Decimal.natText code ++ ")"
    | none => ""

end FileError
end Exemplar
