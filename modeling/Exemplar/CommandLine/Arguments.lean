/-
What the arguments of the program mean.

A command is followed by its settings: `--name value` or `--name=value`, or a bare
`--name` for what is only switched on.  Only fixtures may be named several times.
Asking for more messages is possible everywhere and changes nothing else.
-/
import Exemplar.Decimal.Literal
import Exemplar.Files.Path

namespace Exemplar
namespace CommandLine

inductive Command where
  | build
  | verify
  | list
  deriving DecidableEq, Repr

inductive Setting where
  | fixture (name : String)
  | configuration (path : Path)
  | sheetDirectory (path : Path)
  | artifactDirectory (path : Path)
  | steps (count : UInt64)
  | keepGoing
  deriving DecidableEq, Repr

/-- Reasons to stop before anything is done. -/
inductive Stop where
  | wrongUsage
  | help
  | version
  deriving DecidableEq, Repr

structure Invocation where
  command : Command
  settings : List Setting
  deriving DecidableEq, Repr

def Command.names : List (String × Command) :=
  [("build", .build), ("verify", .verify), ("list", .list)]

namespace Setting

/-- The name that a setting goes by. -/
def name : Setting → String
  | fixture _ => "fixture"
  | configuration _ => "config"
  | sheetDirectory _ => "csv-dir"
  | artifactDirectory _ => "savedmodel-dir"
  | steps _ => "steps"
  | keepGoing => "keep-going"

def mayRepeat : Setting → Bool
  | fixture _ => true
  | _ => false

/-- A path, which must not be empty. -/
def path? (text : String) : Option Path := if text = "" then none else some ⟨text⟩

/-- A count that fits in a 64-bit word; a plus sign may stand before it. -/
def count? (text : String) : Option UInt64 :=
  let digits := match text.toList with
    | '+' :: rest => rest
    | all => all
  (Decimal.readNat? digits).bind fun n => if n < twoTo 64 then some (UInt64.ofNat n) else none

/-- A setting from its name and value. -/
def ofValue? (name value : String) : Option Setting :=
  if name = "fixture" then some (fixture value)
  else if name = "config" then (path? value).map configuration
  else if name = "csv-dir" then (path? value).map sheetDirectory
  else if name = "savedmodel-dir" then (path? value).map artifactDirectory
  else if name = "steps" then (count? value).map steps
  else none

/-- A setting that takes no value. -/
def ofName? (name : String) : Option Setting := if name = "keep-going" then some keepGoing else none

end Setting

namespace Command

/-- The settings of a command that take a value. -/
def valued : Command → List String
  | build => ["fixture", "config", "csv-dir", "savedmodel-dir", "steps"]
  | verify => ["fixture", "config", "csv-dir", "savedmodel-dir"]
  | list => ["config"]

/-- The settings of a command that take none. -/
def switches : Command → List String
  | build | verify => ["keep-going"]
  | list => []

end Command

/-- Whether an argument looks like an option and so cannot be a value. -/
def looksLikeOption (argument : String) : Bool :=
  match argument.toList with
  | '-' :: _ :: _ => true
  | _ => false

/-- The name of a long option, and the value after an equals sign. -/
def longOption? (argument : String) : Option (String × Option String) :=
  match argument.toList with
  | '-' :: '-' :: rest =>
    let name := String.ofList (rest.takeWhile (· ≠ '='))
    match rest.dropWhile (· ≠ '=') with
    | [] => some (name, none)
    | _ :: value => some (name, some (String.ofList value))
  | _ => none

/-- Single letters after one dash.  A request for help or the version ends the reading. -/
def readLetters (allowVersion : Bool) : List Char → Except Stop Unit
  | [] => .ok ()
  | c :: rest =>
    if c = 'v' then readLetters allowVersion rest
    else if c = 'h' then .error .help
    else if c = 'V' ∧ allowVersion then .error .version
    else .error .wrongUsage

/-! ## The settings of a command -/

/-- How far the settings have been read. -/
structure Progress where
  /-- Last first. -/
  settings : List Setting := []
  /-- A setting that still needs its value. -/
  pending : Option String := none
  /-- Whether nothing may follow any more. -/
  closed : Bool := false

namespace Progress

def add (p : Progress) : Option Setting → Except Stop Progress
  | none => .error .wrongUsage
  | some setting =>
    if !setting.mayRepeat && p.settings.any (·.name = setting.name) then .error .wrongUsage
    else .ok { p with settings := setting :: p.settings, pending := none }

/-- A long option without its dashes. -/
def readLong (command : Command) (p : Progress) (name : String) :
    Option String → Except Stop Progress
  | some value =>
    if command.valued.contains name then p.add (Setting.ofValue? name value)
    else .error .wrongUsage
  | none =>
    if command.valued.contains name then .ok { p with pending := some name }
    else if command.switches.contains name then p.add (Setting.ofName? name)
    else if name = "verbose" then .ok p
    else if name = "help" then .error .help
    else .error .wrongUsage

/-- An argument where no value is expected. -/
def readOption (command : Command) (p : Progress) (argument : String) : Except Stop Progress :=
  if argument = "--" then .ok { p with closed := true }
  else
    match longOption? argument with
    | some (name, value?) => p.readLong command name value?
    | none =>
      match argument.toList with
      | '-' :: c :: letters => (readLetters false (c :: letters)).map fun () => p
      | _ => .error .wrongUsage

def read (command : Command) (p : Progress) (argument : String) : Except Stop Progress :=
  if p.closed then .error .wrongUsage
  else
    match p.pending with
    | some name =>
      if looksLikeOption argument then .error .wrongUsage
      else p.add (Setting.ofValue? name argument)
    | none => p.readOption command argument

end Progress

def readSettings (command : Command) (arguments : List String) : Except Stop (List Setting) := do
  let p ← arguments.foldlM (Progress.read command) {}
  if p.pending.isSome then .error .wrongUsage else return p.settings.reverse

/-! ## Commands -/

/-- An option before the command. -/
def readGeneral (argument : String) : Except Stop Unit :=
  if argument = "--verbose" then .ok ()
  else if argument = "--help" then .error .help
  else if argument = "--version" then .error .version
  else
    match argument.toList with
    | '-' :: '-' :: _ => .error .wrongUsage
    | '-' :: c :: letters => readLetters true (c :: letters)
    | _ => .error .wrongUsage

/-- What to do when help is asked for by name. -/
def readHelp : List String → Stop
  | [] => .help
  | [topic] => if topic = "help" ∨ (Command.names.lookup topic).isSome then .help else .wrongUsage
  | _ => .wrongUsage

def parse : List String → Except Stop Invocation
  | [] => .error .wrongUsage
  | argument :: rest =>
    match Command.names.lookup argument with
    | some command => (readSettings command rest).map (⟨command, ·⟩)
    | none =>
      if argument = "help" then .error (readHelp rest)
      else
        match readGeneral argument with
        | .ok () => parse rest
        | .error stop => .error stop

end CommandLine
end Exemplar
