import Highlighter.CommandLine.Arguments

/-!
# Running the program

The program as a function: from the words of the command line, the environment and the inputs to
what is written, the files afterwards and the exit code.
-/

namespace Highlighter.CommandLine

/-- How the program ends. -/
inductive Status where
  /-- The command succeeded. -/
  | success
  /-- A text about the program was asked for. -/
  | informed (notice : Notice)
  /-- The command line was not understood. -/
  | misused
  /-- The command failed, or could not start. -/
  | failed (error : Error)
deriving DecidableEq, Repr

namespace Status

/-- The status that goes with a result. -/
def ofResult : Except Error Unit → Status
  | .ok () => success
  | .error error => failed error

/-- The exit code that tells the status. -/
def code : Status → Nat
  | success | informed _ => 0
  | misused => 2
  | failed (.unreportable _) => 101
  | failed _ => 1

end Status

/-- What the program leaves behind. -/
structure Outcome where
  /-- What it wrote to the standard output. -/
  output : String
  /-- How it ended. -/
  status : Status
  /-- The files after it. -/
  files : FileTree

namespace Arguments

/-- The configuration that counts: that of the file named, or else of the first one found. -/
def loadConfig (arguments : Arguments) (environment : Environment) (files : FileTree) :
    Except Error Config :=
  match arguments.configPath with
  | some path => Config.load files path environment.processors
  | none =>
    Config.find files (environment.value? "HOME") (environment.value? "XDG_CONFIG_HOME")
      environment.processors

/-- Every path that running the program may read or write. -/
def paths (arguments : Arguments) (environment : Environment) : List String :=
  let configPaths := match arguments.configPath with
    | some path => [path]
    | none => Config.candidates (environment.value? "HOME") (environment.value? "XDG_CONFIG_HOME")
  let commandPaths := match arguments.command with
    | .config target => target.toList
    | command => command.inputPaths.filter (· ≠ Inputs.standardPath)
  configPaths ++ commandPaths

/-- Opens a session as the arguments ask. -/
def openSession (arguments : Arguments) (environment : Environment) (files : FileTree) :
    Except Error Session := do
  let config ← arguments.loadConfig environment files
  Session.ofConfig config arguments.isColoured arguments.isVerbose

end Arguments

/-- Runs the program. -/
def run (words : List String) (environment : Environment) (inputs : Inputs) : Outcome :=
  match Arguments.ofWords environment words with
  | .error .misused => ⟨"", .misused, inputs.files⟩
  | .error (.informed notice) => ⟨environment.texts notice, .informed notice, inputs.files⟩
  | .ok arguments =>
    match arguments.openSession environment inputs.files with
    | .error error => ⟨"", .failed error, inputs.files⟩
    | .ok session =>
      let effect := arguments.command.run session inputs
      ⟨effect.output, .ofResult effect.result, effect.files⟩

end Highlighter.CommandLine
