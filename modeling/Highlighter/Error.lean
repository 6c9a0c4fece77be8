import Highlighter.Config.Basic
import Highlighter.Registry

/-!
# Errors

Everything that can make a command fail, with its message for people and its report: the report
names the cause and quotes what it is about, and is what the program leaves behind when it fails.
-/

namespace Highlighter

/-- Why a command failed. -/
inductive Error where
  /-- The system could not read or write. -/
  | inputOutput
  /-- A definition describes no language. -/
  | definition (error : DefinitionError)
  /-- A language could not be registered or found. -/
  | registry (error : RegistryError)
  /-- The configuration or its file is at fault. -/
  | configuration (fault : ConfigFault)
  /-- There is nothing at the path of an input. -/
  | inputMissing (path : String)
  /-- There is no file at the path of an input. -/
  | inputNotFile (path : String)
  /-- The file of an input is no text. -/
  | inputNotText (path : String)
  /-- No file may be scanned at a time. -/
  | noJobs
  /-- Some of the files could not be highlighted. -/
  | filesFailed (paths : List String)
  /-- The registration of a language cannot be reported. -/
  | unreportable (language : String)
deriving DecidableEq, Repr

namespace ConfigFault

/-- The wording of a fault. -/
def reason : ConfigFault → String
  | missing path => "Configuration file not found: " ++ path
  | malformed => "Failed to parse configuration"
  | unwritable => "Failed to serialize configuration"
  | noJobs => "jobs must be at least 1"
  | theme fault => "theme: " ++ fault.reason
  | unknownDefault name => "default_language: " ++ (RegistryError.unknownLanguage name).message

end ConfigFault

namespace Error

/-- What a message says besides the category of its error. -/
def reason : Error → String
  | inputOutput => ""
  | definition error => error.message
  | registry error => error.message
  | configuration fault => fault.reason
  | inputMissing path => "Input path does not exist: " ++ path
  | inputNotFile path => "Input path is not a file: " ++ path
  | inputNotText path => path ++ ": stream did not contain valid UTF-8"
  | noJobs => "jobs must be at least 1"
  | filesFailed paths =>
    toString paths.length ++ " file(s) failed to highlight: " ++ ", ".intercalate paths
  | unreportable language => "cannot report the registration of " ++ language

/-- The full message. -/
def message (error : Error) : String :=
  match error with
  | inputOutput => "IO error"
  | definition _ | registry _ | unreportable _ => error.reason
  | configuration _ => "Configuration error: " ++ error.reason
  | inputMissing _ | inputNotFile _ | noJobs => "Validation error: " ++ error.reason
  | inputNotText _ => "File operation failed: " ++ error.reason
  | filesFailed _ => "Command execution failed: " ++ error.reason

/-- A cause with the text that it is about, quoted. -/
def quote (cause text : String) : String :=
  cause ++ "(" ++ Text.Quoted.string text ++ ")"

/-- A cause with named parts, each of them quoted. -/
def record (cause : String) (parts : List (String × String)) : String :=
  let written := parts.map fun (name, text) => name ++ ": " ++ Text.Quoted.string text
  cause ++ " \x7b " ++ ", ".intercalate written ++ " \x7d"

/-- The report of an error. -/
def report (error : Error) : String :=
  match error with
  | inputOutput => "Io"
  | definition error =>
    let parts := [("language", error.language), ("reason", error.fault.reason)]
    "Scan(" ++ record "InvalidConfiguration" parts ++ ")"
  | registry (.duplicateName owner) => "Registry(" ++ quote "DuplicateName" owner ++ ")"
  | registry (.duplicateAlias name owner) =>
    "Registry(" ++ record "DuplicateAlias" [("alias", name), ("language", owner)] ++ ")"
  | registry (.unknownLanguage name) => "Registry(" ++ quote "UnknownLanguage" name ++ ")"
  | registry (.undetected path) =>
    "Registry(" ++ quote "UnknownLanguage" ("cannot detect language of " ++ path) ++ ")"
  | configuration _ => quote "Config" error.reason
  | inputMissing _ | inputNotFile _ | noJobs => quote "Validation" error.reason
  | inputNotText _ => quote "FileOperation" error.reason
  | filesFailed _ => quote "CommandExecution" error.reason
  | unreportable _ => quote "Unreportable" error.reason

end Error

end Highlighter
