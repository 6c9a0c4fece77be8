import Highlighter.Command.Highlight
import Highlighter.Command.Languages
import Highlighter.Config.File

/-!
# Commands

The commands of the program with their arguments. Running one in a session gives what it writes to
the standard output, whether it succeeded, and the files as they are afterwards.
-/

namespace Highlighter

/-- A command with its arguments. -/
inductive Command where
  /-- List the tokens of a file. -/
  | tokens (path : String) (language : Option String) (format : ListingFormat)
  /-- Show files in colours. -/
  | highlight (paths : List String) (language : Option String) (jobs : Option Nat)
  /-- List the languages. -/
  | languages
  /-- Show the configuration, or write it to a file. -/
  | config (target : Option String)
deriving DecidableEq, Repr

/-- What a command leaves behind. -/
structure Effect where
  /-- What it wrote to the standard output. -/
  output : String
  /-- Whether it succeeded, or else why not. -/
  result : Except Error Unit
  /-- The files after it. -/
  files : FileTree

namespace Effect

/-- The effect of a command that writes its output if it succeeds and leaves the files alone. -/
def ofOutput (files : FileTree) : Except Error String → Effect
  | .ok output => ⟨output, .ok (), files⟩
  | .error error => ⟨"", .error error, files⟩

end Effect

namespace Session

/-- Writes the configuration of a session as a document. -/
def document (session : Session) : Except Error String :=
  session.config.toText?.elim (.error (.configuration .unwritable)) .ok

end Session

namespace Command

/-- The paths of the inputs that a command reads. -/
def inputPaths : Command → List String
  | tokens path _ _ => [path]
  | highlight paths _ _ => paths
  | languages | config _ => []

/-- Runs a command in a session. -/
def run (session : Session) (inputs : Inputs) : Command → Effect
  | tokens path language format =>
    .ofOutput inputs.files (session.listTokens inputs language format path)
  | highlight paths language jobs =>
    match session.highlight inputs language jobs paths with
    | .error error => ⟨"", .error error, inputs.files⟩
    | .ok results =>
      let failed := Session.failedPaths paths results
      ⟨Session.shown results, Session.completion failed, inputs.files⟩
  | languages => .ofOutput inputs.files (.ok session.listLanguages)
  | config none => .ofOutput inputs.files session.document
  | config (some path) =>
    let (result, files) := session.config.save inputs.files path
    ⟨"", result, files⟩

end Command

end Highlighter
