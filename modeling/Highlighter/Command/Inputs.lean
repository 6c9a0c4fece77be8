import Highlighter.Error
import Highlighter.FileTree

/-!
# Inputs of commands

Commands read files and the standard input. The standard input goes by a path of its own and can be
read once: from then on it is empty.
-/

namespace Highlighter

/-- What commands read from. -/
structure Inputs where
  /-- The files. -/
  files : FileTree
  /-- What is left of the standard input. -/
  standard : ByteArray := .empty

namespace Inputs

/-- The path that stands for the standard input. -/
def standardPath : String := "-"

/-- The text of an input. -/
def source (inputs : Inputs) (path : String) : Except Error String :=
  if path = standardPath then
    match String.fromUTF8? inputs.standard with
    | some text => .ok text
    | none => .error .inputOutput
  else match inputs.files.find? path with
    | none => .error (.inputMissing path)
    | some (.directory _) => .error (.inputNotFile path)
    | some (.file contents) => match String.fromUTF8? contents with
      | some text => .ok text
      | none => .error (.inputNotText path)

/-- What is left after an input has been read. -/
def after (inputs : Inputs) (path : String) : Inputs :=
  if path = standardPath then { inputs with standard := .empty } else inputs

end Inputs

end Highlighter
