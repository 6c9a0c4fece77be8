/-!
# Words of a command line

A word that starts with a dash sets something: after two dashes a setting by its long name, with a
value behind an equals sign or without one, and after one dash one or more settings by their
letters. A dash alone is an ordinary word, and two dashes alone end the settings.
-/

namespace Highlighter.CommandLine

/-- What a word of the command line looks like. -/
inductive Word where
  /-- A word that sets nothing. -/
  | plain (text : String)
  /-- A long name, perhaps with a value. -/
  | long (name : String) (value : Option String)
  /-- Letters, perhaps with a value behind the last. -/
  | letters (cluster : List Char)
  /-- The end of the settings. -/
  | terminator
deriving DecidableEq, Repr

namespace Word

/-- The long name up to the first equals sign, and the value behind it. -/
def ofLong (text : List Char) : Word :=
  let name := String.ofList (text.takeWhile (· ≠ '='))
  match text.dropWhile (· ≠ '=') with
  | [] => long name none
  | _ :: value => long name (some (String.ofList value))

/-- The form of a word. -/
def ofText (text : String) : Word :=
  match text.toList with
  | ['-', '-'] => terminator
  | '-' :: '-' :: rest => ofLong rest
  | ['-'] => plain text
  | '-' :: rest => letters rest
  | _ => plain text

end Word

end Highlighter.CommandLine
