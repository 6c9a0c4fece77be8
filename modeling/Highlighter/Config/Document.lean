import Highlighter.Config.Basic
import Highlighter.Toml.Reader
import Highlighter.Toml.Writer

/-!
# Configuration documents

A configuration is a document with a key for each setting, a table of styles and one table for each
language. Reading takes the default for a setting that is not there. Tables of languages may hold
known keys only, whereas other keys of the document are passed over. A language may also be given as
the array of its parts in order.
-/

namespace Highlighter

open Toml (Value Entries)

namespace Config

/-! ### Reading -/

/-- The text of a string. -/
def textOf? : Value → Option String
  | .string text => some text
  | _ => none

/-- The texts of an array of strings. -/
def textsOf? : Value → Option (List String)
  | .array items => items.mapM textOf?
  | _ => none

/-- The only character of a string. -/
def characterOf? (value : Value) : Option Char := do
  match (← textOf? value).toList with
  | [c] => some c
  | _ => none

/-- The number of an integer that is not negative. -/
def countOf? : Value → Option Nat
  | .integer number => if 0 ≤ number then some number.toNat else none
  | _ => none

/-- The key under which a date in place of a table shows its text. -/
def dateKey : String := "$__toml_private_datetime"

/-- The texts of a table of strings. A date counts as a table of its own kind. -/
def stylesOf? : Value → Option (OrderedMap String String)
  | .table _ entries => do
    let styles ← entries.mapM fun (name, value) => (textOf? value).map fun style => (name, style)
    return OrderedMap.ofList styles
  | .dateTime written => some (OrderedMap.empty.insert dateKey written)
  | _ => none

/-- Puts one named part into a definition. -/
def setPart? (definition : Definition) (part : String) (value : Value) : Option Definition := do
  match part with
  | "name" => return { definition with name := ← textOf? value }
  | "aliases" => return { definition with aliases := ← textsOf? value }
  | "extensions" => return { definition with extensions := ← textsOf? value }
  | "keywords" => return { definition with keywords := ← textsOf? value }
  | "types" => return { definition with types := ← textsOf? value }
  | "operator_start" => return { definition with operatorStart := ← textOf? value }
  | "operator_continue" => return { definition with operatorContinue := ← textOf? value }
  | "punctuation" => return { definition with punctuation := ← textOf? value }
  | "number_chars" => return { definition with numberChars := ← textOf? value }
  | "ident_extra" => return { definition with wordExtra := ← textOf? value }
  | "directive_marker" => return { definition with directiveMarker := ← characterOf? value }
  | "verbatim_prefix" => return { definition with verbatimPrefix := ← characterOf? value }
  | _ => none

/-- The names of the parts of a definition, in their order. -/
def partNames : List String :=
  ["name", "aliases", "extensions", "keywords", "types", "operator_start", "operator_continue",
   "punctuation", "number_chars", "ident_extra", "directive_marker", "verbatim_prefix"]

/-- The definition with the given parts. -/
def definitionOf? (parts : Entries) : Option Definition :=
  parts.foldlM (fun definition (part, value) => setPart? definition part value) { name := "" }

/-- The definition that a table or an array of parts stands for. -/
def languageOf? : Value → Option Definition
  | .table _ entries => definitionOf? entries
  | .array parts => definitionOf? (partNames.zip parts)
  | _ => none

/-- The definitions in an array. -/
def languagesOf? : Value → Option (List Definition)
  | .array items => items.mapM languageOf?
  | .tableArray items => items.mapM definitionOf?
  | _ => none

/-- Puts one setting into a configuration. -/
def set? (config : Config) (key : String) (value : Value) : Option Config := do
  match key with
  | "jobs" => return { config with jobs := ← countOf? value }
  | "default_language" => return { config with defaultLanguage := ← textOf? value }
  | "theme" => return { config with theme := ← stylesOf? value }
  | "language" => return { config with languages := ← languagesOf? value }
  | _ => return config

/-- The configuration that the entries of a document stand for. What they do not set is as in the
standard configuration. -/
def ofEntries? (processors : Nat) (entries : Entries) : Option Config :=
  entries.foldlM (fun config (key, value) => config.set? key value) (standard processors)

/-- Reads a document. -/
def ofText? (processors : Nat) (document : String) : Option Config :=
  (Toml.read? document).bind (ofEntries? processors)

/-! ### Writing -/

/-- A line that sets a key. -/
def line (key value : String) : String :=
  key ++ " = " ++ value ++ "\n"

/-- A line that sets a key to a string. -/
def textLine (key text : String) : String :=
  line key (Toml.writeString text)

/-- Sets a key to a list of strings. -/
def textsLines (key : String) (texts : List String) : String :=
  line key (Toml.writeStrings texts)

/-- A line that sets a key to a character, unless there is none. -/
def characterLine (key : String) : Option Char → String
  | some c => textLine key (String.singleton c)
  | none => ""

/-- The table of a language. -/
def languageTable (definition : Definition) : String :=
  "\n[[language]]\n" ++
    textLine "name" definition.name ++
    textsLines "aliases" definition.aliases ++
    textsLines "extensions" definition.extensions ++
    textsLines "keywords" definition.keywords ++
    textsLines "types" definition.types ++
    textLine "operator_start" definition.operatorStart ++
    textLine "operator_continue" definition.operatorContinue ++
    textLine "punctuation" definition.punctuation ++
    textLine "number_chars" definition.numberChars ++
    textLine "ident_extra" definition.wordExtra ++
    characterLine "directive_marker" definition.directiveMarker ++
    characterLine "verbatim_prefix" definition.verbatimPrefix

/-- Writes a configuration as a document, unless its number of jobs is too large for an integer. -/
def toText? (config : Config) : Option String :=
  if Toml.fits config.jobs then
    let defaultLine := match config.defaultLanguage with
      | some name => textLine "default_language" name
      | none => ""
    some (line "jobs" (toString config.jobs) ++ defaultLine ++ "\n[theme]\n" ++
      String.join (config.theme.toList.map fun (kind, style) =>
        line (Toml.writeKey kind) (Toml.writeString style)) ++
      String.join (config.languages.map languageTable))
  else none

end Config

end Highlighter
