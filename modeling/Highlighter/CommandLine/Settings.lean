import Highlighter.CommandLine.Values

/-!
# Settings and commands

What can be set on the command line, and the commands with the settings that are allowed behind
their names.
-/

namespace Highlighter.CommandLine

/-- What can be set on the command line. -/
inductive Setting where
  /-- Report what happens. -/
  | verbose
  /-- The path of the configuration file. -/
  | config
  /-- Leave colours out. -/
  | noColor
  /-- The name of the language. -/
  | language
  /-- The form of a token listing. -/
  | format
  /-- How many files are scanned at a time. -/
  | jobs
  /-- The path that the configuration is written to. -/
  | write
deriving DecidableEq, Repr

namespace Setting

/-- Decides whether a setting comes with a value. -/
def takesValue : Setting → Bool
  | verbose | noColor => false
  | config | language | format | jobs | write => true

/-- Decides whether a setting can have the value. -/
def admits : Setting → String → Bool
  | verbose, _ | noColor, _ | language, _ => true
  | config, value | write, value => (Value.path? value).isSome
  | format, value => (Value.format? value).isSome
  | jobs, value => (Value.count? value).isSome

/-- The setting that has a long name. -/
def ofLong? : String → Option Setting
  | "verbose" => some verbose
  | "config" => some config
  | "no-color" => some noColor
  | "lang" => some language
  | "format" => some format
  | "jobs" => some jobs
  | "write" => some write
  | _ => none

/-- The setting that has a letter. -/
def ofLetter? : Char → Option Setting
  | 'v' => some verbose
  | 'c' => some config
  | 'l' => some language
  | 'F' => some format
  | 'j' => some jobs
  | 'w' => some write
  | _ => none

/-- The settings that are allowed at every level. -/
def shared : List Setting := [verbose, config, noColor]

end Setting

/-- The commands, without arguments. -/
inductive Verb where
  | tokens | highlight | languages | config
deriving DecidableEq, Repr

namespace Verb

/-- The command that has a name. -/
def ofName? : String → Option Verb
  | "tokens" => some tokens
  | "highlight" => some highlight
  | "languages" => some languages
  | "config" => some config
  | _ => none

/-- The settings that are allowed behind the name of a command. -/
def settings : Verb → List Setting
  | tokens => [.language, .format] ++ Setting.shared
  | highlight => [.language, .jobs] ++ Setting.shared
  | languages => Setting.shared
  | config => .write :: Setting.shared

/-- Decides whether one more ordinary word may follow those that are there. -/
def takesOperand : Verb → List String → Bool
  | tokens, operands => operands.isEmpty
  | highlight, _ => true
  | languages, _ | config, _ => false

end Verb

end Highlighter.CommandLine
