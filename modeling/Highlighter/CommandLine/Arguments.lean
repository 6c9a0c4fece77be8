import Highlighter.Command.Basic
import Highlighter.CommandLine.Level

/-!
# Arguments

The meaning of a command line. Settings that are allowed at both levels may also come from variables
of the environment. A variable is consulted at every level that does not give its setting itself,
and has to be well formed there even if the other level decides.
-/

namespace Highlighter.CommandLine

/-- What the program finds where it runs. -/
structure Environment where
  /-- The names of the variables that are set, with their values. -/
  bindings : List (String × String) := []
  /-- The number of processors. -/
  processors : Nat := 1
  /-- The texts about the program, which show values of variables and fit the screen. -/
  texts : Notice → String := fun _ => ""

namespace Environment

/-- The value of a variable, if it is set. -/
def value? (environment : Environment) (name : String) : Option String :=
  environment.bindings.lookup name

end Environment

/-- The meaning of a command line. -/
structure Arguments where
  /-- Whether to report what happens. -/
  isVerbose : Bool
  /-- The path of the configuration file, if one is named. -/
  configPath : Option String
  /-- Whether output may be coloured. -/
  isColoured : Bool
  /-- The command to run. -/
  command : Command
deriving DecidableEq, Repr

namespace Arguments

/-! ### Shared settings -/

/-- Reads a value if there is one. -/
def optional? {α : Type} (read? : String → Option α) : Option String → Option (Option α)
  | none => some none
  | some text => (read? text).map some

/-- The value that a variable gives to a setting, if it is consulted at one of the levels. -/
def consulted (environment : Environment) (variableName : String) (name : Setting)
    (outer inner : Level) : Option String :=
  if outer.has name ∧ inner.has name then none else environment.value? variableName

/-- Whether a shared setting without a value is on. -/
def isOn? (environment : Environment) (variableName : String) (name : Setting)
    (outer inner : Level) : Option Bool := do
  let fallback ← optional? Value.truth? (consulted environment variableName name outer inner)
  return outer.has name || inner.has name || fallback.getD false

/-- The path of the configuration file: the inner level decides before the outer one, and both
before the environment. -/
def configPath? (environment : Environment) (outer inner : Level) : Option (Option String) := do
  let fallback ← optional? Value.path? (consulted environment "TINCT_CONFIG" .config outer inner)
  return ((inner.value? .config).or (outer.value? .config)).or fallback

/-! ### Commands -/

/-- The command that a level describes, unless an ordinary word is missing. -/
def command? (verb : Verb) (level : Level) : Option Command :=
  let language := level.value? .language
  match verb, level.operands with
  | .tokens, [path] =>
    some (.tokens path language (((level.value? .format).bind Value.format?).getD .lines))
  | .highlight, path :: paths =>
    some (.highlight (path :: paths) language ((level.value? .jobs).bind Value.count?))
  | .languages, [] => some .languages
  | .config, [] => some (.config (level.value? .write))
  | _, _ => none

/-- The meaning of the levels of a command line with the command between them. -/
def ofLevels? (environment : Environment) (outer : Level) (verb : Verb) (inner : Level) :
    Option Arguments := do
  return {
    isVerbose := ← isOn? environment "TINCT_VERBOSE" .verbose outer inner
    configPath := ← configPath? environment outer inner
    isColoured := !(← isOn? environment "TINCT_NO_COLOR" .noColor outer inner)
    command := ← command? verb inner }

/-- The meaning of a command line, unless its reading ends without a command to run. -/
def ofWords (environment : Environment) (words : List String) : Except Stop Arguments := do
  let (outer, verb, inner) ← Reading.ofWords words
  match ofLevels? environment outer verb inner with
  | none => throw .misused
  | some arguments => return arguments

end Arguments

end Highlighter.CommandLine
