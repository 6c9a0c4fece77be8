import Highlighter.CommandLine.Items

/-!
# Levels of a command line

A command line has two levels: settings up to the name of the command, and behind it settings and
ordinary words. A setting may be given once at each level. The parts are taken from left to right,
and the first one that is out of place or asks for a text ends the reading. A value in a word of its
own is checked only when the next part of its level is taken, or else at the end: a text that the
inner level asks for comes before the complaint about a value in front of the command.
-/

namespace Highlighter.CommandLine

/-- What a text about the program is about. -/
inductive Topic where
  /-- The program as a whole. -/
  | program
  /-- One of the commands. -/
  | command (verb : Verb)
  /-- The command that helps. -/
  | manual
deriving DecidableEq, Repr

/-- Decides whether one more ordinary word may follow those that are there. -/
def Topic.takesOperand : Topic → List String → Bool
  | program, _ | manual, _ => false
  | command verb, operands => verb.takesOperand operands

/-- A text that the program has about itself. -/
inductive Notice where
  /-- How it is used, perhaps at length. -/
  | help (topic : Topic) (isLong : Bool)
  /-- Its version. -/
  | version (topic : Topic)
deriving DecidableEq, Repr

/-- Why the reading of a command line ends without a command to run. -/
inductive Stop where
  /-- Something is out of place or missing. -/
  | misused
  /-- A text is asked for. -/
  | informed (notice : Notice)
deriving DecidableEq, Repr

namespace Stop

/-- How the command that helps ends with the words behind it. -/
def ofManual : List String → Stop
  | [] => informed (.help .program true)
  | [name] =>
    if name = "help" then informed (.help .manual true)
    else match Verb.ofName? name with
      | some verb => informed (.help (.command verb) true)
      | none => misused
  | _ => misused

end Stop

/-- What is given at one level of a command line. -/
structure Level where
  /-- The settings with their values. -/
  settings : List (Setting × String) := []
  /-- The ordinary words. -/
  operands : List String := []

namespace Level

/-- The value of a setting, if it is given. -/
def value? (level : Level) (name : Setting) : Option String :=
  level.settings.lookup name

/-- Decides whether a setting is given. -/
def has (level : Level) (name : Setting) : Bool :=
  (level.value? name).isSome

/-- Adds a setting that is not given yet. -/
def set (level : Level) (name : Setting) (value : String) : Except Stop Level :=
  if level.has name || !name.admits value then .error .misused
  else .ok { level with settings := level.settings ++ [(name, value)] }

/-- Adds an ordinary word, which is a path. -/
def addOperand (level : Level) (topic : Topic) (text : String) : Except Stop Level :=
  if topic.takesOperand level.operands && (Value.path? text).isSome then
    .ok { level with operands := level.operands ++ [text] }
  else .error .misused

end Level

/-- A level that is being read. -/
structure Progress where
  /-- What has been read. -/
  level : Level := {}
  /-- The last setting, if its value is a word of its own, and the value unless it is to come. -/
  unsettled : Option (Setting × Option String) := none

namespace Progress

/-- The level with the last setting, once that has its value. -/
def settle (progress : Progress) : Except Stop Level :=
  match progress.unsettled with
  | none => .ok progress.level
  | some (_, none) => .error .misused
  | some (name, some value) => progress.level.set name value

/-- What becomes of a level with one more part. -/
def ofItem (topic : Topic) (level : Level) : Item → Except Stop Progress
  | .setting name value => (level.set name value).map ({ level := · })
  | .pending name => .ok { level, unsettled := some (name, none) }
  | .operand text => (level.addOperand topic text).map ({ level := · })
  | .terminator => .ok { level }
  | .help isLong => .error (.informed (.help topic isLong))
  | .version => .error (.informed (.version topic))
  | .command _ | .manual _ | .unknown => .error .misused

/-- Takes one part. -/
def accept (topic : Topic) (progress : Progress) (item : Item) : Except Stop Progress :=
  match progress.unsettled, item with
  | some (name, none), .operand value =>
    .ok { progress with unsettled := some (name, some value) }
  | _, _ => do ofItem topic (← progress.settle) item

end Progress

/-- A command line that is being read. -/
structure Reading where
  /-- The level in front of the name of the command. -/
  outer : Progress := {}
  /-- The command with the level behind its name, once that has come. -/
  inner : Option (Verb × Progress) := none

namespace Reading

/-- Takes one part. -/
def accept (reading : Reading) (item : Item) : Except Stop Reading :=
  match reading.inner, item with
  | none, .command verb => .ok { reading with inner := some (verb, {}) }
  | none, .manual words => .error (Stop.ofManual words)
  | none, _ => (reading.outer.accept .program item).map ({ reading with outer := · })
  | some (verb, inner), _ =>
    (inner.accept (.command verb) item).map fun inner =>
      { reading with inner := some (verb, inner) }

/-- The levels of the command line with the command between them, once there is nothing more. -/
def finish (reading : Reading) : Except Stop (Level × Verb × Level) :=
  match reading.inner with
  | none => .error .misused
  | some (verb, progress) => do
    let inner ← progress.settle
    let outer ← reading.outer.settle
    return (outer, verb, inner)

/-- Takes all parts of a command line. -/
def ofWords (words : List String) : Except Stop (Level × Verb × Level) := do
  finish (← (Item.ofWords false words).foldlM accept {})

end Reading

end Highlighter.CommandLine
