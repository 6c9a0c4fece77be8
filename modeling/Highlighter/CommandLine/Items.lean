import Highlighter.CommandLine.Settings
import Highlighter.CommandLine.Words

/-!
# Parts of a command line

The words of a command line taken apart. Where a part ends does not depend on what it means: a word
in front of the name of the command holds settings or is the value of the one before it, and behind
the name ordinary words and settings come in any order. The value of a setting stands in the same
word or is the next one, which then has to be an ordinary word.
-/

namespace Highlighter.CommandLine

/-- One part of a command line. -/
inductive Item where
  /-- A setting with its value, which is empty if the setting takes none. -/
  | setting (name : Setting) (value : String)
  /-- A setting whose value is still to come. -/
  | pending (name : Setting)
  /-- An ordinary word. -/
  | operand (text : String)
  /-- The end of the settings. -/
  | terminator
  /-- The name of the command. -/
  | command (verb : Verb)
  /-- The wish to be helped, perhaps at length. -/
  | help (isLong : Bool)
  /-- The wish to be told the version. -/
  | version
  /-- The command that helps, with the words behind it. -/
  | manual (words : List String)
  /-- Something that does not belong there. -/
  | unknown
deriving DecidableEq, Repr

namespace Item

/-- Decides whether the value of a setting is still to come. -/
def isPending : Item → Bool
  | pending _ => true
  | _ => false

/-- The value behind a letter, without the equals sign that may separate them. -/
def attached : List Char → String
  | '=' :: value => String.ofList value
  | value => String.ofList value

/-- The parts that letters stand for, of which the first that takes a value has what follows it for
its value. Nothing counts behind a wish or a letter that does not belong there. -/
def ofLetters (allowed : List Setting) : List Char → List Item
  | [] => []
  | 'h' :: _ => [help false]
  | 'V' :: _ => [version]
  | letter :: rest => match (Setting.ofLetter? letter).filter (· ∈ allowed) with
    | none => [unknown]
    | some name =>
      if name.takesValue then [if rest = [] then pending name else setting name (attached rest)]
      else setting name "" :: ofLetters allowed rest

/-- The part that a long name stands for, perhaps with a value. -/
def ofLong (allowed : List Setting) (text : String) (value : Option String) : Item :=
  match text, value with
  | "help", none => help true
  | "version", none => version
  | _, _ => match (Setting.ofLong? text).filter (· ∈ allowed) with
    | none => unknown
    | some name => match name.takesValue, value with
      | true, some value => setting name value
      | true, none => pending name
      | false, none => setting name ""
      | false, some _ => unknown

/-- The parts of one word. -/
def ofWord (allowed : List Setting) : Word → List Item
  | .plain text => [operand text]
  | .terminator => [terminator]
  | .letters cluster => ofLetters allowed cluster
  | .long text value => [ofLong allowed text value]

/-- The parts of the words behind the name of a command. -/
def behindCommand (allowed : List Setting) : List String → List Item
  | [] => []
  | text :: rest => match Word.ofText text with
    | .terminator => terminator :: rest.map operand
    | word => ofWord allowed word ++ behindCommand allowed rest

/-- The name of a command with the parts of the words behind it. -/
def ofCommand (name : String) (rest : List String) : List Item :=
  if name = "help" then [manual rest]
  else match Verb.ofName? name with
    | none => [unknown]
    | some verb => command verb :: behindCommand verb.settings rest

/-- The parts of a command line, or of the rest of one behind a setting whose value is awaited. -/
def ofWords (isAwaited : Bool) : List String → List Item
  | [] => []
  | text :: rest => match Word.ofText text with
    | .plain text => if isAwaited then operand text :: ofWords false rest else ofCommand text rest
    | .terminator => [unknown]
    | word =>
      let items := ofWord Setting.shared word
      items ++ ofWords (items.any isPending) rest

end Item

end Highlighter.CommandLine
