import Highlighter.Text.Basic

/-!
# Styles

A style is at most one attribute of text on a terminal: an emphasis or a foreground colour. Each
has a name, by which it is configured, and a code, by which the terminal knows it.
-/

namespace Highlighter

/-- The eight colours of a terminal. -/
inductive Colour where
  | black | red | green | yellow | blue | magenta | cyan | white
deriving DecidableEq, Repr

/-- At most one attribute of text. -/
inductive Style where
  /-- No attribute. -/
  | plain
  /-- Heavy strokes. -/
  | bold
  /-- Reduced intensity. -/
  | dim
  /-- Slanted letters. -/
  | italic
  /-- A line under the text. -/
  | underline
  /-- A foreground colour of normal intensity. -/
  | colour (shade : Colour)
  /-- A foreground colour of high intensity. -/
  | bright (shade : Colour)
deriving DecidableEq, Repr

namespace Colour

/-- The colour that has a name, given in small letters. -/
def ofName? : String → Option Colour
  | "black" => some black
  | "red" => some red
  | "green" => some green
  | "yellow" => some yellow
  | "blue" => some blue
  | "magenta" => some magenta
  | "cyan" => some cyan
  | "white" => some white
  | _ => none

/-- The place of a colour among the eight. -/
def index : Colour → Nat
  | black => 0
  | red => 1
  | green => 2
  | yellow => 3
  | blue => 4
  | magenta => 5
  | cyan => 6
  | white => 7

end Colour

namespace Style

/-- What follows the word that marks a bright colour, if the name starts with it. -/
def brightName? (name : String) : Option String :=
  if name.toList.take 7 = "bright-".toList then some (String.ofList (name.toList.drop 7)) else none

/-- The style that has a name; white space around it and ASCII case do not matter. -/
def ofName? (name : String) : Option Style :=
  match Text.foldCase (Text.trim name) with
  | "none" => some plain
  | "bold" => some bold
  | "dim" => some dim
  | "italic" => some italic
  | "underline" => some underline
  | folded => match brightName? folded with
    | some shade => (Colour.ofName? shade).map bright
    | none => (Colour.ofName? folded).map colour

/-- The code of the attribute, which is never zero; a plain style has none. -/
def code? : Style → Option Nat
  | plain => none
  | bold => some 1
  | dim => some 2
  | italic => some 3
  | underline => some 4
  | colour shade => some (30 + shade.index)
  | bright shade => some (90 + shade.index)

end Style

end Highlighter
