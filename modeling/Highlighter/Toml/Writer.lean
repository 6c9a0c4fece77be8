import Highlighter.Text.Hex
import Highlighter.Toml.Text

/-!
# Writing strings and lists

A string is written in the first of five forms that can hold it: the plainest quotes that need no
escape, then quotes over several lines, then escapes. A list of more than one string is written
with one string to a line.
-/

namespace Highlighter.Toml

/-- A control character other than the tab and the newline. -/
def isControl (c : Char) : Bool :=
  !isText c && c != '\n'

/-- Decides whether the text has three of the given character in a row. -/
def hasTriple (c : Char) (text : List Char) : Bool :=
  match text with
  | [] => false
  | first :: rest => [c, c, c].isPrefixOf (first :: rest) || hasTriple c rest

/-- The letter that stands for a character after a backslash in every escaped form. -/
def escapeLetter? : Char → Option Char
  | '\x08' => some 'b'
  | '\t' => some 't'
  | '\x0c' => some 'f'
  | '\r' => some 'r'
  | '\\' => some '\\'
  | _ => none

/-- Escapes the characters of a string in double quotes. Over several `lines` a newline stands for
itself, and so does a double quote unless two stand right before it; `quotes` counts those. -/
def escaped (lines : Bool) (quotes : Nat) : List Char → List Char
  | [] => []
  | c :: rest =>
    if c = '"' then
      if lines ∧ quotes < 2 then '"' :: escaped lines (quotes + 1) rest
      else '\\' :: '"' :: escaped lines 0 rest
    else if c = '\n' then
      if lines then '\n' :: escaped lines 0 rest else '\\' :: 'n' :: escaped lines 0 rest
    else match escapeLetter? c with
      | some letter => '\\' :: letter :: escaped lines 0 rest
      | none =>
        if isControl c then
          '\\' :: 'u' :: (Text.hexPadded 4 c.toNat).map Char.toUpper ++ escaped lines 0 rest
        else c :: escaped lines 0 rest

/-- The line break behind opening quotes, which a string with a line break of its own is written
with. -/
def leadingBreak (text : List Char) : List Char :=
  if '\n' ∈ text then ['\n'] else []

/-- A string between double quotes on one line. -/
def inQuotes (text : List Char) : List Char :=
  '"' :: escaped false 0 text ++ ['"']

/-- A string between double quotes over several lines. -/
def inTripleQuotes (text : List Char) : List Char :=
  ['"', '"', '"'] ++ leadingBreak text ++ escaped true 0 text ++ ['"', '"', '"']

/-- A string in the first form that can hold it. -/
def stringForm (text : List Char) : List Char :=
  let hasControl := text.any isControl
  let isLine := !hasControl && !text.contains '\n'
  if isLine && !text.contains '\\' && !text.contains '"' then inQuotes text
  else if isLine && !text.contains '\'' then '\'' :: text ++ ['\'']
  else if !hasControl && !text.contains '\\' && !hasTriple '"' text then inTripleQuotes text
  else if !hasControl && !hasTriple '\'' text then
    ['\'', '\'', '\''] ++ leadingBreak text ++ text ++ ['\'', '\'', '\'']
  else if text.contains '\n' then inTripleQuotes text
  else inQuotes text

/-- Writes a string. -/
def writeString (text : String) : String :=
  String.ofList (stringForm text.toList)

/-- Writes a key, between double quotes on one line unless it needs none. -/
def writeKey (key : String) : String :=
  if key ≠ "" ∧ key.toList.all isBare then key else String.ofList (inQuotes key.toList)

/-- Writes a list of strings. -/
def writeStrings : List String → String
  | [] => "[]"
  | [text] => "[" ++ writeString text ++ "]"
  | texts => "[\n" ++ String.join (texts.map fun text => "    " ++ writeString text ++ ",\n") ++ "]"

end Highlighter.Toml
