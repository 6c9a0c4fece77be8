import Highlighter.Character
import Highlighter.Text.Hex

/-!
# Quoted text

Text between quotes for messages and token listings. The quote and the backslash are escaped, four
control characters have letters of their own, and every other character that would not be seen as
itself is written as its code point: the result is one line of printable characters.
-/

namespace Highlighter.Text.Quoted

/-- The letter that stands for a character after a backslash, whatever the quote. -/
def escapeLetter? : Char → Option Char
  | '\x00' => some '0'
  | '\t' => some 't'
  | '\r' => some 'r'
  | '\n' => some 'n'
  | '\\' => some '\\'
  | _ => none

/-- Decides whether a character is shown as itself between quotes: it has a form of its own, is seen
by default, and does not attach to the character before it. -/
def isShown (c : Char) : Bool :=
  Character.isPrintable c && !Character.isDefaultIgnorable c && !Character.isAttachedMark c

/-- The code point of a character as an escape sequence. -/
def codePoint (c : Char) : List Char :=
  ['\\', 'u', '\x7b'] ++ hexNumeral c.toNat ++ ['\x7d']

/-- The written form of one character between the given quotes. -/
def escape (quote c : Char) : List Char :=
  if c = quote then ['\\', c]
  else match escapeLetter? c with
    | some letter => ['\\', letter]
    | none => if isShown c then [c] else codePoint c

/-- Writes a text between quotes. -/
def enclose (quote : Char) (characters : List Char) : String :=
  String.ofList (quote :: characters.flatMap (escape quote) ++ [quote])

/-- A string in double quotes. -/
def string (text : String) : String :=
  enclose '"' text.toList

/-- A character in single quotes. -/
def character (c : Char) : String :=
  enclose '\'' [c]

end Highlighter.Text.Quoted
