import Highlighter.Text.Hex

/-!
# Strings in data interchange notation

A string between double quotes, in which quotes, backslashes and the control characters below the
space are escaped and every other character stands for itself.
-/

namespace Highlighter.Json

/-- The letter that stands for a character after a backslash. -/
def escapeLetter? : Char → Option Char
  | '"' => some '"'
  | '\\' => some '\\'
  | '\x08' => some 'b'
  | '\t' => some 't'
  | '\n' => some 'n'
  | '\x0c' => some 'f'
  | '\r' => some 'r'
  | _ => none

/-- The written form of one character. -/
def escape (c : Char) : List Char :=
  match escapeLetter? c with
  | some letter => ['\\', letter]
  | none => if c.toNat < 0x20 then '\\' :: 'u' :: Text.hexPadded 4 c.toNat else [c]

/-- Writes a string between quotes. -/
def string (text : String) : String :=
  String.ofList ('"' :: text.toList.flatMap escape ++ ['"'])

end Highlighter.Json
