import Highlighter.Unicode.Alphabetic
import Highlighter.Unicode.DefaultIgnorable
import Highlighter.Unicode.GraphemeExtend
import Highlighter.Unicode.Numeric
import Highlighter.Unicode.Printable
import Highlighter.Unicode.Whitespace

/-!
# Character predicates

The classes of characters that scanning, language definitions and quoted output are stated with.
Letters, numbers and white space are those of the Unicode standard; a number, by contrast, only
ever starts with an ASCII digit.
-/

namespace Highlighter.Character

/-- Decides membership in a property that is `ascii` on ASCII and a table of ranges beyond it. -/
def hasProperty (ascii : Char → Bool) (ranges : List Unicode.CodeRange) (c : Char) : Bool :=
  if c.toNat < 0x80 then ascii c else Unicode.covers ranges c.toNat

/-- A letter of any script, or another character with the property Alphabetic. -/
def isAlphabetic (c : Char) : Bool :=
  hasProperty Char.isAlpha Unicode.alphabeticRanges c

/-- A digit or another number sign of any script. -/
def isNumeric (c : Char) : Bool :=
  hasProperty Char.isDigit Unicode.numericRanges c

/-- A letter or a number of any script. -/
def isAlphanumeric (c : Char) : Bool :=
  isAlphabetic c || isNumeric c

/-- White space of any kind, line breaks included. -/
def isWhitespace (c : Char) : Bool :=
  Unicode.covers Unicode.whitespaceRanges c.toNat

/-- A character with a form of its own: the plain space, or no control, format, private, unassigned
or separator character. -/
def isPrintable (c : Char) : Bool :=
  hasProperty (fun c => 0x20 ≤ c.toNat && c.toNat < 0x7F) Unicode.printableRanges c

/-- A character that is not seen by default. -/
def isDefaultIgnorable (c : Char) : Bool :=
  Unicode.covers Unicode.defaultIgnorableRanges c.toNat

/-- One of the two sound marks of halfwidth katakana, which are letters with a cell of their own. -/
def isHalfwidthSoundMark (c : Char) : Bool :=
  c == '\uff9e' || c == '\uff9f'

/-- A mark that attaches to the character before it. The halfwidth sound marks extend a grapheme as
well, but they stand beside the character before them. -/
def isAttachedMark (c : Char) : Bool :=
  Unicode.covers Unicode.graphemeExtendRanges c.toNat && !isHalfwidthSoundMark c

/-- A character that opens a string or character literal. -/
def isQuote (c : Char) : Bool :=
  c == '"' || c == '\''

/-- A character that may start a word in every language. -/
def isWordStart (c : Char) : Bool :=
  c == '_' || isAlphabetic c

/-- A character that may continue a word in every language. -/
def isWordContinue (c : Char) : Bool :=
  c == '_' || isAlphanumeric c

end Highlighter.Character
