import Highlighter.CharClass
import Highlighter.Token

/-!
# Languages

A language is the data that the one generic scanner runs on: two sets of words, five classes of
characters and two optional marker characters, next to the names and file extensions by which the
language is found. Languages are obtained from definitions, which are checked first.
-/

namespace Highlighter

/-- The data by which the source text of one language is scanned. -/
structure Language where
  /-- The canonical name. -/
  name : String
  /-- Further names, in the order given. -/
  aliases : List String
  /-- File extensions without a leading dot, in the order given. -/
  extensions : List String
  /-- The words classified as keywords. -/
  keywords : OrderedSet String
  /-- The words classified as types. -/
  types : OrderedSet String
  /-- The characters that start an operator. -/
  operatorStart : CharClass
  /-- The characters that continue an operator. -/
  operatorContinue : CharClass
  /-- The characters that are punctuation, each on its own. -/
  punctuation : CharClass
  /-- The characters that may follow in a number besides ASCII digits. -/
  numberChars : CharClass
  /-- The characters that count as part of words besides letters, numbers and the underscore. -/
  wordExtra : CharClass
  /-- The character that opens a directive line. -/
  directiveMarker : Option Char
  /-- The character that may stand before a word without being part of it. -/
  verbatimPrefix : Option Char
deriving DecidableEq

namespace Language

/-- The kind of a word, given without its prefix character: types come before keywords. -/
def classify (language : Language) (word : String) : TokenKind :=
  if language.types.contains word then .type
  else if language.keywords.contains word then .keyword
  else .identifier

/-- Decides whether a character may open a word. -/
def startsWord (language : Language) (c : Char) : Bool :=
  Character.isWordStart c || language.wordExtra.contains c || language.verbatimPrefix == some c

/-- Decides whether a character may continue a word. -/
def continuesWord (language : Language) (c : Char) : Bool :=
  Character.isWordContinue c || language.wordExtra.contains c

/-- Decides whether a character may stand in a number after the first digit. -/
def continuesNumber (language : Language) (c : Char) : Bool :=
  c.isDigit || language.numberChars.contains c

end Language

end Highlighter
