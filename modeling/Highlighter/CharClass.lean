import Highlighter.OrderedSet

/-!
# Character classes

A character class is a finite set of characters. It is written as its members in the order of
their code points, and read from any text as the characters that occur in it.
-/

namespace Highlighter

/-- A finite set of characters. -/
abbrev CharClass := OrderedSet Char

namespace CharClass

/-- The characters that occur in a text. -/
def ofString (text : String) : CharClass :=
  OrderedSet.ofList text.toList

/-- The text of the members in the order of their code points. -/
def toString (set : CharClass) : String :=
  String.ofList set.toList

end CharClass

end Highlighter
