import Highlighter.Unicode.CodeRange

/-!
# White space

The code points that have the property White_Space, in version 17 of the Unicode standard and in
every version before it back to 6.3.
-/

namespace Highlighter.Unicode

/-- The white space code points, as ascending ranges that do not touch. -/
def whitespaceRanges : List CodeRange :=
  [(0x0009, 0x000D), (0x0020, 0x0020), (0x0085, 0x0085), (0x00A0, 0x00A0), (0x1680, 0x1680),
   (0x2000, 0x200A), (0x2028, 0x2029), (0x202F, 0x202F), (0x205F, 0x205F), (0x3000, 0x3000)]

end Highlighter.Unicode
