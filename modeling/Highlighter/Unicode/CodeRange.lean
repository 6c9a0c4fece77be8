/-!
# Ranges of code points

A character property is stored as a list of closed ranges of code points, ascending and apart, and
looked up by one pass that stops as soon as the ranges have moved past the character.
-/

namespace Highlighter.Unicode

/-- A closed range of code points, given by its first and its last member. -/
abbrev CodeRange := Nat × Nat

/-- Decides whether a code point lies in one of the ranges, which are taken to ascend. -/
def covers : List CodeRange → Nat → Bool
  | [], _ => false
  | (first, last) :: rest, code =>
    if code < first then false else if code ≤ last then true else covers rest code

end Highlighter.Unicode
