import Highlighter.Listing
import Highlighter.Toml.Number

/-!
# Values on a command line

The values that come with settings and in variables of the environment: forms of a token listing,
numbers, paths and truth values.
-/

namespace Highlighter.CommandLine.Value

/-- The form of a token listing that has a name. -/
def format? : String → Option ListingFormat
  | "text" => some .lines
  | "json" => some .json
  | _ => none

/-- The number that decimal digits stand for after an optional plus sign, if 64 bits hold it. -/
def count? (text : String) : Option Nat :=
  let digits := match text.toList with
    | '+' :: rest => rest
    | text => text
  let number := Toml.valueOfDigits 10 digits
  if digits ≠ [] ∧ digits.all Char.isDigit ∧ number < 0x10000000000000000 then some number else none

/-- A path, which is not empty. -/
def path? (text : String) : Option String :=
  if text = "" then none else some text

/-- A truth value. -/
def truth? : String → Option Bool
  | "true" => some true
  | "false" => some false
  | _ => none

end Highlighter.CommandLine.Value
