/-!
# Values of a configuration document

A document of nested tables, in the format whose tables are opened by names in brackets. Each table
remembers how it came to be, because that decides what later lines may add to it.
-/

namespace Highlighter.Toml

/-- How a table came to be. -/
inductive TableOrigin where
  /-- Written out in braces; nothing may be added. -/
  | inline
  /-- Named on the way to a dotted key; more dotted keys may add to it. -/
  | dotted
  /-- Named on the way to a header; a header of its own and dotted keys may add to it. -/
  | implied
  /-- Opened by a header of its own, or the document itself. -/
  | header
deriving DecidableEq, Repr

/-- A value in a document. -/
inductive Value where
  /-- A string. -/
  | string (text : String)
  /-- An integer of at most 64 bits. -/
  | integer (number : Int)
  /-- A number with a fraction or an exponent, or one that is no number, as written. -/
  | float (written : String)
  /-- A truth value. -/
  | boolean (truth : Bool)
  /-- A date, a time, or both, as written. -/
  | dateTime (written : String)
  /-- A list in brackets. -/
  | array (items : List Value)
  /-- A table with its entries. -/
  | table (origin : TableOrigin) (entries : List (String × Value))
  /-- The tables opened by headers in double brackets, each with its entries. -/
  | tableArray (items : List (List (String × Value)))
deriving Repr

/-- The entries of a table, in the order of their first mention. -/
abbrev Entries := List (String × Value)

end Highlighter.Toml
