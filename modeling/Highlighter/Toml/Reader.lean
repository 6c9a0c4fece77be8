import Highlighter.Toml.DateTime
import Highlighter.Toml.Number
import Highlighter.Toml.String
import Highlighter.Toml.Table

/-!
# Reading a document

A document is a sequence of statements, each on lines of its own: a header that opens a table, or a
key with its value. Reading gives the entries of the document, or nothing if a line is malformed or
breaks the rules of tables. Brackets nest less than eighty deep, and keys have fewer than eighty
parts.
-/

namespace Highlighter.Toml

/-- Brackets may not nest this deep, and keys may not have this many parts. -/
def nestingLimit : Nat := 80

/-! ### Keys -/

/-- Reads one part of a key. -/
def keyPart? (text : List Char) : Option (String × List Char) :=
  match text with
  | '"' :: rest => (basicString? rest).map fun (part, after) => (String.ofList part, after)
  | '\'' :: rest => (literalString? rest).map fun (part, after) => (String.ofList part, after)
  | _ =>
    let part := text.takeWhile isBare
    if part = [] then none else some (String.ofList part, text.dropWhile isBare)

/-- Reads a dotted key of at most `limit` parts, with blanks around each part: the parts before the
last, and the last. -/
def key? (limit : Nat) (text : List Char) : Option ((List String × String) × List Char) :=
  match limit with
  | 0 => none
  | limit + 1 => do
    let (part, after) ← keyPart? (dropBlanks text)
    match dropBlanks after with
    | '.' :: rest =>
      let ((path, last), after) ← key? limit rest
      return ((part :: path, last), after)
    | after => return (([], part), after)

/-- Reads a dotted key. -/
def dottedKey? (text : List Char) : Option ((List String × String) × List Char) :=
  key? (nestingLimit - 1) text

/-! ### Values -/

/-- A character of a number, a date or a truth value. -/
def isScalar (c : Char) : Bool :=
  c.isAlphanum || c == '_' || c == '+' || c == '-' || c == '.' || c == ':'

/-- The value that the characters of a scalar stand for. -/
def scalarOf? (text : List Char) : Option Value :=
  if text = ['t', 'r', 'u', 'e'] then some (.boolean true)
  else if text = ['f', 'a', 'l', 's', 'e'] then some (.boolean false)
  else if isDateTime text then some (.dateTime (String.ofList text))
  else if isFloat text then some (.float (String.ofList text))
  else (integer? text).map .integer

/-- Reads a number, a date or a truth value. A time may follow its date after a space. -/
def scalar? (text : List Char) : Option (Value × List Char) :=
  let written := text.takeWhile isScalar
  let after := text.dropWhile isScalar
  let time := after.tail.takeWhile isScalar
  if isDate written ∧ after.head? = some ' ' ∧ time.head?.any Char.isDigit then
    if isTimeWithOffset time then
      some (.dateTime (String.ofList (written ++ ' ' :: time)), after.tail.dropWhile isScalar)
    else none
  else (scalarOf? written).map fun value => (value, after)

/-- Reads the items of an array behind its bracket, at most `limit` of them, with filler around
each. A comma may follow the last item. -/
def items? (item? : List Char → Option (Value × List Char)) (limit : Nat) (text : List Char) :
    Option (List Value × List Char) :=
  match dropFiller false text with
  | ']' :: after => some ([], after)
  | text =>
    match limit with
    | 0 => none
    | limit + 1 => do
      let (item, after) ← item? text
      match dropFiller false after with
      | ',' :: after =>
        let (items, after) ← items? item? limit after
        return (item :: items, after)
      | ']' :: after => return ([item], after)
      | _ => none

/-- Reads the pairs of a table in braces, at most `limit` of them, on one line. -/
def pairs? (value? : List Char → Option (Value × List Char)) (limit : Nat) (text : List Char) :
    Option (List ((List String × String) × Value) × List Char) :=
  match limit with
  | 0 => none
  | limit + 1 => do
    let (key, after) ← dottedKey? text
    let (value, after) ← value? (dropBlanks (← expect? '=' after))
    match dropBlanks after with
    | ',' :: after =>
      let (pairs, after) ← pairs? value? limit after
      return ((key, value) :: pairs, after)
    | '\x7d' :: after => return ([(key, value)], after)
    | _ => none

/-- Reads a value whose brackets nest at most `depth` deep. -/
def nested? : (depth : Nat) → List Char → Option (Value × List Char)
  | depth, text =>
    match text with
    | '"' :: _ | '\'' :: _ => (string? text).map fun (s, after) => (.string s, after)
    | '[' :: rest =>
      match depth with
      | 0 => none
      | depth + 1 => do
        let (items, after) ← items? (nested? depth) rest.length rest
        return (.array items, after)
    | '\x7b' :: rest =>
      match depth with
      | 0 => none
      | depth + 1 =>
        match dropBlanks rest with
        | '\x7d' :: after => some (.table .inline [], after)
        | _ => do
          let (pairs, after) ← pairs? (nested? depth) rest.length rest
          return (.table .inline (← ofPairs? pairs), after)
    | _ => scalar? text

/-- Reads a value. -/
def value? (text : List Char) : Option (Value × List Char) :=
  nested? (nestingLimit - 1) text

/-! ### Statements -/

/-- A statement of a document. -/
inductive Statement where
  /-- A key with its value, in the table opened last. -/
  | pair (path : List String) (key : String) (value : Value)
  /-- A header that opens a table. -/
  | table (path : List String) (key : String)
  /-- A header that opens one more table of an array. -/
  | tableItem (path : List String) (key : String)

/-- Reads a statement up to the end of its last line. -/
def statement? (text : List Char) : Option (Statement × List Char) :=
  match text with
  | '[' :: '[' :: rest => do
    let ((path, key), after) ← dottedKey? rest
    let after ← lineEnd? (← expect? ']' (← expect? ']' after))
    return (.tableItem path key, after)
  | '[' :: rest => do
    let ((path, key), after) ← dottedKey? rest
    let after ← lineEnd? (← expect? ']' after)
    return (.table path key, after)
  | _ => do
    let ((path, key), after) ← dottedKey? text
    let (value, after) ← value? (dropBlanks (← expect? '=' after))
    return (.pair path key value, ← lineEnd? after)

/-- Reads statements up to the end of the text, at most `limit` of them, with filler around each. -/
def statements? (limit : Nat) (text : List Char) : Option (List Statement) :=
  match dropFiller false text with
  | [] => some []
  | text =>
    match limit with
    | 0 => none
    | limit + 1 => do
      let (statement, after) ← statement? text
      return statement :: (← statements? limit after)

/-! ### Documents -/

/-- A document in the making. -/
structure Draft where
  /-- The entries so far. -/
  entries : Entries
  /-- The path of the table opened last. -/
  location : List String

/-- Adds a statement to a document in the making. -/
def Draft.add? (draft : Draft) : Statement → Option Draft
  | .pair path key value => do
    let entries ← draft.entries.update? draft.location (Entries.set? path key value)
    return { draft with entries }
  | .table path key => do
    let entries ← draft.entries.update? path (Entries.openTable? key)
    return ⟨entries, path ++ [key]⟩
  | .tableItem path key => do
    let entries ← draft.entries.update? path (Entries.openItem? key)
    return ⟨entries, path ++ [key]⟩

/-- Reads a document. A byte order mark may stand in front of it. -/
def read? (document : String) : Option Entries := do
  let text := match document.toList with
    | '\ufeff' :: rest => rest
    | text => text
  let statements ← statements? text.length text
  let draft ← statements.foldlM Draft.add? ⟨[], []⟩
  return draft.entries

end Highlighter.Toml
