import Highlighter.Text.Hex
import Highlighter.Toml.Text

/-!
# Strings of a document

The four forms of a string: in double or single quotes on one line, and in three of either over
several lines. Only double quotes know escapes. Of a string over several lines, a line break right
behind the opening quotes is not part, nor is what follows a backslash at the end of a line up to
the next visible character. Every reader here starts behind the opening quotes and returns the
string with the text after its closing quotes.
-/

namespace Highlighter.Toml

/-- The character that a letter stands for after a backslash. -/
def escapedChar? : Char → Option Char
  | 'b' => some '\x08'
  | 't' => some '\t'
  | 'n' => some '\n'
  | 'f' => some '\x0c'
  | 'r' => some '\r'
  | '"' => some '"'
  | '\\' => some '\\'
  | _ => none

/-- The character whose code point is given by hexadecimal digits. -/
def charOfDigits? (digits : List Char) : Option Char := do
  let values ← digits.mapM Text.hexValue?
  let code := values.foldl (fun code value => 16 * code + value) 0
  if code.isValidChar then some (Char.ofNat code) else none

/-- The character that an escape stands for behind its backslash, and the number of characters that
the escape takes there. -/
def escape? : List Char → Option (Char × Nat)
  | 'u' :: rest => if 4 ≤ rest.length then (charOfDigits? (rest.take 4)).map (·, 5) else none
  | 'U' :: rest => if 8 ≤ rest.length then (charOfDigits? (rest.take 8)).map (·, 9) else none
  | c :: _ => (escapedChar? c).map (·, 1)
  | [] => none

/-- Reads a string on one line in double quotes. -/
def basicString? : List Char → Option (List Char × List Char)
  | [] => none
  | c :: rest =>
    if c = '"' then some ([], rest)
    else if c = '\\' then do
      let (escaped, taken) ← escape? rest
      let (body, after) ← basicString? (rest.drop taken)
      return (escaped :: body, after)
    else if isText c then do
      let (body, after) ← basicString? rest
      return (c :: body, after)
    else none
termination_by text => text.length
decreasing_by
  all_goals
    simp only [List.length_drop, List.length_cons]
    omega

/-- Reads a string on one line in single quotes. -/
def literalString? : List Char → Option (List Char × List Char)
  | [] => none
  | c :: rest =>
    if c = '\'' then some ([], rest)
    else if isText c then do
      let (body, after) ← literalString? rest
      return (c :: body, after)
    else none

/-- Closes a string over several lines at three or more of its quotes: those before the last three
belong to the string, and there are at most two of them. -/
def closing? (quote : Char) : List Char → Option (List Char × List Char)
  | a :: b :: c :: rest =>
    if a = quote ∧ b = quote ∧ c = quote then
      match rest with
      | d :: e :: after =>
        if d = quote then
          if e = quote then some ([quote, quote], after) else some ([quote], e :: after)
        else some ([], d :: e :: after)
      | [d] => if d = quote then some ([quote], []) else some ([], [d])
      | [] => some ([], [])
    else none
  | _ => none

/-- Reads a string over several lines; `escapes` tells whether a backslash opens an escape. -/
def linesString? (quote : Char) (escapes : Bool) : List Char → Option (List Char × List Char)
  | [] => none
  | c :: rest =>
    match closing? quote (c :: rest) with
    | some found => some found
    | none =>
      if c = '\\' ∧ escapes then
        match lineBreak? (dropBlanks rest) with
        | some _ => linesString? quote escapes (dropSpace rest)
        | none => do
          let (escaped, taken) ← escape? rest
          let (body, after) ← linesString? quote escapes (rest.drop taken)
          return (escaped :: body, after)
      else if c = '\r' ∧ rest.head? = some '\n' then linesString? quote escapes rest
      else if c = '\n' ∨ isText c then do
        let (body, after) ← linesString? quote escapes rest
        return (c :: body, after)
      else none
termination_by text => text.length
decreasing_by
  all_goals
    have := length_dropSpace_le rest
    simp only [List.length_drop, List.length_cons]
    omega

/-- Reads the string that a text starts with, in any of its forms. -/
def string? (text : List Char) : Option (String × List Char) := do
  let (body, after) ← match text with
    | '"' :: '"' :: '"' :: rest => linesString? '"' true ((lineBreak? rest).getD rest)
    | '"' :: rest => basicString? rest
    | '\'' :: '\'' :: '\'' :: rest => linesString? '\'' false ((lineBreak? rest).getD rest)
    | '\'' :: rest => literalString? rest
    | _ => none
  return (String.ofList body, after)

end Highlighter.Toml
