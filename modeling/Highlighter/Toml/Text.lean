/-!
# Characters of a document

Blanks, line breaks and comments. A line break is a newline, or a carriage return with a newline; a
comment runs to the end of its line and holds no control character but the tab.
-/

namespace Highlighter.Toml

/-- A space or a tab. -/
def isBlank (c : Char) : Bool :=
  c == ' ' || c == '\t'

/-- A character that may stand in a comment or a literal string: no control character but the tab.
-/
def isText (c : Char) : Bool :=
  c == '\t' || (0x20 ≤ c.toNat && c.toNat ≠ 0x7F)

/-- A character of a key without quotes. -/
def isBare (c : Char) : Bool :=
  c.isAlphanum || c == '_' || c == '-'

/-- The text after the blanks it starts with. -/
def dropBlanks (text : List Char) : List Char :=
  text.dropWhile isBlank

/-- The text after the line break it starts with. -/
def lineBreak? : List Char → Option (List Char)
  | '\n' :: rest => some rest
  | '\r' :: '\n' :: rest => some rest
  | _ => none

/-- The text after blanks, an optional comment and the end of the line. -/
def lineEnd? (text : List Char) : Option (List Char) :=
  let rest := match dropBlanks text with
    | '#' :: comment => comment.dropWhile isText
    | rest => rest
  if rest = [] then some [] else lineBreak? rest

/-- The text after the blanks, comments and line breaks that it starts with; inside a comment, after
the rest of it too. -/
def dropFiller (inComment : Bool) : List Char → List Char
  | [] => []
  | c :: rest =>
    if c = '\n' ∨ (c = '\r' ∧ rest.head? = some '\n') then dropFiller false rest
    else if inComment then
      if isText c then dropFiller true rest else c :: rest
    else if isBlank c then dropFiller false rest
    else if c = '#' then dropFiller true rest
    else c :: rest

/-- The text after the blanks and line breaks that it starts with. -/
def dropSpace : List Char → List Char
  | [] => []
  | c :: rest =>
    if isBlank c || c == '\n' || (c == '\r' && rest.head? == some '\n') then dropSpace rest
    else c :: rest

theorem length_dropSpace_le (text : List Char) : (dropSpace text).length ≤ text.length := by
  fun_induction dropSpace text <;> simp_all
  omega

end Highlighter.Toml
