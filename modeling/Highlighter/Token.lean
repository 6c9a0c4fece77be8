import Highlighter.Text.Basic
import Highlighter.Text.Quoted

/-!
# Tokens

A token is a piece of source text together with its classification. Tokens keep their text as it
stands in the source, delimiters and escapes included.
-/

namespace Highlighter

/-- The classification of a piece of source text. -/
inductive TokenKind where
  /-- White space, and characters that no other rule claims. -/
  | text
  /-- A line or block comment. -/
  | comment
  /-- A string or character literal. -/
  | string
  /-- A directive line. -/
  | preprocessor
  /-- A number, which is not checked further. -/
  | number
  /-- A word that is neither a keyword nor a type. -/
  | identifier
  /-- A word of the language's keyword set. -/
  | keyword
  /-- A word of the language's type set. -/
  | type
  /-- A run of operator characters. -/
  | operator
  /-- A single punctuation character. -/
  | punctuation
deriving DecidableEq, Repr

namespace TokenKind

/-- Every kind, in the order of declaration. -/
def all : List TokenKind :=
  [text, comment, string, preprocessor, number, identifier, keyword, type, operator, punctuation]

/-- The name of a kind. -/
def name : TokenKind → String
  | text => "text"
  | comment => "comment"
  | string => "string"
  | preprocessor => "preprocessor"
  | number => "number"
  | identifier => "identifier"
  | keyword => "keyword"
  | type => "type"
  | operator => "operator"
  | punctuation => "punctuation"

/-- The kind that has the given name. -/
def ofName? (name : String) : Option TokenKind :=
  all.find? (·.name == name)

/-- The complaint about a name that no kind has. -/
def unknownMessage (name : String) : String :=
  "unknown token kind: " ++ name

theorem ofName?_name (kind : TokenKind) : ofName? kind.name = some kind := by
  cases kind <;> rfl

theorem ofName?_eq_some_iff {name : String} {kind : TokenKind} :
    ofName? name = some kind ↔ name = kind.name := by
  constructor
  · intro found
    have named := List.find?_some found
    exact (eq_of_beq named).symm
  · rintro rfl
    exact ofName?_name kind

theorem name_eq_name_iff {kind other : TokenKind} : kind.name = other.name ↔ kind = other := by
  rw [← ofName?_eq_some_iff, ofName?_name, Option.some.injEq]

end TokenKind

/-- A classified piece of source text. -/
structure Token where
  /-- What the text was classified as. -/
  kind : TokenKind
  /-- The text, as it stands in the source. -/
  lexeme : String
deriving DecidableEq, Repr

namespace Token

/-- The length of the lexeme in bytes. -/
def size (token : Token) : Nat :=
  Text.byteLength token.lexeme.toList

/-- Decides whether the lexeme has no characters. -/
def isEmpty (token : Token) : Bool :=
  token.lexeme.isEmpty

/-- The kind and the quoted lexeme, for people to read. -/
def toString (token : Token) : String :=
  token.kind.name ++ "(" ++ Text.Quoted.string token.lexeme ++ ")"

end Token

end Highlighter
