import Highlighter.Json
import Highlighter.Token

/-!
# Token listings

A list of tokens written out for people or for other programs: a line for each token with its kind
and its quoted lexeme, or an array of objects, laid out with two spaces to each level.
-/

namespace Highlighter

/-- The forms in which tokens are listed. -/
inductive ListingFormat where
  /-- One line for each token. -/
  | lines
  /-- One array of objects. -/
  | json
deriving DecidableEq, Repr

namespace Listing

/-- The line for a token: its kind, a tab, and the lexeme in quotes. -/
def line (token : Token) : String :=
  token.kind.name ++ "\t" ++ Text.Quoted.string token.lexeme ++ "\n"

/-- The object for a token. -/
def object (token : Token) : String :=
  "  \x7b\n    \"kind\": " ++ Json.string token.kind.name ++
    ",\n    \"lexeme\": " ++ Json.string token.lexeme ++ "\n  \x7d"

/-- The array of the objects for the tokens. -/
def array (tokens : List Token) : String :=
  if tokens = [] then "[]"
  else "[\n" ++ ",\n".intercalate (tokens.map object) ++ "\n]"

/-- Lists tokens in a format. -/
def write (format : ListingFormat) (tokens : List Token) : String :=
  match format with
  | .lines => String.join (tokens.map line)
  | .json => array tokens ++ "\n"

end Listing

end Highlighter
