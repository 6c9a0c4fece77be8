import Highlighter.Command.Inputs
import Highlighter.Listing
import Highlighter.Scanner
import Highlighter.Session

/-!
# Scanning inputs

An input is read before its language is chosen, so a missing file is reported as such even if its
language is unknown too.
-/

namespace Highlighter

namespace Session

/-- The tokens of an input. -/
def scan (session : Session) (inputs : Inputs) (language : Option String) (path : String) :
    Except Error (List Token) := do
  let source ← inputs.source path
  let language ← (session.resolve language path).mapError .registry
  return language.tokenize source

/-- Lists the tokens of an input. -/
def listTokens (session : Session) (inputs : Inputs) (language : Option String)
    (format : ListingFormat) (path : String) : Except Error String :=
  (session.scan inputs language path).map (Listing.write format)

end Session

end Highlighter
