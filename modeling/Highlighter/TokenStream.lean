import Highlighter.Cursor
import Highlighter.Scanner

/-!
# Token streams

A stream produces the tokens of a source text one at a time and knows the byte offset at which it
stands. What is still to come depends only on the text after that offset. A second stream around it
tells with each token which bytes of the source it covers.
-/

namespace Highlighter

/-- The state of a scan that produces one token at a time. -/
structure TokenStream where
  /-- The language of the source text. -/
  language : Language
  /-- The position in the source text. -/
  cursor : Cursor
deriving DecidableEq

/-- A token with the bytes of the source that it covers. -/
structure SpannedToken where
  /-- The offset of the first byte. -/
  start : Nat
  /-- The offset behind the last byte. -/
  stop : Nat
  /-- The token. -/
  token : Token
deriving DecidableEq, Repr

/-- Bounds on the number of tokens still to come. -/
structure SizeHint where
  /-- No fewer tokens come. -/
  lower : Nat
  /-- No more tokens come. -/
  upper : Nat
deriving DecidableEq, Repr

namespace TokenStream

/-- The stream of all tokens of a source text. -/
def ofSource (language : Language) (source : String) : TokenStream :=
  ⟨language, Cursor.atStart source⟩

/-- The byte offset at which the next token starts. -/
def offset (stream : TokenStream) : Nat :=
  stream.cursor.position

/-- The text that has not been scanned. -/
def remaining (stream : TokenStream) : String :=
  String.ofList stream.cursor.remaining

/-- The next token with the stream behind it, or nothing at the end. -/
def next? (stream : TokenStream) : Option (Token × TokenStream) :=
  (Scanner.next? stream.language stream.cursor.remaining).map fun (token, rest) =>
    (token, { stream with cursor := stream.cursor.movePast (token.lexeme.toList, rest) })

/-- The tokens still to come. -/
def toList (stream : TokenStream) : List Token :=
  Scanner.scan stream.language stream.cursor.remaining

/-- One token comes if a character is left, and at most one for each byte that is left. -/
def sizeHint (stream : TokenStream) : SizeHint where
  lower := if stream.cursor.isAtEnd then 0 else 1
  upper := Text.byteLength stream.cursor.remaining

/-- The tokens still to come with the bytes that they cover. -/
def spanned (stream : TokenStream) : List SpannedToken :=
  place stream.offset stream.toList
where
  /-- Lays tokens out one after the other from a byte offset. -/
  place (start : Nat) : List Token → List SpannedToken
    | [] => []
    | token :: rest => ⟨start, start + token.size, token⟩ :: place (start + token.size) rest

/-- The stream of all tokens of the same source text. -/
def restart (stream : TokenStream) : TokenStream :=
  ofSource stream.language stream.cursor.source

/-- The stream behind all tokens. -/
def atEnd (stream : TokenStream) : TokenStream :=
  { stream with cursor := stream.cursor.movePast (stream.cursor.remaining, []) }

end TokenStream

/-- The state of a scan that tells with each token which bytes it covers. -/
structure SpannedStream where
  /-- The stream of the tokens. -/
  tokens : TokenStream
deriving DecidableEq

namespace SpannedStream

/-- The next token with its bytes, which start where the stream stands, and the stream behind it. -/
def next? (stream : SpannedStream) : Option (SpannedToken × SpannedStream) :=
  stream.tokens.next?.map fun (token, behind) =>
    (⟨stream.tokens.offset, stream.tokens.offset + token.size, token⟩, ⟨behind⟩)

/-- As many come as there are tokens. -/
def sizeHint (stream : SpannedStream) : SizeHint :=
  stream.tokens.sizeHint

end SpannedStream

end Highlighter
