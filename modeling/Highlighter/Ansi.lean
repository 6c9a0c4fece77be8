import Highlighter.Theme

/-!
# Coloured output

A terminal reads an escape character, a bracket, a number and the letter `m` as a change of the
text attribute, where zero takes every attribute away. Painted text is framed by the change to its
attribute and the change back, so attributes never reach beyond it.
-/

namespace Highlighter

namespace Ansi

/-- The control sequence that changes the attribute to the one with the given code. -/
def select (code : Nat) : String :=
  "\x1b[" ++ toString code ++ "m"

/-- A text in a style; plain text is left as it is. -/
def paint (style : Style) (text : String) : String :=
  match style.code? with
  | some code => select code ++ text ++ select 0
  | none => text

end Ansi

namespace Theme

/-- The style in which a kind is written: text tokens are plain whatever the theme says. -/
def written (theme : Theme) (kind : TokenKind) : Style :=
  if kind = .text then .plain else theme.style kind

/-- The lexemes one after the other, each painted in the style of its kind. -/
def render (theme : Theme) (tokens : List Token) : String :=
  String.join (tokens.map fun token => Ansi.paint (theme.written token.kind) token.lexeme)

end Theme

end Highlighter
