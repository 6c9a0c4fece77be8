import Highlighter.OrderedMap
import Highlighter.Style
import Highlighter.Token

/-!
# Themes

A theme gives every token kind a style. It starts from a default and may be overridden kind by kind
by name; text tokens are always written plain and cannot be overridden.
-/

namespace Highlighter

/-- The style of every token kind. -/
def Theme := TokenKind → Style

/-- Why a table of overrides was refused. -/
inductive ThemeFault where
  /-- No token kind has the name. -/
  | unknownKind (name : String)
  /-- The kind of unclaimed text has no style to override. -/
  | styledText
  /-- No style has the name given for the kind. -/
  | unknownColour (name : String) (kind : TokenKind)
deriving DecidableEq, Repr

namespace ThemeFault

/-- The wording of a fault. -/
def reason : ThemeFault → String
  | unknownKind name => TokenKind.unknownMessage name
  | styledText => "text is always written unstyled"
  | unknownColour name kind => "unknown colour `" ++ name ++ "` for " ++ kind.name

end ThemeFault

namespace Theme

/-- The style of a kind. -/
def style (theme : Theme) (kind : TokenKind) : Style :=
  theme kind

/-- Gives one kind another style. -/
def set (theme : Theme) (kind : TokenKind) (style : Style) : Theme :=
  fun other => if other = kind then style else theme other

/-- The theme without overrides. -/
def default : Theme
  | .comment => .bright .black
  | .string => .colour .green
  | .preprocessor => .colour .magenta
  | .number => .bright .magenta
  | .keyword => .colour .blue
  | .type => .colour .cyan
  | .operator => .colour .yellow
  | .text | .identifier | .punctuation => .plain

/-- Applies one override, given by the names of a kind and of a style. -/
def override (theme : Theme) (kindName styleName : String) : Except ThemeFault Theme :=
  match TokenKind.ofName? kindName with
  | none => .error (.unknownKind kindName)
  | some kind =>
    if kind = .text then .error .styledText
    else match Style.ofName? styleName with
      | none => .error (.unknownColour styleName kind)
      | some style => .ok (theme.set kind style)

/-- The default theme with a table of overrides applied in the order of the kinds' names; the first
one that is refused is the error. -/
def ofOverrides (overrides : OrderedMap String String) : Except ThemeFault Theme :=
  overrides.toList.foldlM (fun theme entry => theme.override entry.1 entry.2) default

end Theme

end Highlighter
