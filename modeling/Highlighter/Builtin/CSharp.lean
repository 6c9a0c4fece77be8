import Highlighter.Language.Definition

/-!
# The C# language

Directives open with a number sign, and an at sign lets a keyword serve as an identifier.
-/

namespace Highlighter.Builtin

/-- The C# words that are keywords everywhere. -/
def csharpReserved : List String :=
  ["abstract", "as", "base", "break", "case", "catch", "checked", "class", "const", "continue",
   "default", "delegate", "do", "else", "enum", "event", "explicit", "extern", "false", "finally",
   "fixed", "for", "foreach", "goto", "if", "implicit", "in", "interface", "internal", "is",
   "lock", "namespace", "new", "null", "operator", "out", "override", "params", "private",
   "protected", "public", "readonly", "ref", "return", "sealed", "sizeof", "stackalloc", "static",
   "struct", "switch", "this", "throw", "true", "try", "typeof", "unchecked", "unsafe", "using",
   "virtual", "void", "volatile", "while"]

/-- The C# words that are keywords in some contexts. -/
def csharpContextual : List String :=
  ["add", "alias", "and", "async", "await", "by", "descending", "equals", "from", "get", "global",
   "group", "init", "into", "join", "let", "nameof", "not", "on", "or", "orderby", "partial",
   "record", "remove", "required", "select", "set", "value", "var", "when", "where", "with",
   "yield"]

/-- The C# type names. -/
def csharpTypes : List String :=
  ["bool", "byte", "char", "decimal", "double", "dynamic", "float", "int", "long", "nint",
   "nuint", "object", "sbyte", "short", "string", "uint", "ulong", "ushort"]

/-- The definition of C#. -/
def csharp : Definition where
  name := "csharp"
  aliases := ["cs", "c#"]
  extensions := ["cs", "csx"]
  keywords := csharpReserved ++ csharpContextual
  types := csharpTypes
  operatorStart := "+-*/%=!<>&|^~?:"
  operatorContinue := "=<>&|+-?:"
  punctuation := "()\x7b\x7d[];,."
  numberChars := ".xXabcdefABCDEFuUlLmM_"
  directiveMarker := some '#'
  verbatimPrefix := some '@'

end Highlighter.Builtin
