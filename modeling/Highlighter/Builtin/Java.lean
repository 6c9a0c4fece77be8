import Highlighter.Language.Definition

/-!
# The Java language

There are no directives. The dollar sign is part of words, and the at sign of an annotation is
punctuation.
-/

namespace Highlighter.Builtin

/-- The Java keywords. -/
def javaKeywords : List String :=
  ["abstract", "assert", "break", "case", "catch", "class", "const", "continue", "default", "do",
   "else", "enum", "extends", "final", "finally", "for", "goto", "if", "implements", "import",
   "instanceof", "interface", "native", "new", "package", "permits", "private", "protected",
   "public", "record", "return", "sealed", "static", "strictfp", "super", "switch",
   "synchronized", "this", "throw", "throws", "transient", "try", "var", "volatile", "while",
   "yield", "true", "false", "null"]

/-- The Java type names. -/
def javaTypes : List String :=
  ["boolean", "byte", "char", "double", "float", "int", "long", "short", "void", "String",
   "Object", "Integer", "Long", "Double", "Float", "Boolean", "Character", "Byte", "Short"]

/-- The definition of Java. -/
def java : Definition where
  name := "java"
  extensions := ["java"]
  keywords := javaKeywords
  types := javaTypes
  operatorStart := "+-*/%=!<>&|^~?:"
  operatorContinue := "=<>&|+-:"
  punctuation := "()\x7b\x7d[];,.@"
  numberChars := ".xXabcdefABCDEFlL_"
  wordExtra := "$"

end Highlighter.Builtin
