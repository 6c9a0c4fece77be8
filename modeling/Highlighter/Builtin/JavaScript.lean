import Highlighter.Language.Definition

/-!
# The JavaScript and TypeScript languages

There are no directives, and the dollar sign is part of words. TypeScript shares every character
class with JavaScript and adds words of its own.
-/

namespace Highlighter.Builtin

/-- The JavaScript keywords. -/
def javascriptKeywords : List String :=
  ["async", "await", "break", "case", "catch", "class", "const", "continue", "debugger",
   "default", "delete", "do", "else", "export", "extends", "finally", "for", "from", "function",
   "get", "if", "import", "in", "instanceof", "let", "new", "of", "return", "set", "static",
   "super", "switch", "this", "throw", "try", "typeof", "var", "void", "while", "with", "yield",
   "null", "undefined", "true", "false", "NaN", "Infinity"]

/-- The JavaScript type names. -/
def javascriptTypes : List String :=
  ["Array", "BigInt", "Boolean", "Date", "Error", "Function", "JSON", "Map", "Math", "Number",
   "Object", "Promise", "Proxy", "Reflect", "RegExp", "Set", "String", "Symbol", "WeakMap",
   "WeakSet"]

/-- The keywords that TypeScript has beyond those of JavaScript. -/
def typescriptKeywords : List String :=
  ["abstract", "as", "asserts", "declare", "enum", "implements", "infer", "interface", "is",
   "keyof", "module", "namespace", "override", "private", "protected", "public", "readonly",
   "require", "satisfies", "type", "unique"]

/-- The type names that TypeScript has beyond those of JavaScript. -/
def typescriptTypes : List String :=
  ["any", "bigint", "boolean", "never", "number", "object", "string", "symbol", "unknown"]

/-- The definition of JavaScript. -/
def javascript : Definition where
  name := "javascript"
  aliases := ["js", "node"]
  extensions := ["js", "mjs", "cjs", "jsx"]
  keywords := javascriptKeywords
  types := javascriptTypes
  operatorStart := "+-*/%=!<>&|^~?:"
  operatorContinue := "=<>&|+-*?"
  punctuation := "()\x7b\x7d[];,."
  numberChars := ".xXoObBabcdefABCDEFn_"
  wordExtra := "$"

/-- The definition of TypeScript. -/
def typescript : Definition :=
  { javascript with
    name := "typescript"
    aliases := ["ts"]
    extensions := ["ts", "tsx", "mts", "cts"]
    keywords := javascriptKeywords ++ typescriptKeywords
    types := javascriptTypes ++ typescriptTypes }

end Highlighter.Builtin
