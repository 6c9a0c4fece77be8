import Highlighter.Language.Definition

/-!
# The C and C++ languages

C++ shares every character class with C and adds words of its own.
-/

namespace Highlighter.Builtin

/-- The C keywords. -/
def cKeywords : List String :=
  ["auto", "break", "case", "const", "continue", "default", "do", "else", "enum", "extern", "for",
   "goto", "if", "inline", "register", "restrict", "return", "sizeof", "static", "struct",
   "switch", "typedef", "union", "volatile", "while", "_Alignas", "_Alignof", "_Atomic", "_Bool",
   "_Complex", "_Generic", "_Imaginary", "_Noreturn", "_Static_assert", "_Thread_local", "NULL",
   "true", "false"]

/-- The C type names. -/
def cTypes : List String :=
  ["char", "double", "float", "int", "long", "short", "signed", "unsigned", "void", "bool",
   "size_t", "ssize_t", "ptrdiff_t", "wchar_t", "int8_t", "int16_t", "int32_t", "int64_t",
   "uint8_t", "uint16_t", "uint32_t", "uint64_t", "intptr_t", "uintptr_t", "FILE"]

/-- The keywords that C++ has beyond those of C. -/
def cppKeywords : List String :=
  ["alignas", "alignof", "and", "and_eq", "asm", "bitand", "bitor", "catch", "class", "compl",
   "concept", "consteval", "constexpr", "constinit", "const_cast", "co_await", "co_return",
   "co_yield", "decltype", "delete", "dynamic_cast", "explicit", "export", "final", "friend",
   "mutable", "namespace", "new", "noexcept", "not", "not_eq", "nullptr", "operator", "or",
   "or_eq", "override", "private", "protected", "public", "reinterpret_cast", "requires",
   "static_assert", "static_cast", "template", "this", "thread_local", "throw", "try", "typeid",
   "typename", "using", "virtual", "xor", "xor_eq"]

/-- The type names that C++ has beyond those of C. -/
def cppTypes : List String :=
  ["char8_t", "char16_t", "char32_t", "string", "nullptr_t"]

/-- The definition of C. -/
def c : Definition where
  name := "c"
  extensions := ["c", "h"]
  keywords := cKeywords
  types := cTypes
  operatorStart := "+-*/%=!<>&|^~?:"
  operatorContinue := "=<>&|+-:"
  punctuation := "()\x7b\x7d[];,."
  numberChars := ".xXabcdefABCDEFuUlLpP"
  directiveMarker := some '#'

/-- The definition of C++. -/
def cpp : Definition :=
  { c with
    name := "cpp"
    aliases := ["c++", "cxx", "cc"]
    extensions := ["cpp", "cc", "cxx", "hpp", "hh", "hxx"]
    keywords := cKeywords ++ cppKeywords
    types := cTypes ++ cppTypes }

end Highlighter.Builtin
