import Highlighter.Session

/-!
# The list of languages

A line for each language with its name, its aliases and its extensions in columns.
-/

namespace Highlighter

namespace Language

/-- The aliases as they are listed, with a dash in place of none. -/
def aliasColumn (language : Language) : String :=
  if language.aliases = [] then "-" else ", ".intercalate language.aliases

/-- The extensions as they are listed, each with its dot. -/
def extensionColumn (language : Language) : String :=
  " ".intercalate (language.extensions.map ("." ++ ·))

/-- The line of a language. -/
def summary (language : Language) : String :=
  Text.padRight 12 language.name ++ " " ++ Text.padRight 16 language.aliasColumn ++ " " ++
    language.extensionColumn ++ "\n"

end Language

namespace Session

/-- Lists the languages in the order of their registration. -/
def listLanguages (session : Session) : String :=
  String.join (session.registry.languages.map Language.summary)

end Session

end Highlighter
