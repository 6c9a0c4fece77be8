import Highlighter.Builtin.C
import Highlighter.Builtin.CSharp
import Highlighter.Builtin.Java
import Highlighter.Builtin.JavaScript
import Highlighter.Registry

/-!
# The built-in languages

The definitions that every registry starts from. All of them describe languages, and no two of
those share a name, an alias or an extension.
-/

namespace Highlighter.Builtin

/-- The definitions of the built-in languages, in the order of their registration. -/
def definitions : List Definition :=
  [csharp, c, cpp, java, javascript, typescript]

/-- The built-in languages, in the order of their registration. -/
def languages : List Language :=
  definitions.filterMap fun definition => definition.build.toOption

/-- The registry of the built-in languages. -/
def registry : Registry :=
  languages.foldl (fun registry language => (registry.register language).toOption.getD registry)
    .empty

end Highlighter.Builtin
