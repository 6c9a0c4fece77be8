import Highlighter.Language.Definition
import Highlighter.Path
import Std.Data.HashMap

/-!
# Language registry

A registry holds languages in the order of their registration and finds them by name, by alias and
by file extension, all without regard to ASCII case. Names and aliases belong to one language for
good: a registration that would take one away fails. An extension belongs to the language that
claimed it last.
-/

namespace Highlighter

/-- Why a registration or a lookup failed. -/
inductive RegistryError where
  /-- The name or an alias is the canonical name of a registered language. -/
  | duplicateName (owner : String)
  /-- The name or an alias is an alias of a registered language. -/
  | duplicateAlias (name owner : String)
  /-- No registered language has the name. -/
  | unknownLanguage (name : String)
  /-- No registered language has the extension of the path, and there is none to fall back on. -/
  | undetected (path : String)
deriving DecidableEq, Repr

/-- Registered languages with their indices. -/
structure Registry where
  /-- The languages in the order of their registration. -/
  languages : List Language
  /-- The language that each folded name or alias belongs to. -/
  names : Std.HashMap String Language
  /-- The language that claimed each folded extension last. -/
  extensions : Std.HashMap String Language

namespace RegistryError

/-- The wording of an error. -/
def message : RegistryError → String
  | duplicateName owner => "language `" ++ owner ++ "` is already registered"
  | duplicateAlias name owner =>
    "alias `" ++ name ++ "` is already used by language `" ++ owner ++ "`"
  | unknownLanguage name => "unknown language: " ++ name
  | undetected path => "unknown language: cannot detect language of " ++ path

end RegistryError

namespace Registry

/-- The registry without languages. -/
def empty : Registry := ⟨[], ∅, ∅⟩

/-- The error about a folded name that already belongs to a language. -/
def clash (name : String) (owner : Language) : RegistryError :=
  if Text.foldCase owner.name = name then .duplicateName owner.name
  else .duplicateAlias name owner.name

/-- Goes through folded names in order and adds those that are new to `claimed`; a name that belongs
to a registered language is the error. -/
def claimNames (registry : Registry) (claimed : List String) :
    List String → Except RegistryError (List String)
  | [] => .ok claimed
  | name :: rest =>
    if name ∈ claimed then registry.claimNames claimed rest
    else match registry.names[name]? with
      | some owner => .error (clash name owner)
      | none => registry.claimNames (claimed ++ [name]) rest

/-- The folded names of a language, its canonical name first. -/
def foldedNames (language : Language) : List String :=
  (language.name :: language.aliases).map Text.foldCase

/-- The folded extensions of a language. -/
def foldedExtensions (language : Language) : List String :=
  language.extensions.map Text.foldCase

/-- Makes every key lead to the same language, whatever it led to before. -/
def assign (index : Std.HashMap String Language) (keys : List String) (language : Language) :
    Std.HashMap String Language :=
  keys.foldl (fun index key => index.insert key language) index

/-- Adds a language, or fails if its name or an alias already belongs to another one. -/
def register (registry : Registry) (language : Language) : Except RegistryError Registry := do
  let names ← registry.claimNames [] (foldedNames language)
  return {
    languages := registry.languages ++ [language]
    names := assign registry.names names language
    extensions := assign registry.extensions (foldedExtensions language) language }

/-- Decides whether every reassignment of an extension that registering a language causes can be
reported. A report gives the name under which the previous owner is registered, so there is none for
a language that takes an extension from itself. -/
def canReport (language : Language) : Bool :=
  (foldedExtensions language).Nodup

/-- The language with the given name or alias, if there is one. -/
def find? (registry : Registry) (name : String) : Option Language :=
  registry.names[Text.foldCase (Text.trim name)]?

/-- The language with the given name or alias. -/
def get (registry : Registry) (name : String) : Except RegistryError Language :=
  match registry.find? name with
  | some language => .ok language
  | none => .error (.unknownLanguage name)

/-- The language that claimed the extension last; the extension may have a leading dot. -/
def findByExtension? (registry : Registry) (extension : String) : Option Language :=
  registry.extensions[Text.foldCase (Text.dropLeadingDot extension)]?

/-- The language for the extension of a path, if it has one that is known. -/
def detect? (registry : Registry) (path : String) : Option Language :=
  (Path.extension? path).bind registry.findByExtension?

/-- The number of registered languages. -/
def size (registry : Registry) : Nat :=
  registry.languages.length

/-- Decides whether no language is registered. -/
def isEmpty (registry : Registry) : Bool :=
  registry.languages.isEmpty

end Registry

end Highlighter
