import Highlighter.Ansi
import Highlighter.Builtin.Registry
import Highlighter.Error

/-!
# Sessions

A session is what commands need to know besides their own arguments: the configuration, and the
registry and the theme that follow from it.
-/

namespace Highlighter

namespace Registry

/-- Registers the language that a definition describes. If registrations are `reported`, one that
cannot be is an error. -/
def define (registry : Registry) (reported : Bool) (definition : Definition) :
    Except Error Registry := do
  let language ← definition.build.mapError .definition
  let registry ← (registry.register language).mapError .registry
  if reported && !canReport language then throw (.unreportable language.name)
  return registry

end Registry

namespace Config

/-- The built-in languages and then the configured ones, with a default language among them if one
is set. -/
def registry (config : Config) (reported : Bool) : Except Error Registry := do
  let registry ← config.languages.foldlM (Registry.define · reported) Builtin.registry
  match config.defaultLanguage with
  | none => return registry
  | some name =>
    if (registry.find? name).isNone then throw (.configuration (.unknownDefault name))
    return registry

end Config

/-- What commands share. -/
structure Session where
  /-- The settings. -/
  config : Config
  /-- The languages. -/
  registry : Registry
  /-- The styles of token kinds. -/
  theme : Theme
  /-- Whether output may be coloured. -/
  isColoured : Bool

namespace Session

/-- Opens a session with a configuration. -/
def ofConfig (config : Config) (isColoured reported : Bool) : Except Error Session := do
  let registry ← config.registry reported
  let theme ← config.styles.mapError .configuration
  return { config, registry, theme, isColoured }

/-- The language of a file: the one asked for by name, or else the one detected by the extension, or
else the default language. -/
def resolve (session : Session) (explicit : Option String) (path : String) :
    Except RegistryError Language :=
  match explicit with
  | some name => session.registry.get name
  | none => match session.registry.detect? path with
    | some language => .ok language
    | none => match session.config.defaultLanguage with
      | some name => session.registry.get name
      | none => .error (.undetected path)

end Session

end Highlighter
