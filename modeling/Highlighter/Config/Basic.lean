import Highlighter.Language.Definition
import Highlighter.Theme

/-!
# Configuration

A configuration says how many files are scanned at a time, which language is meant where none can be
detected, how token kinds are coloured, and which languages there are besides the built-in ones.
-/

namespace Highlighter

/-- The settings that a configuration file can hold. -/
structure Config where
  /-- How many files are scanned at a time. A configuration that is read takes the number of
  processors where its file does not tell. -/
  jobs : Nat := 1
  /-- The language of files whose extension is not known. -/
  defaultLanguage : Option String := none
  /-- The names of the styles that replace the default ones, for the names of token kinds. -/
  theme : OrderedMap String String := .empty
  /-- The definitions of further languages, in the order of their registration. -/
  languages : List Definition := []
deriving DecidableEq

/-- What can be wrong with a configuration or its file. -/
inductive ConfigFault where
  /-- There is no file. -/
  | missing (path : String)
  /-- The file is no document of the expected form. -/
  | malformed
  /-- The configuration has no written form. -/
  | unwritable
  /-- No file would ever be scanned. -/
  | noJobs
  /-- The table of styles is refused. -/
  | theme (fault : ThemeFault)
  /-- No language has the name of the default language. -/
  | unknownDefault (name : String)
deriving DecidableEq, Repr

namespace Config

/-- The configuration of a program that is told nothing, which scans as many files at a time as
there are processors. -/
def standard (processors : Nat) : Config where
  jobs := processors

/-- The theme with the configured styles. -/
def styles (config : Config) : Except ConfigFault Theme :=
  (Theme.ofOverrides config.theme).mapError .theme

/-- Checks what the form of the file leaves open. -/
def validate (config : Config) : Except ConfigFault Unit := do
  if config.jobs = 0 then throw .noJobs
  let _ ← config.styles

end Config

end Highlighter
