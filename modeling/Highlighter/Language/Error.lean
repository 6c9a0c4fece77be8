import Highlighter.Text.Quoted

/-!
# Faults of a language definition

What can be wrong with a definition, one case per cause, and the wording of each.
-/

namespace Highlighter

/-- The two sets of classified words. -/
inductive WordRole where
  /-- The keyword set. -/
  | keyword
  /-- The type set. -/
  | type
deriving DecidableEq, Repr

/-- The two marker characters. -/
inductive MarkerRole where
  /-- The character that opens a directive line. -/
  | directive
  /-- The character that may stand before a word. -/
  | verbatim
deriving DecidableEq, Repr

/-- A reason for which a definition describes no language. -/
inductive DefinitionFault where
  /-- The name is blank. -/
  | emptyName
  /-- The alias is blank. -/
  | emptyAlias (given : String)
  /-- Nothing is left of the extension. -/
  | emptyExtension (given : String)
  /-- White space or a quote is declared part of words. -/
  | wordCharacter (c : Char)
  /-- The scanner could never see the word as one. -/
  | notAWord (role : WordRole) (word : String)
  /-- Another rule would take the marker first. -/
  | shadowedMarker (role : MarkerRole) (c : Char)
  /-- Both markers are the same character. -/
  | equalMarkers
  /-- A character declared part of words is also an operator start or punctuation. -/
  | shadowedWordCharacter (c : Char)
  /-- The character is declared both an operator start and punctuation. -/
  | operatorAndPunctuation (c : Char)
  /-- White space or a quote is declared part of numbers. -/
  | numberCharacter (c : Char)
deriving DecidableEq, Repr

/-- A fault together with the trimmed name of the language whose definition has it. -/
structure DefinitionError where
  /-- The trimmed name in the definition. -/
  language : String
  /-- The first fault found. -/
  fault : DefinitionFault
deriving DecidableEq, Repr

namespace WordRole

/-- The word for a role in messages. -/
def label : WordRole → String
  | keyword => "keyword"
  | type => "type"

end WordRole

namespace MarkerRole

/-- The words for a role in messages. -/
def label : MarkerRole → String
  | directive => "directive marker"
  | verbatim => "verbatim prefix"

end MarkerRole

namespace DefinitionFault

open Text.Quoted in
/-- The wording of a fault. -/
def reason : DefinitionFault → String
  | emptyName => "language name is empty"
  | emptyAlias given => "alias " ++ string given ++ " is empty"
  | emptyExtension given => "extension " ++ string given ++ " is empty"
  | wordCharacter c => character c ++ " cannot be a word character"
  | notAWord role word => role.label ++ " " ++ string word ++ " is not a word"
  | shadowedMarker role c =>
    role.label ++ " " ++ character c ++ " would be shadowed by another rule"
  | equalMarkers => "directive marker and verbatim prefix are the same character"
  | shadowedWordCharacter c =>
    "word character " ++ character c ++ " would be shadowed by another rule"
  | operatorAndPunctuation c => character c ++ " is both an operator start and punctuation"
  | numberCharacter c => character c ++ " cannot appear inside a number"

end DefinitionFault

namespace DefinitionError

/-- The full message: which language, and what is wrong with it. -/
def message (error : DefinitionError) : String :=
  "invalid configuration for language `" ++ error.language ++ "`: " ++ error.fault.reason

end DefinitionError

end Highlighter
