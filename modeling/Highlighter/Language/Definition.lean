import Highlighter.Language.Basic
import Highlighter.Language.Error

/-!
# Language definitions

A definition lists the parts of a language as they were written, in any order and with repetitions.
`Definition.build` checks them and brings them into normal form: names and extensions are trimmed,
an extension loses one leading dot, and words and characters become sets. It refuses a definition
that could not drive the scanner as described: a blank name, a classified word that the scanner
would never see as a word, or a character claimed by two rules of which the later could never
apply.
-/

namespace Highlighter

/-- The parts of a language as written, before any check. -/
structure Definition where
  /-- The canonical name. -/
  name : String
  /-- Further names. -/
  aliases : List String := []
  /-- File extensions, each with or without a leading dot. -/
  extensions : List String := []
  /-- The keywords. -/
  keywords : List String := []
  /-- The type names. -/
  types : List String := []
  /-- The characters that start an operator. -/
  operatorStart : String := ""
  /-- The characters that continue an operator. -/
  operatorContinue : String := ""
  /-- The punctuation characters. -/
  punctuation : String := ""
  /-- The characters allowed in numbers besides ASCII digits. -/
  numberChars : String := ""
  /-- The further characters of words. -/
  wordExtra : String := ""
  /-- The character that opens a directive line. -/
  directiveMarker : Option Char := none
  /-- The character that may stand before a word. -/
  verbatimPrefix : Option Char := none
deriving DecidableEq, Repr

namespace Definition

/-! ### Extending a definition -/

/-- Adds further names. -/
def addAliases (definition : Definition) (names : List String) : Definition :=
  { definition with aliases := definition.aliases ++ names }

/-- Adds file extensions. -/
def addExtensions (definition : Definition) (names : List String) : Definition :=
  { definition with extensions := definition.extensions ++ names }

/-- Adds keywords. -/
def addKeywords (definition : Definition) (words : List String) : Definition :=
  { definition with keywords := definition.keywords ++ words }

/-- Adds type names. -/
def addTypes (definition : Definition) (words : List String) : Definition :=
  { definition with types := definition.types ++ words }

/-- Replaces both classes of operator characters. -/
def withOperators (definition : Definition) (start continuation : String) : Definition :=
  { definition with operatorStart := start, operatorContinue := continuation }

/-- Replaces the punctuation characters. -/
def withPunctuation (definition : Definition) (characters : String) : Definition :=
  { definition with punctuation := characters }

/-- Replaces the characters allowed in numbers. -/
def withNumberChars (definition : Definition) (characters : String) : Definition :=
  { definition with numberChars := characters }

/-- Replaces the further characters of words. -/
def withWordExtra (definition : Definition) (characters : String) : Definition :=
  { definition with wordExtra := characters }

/-- Sets the character that opens a directive line. -/
def withDirectiveMarker (definition : Definition) (c : Char) : Definition :=
  { definition with directiveMarker := some c }

/-- Sets the character that may stand before a word. -/
def withVerbatimPrefix (definition : Definition) (c : Char) : Definition :=
  { definition with verbatimPrefix := some c }

/-! ### Checks -/

/-- Decides whether a text is a word: not empty, opened by a character that starts words and
continued by characters that continue words, where `extra` lists further characters of either
kind. -/
def isWord (extra : CharClass) (word : String) : Bool :=
  match word.toList with
  | [] => false
  | first :: rest =>
    (Character.isWordStart first || extra.contains first) &&
      rest.all fun c => Character.isWordContinue c || extra.contains c

/-- Trims the names and applies `normalize` to each; the first one of which nothing is left is the
error. -/
def normalizeNames (normalize : String → String) (fault : String → DefinitionFault) :
    List String → Except DefinitionFault (List String)
  | [] => .ok []
  | given :: rest => do
    let name := normalize (Text.trim given)
    if name = "" then throw (fault given)
    let names ← normalizeNames normalize fault rest
    return name :: names

/-- Collects the words into a set; the first one that is no word is the error. -/
def collectWords (extra : CharClass) (role : WordRole) (words : List String) :
    Except DefinitionFault (OrderedSet String) :=
  match words.find? fun word => !isWord extra word with
  | some word => .error (.notAWord role word)
  | none => .ok (OrderedSet.ofList words)

/-- Fails with the fault that goes with the found character, if one was found. -/
def refuse (fault : Char → DefinitionFault) : Option Char → Except DefinitionFault Unit
  | some c => .error (fault c)
  | none => .ok ()

/-- White space and quotes belong to rules that come before words and numbers. -/
def endsCode (c : Char) : Bool :=
  Character.isWhitespace c || Character.isQuote c

/-- Decides whether a rule other than its own would take a marker character first. -/
def shadowsMarker (wordExtra operatorStart punctuation : CharClass) (c : Char) : Bool :=
  endsCode c || Character.isWordContinue c || wordExtra.contains c ||
    operatorStart.contains c || punctuation.contains c

/-- The language that a definition with the given trimmed name describes, or its first fault. -/
def resolve (definition : Definition) (name : String) : Except DefinitionFault Language := do
  if name = "" then throw .emptyName
  let aliases ← normalizeNames id .emptyAlias definition.aliases
  let extensions ← normalizeNames Text.dropLeadingDot .emptyExtension definition.extensions
  let wordExtra := CharClass.ofString definition.wordExtra
  refuse .wordCharacter (wordExtra.find? endsCode)
  let keywords ← collectWords wordExtra .keyword definition.keywords
  let types ← collectWords wordExtra .type definition.types
  let operatorStart := CharClass.ofString definition.operatorStart
  let punctuation := CharClass.ofString definition.punctuation
  let shadowed := shadowsMarker wordExtra operatorStart punctuation
  refuse (.shadowedMarker .directive) (definition.directiveMarker.filter shadowed)
  refuse (.shadowedMarker .verbatim) (definition.verbatimPrefix.filter shadowed)
  if definition.directiveMarker.isSome ∧ definition.directiveMarker = definition.verbatimPrefix then
    throw .equalMarkers
  refuse .shadowedWordCharacter
    (wordExtra.find? fun c => operatorStart.contains c || punctuation.contains c)
  refuse .operatorAndPunctuation (punctuation.find? operatorStart.contains)
  let numberChars := CharClass.ofString definition.numberChars
  refuse .numberCharacter (numberChars.find? endsCode)
  return {
    name, aliases, extensions, keywords, types, operatorStart
    operatorContinue := CharClass.ofString definition.operatorContinue
    punctuation, numberChars, wordExtra
    directiveMarker := definition.directiveMarker
    verbatimPrefix := definition.verbatimPrefix }

/-- The language that a definition describes, or the first fault under its trimmed name. -/
def build (definition : Definition) : Except DefinitionError Language :=
  let name := Text.trim definition.name
  (definition.resolve name).mapError (⟨name, ·⟩)

end Definition

end Highlighter
