import Highlighter.Proofs.Language.Checks
import Highlighter.Proofs.Text.Trimming

/-!
# Building a language from its own parts

A language that was built gives its parts back as a definition. Everything in it but the extensions
is in normal form: names are trimmed, and words and characters are sets that their lists determine.
An extension is trimmed before it loses its leading dot, so what is left of it may start with
another dot or with white space. Building it again takes these off too, and if nothing remains the
definition is refused.
-/

namespace Highlighter

/-- The definition that lists the parts of a language, with the words in some order. -/
def Language.toDefinition (language : Language) (keywords types : List String) : Definition where
  name := language.name
  aliases := language.aliases
  extensions := language.extensions
  keywords := keywords
  types := types
  operatorStart := language.operatorStart.toString
  operatorContinue := language.operatorContinue.toString
  punctuation := language.punctuation.toString
  numberChars := language.numberChars.toString
  wordExtra := language.wordExtra.toString
  directiveMarker := language.directiveMarker
  verbatimPrefix := language.verbatimPrefix

namespace Definition

/-! ### Extensions -/

theorem keptExtension_eq_self_iff {given : String} :
    keptExtension given = given ↔ Text.IsTrimmed given ∧ given.toList.head? ≠ some '.' := by
  constructor
  · intro same
    have inside := Text.trim_isInfix given
    have around : given.toList <:+: (Text.trim given).toList := by
      have kept := (Text.dropLeadingDot_isSuffix (Text.trim given)).isInfix
      rwa [← keptExtension, same] at kept
    -- Neither step adds anything, so if nothing is lost in the end, neither takes anything off.
    have trimmed : Text.trim given = given := by
      apply String.toList_injective
      exact inside.eq_of_length (Nat.le_antisymm inside.length_le around.length_le)
    rw [keptExtension, trimmed] at same
    exact ⟨Text.trim_eq_self_iff.mp trimmed, Text.dropLeadingDot_eq_self_iff.mp same⟩
  · rintro ⟨trimmed, noDot⟩
    rw [keptExtension, Text.trim_eq_self_iff.mpr trimmed, Text.dropLeadingDot_eq_self noDot]

/-- No white space stands at the end of what is kept of an extension. -/
theorem not_isWhitespace_of_getLast?_keptExtension {given : String} {c : Char}
    (isLast : (keptExtension given).toList.getLast? = some c) : ¬Character.isWhitespace c := by
  apply (Text.isTrimmed_trim given).2
  rcases Text.dropLeadingDot_isSuffix (Text.trim given) with ⟨removed, whole⟩
  rw [← whole, List.getLast?_append]
  rw [keptExtension] at isLast
  rw [isLast]
  rfl

/-- What is kept of an extension is kept of that again, unless it starts with another dot or with
white space. -/
theorem keptExtension_keptExtension_eq_iff {given : String} :
    keptExtension (keptExtension given) = keptExtension given ↔
      ∀ c, (keptExtension given).toList.head? = some c → c ≠ '.' ∧ ¬Character.isWhitespace c := by
  rw [keptExtension_eq_self_iff, Text.IsTrimmed]
  constructor
  · rintro ⟨⟨start, -⟩, noDot⟩ c isHead
    refine ⟨?_, start c isHead⟩
    rintro rfl
    exact noDot isHead
  · intro start
    refine ⟨⟨fun c isHead => (start c isHead).2, ?_⟩, ?_⟩
    · intro c isLast
      exact not_isWhitespace_of_getLast?_keptExtension isLast
    · intro isDot
      exact (start '.' isDot).1 rfl

/-! ### The parts of a language as a definition -/

variable {definition : Definition} {language : Language} {keywords types : List String}

@[simp]
theorem mem_toList_toString_ofString {text : String} {c : Char} :
    c ∈ (CharClass.ofString text).toString.toList ↔ c ∈ text.toList := by
  rw [← CharClass.mem_ofString, CharClass.ofString_toString, CharClass.mem_ofString]

/-- The words are listed in some order, and possibly more than once. -/
structure ListsWords (keywords types : List String) (language : Language) : Prop where
  keywords : ∀ word, word ∈ keywords ↔ word ∈ language.keywords
  types : ∀ word, word ∈ types ↔ word ∈ language.types

theorem described_toDefinition (listed : ListsWords keywords types definition.described) :
    (definition.described.toDefinition keywords types).described =
      { definition.described with
        extensions := definition.described.extensions.map keptExtension } := by
  have sameKeywords := OrderedSet.ofList_eq_of_mem_iff listed.keywords
  have sameTypes := OrderedSet.ofList_eq_of_mem_iff listed.types
  simp [described, Language.toDefinition, sameKeywords, sameTypes, CharClass.ofString_toString,
    Text.trim_trim]

theorem passes_toDefinition (listed : ListsWords keywords types definition.described)
    (passes : ∀ check : Check, check.Passes definition) {check : Check}
    (other : check ≠ .extensions) :
    check.Passes (definition.described.toDefinition keywords types) := by
  have passed := passes check
  cases check with
  | name | aliases =>
      simpa [Check.Passes, Language.toDefinition, described, Text.trim_trim] using passed
  | extensions => exact absurd rfl other
  | wordExtra | markers | numberChars =>
      simpa [Check.Passes, Language.toDefinition, described] using passed
  | words role =>
      cases role with
      | keyword =>
          simpa [Check.Passes, words, IsWordWith, Language.toDefinition, described,
            listed.keywords] using passed
      | type =>
          simpa [Check.Passes, words, IsWordWith, Language.toDefinition, described,
            listed.types] using passed
  | marker role =>
      cases role <;>
        simpa [Check.Passes, marker, IsTaken, Language.toDefinition, described] using passed
  | wordExtraApart | symbolsApart =>
      simpa [Check.Passes, List.Disjoint, Language.toDefinition, described] using passed

/-- All that can keep a language from being built again is an extension of which nothing is left. -/
theorem forall_passes_toDefinition_iff (listed : ListsWords keywords types definition.described)
    (passes : ∀ check : Check, check.Passes definition) :
    (∀ check : Check, check.Passes (definition.described.toDefinition keywords types)) ↔
      ∀ extension ∈ definition.described.extensions, keptExtension extension ≠ "" := by
  constructor
  · intro passesAgain
    exact passesAgain .extensions
  · intro kept check
    by_cases isExtensions : check = .extensions
    · rw [isExtensions]
      exact kept
    · exact passes_toDefinition listed passes isExtensions

theorem map_keptExtension_eq_iff {extensions : List String} :
    (extensions.map keptExtension).map keptExtension = extensions.map keptExtension ↔
      ∀ extension ∈ extensions.map keptExtension, ∀ c, extension.toList.head? = some c →
        c ≠ '.' ∧ ¬Character.isWhitespace c := by
  simp only [List.map_map, List.map_inj_left, List.forall_mem_map, Function.comp_apply,
    keptExtension_keptExtension_eq_iff]

/--
The parts of a language that was built, given to a new definition, describe the same language but
for its extensions, which are trimmed and lose a leading dot once more. If nothing remains of one of
them the definition is refused, and nothing else can keep it from being accepted. So the same
language is built again exactly if none of its extensions starts with a dot or with white space.
-/
theorem build_toDefinition (built : definition.build = .ok language)
    (listed : ListsWords keywords types language) :
    (∀ other, (language.toDefinition keywords types).build = .ok other ↔
        (∀ extension ∈ language.extensions, keptExtension extension ≠ "") ∧
          other = { language with extensions := language.extensions.map keptExtension }) ∧
      (∀ error, (language.toDefinition keywords types).build = .error error ↔
        ∃ extension,
          IsFirst (fun extension => keptExtension extension = "") language.extensions extension ∧
            error = ⟨language.name, .emptyExtension extension⟩) ∧
      ((language.toDefinition keywords types).build = .ok language ↔
        ∀ extension ∈ language.extensions, ∀ c, extension.toList.head? = some c →
          c ≠ '.' ∧ ¬Character.isWhitespace c) := by
  rcases build_eq_ok_iff_described.mp built with ⟨passes, rfl⟩
  have accepted : ∀ other, (definition.described.toDefinition keywords types).build = .ok other ↔
      (∀ extension ∈ definition.described.extensions, keptExtension extension ≠ "") ∧
        other = { definition.described with
          extensions := definition.described.extensions.map keptExtension } := by
    intro other
    rw [build_eq_ok_iff_described, forall_passes_toDefinition_iff listed passes,
      described_toDefinition listed]
  refine ⟨accepted, ?_, ?_⟩
  · intro error
    have sameName : Text.trim definition.described.name = definition.described.name :=
      Text.trim_trim definition.name
    rw [build_eq_error_iff,
      hasFirstFault_iff_finds fun check => passes_toDefinition listed passes]
    constructor
    · rintro ⟨named, extension, first, isFault⟩
      refine ⟨extension, first, ?_⟩
      rcases error with ⟨name, fault⟩
      exact DefinitionError.mk.injEq .. ▸ ⟨named.trans sameName, isFault⟩
    · rintro ⟨extension, first, rfl⟩
      exact ⟨sameName.symm, extension, first, rfl⟩
  · rw [accepted]
    constructor
    · rintro ⟨-, same⟩
      exact map_keptExtension_eq_iff.mp (congrArg Language.extensions same).symm
    · intro start
      refine ⟨?_, ?_⟩
      · intro extension member
        rcases List.mem_map.mp member with ⟨given, givenMember, rfl⟩
        rw [keptExtension_keptExtension_eq_iff.mpr (start _ member)]
        exact passes .extensions given givenMember
      · have same : definition.described.extensions.map keptExtension =
            definition.described.extensions := map_keptExtension_eq_iff.mpr start
        rw [same]

/-- A definition with white space and a dot to remove, and with a word listed twice. -/
def untidy : Definition where
  name := " sample "
  aliases := ["other "]
  extensions := [" .x.y"]
  keywords := ["of", "in", "of"]
  operatorStart := "+="
  verbatimPrefix := some '@'

/-- The language that it describes is built again from its parts, with the words in any order. -/
theorem build_toDefinition_untidy :
    untidy.build = .ok untidy.described ∧ ListsWords ["in", "of"] [] untidy.described ∧
      (untidy.described.toDefinition ["in", "of"] []).build = .ok untidy.described := by
  have built : untidy.build = .ok untidy.described := rfl
  have listed : ListsWords ["in", "of"] [] untidy.described := by
    constructor <;> simp [described, untidy, or_comm]
  refine ⟨built, listed, (build_toDefinition built listed).2.2.mpr ?_⟩
  intro extension member c isHead
  have plain : untidy.described.extensions = ["x.y"] := by decide
  rw [plain, List.mem_singleton] at member
  subst member
  have same : 'x' = c := Option.some.inj isHead
  subst same
  decide

/-- Of two dots in front of an extension only one is removed, and the other one when the language is
built again; an extension of two dots alone is then refused. -/
theorem build_toDefinition_of_dots :
    (∃ language other, { name := "sample", extensions := ["..x"] : Definition }.build =
        .ok language ∧
      language.extensions = [".x"] ∧ (language.toDefinition [] []).build = .ok other ∧
      other.extensions = ["x"] ∧ other ≠ language) ∧
    ∃ language, { name := "sample", extensions := [".."] : Definition }.build = .ok language ∧
      (language.toDefinition [] []).build = .error ⟨"sample", .emptyExtension "."⟩ := by
  refine ⟨⟨_, _, rfl, by decide, rfl, by decide, ?_⟩, _, rfl, rfl⟩
  intro same
  have extensions := congrArg Language.extensions same
  revert extensions
  decide

end Definition

end Highlighter
