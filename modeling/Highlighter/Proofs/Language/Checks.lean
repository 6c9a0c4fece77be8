import Highlighter.Language.Definition
import Highlighter.Proofs.OrderedSet.Members
import Mathlib.Data.List.Basic

/-!
# The checks of a definition

Building a language is a list of checks on the definition, each of which asks for something that
can be said about the sets of its characters and the lists of its words. If all of them pass, the
language holds what the definition gives, trimmed and with words and characters as sets. Otherwise
the error is what the first check that does not pass finds: the first of the listed names or words
that is at fault, or of the characters at fault the one with the least code point.
-/

namespace Highlighter

/-- The item stands in the list and has the property, and no item in front of it has. -/
def IsFirst {α : Type} (p : α → Prop) (items : List α) (item : α) : Prop :=
  ∃ earlier later, items = earlier ++ item :: later ∧ p item ∧ ∀ other ∈ earlier, ¬p other

namespace Definition

/-! ### What a definition gives -/

/-- The classified words in a role. -/
def words (definition : Definition) : WordRole → List String
  | .keyword => definition.keywords
  | .type => definition.types

/-- The marker character in a role. -/
def marker (definition : Definition) : MarkerRole → Option Char
  | .directive => definition.directiveMarker
  | .verbatim => definition.verbatimPrefix

/-- What is kept of an extension: it is trimmed and then loses one leading dot. -/
def keptExtension (given : String) : String :=
  Text.dropLeadingDot (Text.trim given)

/-- The language holds what the definition gives: the names in their order, and exactly the given
words and characters. -/
structure IsHeldBy (definition : Definition) (language : Language) : Prop where
  name : language.name = Text.trim definition.name
  aliases : language.aliases = definition.aliases.map Text.trim
  extensions : language.extensions = definition.extensions.map keptExtension
  keywords : ∀ word, word ∈ language.keywords ↔ word ∈ definition.keywords
  types : ∀ word, word ∈ language.types ↔ word ∈ definition.types
  operatorStart : ∀ c, c ∈ language.operatorStart ↔ c ∈ definition.operatorStart.toList
  operatorContinue : ∀ c, c ∈ language.operatorContinue ↔ c ∈ definition.operatorContinue.toList
  punctuation : ∀ c, c ∈ language.punctuation ↔ c ∈ definition.punctuation.toList
  numberChars : ∀ c, c ∈ language.numberChars ↔ c ∈ definition.numberChars.toList
  wordExtra : ∀ c, c ∈ language.wordExtra ↔ c ∈ definition.wordExtra.toList
  directiveMarker : language.directiveMarker = definition.directiveMarker
  verbatimPrefix : language.verbatimPrefix = definition.verbatimPrefix

/-! ### What the checks ask for -/

/-- White space or a quote. -/
def IsDelimiter (c : Char) : Prop :=
  Character.isWhitespace c ∨ c = '"' ∨ c = '\''

/-- The text is a word if the given characters count as letters. -/
def IsWordWith (extra : List Char) (word : String) : Prop :=
  ∃ first rest, word.toList = first :: rest ∧
    (Character.isAlphabetic first ∨ first = '_' ∨ first ∈ extra) ∧
    ∀ c ∈ rest, Character.isAlphanumeric c ∨ c = '_' ∨ c ∈ extra

/-- The character belongs to a rule of the scanner other than those of the two markers. -/
def IsTaken (definition : Definition) (c : Char) : Prop :=
  IsDelimiter c ∨ Character.isAlphanumeric c ∨ c = '_' ∨ c ∈ definition.wordExtra.toList ∨
    c ∈ definition.operatorStart.toList ∨ c ∈ definition.punctuation.toList

/-- The checks of a definition. -/
inductive Check where
  | name
  | aliases
  | extensions
  | wordExtra
  | words (role : WordRole)
  | marker (role : MarkerRole)
  | markers
  | wordExtraApart
  | symbolsApart
  | numberChars

namespace Check

/-- The checks in the order in which they are made. -/
def all : List Check :=
  [name, aliases, extensions, wordExtra, words .keyword, words .type, marker .directive,
    marker .verbatim, markers, wordExtraApart, symbolsApart, numberChars]

/-- What a check asks of a definition. -/
def Passes (definition : Definition) : Check → Prop
  | name => Text.trim definition.name ≠ ""
  | aliases => ∀ given ∈ definition.aliases, Text.trim given ≠ ""
  | extensions => ∀ given ∈ definition.extensions, keptExtension given ≠ ""
  | wordExtra => ∀ c ∈ definition.wordExtra.toList, ¬IsDelimiter c
  | words role => ∀ word ∈ definition.words role, IsWordWith definition.wordExtra.toList word
  | marker role => ∀ c, definition.marker role = some c → ¬definition.IsTaken c
  | markers => ∀ c, definition.directiveMarker = some c → definition.verbatimPrefix ≠ some c
  | wordExtraApart =>
    definition.wordExtra.toList.Disjoint definition.operatorStart.toList ∧
      definition.wordExtra.toList.Disjoint definition.punctuation.toList
  | symbolsApart => definition.operatorStart.toList.Disjoint definition.punctuation.toList
  | numberChars => ∀ c ∈ definition.numberChars.toList, ¬IsDelimiter c

/-- What a check that does not pass finds: of several names or words at fault the first one, of
several characters the least one. -/
def Finds (definition : Definition) (fault : DefinitionFault) : Check → Prop
  | name => Text.trim definition.name = "" ∧ fault = .emptyName
  | aliases => ∃ given,
    IsFirst (fun given => Text.trim given = "") definition.aliases given ∧
      fault = .emptyAlias given
  | extensions => ∃ given,
    IsFirst (fun given => keptExtension given = "") definition.extensions given ∧
      fault = .emptyExtension given
  | wordExtra => ∃ c,
    IsLeast {c | c ∈ definition.wordExtra.toList ∧ IsDelimiter c} c ∧ fault = .wordCharacter c
  | words role => ∃ word,
    IsFirst (fun word => ¬IsWordWith definition.wordExtra.toList word) (definition.words role)
      word ∧ fault = .notAWord role word
  | marker role => ∃ c,
    (definition.marker role = some c ∧ definition.IsTaken c) ∧ fault = .shadowedMarker role c
  | markers =>
    (∃ c, definition.directiveMarker = some c ∧ definition.verbatimPrefix = some c) ∧
      fault = .equalMarkers
  | wordExtraApart => ∃ c,
    IsLeast {c | c ∈ definition.wordExtra.toList ∧
      (c ∈ definition.operatorStart.toList ∨ c ∈ definition.punctuation.toList)} c ∧
      fault = .shadowedWordCharacter c
  | symbolsApart => ∃ c,
    IsLeast {c | c ∈ definition.punctuation.toList ∧ c ∈ definition.operatorStart.toList} c ∧
      fault = .operatorAndPunctuation c
  | numberChars => ∃ c,
    IsLeast {c | c ∈ definition.numberChars.toList ∧ IsDelimiter c} c ∧ fault = .numberCharacter c

end Check

/-- The fault is what the first check that does not pass finds. -/
def HasFirstFault (definition : Definition) (fault : DefinitionFault) : Prop :=
  ∃ check, IsFirst (fun check : Check => ¬check.Passes definition) Check.all check ∧
    check.Finds definition fault

/-! ### Making the checks -/

theorem find?_eq_some_iff_isFirst {α : Type} {p : α → Bool} {q : α → Prop} {items : List α}
    {item : α} (same : ∀ item, p item ↔ q item) :
    items.find? p = some item ↔ IsFirst q items item := by
  rw [List.find?_eq_some_iff_append]
  constructor
  · rintro ⟨satisfies, earlier, later, order, none⟩
    refine ⟨earlier, later, order, (same item).mp satisfies, ?_⟩
    intro other member holds
    simpa [(same other).mpr holds] using none other member
  · rintro ⟨earlier, later, order, holds, none⟩
    refine ⟨(same item).mpr holds, earlier, later, order, ?_⟩
    intro other member
    simpa [← same] using none other member

theorem map_eq_some_iff_exists {α β : Type} {found : Option α} {report : α → β} {q : α → Prop}
    {result : β} (same : ∀ a, found = some a ↔ q a) :
    found.map report = some result ↔ ∃ a, q a ∧ result = report a := by
  simp only [Option.map_eq_some_iff, same, eq_comm (a := result)]

/-- The language that a definition describes, whether or not it passes the checks. -/
def described (definition : Definition) : Language where
  name := Text.trim definition.name
  aliases := definition.aliases.map Text.trim
  extensions := definition.extensions.map keptExtension
  keywords := .ofList definition.keywords
  types := .ofList definition.types
  operatorStart := .ofString definition.operatorStart
  operatorContinue := .ofString definition.operatorContinue
  punctuation := .ofString definition.punctuation
  numberChars := .ofString definition.numberChars
  wordExtra := .ofString definition.wordExtra
  directiveMarker := definition.directiveMarker
  verbatimPrefix := definition.verbatimPrefix

theorem isHeldBy_iff {definition : Definition} {language : Language} :
    definition.IsHeldBy language ↔ language = definition.described := by
  constructor
  · intro held
    have keywords := OrderedSet.ofList_eq_of_mem_iff fun word => (held.keywords word).symm
    have types := OrderedSet.ofList_eq_of_mem_iff fun word => (held.types word).symm
    have characters : ∀ {set : CharClass} {text : String},
        (∀ c, c ∈ set ↔ c ∈ text.toList) → set = .ofString text := by
      intro set text same
      exact (OrderedSet.ofList_eq_of_mem_iff fun c => (same c).symm).symm
    cases language
    simp only [described, Language.mk.injEq]
    exact ⟨held.name, held.aliases, held.extensions, keywords.symm, types.symm,
      characters held.operatorStart, characters held.operatorContinue,
      characters held.punctuation, characters held.numberChars, characters held.wordExtra,
      held.directiveMarker, held.verbatimPrefix⟩
  · rintro rfl
    constructor <;> simp [described]

theorem endsCode_iff {c : Char} : endsCode c ↔ IsDelimiter c := by
  simp [endsCode, IsDelimiter, Character.isQuote]

theorem isWord_iff {extra : String} {word : String} :
    isWord (.ofString extra) word ↔ IsWordWith extra.toList word := by
  unfold isWord IsWordWith
  cases word.toList with
  | nil => simp
  | cons first rest =>
      simp [Character.isWordStart, Character.isWordContinue, or_assoc, or_left_comm]

theorem shadowsMarker_iff {definition : Definition} {c : Char} :
    shadowsMarker definition.described.wordExtra definition.described.operatorStart
        definition.described.punctuation c ↔
      definition.IsTaken c := by
  simp [shadowsMarker, IsTaken, endsCode_iff, Character.isWordContinue, described, or_assoc,
    or_left_comm]

/-- The value, unless a fault was found. -/
def unlessFault {α : Type} (value : α) : Option DefinitionFault → Except DefinitionFault α
  | some fault => .error fault
  | none => .ok value

theorem unlessFault_bind {α β : Type} (value : α) (found : Option DefinitionFault)
    (next : α → Except DefinitionFault β) :
    unlessFault value found >>= next =
      match found with
      | some fault => .error fault
      | none => next value := by
  cases found <;> rfl

theorem normalizeNames_eq (normalize : String → String) (fault : String → DefinitionFault)
    (names : List String) :
    normalizeNames normalize fault names =
      unlessFault (names.map fun given => normalize (Text.trim given))
        ((names.find? fun given => normalize (Text.trim given) = "").map fault) := by
  induction names with
  | nil => rfl
  | cons given rest ih =>
      rw [normalizeNames, ih]
      by_cases blank : normalize (Text.trim given) = ""
      · simp only [blank, if_true, List.find?_cons, decide_true, Option.map_some]
        rfl
      · simp only [blank, if_false, List.find?_cons, decide_false, unlessFault_bind]
        cases (rest.find? fun given => normalize (Text.trim given) = "").map fault <;> rfl

theorem collectWords_eq (extra : CharClass) (role : WordRole) (words : List String) :
    collectWords extra role words =
      unlessFault (OrderedSet.ofList words)
        ((words.find? fun word => !isWord extra word).map (.notAWord role)) := by
  unfold collectWords
  cases words.find? fun word => !isWord extra word <;> rfl

theorem refuse_eq (fault : Char → DefinitionFault) (found : Option Char) :
    refuse fault found = unlessFault () (found.map fault) := by
  cases found <;> rfl

theorem ite_throw_eq {α : Type} (condition : Prop) [Decidable condition] (fault : DefinitionFault)
    (otherwise : Except DefinitionFault α) :
    (if condition then throw fault >>= fun _ : PUnit => otherwise else otherwise) =
      unlessFault () (if condition then some fault else none) >>= fun _ => otherwise := by
  by_cases holds : condition
  · simp only [holds, if_true]
    rfl
  · simp only [holds, if_false]
    rfl

namespace Check

/-- What a check finds on the way to a language. -/
def find? (definition : Definition) : Check → Option DefinitionFault
  | name => if Text.trim definition.name = "" then some .emptyName else none
  | aliases => (definition.aliases.find? fun given => Text.trim given = "").map .emptyAlias
  | extensions =>
    (definition.extensions.find? fun given => keptExtension given = "").map .emptyExtension
  | wordExtra => (definition.described.wordExtra.find? endsCode).map .wordCharacter
  | words role =>
    ((definition.words role).find? fun word =>
      !isWord definition.described.wordExtra word).map (.notAWord role)
  | marker role =>
    ((definition.marker role).filter (shadowsMarker definition.described.wordExtra
      definition.described.operatorStart definition.described.punctuation)).map
        (.shadowedMarker role)
  | markers =>
    if definition.directiveMarker.isSome ∧ definition.directiveMarker = definition.verbatimPrefix
    then some .equalMarkers else none
  | wordExtraApart =>
    (definition.described.wordExtra.find? fun c =>
      definition.described.operatorStart.contains c ||
        definition.described.punctuation.contains c).map .shadowedWordCharacter
  | symbolsApart =>
    (definition.described.punctuation.find? definition.described.operatorStart.contains).map
      .operatorAndPunctuation
  | numberChars => (definition.described.numberChars.find? endsCode).map .numberCharacter

theorem find?_eq_none_iff {definition : Definition} {check : Check} :
    check.find? definition = none ↔ check.Passes definition := by
  cases check with
  | name => simp [find?, Passes]
  | aliases => simp [find?, Passes]
  | extensions => simp [find?, Passes]
  | wordExtra =>
      simp [find?, Passes, OrderedSet.find?_eq_none_iff_forall, described, ← endsCode_iff]
  | words role => simp [find?, Passes, described, isWord_iff]
  | marker role => simp [find?, Passes, ← shadowsMarker_iff]
  | markers =>
      cases set : definition.directiveMarker with
      | none => simp [find?, Passes, set]
      | some c => simp [find?, Passes, set, eq_comm]
  | wordExtraApart =>
      simp [find?, Passes, OrderedSet.find?_eq_none_iff_forall, described, List.Disjoint,
        forall_and]
  | symbolsApart =>
      simp only [find?, Passes, Option.map_eq_none_iff, OrderedSet.find?_eq_none_iff_forall,
        OrderedSet.contains_iff_mem, described, CharClass.mem_ofString]
      exact List.disjoint_comm
  | numberChars =>
      simp [find?, Passes, OrderedSet.find?_eq_none_iff_forall, described, ← endsCode_iff]

theorem find?_eq_some_iff {definition : Definition} {check : Check} {fault : DefinitionFault} :
    check.find? definition = some fault ↔ check.Finds definition fault := by
  cases check with
  | name => simp [find?, Finds, eq_comm (a := fault)]
  | aliases =>
      apply map_eq_some_iff_exists
      intro given
      apply find?_eq_some_iff_isFirst
      simp
  | extensions =>
      apply map_eq_some_iff_exists
      intro given
      apply find?_eq_some_iff_isFirst
      simp
  | wordExtra =>
      apply map_eq_some_iff_exists
      intro c
      simp only [described, CharClass.find?_ofString_eq_some_iff, endsCode_iff]
  | words role =>
      apply map_eq_some_iff_exists
      intro word
      apply find?_eq_some_iff_isFirst
      simp [described, ← isWord_iff]
  | marker role =>
      apply map_eq_some_iff_exists
      intro c
      simp only [Option.filter_eq_some_iff, shadowsMarker_iff]
  | markers =>
      cases set : definition.directiveMarker with
      | none => simp [find?, Finds, set]
      | some c => simp [find?, Finds, set, eq_comm (a := fault), eq_comm (a := some c)]
  | wordExtraApart =>
      apply map_eq_some_iff_exists
      intro c
      simp only [described, CharClass.find?_ofString_eq_some_iff, Bool.or_eq_true,
        OrderedSet.contains_iff_mem, CharClass.mem_ofString]
  | symbolsApart =>
      apply map_eq_some_iff_exists
      intro c
      simp only [described, CharClass.find?_ofString_eq_some_iff, OrderedSet.contains_iff_mem,
        CharClass.mem_ofString]
  | numberChars =>
      apply map_eq_some_iff_exists
      intro c
      simp only [described, CharClass.find?_ofString_eq_some_iff, endsCode_iff]

end Check

theorem unlessFault_findSome?_cons {α : Type} (value : α) (find : Check → Option DefinitionFault)
    (check : Check) (rest : List Check) :
    unlessFault value ((check :: rest).findSome? find) =
      match find check with
      | some fault => .error fault
      | none => unlessFault value (rest.findSome? find) := by
  rw [List.findSome?_cons]
  cases find check <;> rfl

theorem resolve_eq (definition : Definition) :
    definition.resolve (Text.trim definition.name) =
      unlessFault definition.described (Check.all.findSome? (Check.find? definition)) := by
  simp only [resolve, normalizeNames_eq, collectWords_eq, refuse_eq, ite_throw_eq, unlessFault_bind,
    Check.all, unlessFault_findSome?_cons]
  rfl

/-! ### The outcome -/

theorem Check.mem_all (check : Check) : check ∈ Check.all := by
  cases check with
  | words role => cases role <;> simp [all]
  | marker role => cases role <;> simp [all]
  | _ => simp [all]

theorem findSome?_find?_eq_none_iff {definition : Definition} :
    Check.all.findSome? (Check.find? definition) = none ↔
      ∀ check : Check, check.Passes definition := by
  simp only [List.findSome?_eq_none_iff, Check.mem_all, forall_const, Check.find?_eq_none_iff]

theorem findSome?_find?_eq_some_iff {definition : Definition} {fault : DefinitionFault} :
    Check.all.findSome? (Check.find? definition) = some fault ↔
      definition.HasFirstFault fault := by
  rw [List.findSome?_eq_some_iff]
  constructor
  · rintro ⟨earlier, check, later, order, found, none⟩
    refine ⟨check, ⟨earlier, later, order, ?_, ?_⟩, Check.find?_eq_some_iff.mp found⟩
    · simp [← Check.find?_eq_none_iff, found]
    · intro passed member
      simpa [← Check.find?_eq_none_iff] using none passed member
  · rintro ⟨check, ⟨earlier, later, order, -, passing⟩, finds⟩
    refine ⟨earlier, check, later, order, Check.find?_eq_some_iff.mpr finds, ?_⟩
    intro passed member
    exact Check.find?_eq_none_iff.mpr (not_not.mp (passing passed member))

/-- If all checks but one pass, the first fault is what that one finds. -/
theorem hasFirstFault_iff_finds {definition : Definition} {only : Check} {fault : DefinitionFault}
    (others : ∀ check, check ≠ only → check.Passes definition) :
    definition.HasFirstFault fault ↔ only.Finds definition fault := by
  have onlyFails : ∀ {check : Check}, ¬check.Passes definition → check = only := by
    intro check fails
    by_contra other
    exact fails (others check other)
  constructor
  · rintro ⟨check, ⟨_, _, _, fails, _⟩, finds⟩
    exact onlyFails fails ▸ finds
  · intro finds
    have found := Check.find?_eq_some_iff.mpr finds
    cases first : Check.all.findSome? (Check.find? definition) with
    | none =>
        have passes := findSome?_find?_eq_none_iff.mp first only
        rw [Check.find?_eq_none_iff.mpr passes] at found
        cases found
    | some other =>
        have isFirst := findSome?_find?_eq_some_iff.mp first
        rcases isFirst with ⟨check, ⟨_, _, _, fails, _⟩, checkFinds⟩
        rcases onlyFails fails with rfl
        have same := (Check.find?_eq_some_iff.mpr checkFinds).symm.trans found
        rcases Option.some.inj same with rfl
        exact findSome?_find?_eq_some_iff.mp first

theorem build_eq_ok_iff_described {definition : Definition} {language : Language} :
    definition.build = .ok language ↔
      (∀ check : Check, check.Passes definition) ∧ language = definition.described := by
  rw [build, resolve_eq, ← findSome?_find?_eq_none_iff]
  cases Check.all.findSome? (Check.find? definition) with
  | none => simp [unlessFault, Except.mapError, eq_comm]
  | some fault => simp [unlessFault, Except.mapError]

theorem build_eq_error_iff {definition : Definition} {error : DefinitionError} :
    definition.build = .error error ↔
      error.language = Text.trim definition.name ∧ definition.HasFirstFault error.fault := by
  rw [build, resolve_eq, ← findSome?_find?_eq_some_iff]
  cases Check.all.findSome? (Check.find? definition) with
  | none => simp [unlessFault, Except.mapError]
  | some fault =>
      rcases error with ⟨language, other⟩
      simp [unlessFault, Except.mapError, eq_comm]

/--
A definition is accepted exactly if it passes all checks, and the language then holds what the
definition gives and nothing else. Otherwise the error carries the trimmed name and what the first
check that does not pass finds.
-/
theorem build_accepts_iff_passes (definition : Definition) :
    ((∃ language, definition.build = .ok language) ↔
        ∀ check : Check, check.Passes definition) ∧
      (∀ language, definition.build = .ok language ↔
        (∀ check : Check, check.Passes definition) ∧ definition.IsHeldBy language) ∧
      ∀ error, definition.build = .error error ↔
        error.language = Text.trim definition.name ∧ definition.HasFirstFault error.fault := by
  refine ⟨?_, ?_, ?_⟩
  · simp only [build_eq_ok_iff_described, exists_and_left, exists_eq, and_true]
  · intro language
    rw [build_eq_ok_iff_described, isHeldBy_iff]
  · intro error
    exact build_eq_error_iff

-- Of the four characters that words must not hold, the tabulator has the least code point.
example : { name := " sample ", wordExtra := "a\"' \t", numberChars := "'" : Definition }.build =
    .error ⟨"sample", .wordCharacter '\t'⟩ := by rfl

end Definition

end Highlighter
