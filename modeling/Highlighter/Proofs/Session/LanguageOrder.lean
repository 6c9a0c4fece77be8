import Highlighter.Proofs.Language.WellFormed
import Highlighter.Proofs.Registry.Batch
import Highlighter.Proofs.Session.Reports

/-!
# The order of the configured languages

A configuration has a registry exactly if all its definitions describe languages, the names keep
these apart from each other and from the built-in languages, and the default language is found. No
part of this depends on the order of the definitions: a permutation of them describes a permutation
of the languages.

If one order has a registry, so has every other one, and all names lead to the same languages in
all of them. Only the extensions that several configured languages list may lead to different ones.
-/

namespace Highlighter

/-- The definition is accepted and describes the language. -/
def Definition.Describes (definition : Definition) (language : Language) : Prop :=
  definition.build = .ok language

/-! ### Definitions that are registered -/

namespace Registry

variable {registry next last : Registry} {reported : Bool} {definition : Definition}
  {definitions : List Definition}

theorem define_eq_ok_iff :
    registry.define reported definition = .ok next ↔
      ∃ language, definition.Describes language ∧ registry.register language = .ok next ∧
        (reported → (foldedExtensions language).Nodup) := by
  constructor
  · intro defined
    cases built : definition.build with
    | error error =>
        simp only [define, built] at defined
        cases defined
    | ok language =>
        cases accepted : registry.register language with
        | error error =>
            rw [define_of_build built, accepted] at defined
            cases defined
        | ok added =>
            rw [define_of_register built accepted] at defined
            by_cases unreportable : reported && !canReport language
            · rw [if_pos unreportable] at defined
              cases defined
            · rw [if_neg unreportable] at defined
              rcases Except.ok.inj defined with rfl
              refine ⟨language, built, accepted, ?_⟩
              intro asked
              rw [← canReport_eq_true_iff]
              simpa [asked] using unreportable
  · rintro ⟨language, built, accepted, reportable⟩
    rw [define_of_register built accepted, if_neg]
    intro unreportable
    rw [Bool.and_eq_true, Bool.not_eq_true'] at unreportable
    have canBeReported := (canReport_eq_true_iff language).mpr (reportable unreportable.1)
    simp [canBeReported] at unreportable

/-- Definitions are registered one after the other exactly if the languages that they describe
are. -/
theorem foldlM_define_eq_ok_iff :
    definitions.foldlM (define · reported) registry = .ok last ↔
      ∃ languages, List.Forall₂ Definition.Describes definitions languages ∧
        registry.registerAll languages = .ok last ∧
        (reported → ∀ language ∈ languages, (foldedExtensions language).Nodup) := by
  induction definitions generalizing registry with
  | nil =>
      constructor
      · intro done
        rcases Except.ok.inj done with rfl
        exact ⟨[], List.Forall₂.nil, rfl, fun _ _ member => nomatch member⟩
      · rintro ⟨languages, described, done, -⟩
        rcases List.forall₂_nil_left_iff.mp described with rfl
        rcases Except.ok.inj done with rfl
        rfl
  | cons definition rest ih =>
      rw [List.foldlM_cons, Definition.bind_eq_ok_iff]
      constructor
      · rintro ⟨next, defined, further⟩
        rcases define_eq_ok_iff.mp defined with ⟨language, describes, accepted, reportable⟩
        rcases ih.mp further with ⟨languages, described, registered, allReportable⟩
        refine ⟨language :: languages, List.Forall₂.cons describes described, ?_, ?_⟩
        · rw [registerAll_cons_of_register accepted]
          exact registered
        · intro asked
          exact List.forall_mem_cons.mpr ⟨reportable asked, allReportable asked⟩
      · rintro ⟨all, described, registered, allReportable⟩
        rcases List.forall₂_cons_left_iff.mp described with
          ⟨language, languages, describes, describedRest, rfl⟩
        cases outcome : registry.register language with
        | error error =>
            rw [registerAll_cons_of_refused outcome] at registered
            cases registered
        | ok next =>
            rw [registerAll_cons_of_register outcome] at registered
            refine ⟨next, define_eq_ok_iff.mpr ⟨language, describes, outcome, ?_⟩, ih.mpr ?_⟩
            · intro asked
              exact allReportable asked language List.mem_cons_self
            · refine ⟨languages, describedRest, registered, ?_⟩
              intro asked later member
              exact allReportable asked later (List.mem_cons_of_mem language member)

end Registry

/-! ### The registry of a configuration -/

namespace Config

variable {config : Config} {reported : Bool} {registry : Registry}
  {definitions : List Definition}

/-- A definition of the configuration describes the language. -/
def Describes (config : Config) (language : Language) : Prop :=
  ∃ definition ∈ config.languages, definition.Describes language

/-- Two different languages of the configuration list the extension. -/
def Contests (config : Config) (extension : String) : Prop :=
  ∃ one other, config.Describes one ∧ config.Describes other ∧ one ≠ other ∧
    one.listsExtension extension ∧ other.listsExtension extension

/-- A default language is found if one is set. -/
def FindsDefault (config : Config) (registry : Registry) : Prop :=
  ∀ name, config.defaultLanguage = some name → registry.find? name ≠ none

/-- The languages are those that the definitions of the configuration describe, each in its place,
and the registry holds them behind the built-in ones. -/
structure Establishes (config : Config) (reported : Bool) (languages : List Language)
    (registry : Registry) : Prop where
  described : List.Forall₂ Definition.Describes config.languages languages
  registered : Builtin.registry.registerAll languages = .ok registry
  reportable : reported → ∀ language ∈ languages, (Registry.foldedExtensions language).Nodup
  findsDefault : config.FindsDefault registry

theorem registry_eq_ok_iff_foldlM :
    config.registry reported = .ok registry ↔
      config.languages.foldlM (Registry.define · reported) Builtin.registry = .ok registry ∧
        config.FindsDefault registry := by
  rw [Config.registry, Definition.bind_eq_ok_iff]
  constructor
  · rintro ⟨defined, definedAll, checked⟩
    cases default : config.defaultLanguage with
    | none =>
        rw [default] at checked
        rcases Except.ok.inj checked with rfl
        refine ⟨definedAll, ?_⟩
        intro name set
        rw [default] at set
        cases set
    | some name =>
        simp only [default, Definition.ite_throw_eq_ok_iff] at checked
        rcases checked with ⟨found, same⟩
        rcases Except.ok.inj same with rfl
        refine ⟨definedAll, ?_⟩
        intro other set
        rw [default] at set
        rcases Option.some.inj set with rfl
        simpa using found
  · rintro ⟨definedAll, findsDefault⟩
    refine ⟨registry, definedAll, ?_⟩
    cases default : config.defaultLanguage with
    | none => rfl
    | some name =>
        have found := findsDefault name default
        simp only [Definition.ite_throw_eq_ok_iff]
        refine ⟨?_, rfl⟩
        simpa using found

theorem registry_eq_ok_iff :
    config.registry reported = .ok registry ↔
      ∃ languages, config.Establishes reported languages registry := by
  rw [registry_eq_ok_iff_foldlM, Registry.foldlM_define_eq_ok_iff]
  constructor
  · rintro ⟨⟨languages, described, registered, reportable⟩, findsDefault⟩
    exact ⟨languages, described, registered, reportable, findsDefault⟩
  · rintro ⟨languages, described, registered, reportable, findsDefault⟩
    exact ⟨⟨languages, described, registered, reportable⟩, findsDefault⟩

theorem describes_of_mem {languages : List Language} {language : Language}
    (described : List.Forall₂ Definition.Describes definitions languages)
    (member : language ∈ languages) : ∃ definition ∈ definitions, definition.Describes language := by
  induction described with
  | nil => nomatch member
  | @cons definition first definitions rest describes _ ih =>
      rcases List.mem_cons.mp member with rfl | behind
      · exact ⟨definition, List.mem_cons_self, describes⟩
      · rcases ih behind with ⟨other, otherMember, otherDescribes⟩
        exact ⟨other, List.mem_cons_of_mem definition otherMember, otherDescribes⟩

/-- The registry of a configuration exists in every order of the definitions, and only an extension
that two of the languages list can tell the orders apart. -/
theorem Establishes.exists_of_perm {languages : List Language}
    (establishes : config.Establishes reported languages registry)
    (permuted : definitions.Perm config.languages) :
    ∃ other, { config with languages := definitions }.registry reported = .ok other ∧
      (∀ name, other.find? name = registry.find? name) ∧
      ∀ extension, ¬config.Contests (Text.dropLeadingDot extension) →
        other.findByExtension? extension = registry.findByExtension? extension := by
  have consistent := Builtin.reachable_registry.isConsistent
  rcases List.perm_comp_forall₂ permuted establishes.described with
    ⟨others, describedOthers, permutedLanguages⟩
  have admitted := consistent.registerAll_isOk_iff.mp ⟨registry, establishes.registered⟩
  rcases consistent.registerAll_isOk_iff.mpr (admitted.perm permutedLanguages.symm) with
    ⟨other, registeredOthers⟩
  have refines := (consistent.addsAll establishes.registered).refinesList
  have otherRefines := (consistent.addsAll registeredOthers).refinesList
  have sameNames : ∀ name, other.find? name = registry.find? name := by
    apply Registry.RefinesList.find?_eq_of_perm refines otherRefines
    exact permutedLanguages.symm.append_left _
  refine ⟨other, ?_, sameNames, ?_⟩
  · rw [registry_eq_ok_iff]
    refine ⟨others, describedOthers, registeredOthers, ?_, ?_⟩
    · intro asked language member
      exact establishes.reportable asked language (permutedLanguages.mem_iff.mp member)
    · intro name set
      rw [sameNames]
      exact establishes.findsDefault name set
  · intro extension uncontested
    have onlyOne : ∀ one ∈ languages, ∀ other ∈ languages,
        one.listsExtension (Text.dropLeadingDot extension) →
          other.listsExtension (Text.dropLeadingDot extension) → one = other := by
      intro one oneMember other otherMember oneLists otherLists
      by_contra different
      apply uncontested
      exact ⟨one, other, describes_of_mem establishes.described oneMember,
        describes_of_mem establishes.described otherMember, different, oneLists, otherLists⟩
    have sameListed :=
      Registry.filter_listsExtension_eq_of_perm permutedLanguages.symm onlyOne
    rw [refines.findByExtension, otherRefines.findByExtension, List.filter_append,
      List.filter_append, sameListed]

/--
A configuration has a registry exactly if it has one with its definitions in another order. Every
name then finds the same language in both, the names of the built-in languages find these, and an
extension finds the same language unless two different languages of the configuration list it.
-/
theorem registry_of_languages_perm (config : Config) (reported : Bool)
    (permuted : definitions.Perm config.languages) :
    ((∃ registry, config.registry reported = .ok registry) ↔
        ∃ other, { config with languages := definitions }.registry reported = .ok other) ∧
      ∀ registry other, config.registry reported = .ok registry →
        { config with languages := definitions }.registry reported = .ok other →
        (∀ name, other.find? name = registry.find? name ∧ other.get name = registry.get name) ∧
        (∀ name language, Builtin.registry.find? name = some language →
          registry.find? name = some language ∧ other.find? name = some language) ∧
        ∀ extension, ¬config.Contests (Text.dropLeadingDot extension) →
          other.findByExtension? extension = registry.findByExtension? extension := by
  have consistent := Builtin.reachable_registry.isConsistent
  refine ⟨⟨?_, ?_⟩, ?_⟩
  · rintro ⟨registry, succeeded⟩
    rcases registry_eq_ok_iff.mp succeeded with ⟨languages, establishes⟩
    rcases establishes.exists_of_perm permuted with ⟨other, otherSucceeded, -⟩
    exact ⟨other, otherSucceeded⟩
  · rintro ⟨other, succeeded⟩
    rcases registry_eq_ok_iff.mp succeeded with ⟨languages, establishes⟩
    rcases establishes.exists_of_perm permuted.symm with ⟨registry, originalSucceeded, -⟩
    exact ⟨registry, originalSucceeded⟩
  · intro registry other succeeded otherSucceeded
    rcases registry_eq_ok_iff.mp succeeded with ⟨languages, establishes⟩
    rcases establishes.exists_of_perm permuted with
      ⟨reached, reachedSucceeded, sameNames, sameExtensions⟩
    rcases Except.ok.inj (otherSucceeded.symm.trans reachedSucceeded) with rfl
    refine ⟨?_, ?_, sameExtensions⟩
    · intro name
      refine ⟨sameNames name, ?_⟩
      rw [Registry.get, Registry.get, sameNames]
    · intro name language found
      have kept := (consistent.addsAll establishes.registered).find name language found
      refine ⟨kept, ?_⟩
      rw [sameNames, kept]

/-- A configuration of two languages that have an extension in common and one each for itself, with
the alias of the first one for the default language. -/
def sharedExtension : Config where
  defaultLanguage := some " UNO "
  languages := [
    { name := "one", aliases := ["uno"], extensions := ["x", "shared"] },
    { name := "two", extensions := ["y", ".Shared"] }]

theorem exists_establishes_sharedExtension :
    ∃ one two registry, sharedExtension.Establishes false [one, two] registry ∧
      Registry.foldedNames one = ["one", "uno"] ∧ Registry.foldedNames two = ["two"] ∧
      one.listsExtension "shared" ∧ two.listsExtension "shared" ∧
      ¬two.listsExtension "x" := by
  have oneBuilt : ∃ one, { name := "one", aliases := ["uno"], extensions := ["x", "shared"] :
      Definition }.build = .ok one ∧ Registry.foldedNames one = ["one", "uno"] ∧
        one.listsExtension "shared" := ⟨_, rfl, by decide, by decide⟩
  have twoBuilt : ∃ two, { name := "two", extensions := ["y", ".Shared"] :
      Definition }.build = .ok two ∧ Registry.foldedNames two = ["two"] ∧
        two.listsExtension "shared" ∧ ¬two.listsExtension "x" :=
    ⟨_, rfl, by decide, by decide, by decide⟩
  rcases oneBuilt with ⟨one, oneDescribed, oneNames, oneLists⟩
  rcases twoBuilt with ⟨two, twoDescribed, twoNames, twoLists, twoListsOnly⟩
  have consistent := Builtin.reachable_registry.isConsistent
  have apart : ∀ held ∈ Builtin.languages, ∀ name ∈ ["one", "uno", "two"],
      name ∉ Registry.foldedNames held := by
    intro held member
    have names := List.mem_map_of_mem (f := Registry.foldedNames) member
    rw [Builtin.foldedNames_languages] at names
    revert names
    generalize Registry.foldedNames held = names
    revert names
    decide
  have own : ∀ language ∈ [one, two], ∀ name ∈ Registry.foldedNames language,
      name ∈ ["one", "uno", "two"] := by
    intro language member
    simp only [List.mem_cons, List.not_mem_nil, or_false] at member
    rcases member with rfl | rfl
    · rw [oneNames]
      decide
    · rw [twoNames]
      decide
  have admitted : Builtin.registry.Admits [one, two] := by
    refine ⟨?_, ?_⟩
    · intro language member held builtin shared
      rw [Builtin.languages_registry] at builtin
      rcases shared with ⟨name, ownName, heldName⟩
      exact apart held builtin name (own language member name ownName) heldName
    · simp [Registry.ShareName, oneNames, twoNames]
  rcases consistent.registerAll_isOk_iff.mpr admitted with ⟨registry, registered⟩
  refine ⟨one, two, registry, ⟨?_, registered, (fun asked => nomatch asked), ?_⟩, oneNames, twoNames,
    oneLists, twoLists, twoListsOnly⟩
  · exact .cons oneDescribed (.cons twoDescribed .nil)
  · intro name set
    rcases Option.some.inj set with rfl
    intro missing
    have called : one.isCalled (Text.trim " UNO ") := by
      rw [Language.isCalled_eq_decide, oneNames]
      decide
    have adds := consistent.addsAll registered
    have held : one ∈ registry.languages := by simp [adds.languages]
    have found := adds.consistent.find?_eq_some_iff.mpr ⟨held, called⟩
    rw [missing] at found
    cases found

/-- In the other order names and an extension of one language alone lead to the same languages, and
only the extension in common does not. -/
theorem registry_sharedExtension_reversed :
    ∃ registry other, sharedExtension.registry false = .ok registry ∧
      { sharedExtension with languages := sharedExtension.languages.reverse }.registry false =
        .ok other ∧
      other.get "Uno" = registry.get "Uno" ∧
      other.findByExtension? ".x" = registry.findByExtension? ".x" ∧
      other.findByExtension? "shared" ≠ registry.findByExtension? "shared" := by
  rcases exists_establishes_sharedExtension with
    ⟨one, two, registry, establishes, oneNames, twoNames, oneLists, twoLists, twoListsOnly⟩
  have consistent := Builtin.reachable_registry.isConsistent
  have different : one ≠ two := by
    rintro rfl
    rw [oneNames] at twoNames
    simp at twoNames
  have succeeded := registry_eq_ok_iff.mpr ⟨_, establishes⟩
  have outcome := registry_of_languages_perm sharedExtension false
    (List.reverse_perm sharedExtension.languages)
  rcases outcome.1.mp ⟨registry, succeeded⟩ with ⟨other, otherSucceeded⟩
  rcases outcome.2 registry other succeeded otherSucceeded with ⟨sameNames, -, sameExtensions⟩
  rcases List.forall₂_cons_left_iff.mp establishes.described with
    ⟨_, _, oneDescribed, described, equal⟩
  rcases List.cons.inj equal with ⟨rfl, rfl⟩
  rcases List.forall₂_cons_left_iff.mp described with ⟨_, _, twoDescribed, -, equal⟩
  rcases List.cons.inj equal with ⟨rfl, rfl⟩
  refine ⟨registry, other, succeeded, otherSucceeded, (sameNames "Uno").2, ?_, ?_⟩
  · apply sameExtensions
    have onlyOne : ∀ language, sharedExtension.Describes language →
        language.listsExtension "x" → language = one := by
      rintro language ⟨definition, member, describes⟩ lists
      simp only [sharedExtension, List.mem_cons, List.not_mem_nil, or_false] at member
      rcases member with rfl | rfl
      · exact Except.ok.inj (describes.symm.trans oneDescribed)
      · rcases Except.ok.inj (describes.symm.trans twoDescribed) with rfl
        exact absurd lists twoListsOnly
    rintro ⟨left, right, leftDescribed, rightDescribed, unequal, leftLists, rightLists⟩
    apply unequal
    rw [onlyOne left leftDescribed leftLists, onlyOne right rightDescribed rightLists]
  · rcases registry_eq_ok_iff.mp otherSucceeded with ⟨reversed, otherEstablishes⟩
    rcases List.forall₂_cons_left_iff.mp otherEstablishes.described with
      ⟨first, _, firstDescribed, othersDescribed, rfl⟩
    rcases List.forall₂_cons_left_iff.mp othersDescribed with
      ⟨second, _, secondDescribed, noneDescribed, rfl⟩
    rcases List.forall₂_nil_left_iff.mp noneDescribed with rfl
    rcases Except.ok.inj (twoDescribed.symm.trans firstDescribed) with rfl
    rcases Except.ok.inj (oneDescribed.symm.trans secondDescribed) with rfl
    have refines := (consistent.addsAll establishes.registered).refinesList
    have otherRefines := (consistent.addsAll otherEstablishes.registered).refinesList
    have noDot : Text.dropLeadingDot "shared" = "shared" := by decide
    rw [refines.findByExtension, otherRefines.findByExtension, noDot]
    simp [oneLists, twoLists, different]

end Config

end Highlighter
